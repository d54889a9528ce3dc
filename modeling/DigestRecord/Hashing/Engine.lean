import DigestRecord.Fault
import DigestRecord.Sha256.Context

/-!
# Digest primitives

Hashing a file goes through a digest primitive: it is started, fed piece by piece, and finished, and
each of these steps may fail. `Engine.sha256` is the real one, which never does.

`EngineScript` describes SHA-256 with faults planted in it, or with another result in place of the
digest, to see what hashing a file makes of a primitive that does not work.
-/

namespace DigestRecord

/-- A digest primitive with contexts of type `σ`. A primitive that works finishes with the bytes of a
digest; one that does not may come up with nothing. -/
structure Engine (σ : Type) where
  start : Except Fault σ
  update : σ → List UInt8 → Except Fault σ
  finish : σ → Except Fault (Option (List UInt8))

/-- SHA-256. -/
def Engine.sha256 : Engine Sha256.Context where
  start := .ok .start
  update c bs := .ok (c.update bs)
  finish c := .ok (some c.finish)

/-- What a scripted primitive finishes with. -/
inductive ScriptedResult where
  | digest
  | fixed (bytes : List UInt8)
  | nothing
  deriving DecidableEq

/-- A primitive that goes wrong as described. A fault of an update comes with the number of the
update it happens in, counted from one. -/
structure EngineScript where
  startFault : Option Fault
  updateFault : Option (Nat × Fault)
  finishFault : Option Fault
  result : ScriptedResult
  deriving DecidableEq

namespace EngineScript

/-- Nothing goes wrong. -/
def sound : EngineScript := ⟨none, none, none, .digest⟩

/-- The number of the next update beside the context of the real primitive. -/
structure Context where
  next : Nat
  inner : Sha256.Context

/-- The primitive that a script describes. -/
def engine (s : EngineScript) : Engine Context where
  start :=
    match s.startFault with
    | some f => .error f
    | none => .ok ⟨1, .start⟩
  update c bs :=
    match s.updateFault with
    | some (n, f) => if n = c.next then .error f else .ok ⟨c.next + 1, c.inner.update bs⟩
    | none => .ok ⟨c.next + 1, c.inner.update bs⟩
  finish c :=
    match s.finishFault with
    | some f => .error f
    | none =>
      match s.result with
      | .digest => .ok (some c.inner.finish)
      | .fixed bytes => .ok (some bytes)
      | .nothing => .ok none

end EngineScript

end DigestRecord
