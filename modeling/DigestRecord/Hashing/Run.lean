import DigestRecord.Failure
import DigestRecord.FileDigest
import DigestRecord.Hashing.Engine
import DigestRecord.Hashing.Source
import DigestRecord.Log

/-!
# Hashing a file

The file is opened, a context is started, and then reading and feeding take turns until a read
reports zero or nothing. After that the context is finished, and the file is closed whatever
happened before.

The result of a run is its outcome, the events in the order in which the file and the primitive saw
them, and the log. Faults are told apart by where they happen: what the system reports while opening,
reading or closing is a failure of the file, and anything but an interrupt from the primitive is a
failure of hashing. All other faults go through as they are. A fault of closing takes the place of
whatever the run had come to.

A run leaves notices. A verbose run puts each of them into words as it comes up, and one whose number
is too long for that ends the run with a fault of its own; other runs leave them as they are.

`Progress.step` is one turn, so that a caller who reads a real file can go on turn by turn and keep no
more than the buffer; `stream` takes all turns of a source.
-/

namespace DigestRecord

/-! ## What a run yields -/

/-- What a read came to: it reported a number or nothing, or it failed. -/
inductive ReadResult where
  | reported (n : Option Int)
  | failed
  deriving DecidableEq

/-- What happens to the file and to the primitive in the course of a run. An event comes before the
fault that it may meet. -/
inductive Event where
  | opening (path : String)
  | starting
  | reading (size : Nat) (result : ReadResult)
  | updating (size : Nat)
  | finishing
  | closing
  deriving DecidableEq

/-- Why a run has no digest: an error that it reports, a fault that goes through, or a primitive that
finished with nothing. -/
inductive HashFailure where
  | reported (error : HashError)
  | escaped (fault : Fault)
  | noDigest
  deriving DecidableEq

/-- The wording for a primitive that finished with nothing. -/
def HashFailure.noDigestMessage : String := "object of type 'NoneType' has no len()"

/-- A result with the events and the notices on the way to it. -/
structure Traced (α : Type) where
  result : α
  events : List Event
  log : List Notice
  deriving DecidableEq

/-- What the reading of an opened file comes to: what the primitive finished with, and the sum of the
numbers that the reads reported. -/
abbrev Ending := Except HashFailure (Option (List UInt8) × Int)

/-- What hashing a file comes to. -/
abbrev Report := Traced (Except HashFailure FileDigest)

/-! ## Errors by the step in which they arise -/

/-- Why a run reports an error. -/
inductive Reason where
  | cannotOpen (fault : Fault)
  | cannotStart (fault : Fault)
  | cannotRead (fault : Fault)
  | cannotUpdate (fault : Fault)
  | cannotFinish (fault : Fault)
  | cannotClose (fault : Fault)
  | wrongLength (length : Nat)
  deriving DecidableEq

namespace Reason

/-- What failed. -/
def category : Reason → Category
  | .cannotOpen _ | .cannotRead _ | .cannotClose _ => .io
  | .cannotStart _ | .cannotUpdate _ | .cannotFinish _ | .wrongLength _ => .hashing

/-- The fault behind it. -/
def cause : Reason → Option Fault
  | .cannotOpen f | .cannotStart f | .cannotRead f | .cannotUpdate f | .cannotFinish f
  | .cannotClose f => some f
  | .wrongLength _ => none

/-- The details. -/
def detail : Reason → String
  | .cannotOpen f | .cannotRead f | .cannotClose f => f.text
  | .cannotStart f => "init failed: " ++ f.text
  | .cannotUpdate f => "update failed: " ++ f.text
  | .cannotFinish f => "finalize failed: " ++ f.text
  | .wrongLength n => "unexpected digest length " ++ String.ofList (Decimal.ofNat n)

/-- The error for a file. -/
def error (r : Reason) (path : String) : HashError := ⟨r.category, path, r.detail, r.cause⟩

/-- The failure for a file. -/
def failure (r : Reason) (path : String) : HashFailure := .reported (r.error path)

end Reason

/-! ## Reading and feeding -/

/-- An outcome that comes with a notice, in a run that is verbose or not. -/
def announce {α : Type} (verbose : Bool) (notice : Notice) (outcome : Except HashFailure α) :
    Except HashFailure α × List Notice :=
  if verbose && !notice.isWritable then (.error (.escaped Notice.unwritable), [])
  else (outcome, [notice])

section

variable {σ : Type}

/-- Where a run stands between two turns. -/
structure Progress (σ : Type) where
  context : σ
  buffer : Buffer
  total : Int

/-- What a turn leads to. -/
inductive Turn (σ : Type) where
  | next (p : Progress σ)
  | last (ending : Ending)

namespace Progress

/-- Finishes the context. -/
def finish (engine : Engine σ) (path : String) (p : Progress σ) : Traced Ending :=
  match engine.finish p.context with
  | .ok digest => ⟨.ok (digest, p.total), [.finishing], []⟩
  | .error f =>
    if f.isInterrupt then ⟨.error (.escaped f), [.finishing], []⟩
    else ⟨.error ((Reason.cannotFinish f).failure path), [.finishing], [.finishFailed path f]⟩

/-- Feeds what a read reported as `n` bytes to the context. -/
def feed (engine : Engine σ) (path : String) (p : Progress σ) (n : Int) : Traced (Turn σ) :=
  let piece := p.buffer.slice n
  match engine.update p.context piece with
  | .ok context => ⟨.next ⟨context, p.buffer, p.total + n⟩, [.updating piece.length], []⟩
  | .error f =>
    if f.isInterrupt then ⟨.last (.error (.escaped f)), [.updating piece.length], []⟩
    else
      ⟨.last (.error ((Reason.cannotUpdate f).failure path)), [.updating piece.length],
        [.updateFailed path f]⟩

/-- One turn: a read, and what it leads to. -/
def step (verbose : Bool) (engine : Engine σ) (path : String) (p : Progress σ) :
    Read → Traced (Turn σ)
  | .failed f =>
    let event := Event.reading bufferSize .failed
    if f.isSystem then
      let said := announce verbose (.readFailed path p.total f)
        (.error ((Reason.cannotRead f).failure path))
      ⟨.last said.1, [event], said.2⟩
    else ⟨.last (.error (.escaped f)), [event], []⟩
  | .delivered written reported =>
    let event := Event.reading bufferSize (.reported reported)
    let p := { p with buffer := p.buffer.overwrite written }
    let n := reported.getD 0
    if n = 0 then
      let ending := p.finish engine path
      ⟨.last ending.result, event :: ending.events, ending.log⟩
    else
      let turn := p.feed engine path n
      ⟨turn.result, event :: turn.events, turn.log⟩

end Progress

/-- All turns of a source, up to the read that finds the end. -/
def stream (verbose : Bool) (engine : Engine σ) (path : String) (p : Progress σ) :
    List Read → Traced Ending
  | [] =>
    let ending := p.finish engine path
    ⟨ending.result, .reading bufferSize (.reported (some 0)) :: ending.events, ending.log⟩
  | read :: reads =>
    let turn := p.step verbose engine path read
    match turn.result with
    | .last ending => ⟨ending, turn.events, turn.log⟩
    | .next p =>
      let rest := stream verbose engine path p reads
      ⟨rest.result, turn.events ++ rest.events, turn.log ++ rest.log⟩

/-- Where a run stands before its first turn. -/
def Progress.start (context : σ) : Progress σ := ⟨context, Buffer.zeros, 0⟩

/-- The end of a run whose context could not be started. -/
def startFailure (path : String) (f : Fault) : Traced Ending :=
  if f.isInterrupt then ⟨.error (.escaped f), [.starting], []⟩
  else ⟨.error ((Reason.cannotStart f).failure path), [.starting], [.cannotStart f]⟩

/-- Starts a context and takes all turns with it. -/
def digestReads (verbose : Bool) (engine : Engine σ) (path : String) (reads : List Read) :
    Traced Ending :=
  match engine.start with
  | .error f => startFailure path f
  | .ok context =>
    let run := stream verbose engine path (.start context) reads
    ⟨run.result, .starting :: run.events, run.log⟩

/-! ## The whole run -/

/-- The file digest that an ending amounts to, if the digest has the right length. -/
def conclude (path : String) : Ending → Except HashFailure FileDigest
  | .error failure => .error failure
  | .ok (none, _) => .error .noDigest
  | .ok (some digest, total) =>
    if digest.length ≠ Sha256.digestSize then .error ((Reason.wrongLength digest.length).failure path)
    else .ok ⟨digest, total⟩

/-- The report on an opened file, once its reads are over and it is closed. -/
def closeAfter (verbose : Bool) (path : String) (run : Traced Ending) (closeFault : Option Fault) :
    Report :=
  let events := .opening path :: (run.events ++ [.closing])
  match closeFault with
  | some f =>
    if f.isSystem then
      ⟨.error ((Reason.cannotClose f).failure path), events, run.log ++ [.closeFailed path f]⟩
    else ⟨.error (.escaped f), events, run.log⟩
  | none =>
    match conclude path run.result with
    | .error failure => ⟨.error failure, events, run.log⟩
    | .ok d =>
      let said := announce verbose (.hashed path d.byteCount) (.ok d)
      ⟨said.1, events, run.log ++ said.2⟩

/-- The report on a file that could not be opened. -/
def refuse (path : String) (f : Fault) : Report :=
  if f.isRefusal then
    ⟨.error ((Reason.cannotOpen f).failure path), [.opening path], [.cannotOpen path f]⟩
  else ⟨.error (.escaped f), [.opening path], []⟩

/-- Hashes a file. -/
def hashFile (verbose : Bool) (engine : Engine σ) (source : Source) (path : String) : Report :=
  match source.openFault with
  | some f => refuse path f
  | none => closeAfter verbose path (digestReads verbose engine path source.reads) source.closeFault

end

end DigestRecord
