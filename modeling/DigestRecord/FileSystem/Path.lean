/-!
# Paths

A path is a text, and slashes cut it into segments: `a//b/` has the segments `a`, nothing, `b` and
nothing. Empty segments and single dots lead nowhere new, and `normalize` leaves them out. Two dots
stay, since where they lead depends on links.
-/

namespace DigestRecord

/-- The name of a file in its directory. -/
abbrev Name := List Char

namespace Path

/-- Cuts a path at its slashes. -/
def segments : List Char → List Name
  | [] => [[]]
  | c :: cs =>
    if c = '/' then [] :: segments cs
    else
      match segments cs with
      | [] => [[c]]
      | s :: ss => (c :: s) :: ss

/-- Whether a segment stays in the directory that it is looked up in. -/
def isIdle (s : Name) : Bool := s == [] || s == ['.']

/-- Whether a segment leads to the directory above. -/
def isParent (s : Name) : Bool := s == ['.', '.']

/-- Whether a path starts at the root. -/
def isAbsolute (path : List Char) : Bool := path.head? == some '/'

/-- The slashes at the front of the normal form: two if there were exactly two, and else one if there
was any. -/
def root : List Char → List Char
  | '/' :: '/' :: '/' :: _ => ['/']
  | '/' :: '/' :: _ => ['/', '/']
  | '/' :: _ => ['/']
  | _ => []

/-- Joins segments with slashes. -/
def join : List Name → List Char
  | [] => []
  | [s] => s
  | s :: ss => s ++ '/' :: join ss

/-- The last part of a path: what follows its last slash, or all of it if it has none. -/
def baseName (path : List Char) : List Char := (path.reverse.takeWhile (· != '/')).reverse

/-- The normal form of a path, without idle segments. The empty path becomes a dot. -/
def normalize (path : List Char) : List Char :=
  let text := root path ++ join ((segments path).filter fun s => !isIdle s)
  if text.isEmpty then ['.'] else text

/-- The size of a text in bytes, in UTF-8. -/
def byteSize (cs : List Char) : Nat := cs.foldl (fun size c => size + c.utf8Size) 0

@[simp] theorem segments_nil : segments [] = [[]] := rfl

theorem segments_ne_nil (path : List Char) : segments path ≠ [] := by
  cases path with
  | nil => simp
  | cons c cs =>
    unfold segments
    split
    · simp
    · split <;> simp

end Path

end DigestRecord
