import DigestRecord.Hex
import DigestRecord.Text.Printable

/-!
# Quoted text

How a text is shown inside a message: between quotes, on one line, with escapes for what cannot be
shown. Single quotes are used, unless the text holds a single quote and no double one.

Since every unprintable code point is escaped, surrogates among them, the result is made of
characters.
-/

namespace DigestRecord

namespace CodePoint

/-- The escape of a code point by its number, in as many digits as it needs: two, four or eight. -/
def numericEscape (p : CodePoint) : List Char :=
  if p.value ≤ 0xff then '\\' :: 'x' :: Hex.padded 2 p.value
  else if p.value ≤ 0xffff then '\\' :: 'u' :: Hex.padded 4 p.value
  else '\\' :: 'U' :: Hex.padded 8 p.value

/-- How a code point is shown between quotes of the kind `quote`. -/
def escaped (quote : Char) (p : CodePoint) : List Char :=
  match p.toChar? with
  | none => p.numericEscape
  | some c =>
    if c = quote ∨ c = '\\' then ['\\', c]
    else if c = '\t' then ['\\', 't']
    else if c = '\n' then ['\\', 'n']
    else if c = '\r' then ['\\', 'r']
    else if p.isPrintable then [c]
    else p.numericEscape

end CodePoint

namespace Text

/-- The quote that goes around a text. -/
def quoteMark (t : Text) : Char :=
  if t.contains (CodePoint.ofChar '\'') && !t.contains (CodePoint.ofChar '"') then '"' else '\''

/-- The text between quotes. -/
def quoted (t : Text) : List Char :=
  t.quoteMark :: t.flatMap (CodePoint.escaped t.quoteMark) ++ [t.quoteMark]

end Text

end DigestRecord
