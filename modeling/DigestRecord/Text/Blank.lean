import DigestRecord.Text.CodePoint

/-!
# White space

The code points that trimming takes off: those with the Unicode property `White_Space`, and the
four information separators U+001C to U+001F beside them.
-/

namespace DigestRecord

namespace CodePoint

/-- Whether a code point is white space. -/
def isBlank (p : CodePoint) : Bool :=
  let v := p.value
  (0x09 ≤ v && v ≤ 0x0d) || (0x1c ≤ v && v ≤ 0x20) || v == 0x85 || v == 0xa0 || v == 0x1680 ||
    (0x2000 ≤ v && v ≤ 0x200a) || v == 0x2028 || v == 0x2029 || v == 0x202f || v == 0x205f ||
    v == 0x3000

end CodePoint

namespace Text

/-- The text without the white space at its two ends. -/
def trim (t : Text) : Text :=
  ((t.dropWhile CodePoint.isBlank).reverse.dropWhile CodePoint.isBlank).reverse

@[simp] theorem trim_nil : trim [] = [] := rfl

end Text

end DigestRecord
