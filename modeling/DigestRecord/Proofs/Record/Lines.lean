import DigestRecord.Proofs.Json.Grammar
import DigestRecord.Proofs.Text.Digits
import DigestRecord.Record.Line

/-!
# Written lines and the grammar

The line of a file digest is JSON by the grammar, whatever the digest and the count are: an object
with three members, spelled without white space and without escapes. Its numbers have as many digits
as the count has.

## Main results

* `Json.number_ofInt` — decimal text is a number, with the right value
* `document_line_append` — a line is an object with the three members, and white space may follow
-/

namespace DigestRecord

namespace Json

/-! ## Plain strings and whole numbers -/

/-- Whether a string holds a character as it is. -/
def isPlain (c : Char) : Bool := c != '"' && c != '\\' && 0x20 ≤ c.toNat

theorem characters_of_isPlain {cs : List Char} (h : cs.all isPlain = true) (rest : List Char) :
    Characters (cs ++ '"' :: rest) (cs.map CodePoint.ofChar) rest := by
  induction cs with
  | nil => exact .close
  | cons c cs ih =>
    rw [List.all_cons, Bool.and_eq_true] at h
    obtain ⟨hplain, h⟩ := h
    simp only [isPlain, Bool.and_eq_true, bne_iff_ne, decide_eq_true_eq] at hplain
    obtain ⟨⟨hquote, hbackslash⟩, hcontrol⟩ := hplain
    exact .plain hquote hbackslash hcontrol (ih h)

theorem whole_ofNat (n : Nat) (rest : List Char) :
    Whole (Decimal.ofNat n ++ rest) (Decimal.ofNat n) rest := by
  by_cases hzero : n = 0
  · have htext : Decimal.ofNat n = ['0'] := by
      rw [hzero, Decimal.ofNat_of_lt (by decide)]
      rfl
    rw [htext]
    exact .zero
  · have hrun : Digits (Decimal.ofNat n ++ rest) (Decimal.ofNat n) rest :=
      ⟨rfl, Decimal.ofNat_ne_nil n, fun _ hc => Decimal.isDigit_of_mem_ofNat hc⟩
    exact .other hrun (Decimal.head?_ofNat (Nat.pos_of_ne_zero hzero))

/-- **Decimal text is a number**, with the right value. -/
theorem number_ofInt {limit : Nat} {n : Int} (h : Decimal.digitCount n ≤ limit) (rest : List Char) :
    Number limit (Decimal.ofInt n ++ rest) (.int n) rest := by
  cases n with
  | ofNat n =>
    have hvalue : signed false (Decimal.ofNat n) = n := by
      rw [signed, Decimal.toNat_ofNat]
      rfl
    have hnumber := Number.whole (@Minus.absent (Decimal.ofNat n ++ rest)) (whole_ofNat n rest) h
    rw [hvalue] at hnumber
    exact hnumber
  | negSucc n =>
    have hvalue : signed true (Decimal.ofNat (n + 1)) = .negSucc n := by
      rw [signed, Decimal.toNat_ofNat]
      rfl
    have hnumber := Number.whole .present (whole_ofNat (n + 1) rest) h
    rw [hvalue] at hnumber
    exact hnumber

theorem member_of_isPlain {item : Grammar Value} (name : String)
    (h : name.toList.all isPlain = true) {text rest : List Char} {v : Value} (hvalue : item text v rest) :
    Member item ('"' :: (name.toList ++ '"' :: ':' :: text)) (Text.ofString name, v) rest :=
  .mk (characters_of_isPlain h _) .none .none hvalue

end Json

namespace Record

/-! ## Lines -/

theorem all_isPlain_encode (bs : List UInt8) : (Hex.encode bs).all Json.isPlain = true := by
  refine List.all_eq_true.mpr fun c h => ?_
  obtain ⟨d, rfl⟩ := Hex.exists_digit_of_mem_encode h
  clear h
  revert d
  decide

theorem length_line (d : FileDigest) : (line d).length =
    lineStart.length + 2 * d.digest.length + lineMiddle.length +
      (Decimal.ofInt d.byteCount).length + 1 := by
  rw [line, List.length_append, List.length_append, List.length_append, List.length_append,
    Hex.length_encode, List.length_singleton]
  omega

/-- The members of the object that a line is. -/
def lineMembers (d : FileDigest) : List (Text × Json.Value) := [
  (Text.ofString "algorithm", .string (Text.ofString algorithm)),
  (Text.ofString "hash", .string ((Hex.encode d.digest).map CodePoint.ofChar)),
  (Text.ofString "bytes", .int d.byteCount)]

theorem line_append (d : FileDigest) (after : List Char) : line d ++ after =
    lineStart ++ (Hex.encode d.digest ++ (lineMiddle ++ (Decimal.ofInt d.byteCount ++
      '}' :: after))) := by
  simp [line]

/-- **A line is an object with the three members**, and white space may follow it. -/
theorem document_line_append {limit : Nat} {d : FileDigest}
    (h : Decimal.digitCount d.byteCount ≤ limit) (depth : Nat) {after : List Char}
    (hafter : Json.Space after []) :
    Json.Document (Json.ObjectOf (Json.Spells limit depth)) (line d ++ after) (lineMembers d) := by
  have hstring : ∀ (cs rest : List Char), cs.all Json.isPlain = true → Json.Spells limit depth
      ('"' :: (cs ++ '"' :: rest)) (.string (cs.map CodePoint.ofChar)) rest :=
    fun cs rest hplain => (Json.Scalar.string (Json.characters_of_isPlain hplain rest)).spells depth
  have hcount : Json.Spells limit depth (Decimal.ofInt d.byteCount ++ '}' :: after)
      (.int d.byteCount) ('}' :: after) :=
    (Json.Scalar.number (Json.number_ofInt h _)).spells depth
  have halgorithm : ∀ rest, Json.Spells limit depth ('"' :: (algorithm.toList ++ '"' :: rest))
      (.string (Text.ofString algorithm)) rest := fun rest => hstring _ rest (by decide)
  have hdigest : ∀ rest, Json.Spells limit depth ('"' :: (Hex.encode d.digest ++ '"' :: rest))
      (.string ((Hex.encode d.digest).map CodePoint.ofChar)) rest :=
    fun rest => hstring _ rest (all_isPlain_encode _)
  -- The members from the last one on, as each of them stands in front of the next.
  have hlast := Json.Parts.last (Json.member_of_isPlain "bytes" (by decide) hcount) .none
  have htwo := Json.Parts.more (Json.member_of_isPlain "hash" (by decide) (hdigest _))
    .none .none hlast
  have hall := Json.Parts.more (Json.member_of_isPlain "algorithm" (by decide) (halgorithm _))
    .none .none htwo
  rw [line_append]
  exact ⟨_, after, .none, .parts .none hall, hafter⟩

theorem document_line {limit : Nat} {d : FileDigest} (h : Decimal.digitCount d.byteCount ≤ limit)
    (depth : Nat) :
    Json.Document (Json.ObjectOf (Json.Spells limit depth)) (line d) (lineMembers d) := by
  rw [← List.append_nil (line d)]
  exact document_line_append h depth .none

end Record

end DigestRecord
