/-!
# Decimal text

Whole numbers in base ten: no sign for zero and above, a minus sign below, and no leading zeros.
Reading takes the value of any run of digits.

Numbers are as large as they come, but a record or a line of the log does not hold one of more than
`maxDigits` digits, and neither does a text that is read.
-/

namespace DigestRecord

namespace Decimal

/-- Whether a character is one of the ten digits. -/
def isDigit (c : Char) : Bool := 48 ≤ c.toNat && c.toNat ≤ 57

/-- The digit of a value below ten. -/
def digit (d : Fin 10) : Char := Char.ofNat (48 + d.val)

/-- The digits of a number. -/
def ofNat (n : Nat) : List Char :=
  if n < 10 then [digit (Fin.ofNat 10 n)] else ofNat (n / 10) ++ [digit (Fin.ofNat 10 n)]

/-- The text of a number with its sign. -/
def ofInt : Int → List Char
  | .ofNat n => ofNat n
  | .negSucc n => '-' :: ofNat (n + 1)

/-- The value of a run of digits. -/
def toNat (cs : List Char) : Nat := cs.foldl (fun n c => 10 * n + (c.toNat - 48)) 0

/-- How many digits the absolute value of a number has. -/
def digitCount (n : Int) : Nat := (ofNat n.natAbs).length

/-- The number of digits that a written number may have. -/
def maxDigits : Nat := 4300

/-- Whether a number is short enough to be written. -/
def isWritable (n : Int) : Bool := digitCount n ≤ maxDigits

/-- What is said of a number that is too long to be written. -/
def refusal : String :=
  "Exceeds the limit (4300 digits) for integer string conversion; " ++
    "use sys.set_int_max_str_digits() to increase the limit"

end Decimal

end DigestRecord
