/-!
# Decimal integers

An integer is written as an optional sign and decimal digits. Reading is bounded by a width in
bits: a number that does not fit is told apart from a text that is no number.
-/

namespace Downloads.Text

/-- Why a text is not an integer of the wanted width. -/
inductive IntegerError where
  | empty
  | invalidDigit
  | tooLarge
  | tooSmall
  deriving Repr, DecidableEq

def IntegerError.message : IntegerError → String
  | .empty => "cannot parse integer from empty string"
  | .invalidDigit => "invalid digit found in string"
  | .tooLarge => "number too large to fit in target type"
  | .tooSmall => "number too small to fit in target type"

/-- The value of one digit. -/
def digitValue (c : Char) : Nat := c.toNat - '0'.toNat

/-- The number that digits denote, the leading one first. -/
def digitsValue (ds : List Char) : Nat := ds.foldl (fun n c => 10 * n + digitValue c) 0

/-- The number of at most `limit` that the digits denote. Reading stops at the first character
that is no digit, so a number that is too long counts as too long whatever follows it. -/
def parseMagnitude (limit : Nat) (overflow : IntegerError) (ds : List Char) :
    Except IntegerError Nat :=
  let n := digitsValue (ds.takeWhile Char.isDigit)
  if limit < n then .error overflow
  else if ds.isEmpty || !ds.all Char.isDigit then .error .invalidDigit
  else .ok n

/-- The integer of `bits` bits that the text denotes. -/
def parseInteger (bits : Nat) : List Char → Except IntegerError Int
  | [] => .error .empty
  | '-' :: ds => (parseMagnitude (Nat.pow 2 (bits - 1)) .tooSmall ds).map fun n => -(n : Int)
  | '+' :: ds => (parseMagnitude (Nat.pow 2 (bits - 1) - 1) .tooLarge ds).map fun n => (n : Int)
  | ds => (parseMagnitude (Nat.pow 2 (bits - 1) - 1) .tooLarge ds).map fun n => (n : Int)

/-- The digit of a number below ten. -/
def digit (n : Nat) : Char := Char.ofNat ('0'.toNat + n)

/-- The decimal digits of a number, without leading zeros. -/
def digits (n : Nat) : List Char :=
  if n < 10 then [digit n] else digits (n / 10) ++ [digit (n % 10)]

theorem digitValue_digit {n : Nat} (h : n < 10) : digitValue (digit n) = n := by
  have key : ∀ n, n < 10 → digitValue (digit n) = n := by decide
  exact key n h

theorem isDigit_digit {n : Nat} (h : n < 10) : (digit n).isDigit = true := by
  have key : ∀ n, n < 10 → (digit n).isDigit = true := by decide
  exact key n h

theorem isDigit_of_mem_digits (n : Nat) : ∀ c ∈ digits n, c.isDigit = true := by
  induction n using digits.induct with
  | case1 n h =>
    rw [digits, if_pos h]
    intro c hc
    rw [List.mem_singleton.mp hc]
    exact isDigit_digit h
  | case2 n h ih =>
    rw [digits, if_neg h]
    intro c hc
    rcases List.mem_append.mp hc with hc | hc
    · exact ih c hc
    · rw [List.mem_singleton.mp hc]
      exact isDigit_digit (by omega)

theorem digitsValue_concat (ds : List Char) (c : Char) :
    digitsValue (ds ++ [c]) = 10 * digitsValue ds + digitValue c := by
  simp [digitsValue]

/-- Digits denote the number that they were written for. -/
theorem digitsValue_digits (n : Nat) : digitsValue (digits n) = n := by
  induction n using digits.induct with
  | case1 n h =>
    rw [digits, if_pos h]
    simp [digitsValue, digitValue_digit h]
  | case2 n h ih =>
    rw [digits, if_neg h, digitsValue_concat, ih, digitValue_digit (by omega)]
    omega

/-- The decimal digits of an integer, after a minus sign if it is negative. -/
def decimalChars (n : Int) : List Char :=
  if n < 0 then '-' :: digits n.natAbs else digits n.natAbs

/-- The decimal text of an integer. -/
def decimal (n : Int) : String := String.ofList (decimalChars n)

end Downloads.Text
