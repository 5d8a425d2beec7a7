/-! # Numbers as text

Decimal numbers are read digit by digit with a largest value: an optional plus sign and at least
one ASCII digit. Of two faults in one text, the earlier character wins, and a character that is no
digit comes before an overflow at the same place. Hexadecimal numbers are only written.
-/

namespace StorageMedia.Text

/-- Why a text is no number of the wanted size. -/
inductive NumberError
  | empty
  | invalidDigit
  | overflow
deriving DecidableEq, Repr

def NumberError.message : NumberError → String
  | .empty => "cannot parse integer from empty string"
  | .invalidDigit => "invalid digit found in string"
  | .overflow => "number too large to fit in target type"

/-- Value of an ASCII decimal digit. -/
def digitValue? (c : Char) : Option Nat :=
  if '0' ≤ c ∧ c ≤ '9' then some (c.toNat - '0'.toNat) else none

/-- Read digits after the value read so far, which must stay at or below `largest`. -/
def readDigits (largest : Nat) : Nat → List Char → Except NumberError Nat
  | value, [] => .ok value
  | value, c :: rest =>
    match digitValue? c with
    | none => .error .invalidDigit
    | some digit =>
      if value * 10 + digit ≤ largest then readDigits largest (value * 10 + digit) rest
      else .error .overflow

/-- Read a decimal number of at most `largest`. -/
def readNumber (largest : Nat) (text : String) : Except NumberError Nat :=
  match text.toList with
  | [] => .error .empty
  | ['+'] => .error .invalidDigit
  | '+' :: digits => readDigits largest 0 digits
  | digits => readDigits largest 0 digits

/-- A number that was read is never above the largest value. -/
theorem readDigits_le {largest value result : Nat} {digits : List Char} (bound : value ≤ largest)
    (read : readDigits largest value digits = .ok result) : result ≤ largest := by
  induction digits generalizing value with
  | nil => exact (Except.ok.inj read) ▸ bound
  | cons c rest ih =>
    simp only [readDigits] at read
    split at read
    · cases read
    · split at read
      · next fits => exact ih fits read
      · cases read

/-- Lower-case hexadecimal digits of a number, without leading zeros. -/
def hex (n : Nat) : String := String.ofList (Nat.toDigits 16 n)

/-- Lower-case hexadecimal digits of a number, with zeros in front up to `width` digits. -/
def zeroPaddedHex (width n : Nat) : String :=
  String.ofList (List.replicate (width - (Nat.toDigits 16 n).length) '0' ++ Nat.toDigits 16 n)

end StorageMedia.Text
