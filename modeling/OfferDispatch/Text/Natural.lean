/-!
# Natural numbers as text

Reading and writing of decimal numerals. A numeral is read one character at a time, so that the
first thing wrong with it is the one reported: a character that is no digit, or a value that has
outgrown its bound.
-/

namespace OfferDispatch.Text

/-- The value of a decimal digit. -/
def digit? (c : Char) : Option Nat :=
  if '0' ≤ c ∧ c ≤ '9' then some (c.toNat - '0'.toNat) else none

def isDigit (c : Char) : Bool := (digit? c).isSome

inductive NumeralFault
  | invalidDigit
  | tooLarge
  deriving DecidableEq, Repr

namespace NumeralFault

def message : NumeralFault → String
  | invalidDigit => "invalid digit found in string"
  | tooLarge => "number too large to fit in target type"

end NumeralFault

/-- Reads the digits that follow those of `n`, keeping the value below `bound`. -/
def readDigits (bound : Nat) : Nat → List Char → Except NumeralFault Nat
  | n, [] => .ok n
  | n, c :: cs =>
    match digit? c with
    | none => .error .invalidDigit
    | some d => if n * 10 + d < bound then readDigits bound (n * 10 + d) cs else .error .tooLarge

/-- Reads a numeral below `bound`: digits, with at most one plus sign in front. -/
def readNumeral (bound : Nat) : List Char → Except NumeralFault Nat
  | [] => .error .invalidDigit
  | '+' :: [] => .error .invalidDigit
  | '+' :: cs => readDigits bound 0 cs
  | cs => readDigits bound 0 cs

def decimal (n : Nat) : List Char := Nat.toDigits 10 n

/-- A number in at least `width` decimal digits. -/
def padded (width n : Nat) : List Char :=
  List.replicate (width - (decimal n).length) '0' ++ decimal n

end OfferDispatch.Text
