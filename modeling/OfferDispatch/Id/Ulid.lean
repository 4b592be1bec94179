import OfferDispatch.Id.Error
import OfferDispatch.Power

/-!
# Base-32 numbers

A number of 128 bits is written in twenty-six base-32 digits, most significant first. The alphabet
leaves out the letters that are easily mistaken for another digit or spell words. Letters are read
in either case. Twenty-six digits hold two bits more than the number has; they are dropped.
-/

namespace OfferDispatch

/-- A number of 128 bits, whose upper 48 are the milliseconds at which it was drawn. -/
abbrev Ulid := Fin (2 ^ 128)

namespace Ulid

def alphabet : List Char := "0123456789ABCDEFGHJKMNPQRSTVWXYZ".toList

def width : Nat := 26

/-- The digit of a value below thirty-two. -/
def digit (n : Nat) : Char := alphabet.getD n '0'

/-- The value of a digit in either case. -/
def digitValue? (c : Char) : Option Nat := alphabet.idxOf? c.toUpper

/-- The last `count` digits of a number, most significant first. -/
def digits : Nat → Nat → List Char
  | 0, _ => []
  | count + 1, n => digits count (n / 32) ++ [digit (n % 32)]

def text (u : Ulid) : String := String.ofList (digits width u.val)

/-- Reads digits that follow those of `n`. -/
def readDigits? : Nat → List Char → Option Nat
  | n, [] => some n
  | n, c :: cs => (digitValue? c).bind fun d => readDigits? (n * 32 + d) cs

/-- Reads a number from exactly twenty-six bytes, each of them a digit. -/
def parse (s : String) : Except UlidFault Ulid :=
  if s.utf8ByteSize ≠ width then .error .length
  else match readDigits? 0 s.toList with
    | some n => .ok (Fin.ofNat (2 ^ 128) n)
    | none => .error .character

/-- When the number was drawn, in milliseconds since the beginning of 1970. -/
def timestamp (u : Ulid) : Nat := u.val / 2 ^ 80

end Ulid

end OfferDispatch
