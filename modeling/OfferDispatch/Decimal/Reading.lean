import OfferDispatch.Text.Natural

/-!
# Reading a float

A decimal numeral is read as the nearest float: an optional sign, digits with at most one point,
and an optional exponent. The words for infinity and for what is not a number are read in any case.
-/

namespace OfferDispatch.Decimal

open Text

/-- The digits a text starts with, as a number and a count, and what follows them. -/
def leadingDigits : List Char → Nat → Nat → Nat × Nat × List Char
  | [], n, count => (n, count, [])
  | c :: cs, n, count =>
    match digit? c with
    | some d => leadingDigits cs (n * 10 + d) (count + 1)
    | none => (n, count, c :: cs)

/-- The exponent of a numeral, or nothing when it is missing its digits. -/
def exponent? : List Char → Option Int
  | [] => some 0
  | c :: cs =>
    if c = 'e' ∨ c = 'E' then
      let (negative, digits) := match cs with
        | '+' :: ds => (false, ds)
        | '-' :: ds => (true, ds)
        | ds => (false, ds)
      match leadingDigits digits 0 0 with
      | (n, count, []) => if count = 0 then none else some (if negative then -n else n)
      | _ => none
    else none

/-- The float nearest to `significand * 10 ^ exponent`. -/
def nearest (significand : Nat) (exponent : Int) : Float :=
  let lead := (Nat.toDigits 10 significand).length + exponent
  if significand = 0 ∨ lead < -400 then 0.0
  else if 400 < lead then 1.0 / 0.0
  else Float.ofScientific significand (decide (exponent < 0)) exponent.natAbs

def unsigned? (cs : List Char) : Option Float :=
  let word := String.ofList (cs.map Char.toLower)
  if word = "inf" ∨ word = "infinity" then some (1.0 / 0.0)
  else if word = "nan" then some (0.0 / 0.0)
  else
    let (whole, wholeCount, rest) := leadingDigits cs 0 0
    let (all, count, rest) := match rest with
      | '.' :: after => leadingDigits after whole 0
      | _ => (whole, 0, rest)
    if wholeCount + count = 0 then none
    else (exponent? rest).map fun e => nearest all (e - count)

/-- Reads a numeral as the nearest float. -/
def read? (s : String) : Option Float :=
  match s.toList with
  | '-' :: cs => (unsigned? cs).map fun x => -x
  | '+' :: cs => unsigned? cs
  | cs => unsigned? cs

end OfferDispatch.Decimal
