import OfferDispatch.Json.Basic
import OfferDispatch.Power

/-!
# Numerals in documents

A numeral without point or exponent is a whole number if it fits into 64 bits, with or without a
sign; minus zero is a float. Every other numeral is a float, computed from as many leading digits as
fit into 64 bits and one power of ten, with one rounding for the digits and one for the power. A
float beyond the largest finite one is refused.
-/

namespace OfferDispatch.Json.Numeral

open Text

/-- One more than the largest number of 64 bits. -/
def wordBound : Nat := 2 ^ 64

/-- The leading digits of a numeral as far as they count. -/
structure Significand where
  value : Nat
  /-- The power of ten the value is to be multiplied by. -/
  power : Int
  /-- A digit has not fitted any more. -/
  full : Bool

/-- Adds a digit before the point: one that does not fit counts as a power of ten. -/
def Significand.addWhole (s : Significand) (d : Nat) : Significand :=
  if s.full then { s with power := s.power + 1 }
  else if s.value * 10 + d < wordBound then { s with value := s.value * 10 + d }
  else { s with power := s.power + 1, full := true }

/-- Adds a digit after the point: one that does not fit is dropped, with all that follow. -/
def Significand.addFraction (s : Significand) (d : Nat) : Significand :=
  if s.full then s
  else if s.value * 10 + d < wordBound then
    { s with value := s.value * 10 + d, power := s.power - 1 }
  else { s with full := true }

/-- The digits a text starts with, and what follows them. -/
def digits : List Char → List Nat × List Char
  | [] => ([], [])
  | c :: cs =>
    match digit? c with
    | some d => let (ds, rest) := digits cs; (d :: ds, rest)
    | none => ([], c :: cs)

/-- The exponent of a numeral: nothing when there is none, and none when its digits are missing. -/
def exponent? (cs : List Char) : Option (Option Int × List Char) :=
  match cs with
  | [] => some (none, [])
  | c :: rest =>
    if c = 'e' ∨ c = 'E' then
      let (negative, after) := match rest with
        | '+' :: ds => (false, ds)
        | '-' :: ds => (true, ds)
        | ds => (false, ds)
      match digits after with
      | ([], _) => none
      | (ds, rest) =>
        let n : Int := (ds.foldl (fun n d => n * 10 + d) 0 : Nat)
        some (some (if negative then -n else n), rest)
    else some (none, c :: rest)

/-- Multiplies by a power of ten, in steps of at most `10 ^ 308`; a result that is not finite is
refused. -/
def scale : Nat → Float → Int → Option Float
  | 0, x, _ => some x
  | fuel + 1, x, power =>
    if power.natAbs ≤ 308 then
      let factor := Float.ofScientific 1 false power.natAbs
      if 0 ≤ power then (if (x * factor).isInf then none else some (x * factor))
      else some (x / factor)
    else if x == 0.0 then some x
    else if 0 ≤ power then none
    else scale fuel (x / 1e308) (power + 308)

/-- The float a numeral stands for. -/
def float? (negative : Bool) (s : Significand) (exponent : Int) : Option Number :=
  (scale 8 (Float.ofNat s.value) (s.power + exponent)).map fun x =>
    .float (if negative then -x else x)

/-- The whole number a numeral without point and exponent stands for. -/
def whole? (negative : Bool) (s : Significand) : Option Number :=
  if s.full then float? negative s 0
  else if negative then
    if s.value = 0 ∨ 2 ^ 63 < s.value then some (.float (-(Float.ofNat s.value)))
    else some (.int (-s.value))
  else some (.int s.value)

/-- Reads a numeral, and says what follows it. -/
def unsigned? (negative : Bool) (cs : List Char) : Option (Number × List Char) :=
  match digits cs with
  | ([], _) => none
  | (ds, rest) =>
    if ds.length ≠ 1 ∧ ds.head? = some 0 then none
    else
      let significand := ds.foldl Significand.addWhole ⟨0, 0, false⟩
      match rest with
      | '.' :: after =>
        match digits after with
        | ([], _) => none
        | (fraction, rest) =>
          let significand :=
            fraction.foldl Significand.addFraction { significand with full := false }
          (exponent? rest).bind fun (e, rest) =>
            (float? negative significand (e.getD 0)).map fun n => (n, rest)
      | _ =>
        (exponent? rest).bind fun
          | (none, rest) => (whole? negative significand).map fun n => (n, rest)
          | (some e, rest) => (float? negative significand e).map fun n => (n, rest)

/-- Reads a numeral with or without a minus sign, and says what follows it. -/
def read? : List Char → Option (Number × List Char)
  | '-' :: cs => unsigned? true cs
  | cs => unsigned? false cs

end OfferDispatch.Json.Numeral
