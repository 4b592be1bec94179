import OfferDispatch.Decimal.Shortest

/-!
# How a float is laid out

A layout says which numbers are written positionally and which with an exponent, and whether a
whole number keeps a point and a zero. Two layouts are in use: amounts in messages are always
positional, and numbers in documents switch to an exponent when they are very large or very small.
-/

namespace OfferDispatch

structure Layout where
  /-- Numbers at or above `10 ^ k` are written with an exponent. -/
  exponentFrom : Option Int
  /-- Numbers below `10 ^ k` are written with an exponent. -/
  exponentBelow : Option Int
  /-- A whole number ends in a point and a zero. -/
  keepPoint : Bool

namespace Layout

/-- Amounts in messages: never an exponent, and a whole number looks like one. -/
def plain : Layout := ⟨none, none, false⟩

/-- Numbers in documents: positional from `10 ^ -5` and below `10 ^ 16`, always with a point. -/
def document : Layout := ⟨some 16, some (-5), true⟩

/-- Is a number written positionally whose first digit stands for `10 ^ lead`? -/
def isPositional (l : Layout) (lead : Int) : Bool :=
  l.exponentFrom.all (fun k => decide (lead < k)) &&
    l.exponentBelow.all (fun k => decide (k ≤ lead))

/-- Digits with the point after the first `whole` of them. -/
def positional (l : Layout) (digits : List Char) (whole : Int) : List Char :=
  if whole ≤ 0 then ['0', '.'] ++ List.replicate (-whole).toNat '0' ++ digits
  else if digits.length ≤ whole.toNat then
    digits ++ List.replicate (whole.toNat - digits.length) '0' ++
      (if l.keepPoint then ['.', '0'] else [])
  else digits.take whole.toNat ++ '.' :: digits.drop whole.toNat

/-- Digits with the point after the first of them, and an exponent that always shows its sign. -/
def scientific (digits : List Char) (lead : Int) : List Char :=
  let mark := if lead < 0 then ['e', '-'] else ['e', '+']
  let power := Nat.toDigits 10 lead.natAbs
  match digits with
  | [] => []
  | [d] => d :: mark ++ power
  | d :: rest => d :: '.' :: rest ++ mark ++ power

def decimal (l : Layout) (d : Decimal) : List Char :=
  let digits := Nat.toDigits 10 d.digits
  let whole := digits.length + d.exponent
  if l.isPositional (whole - 1) then l.positional digits whole else scientific digits (whole - 1)

/-- A float in this layout, with the fewest digits that read back as the same float. -/
def text (l : Layout) (x : Float) : String :=
  match Decimal.classify x with
  | .notANumber => "NaN"
  | .infinite => if Decimal.isNegative x then "-inf" else "inf"
  | .finite m =>
    let digits := l.decimal (Decimal.shortest m)
    String.ofList (if Decimal.isNegative x then '-' :: digits else digits)

end Layout

end OfferDispatch
