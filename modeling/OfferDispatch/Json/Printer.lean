import OfferDispatch.Json.Basic

/-!
# Writing documents

A document is written without blanks. In a text, quotation marks, backslashes and control characters
are escaped and every other character stands for itself.
-/

namespace OfferDispatch.Json

namespace Printer

def hexDigit (n : Nat) : Char := (Nat.digitChar n)

/-- The letter or mark that a character is escaped with, if it has one. -/
def escape? (c : Char) : Option Char :=
  if c = '"' ∨ c = '\\' then some c
  else if c = '\x08' then some 'b'
  else if c = '\x0c' then some 'f'
  else if c = '\n' then some 'n'
  else if c = '\r' then some 'r'
  else if c = '\t' then some 't'
  else none

def char (c : Char) : List Char :=
  match escape? c with
  | some letter => ['\\', letter]
  | none =>
    if c.toNat < 0x20 then
      ['\\', 'u', '0', '0', hexDigit (c.toNat / 16), hexDigit (c.toNat % 16)]
    else [c]

/-- A text between its marks. -/
def string (s : String) : List Char := '"' :: s.toList.flatMap char ++ ['"']

mutual

def value : Json → List Char
  | .null => ['n', 'u', 'l', 'l']
  | .bool true => ['t', 'r', 'u', 'e']
  | .bool false => ['f', 'a', 'l', 's', 'e']
  | .num n => n.text.toList
  | .str s => string s
  | .arr [] => ['[', ']']
  | .arr (v :: vs) => '[' :: value v ++ items vs
  | .obj [] => ['\x7b', '\x7d']
  | .obj ((k, v) :: fs) => '\x7b' :: string k ++ ':' :: value v ++ fields fs

/-- The members of an array after the first, and its end. -/
def items : List Json → List Char
  | [] => [']']
  | v :: vs => ',' :: value v ++ items vs

/-- The fields of an object after the first, and its end. -/
def fields : List (String × Json) → List Char
  | [] => ['\x7d']
  | (k, v) :: fs => ',' :: string k ++ ':' :: value v ++ fields fs

end

end Printer

def text (j : Json) : String := String.ofList (Printer.value j)

end OfferDispatch.Json
