/-! # Characters by number

Escapes and references give a character by its number, in hexadecimal or decimal digits. Where no
character has the number, and for zero, the replacement character stands.
-/
namespace PageExtract.Text

def replacement : Char := Char.ofNat 0xFFFD

def withoutNul (c : Char) : Char := if c = '\x00' then replacement else c

def charOf (n : Nat) : Char :=
  if n = 0 ∨ n > 0x10FFFF ∨ (0xD800 ≤ n ∧ n ≤ 0xDFFF) then replacement else Char.ofNat n

def hexValue? (c : Char) : Option Nat :=
  let n := c.toNat
  if 48 ≤ n ∧ n ≤ 57 then some (n - 48)
  else if 65 ≤ n ∧ n ≤ 70 then some (n - 55)
  else if 97 ≤ n ∧ n ≤ 102 then some (n - 87)
  else none

def isHexDigit (c : Char) : Bool := (hexValue? c).isSome

def numberOf (base : Nat) (digits : List Char) : Nat :=
  digits.foldl (fun n d => base * n + (hexValue? d).getD 0) 0

end PageExtract.Text
