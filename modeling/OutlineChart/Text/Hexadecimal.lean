/-! # Hexadecimal digits

The sixteen digits, written small or as capitals and read in either case, and numbers in a fixed
number of digits.
-/

namespace OutlineChart

namespace Hexadecimal

def digit (n : Nat) : Char := Char.ofNat (if n < 10 then 0x30 + n else 0x57 + n)

def capital (n : Nat) : Char := Char.ofNat (if n < 10 then 0x30 + n else 0x37 + n)

def digits : Nat → Nat → List Char
  | 0, _ => []
  | width + 1, n => digits width (n / 16) ++ [digit (n % 16)]

def value? (c : Char) : Option Nat :=
  let n := c.toNat
  if 0x30 ≤ n ∧ n ≤ 0x39 then some (n - 0x30)
  else if 0x41 ≤ n ∧ n ≤ 0x46 then some (n - 0x37)
  else if 0x61 ≤ n ∧ n ≤ 0x66 then some (n - 0x57)
  else none

def isDigit (c : Char) : Bool := (value? c).isSome

theorem value?_lt {c : Char} {n : Nat} (h : value? c = some n) : n < 16 := by
  unfold value? at h
  dsimp only at h
  split at h
  · cases h; omega
  · split at h
    · cases h; omega
    · split at h
      · cases h; omega
      · cases h

end Hexadecimal

end OutlineChart
