import OutlineChart.Json.Value

/-! # The nearest binary fraction of a decimal

A decimal stands for the fraction of 53 significant bits that is nearest to it, with ties to the
even neighbour, or for infinity when it is too large for one.
-/

namespace OutlineChart

namespace Json

/-- `significand · 2 ^ exponent` with a sign, or none of it. -/
inductive Binary64 where
  | finite (negative : Bool) (significand : Nat) (exponent : Int)
  | infinite
  | nan
  deriving DecidableEq, Repr

namespace Binary64

/-- The integer nearest to `num / den`, the even one of two. -/
def roundEven (num den : Nat) : Nat :=
  let q := num / den
  let twice := 2 * (num % den)
  if den < twice ∨ den = twice ∧ q % 2 = 1 then q + 1 else q

/-- `2 ^ e ≤ num / den`, for positive numbers. -/
def powLe (e : Int) (num den : Nat) : Bool :=
  if 0 ≤ e then den * Nat.pow 2 e.toNat ≤ num else den ≤ num * Nat.pow 2 (-e).toNat

/-- The exponent of the greatest power of two up to `num / den`. -/
def scale (num den : Nat) : Int :=
  let guess : Int := (num.log2 : Int) - den.log2
  if powLe guess num den then guess else guess - 1

/-- The nearest fraction to `num / den`, for positive numbers. -/
def ofRatio (negative : Bool) (num den : Nat) : Binary64 :=
  let e := max (scale num den - 52) (-1074)
  let m := if 0 ≤ e then roundEven num (den * Nat.pow 2 e.toNat)
    else roundEven (num * Nat.pow 2 (-e).toNat) den
  if 971 < e ∨ e = 971 ∧ Nat.pow 2 53 ≤ m then infinite else finite negative m e

/-- Beyond these orders of magnitude every decimal is infinite or zero. -/
def maxOrder : Int := 400

/-- The nearest fraction to `digits · 10 ^ exponent`. -/
def ofDecimal (negative : Bool) (digits : Nat) (exponent : Int) : Binary64 :=
  let order := exponent + (Nat.toDigits 10 digits).length
  if digits = 0 ∨ order < -maxOrder then finite negative 0 0
  else if maxOrder < order then infinite
  else if 0 ≤ exponent then ofRatio negative (digits * Nat.pow 10 exponent.toNat) 1
  else ofRatio negative digits (Nat.pow 10 (-exponent).toNat)

def toInt? : Binary64 → Option Int
  | finite negative m e =>
      let n : Option Nat :=
        if 0 ≤ e then some (m * Nat.pow 2 e.toNat)
        else if m % Nat.pow 2 (-e).toNat = 0 then some (m / Nat.pow 2 (-e).toNat)
        else none
      n.map fun n => if negative then -(n : Int) else n
  | _ => none

end Binary64

end Json

end OutlineChart
