import OutlineChart.Text.CodePoint
import OutlineChart.Text.Hexadecimal

/-! # Texts

A text is a list of code points.  Trimming takes a class off both ends, lines end at line feeds
only, and a text without lone surrogates is the same thing as a string.
-/

namespace OutlineChart

abbrev Text := List CodePoint

namespace Text
open CodePoint

/-! ## Characters and strings -/

def ofChars (cs : List Char) : Text := cs.map char

def ofString (s : String) : Text := ofChars s.toList

instance : Coe String Text := ⟨ofString⟩

@[simp] theorem ofChars_nil : ofChars [] = [] := rfl

@[simp] theorem ofChars_cons (c : Char) (cs : List Char) :
    ofChars (c :: cs) = char c :: ofChars cs := rfl

@[simp] theorem ofChars_append (cs ds : List Char) :
    ofChars (cs ++ ds) = ofChars cs ++ ofChars ds := List.map_append

@[simp] theorem length_ofChars (cs : List Char) : (ofChars cs).length = cs.length :=
  List.length_map ..

theorem ofString_append (s t : String) : ofString (s ++ t) = ofString s ++ ofString t := by
  simp [ofString]

/-- The characters of a text, if no surrogate stands alone in it. -/
def toChars? : Text → Option (List Char)
  | [] => some []
  | char c :: t => (toChars? t).map (c :: ·)
  | half _ :: _ => none

@[simp] theorem toChars?_ofChars (cs : List Char) : toChars? (ofChars cs) = some cs := by
  induction cs with
  | nil => rfl
  | cons c cs ih => simp [toChars?, ih]

/-- A surrogate stands alone in the text. -/
def HasHalf (t : Text) : Prop := ∃ unit, half unit ∈ t

theorem toChars?_eq_none_iff {t : Text} : toChars? t = none ↔ t.HasHalf := by
  induction t with
  | nil => simp [toChars?, HasHalf]
  | cons c t ih =>
      cases c with
      | char c => simpa [toChars?, HasHalf] using ih
      | half unit => simp [toChars?, HasHalf]

theorem hasHalf_append {a b : Text} : (a ++ b).HasHalf ↔ a.HasHalf ∨ b.HasHalf := by
  simp [HasHalf, exists_or]

@[simp] theorem not_hasHalf_nil : ¬ HasHalf [] := by
  simp [HasHalf]

@[simp] theorem not_hasHalf_ofChars (cs : List Char) : ¬ (ofChars cs).HasHalf := by
  rw [← toChars?_eq_none_iff, toChars?_ofChars]
  exact Option.some_ne_none cs

@[simp] theorem not_hasHalf_ofString (s : String) : ¬ (ofString s).HasHalf :=
  not_hasHalf_ofChars s.toList

/-- The characters of a text, a lone surrogate being spelled as an escape. -/
def spelled (t : Text) : List Char :=
  t.flatMap fun
    | char c => [c]
    | half unit => '\\' :: 'u' :: Hexadecimal.digits 4 (0xD800 + unit.val)

/-! ## Trimming -/

/-- The text without the code points of a class at either end. -/
def trim (drop : CodePoint → Bool) (t : Text) : Text :=
  ((t.dropWhile drop).reverse.dropWhile drop).reverse

/-- The text without whitespace at either end. -/
def strip (t : Text) : Text := trim isBlank t

/-- Only whitespace, possibly none. -/
def isBlank (t : Text) : Bool := t.all CodePoint.isBlank

@[simp] theorem trim_nil (drop : CodePoint → Bool) : trim drop [] = [] := rfl

theorem dropWhile_eq_nil_of_all {drop : CodePoint → Bool} {t : Text} (h : t.all drop = true) :
    t.dropWhile drop = [] := by
  induction t with
  | nil => rfl
  | cons c t ih =>
      simp only [List.all_cons, Bool.and_eq_true] at h
      simp [h.1, ih h.2]

theorem trim_of_all {drop : CodePoint → Bool} {t : Text} (h : t.all drop = true) :
    trim drop t = [] := by
  simp [trim, dropWhile_eq_nil_of_all h]

/-- Anything of the class in front is lost. -/
theorem trim_append_left {drop : CodePoint → Bool} {front : Text} (h : front.all drop = true)
    (t : Text) : trim drop (front ++ t) = trim drop t := by
  induction front with
  | nil => rfl
  | cons c front ih =>
      simp only [List.all_cons, Bool.and_eq_true] at h
      have step : (c :: front ++ t).dropWhile drop = (front ++ t).dropWhile drop := by
        simp [h.1]
      unfold trim at ih ⊢
      rw [step, ih h.2]

/-! ## Lines -/

/-- The pieces between line feeds; there is always at least one. -/
def lines (t : Text) : List Text := t.splitOn newline

theorem lines_nil : lines [] = [[]] := rfl

theorem lines_append_newline (a b : Text) : lines (a ++ newline :: b) = lines a ++ lines b :=
  List.splitOn_append_cons_self ..

/-- Every line is closed by a line feed. -/
def ofLines (ls : List Text) : Text := ls.flatMap (· ++ [newline])

@[simp] theorem ofLines_nil : ofLines [] = [] := rfl

@[simp] theorem ofLines_cons (l : Text) (ls : List Text) :
    ofLines (l :: ls) = l ++ newline :: ofLines ls := by simp [ofLines]

@[simp] theorem ofLines_append (ls ms : List Text) :
    ofLines (ls ++ ms) = ofLines ls ++ ofLines ms := by simp [ofLines]

/-! ## Numbers -/

def ofNat (n : Nat) : Text := ofChars (Nat.toDigits 10 n)

/-- A decimal text names one number only. -/
theorem ofNat_inj {m n : Nat} : ofNat m = ofNat n ↔ m = n := by
  constructor
  · intro h
    have digits := congrArg toChars? h
    simp only [ofNat, toChars?_ofChars, Option.some.injEq] at digits
    simpa using congrArg (Nat.ofDigitChars 10 · 0) digits
  · rintro rfl
    rfl

end Text

end OutlineChart
