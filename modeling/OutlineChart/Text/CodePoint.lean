/-! # Code points

A code point is a character or half of a surrogate pair that stands alone, which only an escape in
a JSON literal can spell.  The classes below are given by ranges, and no half is in any of them.
-/

namespace OutlineChart

/-- One position of a text. -/
inductive CodePoint where
  /-- A Unicode scalar value. -/
  | char (c : Char)
  /-- The lone surrogate `U+D800 + unit`. -/
  | half (unit : Fin 0x800)
  deriving DecidableEq, Repr, Inhabited

namespace CodePoint

def value : CodePoint → Nat
  | char c => c.toNat
  | half unit => 0xD800 + unit.val

theorem value_half (unit : Fin 0x800) : (half unit).value = 0xD800 + unit.val := rfl

def isIn (ranges : List (Nat × Nat)) (c : CodePoint) : Bool :=
  ranges.any fun range => range.1 ≤ c.value && c.value ≤ range.2

@[simp] theorem isIn_nil (c : CodePoint) : isIn [] c = false := rfl

theorem isIn_cons (lo hi : Nat) (ranges : List (Nat × Nat)) (c : CodePoint) :
    isIn ((lo, hi) :: ranges) c = ((lo ≤ c.value && c.value ≤ hi) || isIn ranges c) := rfl

/-! ## Classes -/

/-- The ranges of whitespace, line breaks and separators included. -/
def blankRanges : List (Nat × Nat) :=
  [(0x09, 0x0D), (0x1C, 0x20), (0x85, 0x85), (0xA0, 0xA0), (0x1680, 0x1680), (0x2000, 0x200A),
    (0x2028, 0x2029), (0x202F, 0x202F), (0x205F, 0x205F), (0x3000, 0x3000)]

def isBlank : CodePoint → Bool := isIn blankRanges

def byteOrderMark : CodePoint := char '\uFEFF'

/-- What the ends of an outline line lose: whitespace and the byte-order mark. -/
def isMargin (c : CodePoint) : Bool := c.isBlank || c == byteOrderMark

/-- The ranges of what a label keeps. -/
def labelRanges : List (Nat × Nat) := [(0x2D, 0x2D), (0x30, 0x39), (0x41, 0x5A), (0x61, 0x7A)]

/-- ASCII letters, ASCII digits and the hyphen. -/
def isLabel : CodePoint → Bool := isIn labelRanges

def isDigit : CodePoint → Bool := isIn [(0x30, 0x39)]

/-- The line feed, the only thing that ends a line. -/
def newline : CodePoint := char '\n'

def space : CodePoint := char ' '

theorem isBlank_space : space.isBlank = true := by decide

theorem isBlank_newline : newline.isBlank = true := by decide

theorem isLabel_space : space.isLabel = false := by decide

theorem isBlank_byteOrderMark : byteOrderMark.isBlank = false := by decide

/-- No whitespace is kept in a label. -/
theorem isLabel_of_isBlank {c : CodePoint} (h : c.isBlank = true) : c.isLabel = false := by
  simp only [isBlank, isLabel, blankRanges, labelRanges, isIn_cons, isIn_nil, Bool.or_false,
    Bool.or_eq_true, Bool.and_eq_true, decide_eq_true_eq, Bool.or_eq_false_iff,
    Bool.and_eq_false_iff, decide_eq_false_iff_not] at h ⊢
  omega

/-- Nothing that a label keeps is lost at the ends of a line. -/
theorem isLabel_of_isMargin {c : CodePoint} (h : c.isMargin = true) : c.isLabel = false := by
  rw [isMargin, Bool.or_eq_true, beq_iff_eq] at h
  rcases h with hblank | rfl
  · exact isLabel_of_isBlank hblank
  · decide

theorem isMargin_of_isLabel {c : CodePoint} (h : c.isLabel = true) : c.isMargin = false := by
  cases hmargin : c.isMargin with
  | true =>
      rw [isLabel_of_isMargin hmargin] at h
      exact absurd h Bool.false_ne_true
  | false => rfl

theorem isLabel_of_isDigit {c : CodePoint} (h : c.isDigit = true) : c.isLabel = true := by
  simp only [isDigit, isLabel, labelRanges, isIn_cons, isIn_nil, Bool.or_false, Bool.or_eq_true,
    Bool.and_eq_true, decide_eq_true_eq] at h ⊢
  omega

theorem isBlank_half (unit : Fin 0x800) : (half unit).isBlank = false := by
  have := value_half unit
  simp only [isBlank, blankRanges, isIn_cons, isIn_nil, Bool.or_false, Bool.or_eq_false_iff,
    Bool.and_eq_false_iff, decide_eq_false_iff_not]
  omega

theorem isLabel_half (unit : Fin 0x800) : (half unit).isLabel = false := by
  have := value_half unit
  simp only [isLabel, labelRanges, isIn_cons, isIn_nil, Bool.or_false, Bool.or_eq_false_iff,
    Bool.and_eq_false_iff, decide_eq_false_iff_not]
  omega

end CodePoint

end OutlineChart
