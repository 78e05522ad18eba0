import OutlineChart.Text.Basic

/-! # What trimming leaves

Trimming takes a class of code points off both ends and nothing else.  The relation below says so
without an order of the two ends, and trimming is the only function that satisfies it.
-/

namespace OutlineChart

namespace Text

variable {drop : CodePoint → Bool}

/-! ## The right end -/

/-- The text without the code points of a class at its right end. -/
def trimRight (drop : CodePoint → Bool) (t : Text) : Text := (t.reverse.dropWhile drop).reverse

theorem trim_eq_trimRight (drop : CodePoint → Bool) (t : Text) :
    trim drop t = trimRight drop (t.dropWhile drop) := rfl

@[simp] theorem trimRight_nil (drop : CodePoint → Bool) : trimRight drop [] = [] := rfl

/-- A code point stays if it is not of the class or if something behind it stays. -/
theorem trimRight_cons_of_stays {c : CodePoint} {t : Text}
    (h : drop c = false ∨ trimRight drop t ≠ []) :
    trimRight drop (c :: t) = c :: trimRight drop t := by
  unfold trimRight at h ⊢
  rw [List.reverse_cons, List.dropWhile_append]
  cases hrest : t.reverse.dropWhile drop with
  | nil =>
      have hc : drop c = false := by simpa [hrest] using h
      simp [hc]
  | cons d rest => simp

theorem trimRight_cons_of_drops {c : CodePoint} {t : Text} (hc : drop c = true)
    (h : trimRight drop t = []) : trimRight drop (c :: t) = [] := by
  unfold trimRight at h ⊢
  have hrest : t.reverse.dropWhile drop = [] := by simpa using h
  simp [List.dropWhile_append, hrest, hc]

theorem trimRight_append_of_all {back : Text} (h : back.all drop = true) (t : Text) :
    trimRight drop (t ++ back) = trimRight drop t := by
  have hback : ∀ c ∈ back.reverse, drop c = true := by simpa using h
  unfold trimRight
  rw [List.reverse_append, List.dropWhile_append_of_pos hback]

/-- Nothing is lost in front of a code point that stays. -/
theorem trimRight_append_cons_of_stays {c : CodePoint} (hc : drop c = false) (t rest : Text) :
    trimRight drop (t ++ c :: rest) = t ++ c :: trimRight drop rest := by
  induction t with
  | nil => exact trimRight_cons_of_stays (Or.inl hc)
  | cons d t ih =>
      have hne : trimRight drop (t ++ c :: rest) ≠ [] := by
        rw [ih]
        simp
      rw [List.cons_append, trimRight_cons_of_stays (Or.inr hne), ih]
      rfl

theorem exists_trimRight_append (drop : CodePoint → Bool) (t : Text) :
    ∃ back, t = trimRight drop t ++ back ∧ back.all drop = true := by
  refine ⟨(t.reverse.takeWhile drop).reverse, ?_, by simp⟩
  have split := congrArg List.reverse (List.takeWhile_append_dropWhile (p := drop) (l := t.reverse))
  rw [List.reverse_append, List.reverse_reverse] at split
  exact split.symm

/-! ## Both ends -/

/-- The second text is the first one without the code points of a class at its ends. -/
def IsTrim (drop : CodePoint → Bool) (t trimmed : Text) : Prop :=
  ∃ front back, t = front ++ trimmed ++ back ∧ front.all drop = true ∧ back.all drop = true ∧
    (∀ c ∈ trimmed.head?, drop c = false) ∧ ∀ c ∈ trimmed.getLast?, drop c = false

theorem of_mem_head?_dropWhile {c : CodePoint} {t : Text} (h : c ∈ (t.dropWhile drop).head?) :
    drop c = false := by
  have first := List.head?_dropWhile_not drop t
  rw [Option.mem_def.1 h] at first
  exact first

theorem isTrim_trim (drop : CodePoint → Bool) (t : Text) : IsTrim drop t (trim drop t) := by
  obtain ⟨back, hback, hall⟩ := exists_trimRight_append drop (t.dropWhile drop)
  rw [← trim_eq_trimRight] at hback
  refine ⟨t.takeWhile drop, back, ?_, List.all_takeWhile, hall, ?_, ?_⟩
  · rw [List.append_assoc, ← hback, List.takeWhile_append_dropWhile]
  · intro c hc
    have hmem : c ∈ (t.dropWhile drop).head? := by
      rw [hback, List.head?_append, Option.mem_def.1 hc]
      rfl
    exact of_mem_head?_dropWhile hmem
  · intro c hc
    have hmem : c ∈ ((t.dropWhile drop).reverse.dropWhile drop).head? := by
      rwa [trim, List.getLast?_reverse] at hc
    exact of_mem_head?_dropWhile hmem

theorem mem_of_mem_trim {t : Text} {c : CodePoint} (h : c ∈ trim drop t) : c ∈ t := by
  have hmem : c ∈ (t.dropWhile drop).reverse :=
    List.dropWhile_subset drop (List.mem_reverse.1 h)
  exact List.dropWhile_subset drop (List.mem_reverse.1 hmem)

theorem trim_eq_self {t : Text} (hfirst : ∀ c ∈ t.head?, drop c = false)
    (hlast : ∀ c ∈ t.getLast?, drop c = false) : trim drop t = t := by
  have hleft : t.dropWhile drop = t := by
    cases t with
    | nil => rfl
    | cons c t => exact List.dropWhile_cons_of_neg (by simp [hfirst c rfl])
  have hright : t.reverse.dropWhile drop = t.reverse := by
    cases hrev : t.reverse with
    | nil => rfl
    | cons c rest =>
        have hc : drop c = false := hlast c (by rw [← List.head?_reverse, hrev]; rfl)
        exact List.dropWhile_cons_of_neg (by simp [hc])
  unfold trim
  rw [hleft, hright, List.reverse_reverse]

theorem trim_trim (drop : CodePoint → Bool) (t : Text) : trim drop (trim drop t) = trim drop t := by
  obtain ⟨_, _, _, _, _, hfirst, hlast⟩ := isTrim_trim drop t
  exact trim_eq_self hfirst hlast

theorem trim_append_right {back : Text} (h : back.all drop = true) (t : Text) :
    trim drop (t ++ back) = trim drop t := by
  rw [trim_eq_trimRight, trim_eq_trimRight, List.dropWhile_append]
  cases hrest : t.dropWhile drop with
  | nil => simp [dropWhile_eq_nil_of_all h]
  | cons c rest => exact trimRight_append_of_all h (c :: rest)

theorem trim_around {front back : Text} (hfront : front.all drop = true)
    (hback : back.all drop = true) (t : Text) : trim drop (front ++ t ++ back) = trim drop t := by
  rw [trim_append_right hback, trim_append_left hfront]

theorem trim_eq_nil_iff {t : Text} : trim drop t = [] ↔ ∀ c ∈ t, drop c = true := by
  constructor
  · intro h
    obtain ⟨front, back, ht, hfront, hback, -⟩ := isTrim_trim drop t
    rw [h, List.append_nil] at ht
    intro c hc
    rw [ht] at hc
    rcases List.mem_append.1 hc with hc | hc
    · exact List.all_eq_true.1 hfront c hc
    · exact List.all_eq_true.1 hback c hc
  · intro h
    exact trim_of_all (List.all_eq_true.2 h)

theorem isTrim_iff {t trimmed : Text} : IsTrim drop t trimmed ↔ trimmed = trim drop t := by
  constructor
  · intro h
    obtain ⟨front, back, rfl, hfront, hback, hfirst, hlast⟩ := h
    rw [trim_around hfront hback, trim_eq_self hfirst hlast]
  · intro h
    rw [h]
    exact isTrim_trim drop t

end Text

end OutlineChart
