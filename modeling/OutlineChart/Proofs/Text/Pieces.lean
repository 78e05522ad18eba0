import OutlineChart.Text.Basic

/-! # Pieces of a text

The pieces between separators hold none, and lines that hold no line feed are found again in the
text that is made of them.
-/

namespace OutlineChart

namespace Text
open CodePoint

theorem eq_false_of_mem_splitOnP {p : CodePoint → Bool} {t piece : Text}
    (h : piece ∈ t.splitOnP p) : ∀ c ∈ piece, p c = false := by
  induction t generalizing piece with
  | nil =>
      rw [List.splitOnP_nil, List.mem_singleton] at h
      rw [h]
      exact fun c hc => absurd hc List.not_mem_nil
  | cons c t ih =>
      rw [List.splitOnP_cons_eq_if_modifyHead] at h
      split at h
      · rcases List.mem_cons.1 h with rfl | hrest
        · exact fun c hc => absurd hc List.not_mem_nil
        · exact ih hrest
      · next hc =>
          obtain ⟨first, rest, hsplit⟩ := List.exists_cons_of_ne_nil (List.splitOnP_ne_nil p t)
          rw [hsplit, List.modifyHead_cons] at h
          rcases List.mem_cons.1 h with rfl | hrest
          · intro d hd
            rcases List.mem_cons.1 hd with rfl | hd
            · simpa using hc
            · exact ih (hsplit ▸ List.mem_cons_self) d hd
          · exact ih (hsplit ▸ List.mem_cons_of_mem _ hrest)

theorem newline_notMem_of_mem_lines {t piece : Text} (h : piece ∈ t.lines) : newline ∉ piece := by
  rw [lines, List.splitOn_eq_splitOnP] at h
  intro hmem
  simpa using eq_false_of_mem_splitOnP h newline hmem

theorem lines_cons_newline (t : Text) : lines (newline :: t) = [] :: lines t :=
  lines_append_newline [] t

/-- Anything but a line feed belongs to the line that begins right behind it. -/
theorem lines_cons_of_ne {c : CodePoint} (h : c ≠ newline) {t first : Text} {rest : List Text}
    (hlines : lines t = first :: rest) : lines (c :: t) = (c :: first) :: rest := by
  unfold lines at hlines ⊢
  rw [List.splitOn_cons_eq_if_modifyHead, if_neg (by simpa using h), hlines, List.modifyHead_cons]

/-- A code point at the end of a text belongs to its last line. -/
theorem exists_lines_concat {c : CodePoint} (hc : c ≠ newline) (t : Text) :
    ∃ before last, lines t = before ++ [last] ∧ lines (t ++ [c]) = before ++ [last ++ [c]] := by
  induction t with
  | nil => exact ⟨[], [], lines_nil, lines_cons_of_ne hc lines_nil⟩
  | cons d t ih =>
      obtain ⟨before, last, hold, hnew⟩ := ih
      rw [List.cons_append]
      by_cases hd : d = newline
      · rw [hd, lines_cons_newline, lines_cons_newline, hold, hnew]
        exact ⟨[] :: before, last, rfl, rfl⟩
      · cases before with
        | nil => exact ⟨[], d :: last, lines_cons_of_ne hd hold, lines_cons_of_ne hd hnew⟩
        | cons first before =>
            exact ⟨(d :: first) :: before, last, lines_cons_of_ne hd hold,
              lines_cons_of_ne hd hnew⟩

/-- What holds of line feeds holds of a text if it holds of its lines. -/
theorem forall_mem_lines_iff {P : CodePoint → Prop} (hfeed : P newline) {t : Text} :
    (∀ line ∈ lines t, ∀ c ∈ line, P c) ↔ ∀ c ∈ t, P c := by
  induction t with
  | nil => simp [lines_nil]
  | cons c t ih =>
      by_cases h : c = newline
      · rw [h, lines_cons_newline]
        simp [ih, hfeed]
      · obtain ⟨first, rest, hlines⟩ := List.exists_cons_of_ne_nil (List.splitOn_ne_nil newline t)
        have hlines' : lines t = first :: rest := hlines
        rw [hlines'] at ih
        rw [lines_cons_of_ne h hlines', List.forall_mem_cons, List.forall_mem_cons,
          List.forall_mem_cons, ← ih, List.forall_mem_cons, and_assoc]

/-- Behind the last line feed nothing is left. -/
theorem lines_ofLines {ls : List Text} (h : ∀ l ∈ ls, newline ∉ l) :
    lines (ofLines ls) = ls ++ [[]] := by
  induction ls with
  | nil => rfl
  | cons l ls ih =>
      have hrest := ih fun l' hl' => h l' (List.mem_cons_of_mem _ hl')
      have hfirst : lines l = [l] := List.splitOn_eq_singleton (h l List.mem_cons_self)
      rw [ofLines_cons, lines_append_newline, hrest, hfirst]
      rfl

end Text

end OutlineChart
