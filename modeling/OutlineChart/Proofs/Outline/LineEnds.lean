import OutlineChart.Proofs.Outline.Layout
import OutlineChart.Text.Newline

/-! # Line ends

A text file is read with line feeds for all of its line ends.  Where every carriage return stands in
front of a line feed, this goes unnoticed: the return is at the end of a line, and what is there is
trimmed off anyway.  A carriage return that stands alone is whitespace in a line, but ends a line of
a file.
-/

namespace OutlineChart

namespace Newline

/-- Behind every carriage return stands a line feed. -/
def Paired (cs : List Char) : Prop :=
  ∀ before after, cs = before ++ '\r' :: after → after.head? = some '\n'

theorem Paired.tail {c : Char} {cs : List Char} (h : Paired (c :: cs)) : Paired cs := by
  intro before after hsplit
  apply h (c :: before) after
  rw [hsplit]
  rfl

theorem paired_of_notMem {cs : List Char} (h : '\r' ∉ cs) : Paired cs := by
  intro before after hsplit
  apply absurd _ h
  simp [hsplit]

theorem Paired.cons_return {cs : List Char} (h : Paired cs) : Paired ('\r' :: '\n' :: cs) := by
  intro before after hsplit
  cases before with
  | nil =>
      cases hsplit
      rfl
  | cons _ before =>
      cases before with
      | nil => cases hsplit
      | cons _ before =>
          cases hsplit
          exact h before after rfl

/-- A line end is whitespace, however it is written. -/
theorem isBlank_unify (cs : List Char) :
    (Text.ofChars (unify cs)).isBlank = (Text.ofChars cs).isBlank := by
  have hreturn : (CodePoint.char '\r').isBlank = true := by decide
  have hfeed : (CodePoint.char '\n').isBlank = true := by decide
  unfold Text.isBlank
  induction cs using unify.induct with
  | case1 => rfl
  | case2 cs ih =>
      rw [unify]
      simp only [Text.ofChars_cons, List.all_cons, hreturn, hfeed, Bool.true_and]
      exact ih
  | case3 c cs hother ih =>
      rw [unify]
      · simp only [Text.ofChars_cons, List.all_cons, ih]
        split
        · next hc => rw [hc, hreturn, hfeed]
        · rfl
      · exact hother

end Newline

namespace Outline

/-- With something in front, since the line that a carriage return ends may begin there. -/
theorem meanings_append_unify {cs : List Char} (h : Newline.Paired cs) (front : List Char) :
    meanings (Text.ofChars (front ++ Newline.unify cs)) =
      meanings (Text.ofChars (front ++ cs)) := by
  induction cs using Newline.unify.induct generalizing front with
  | case1 => rfl
  | case2 cs ih =>
      have hrelaid : Relaid (Text.ofChars (front ++ '\n' :: cs))
          (Text.ofChars (front ++ '\r' :: '\n' :: cs)) :=
        .carriageReturn (Text.ofChars front) (Text.ofChars cs) (Text.ofChars_append ..)
          (Text.ofChars_append ..)
      have hrest := ih h.tail.tail (front ++ ['\n'])
      rw [List.append_assoc, List.append_assoc] at hrest
      rw [Newline.unify]
      exact hrest.trans hrelaid.meanings_eq
  | case3 c cs hother ih =>
      have hc : c ≠ '\r' := by
        intro hc
        obtain ⟨rest, hrest⟩ := List.head?_eq_some_iff.1 (h [] cs (by rw [hc]; rfl))
        exact hother rest hc hrest
      have hrest := ih h.tail (front ++ [c])
      rw [List.append_assoc, List.append_assoc] at hrest
      rw [Newline.unify]
      · rw [if_neg hc]
        exact hrest
      · exact hother

theorem toMermaid_unify {cs : List Char} (h : Newline.Paired cs) :
    toMermaid (Text.ofChars (Newline.unify cs)) = toMermaid (Text.ofChars cs) :=
  congrArg Graph.mermaid (parse_eq_of_meanings_eq (meanings_append_unify h []))

end Outline

end OutlineChart
