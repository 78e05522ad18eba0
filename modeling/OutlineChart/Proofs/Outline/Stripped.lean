import OutlineChart.Proofs.Outline.Decoding

/-! # The text of an outline without its last line feed

Every line of a diagram begins and ends with something that is no whitespace, and so does the
diagram but for the line feed behind it: stripping takes off that line feed and nothing else.
-/

namespace OutlineChart

open CodePoint

namespace Text

/-- Not empty, and without whitespace at its ends. -/
def Firm (t : Text) : Prop := t ≠ [] ∧ t.strip = t

instance (t : Text) : Decidable t.Firm := inferInstanceAs (Decidable (_ ∧ _))

theorem firm_iff {t : Text} : t.Firm ↔
    t ≠ [] ∧ (∀ c ∈ t.head?, c.isBlank = false) ∧ ∀ c ∈ t.getLast?, c.isBlank = false := by
  constructor
  · rintro ⟨hne, hstrip⟩
    obtain ⟨_, _, _, _, _, hends⟩ := isTrim_trim CodePoint.isBlank t
    have htrim : trim CodePoint.isBlank t = t := hstrip
    exact ⟨hne, htrim ▸ hends⟩
  · rintro ⟨hne, hfirst, hlast⟩
    exact ⟨hne, trim_eq_self hfirst hlast⟩

theorem firm_of_isLabel {t : Text} (hne : t ≠ []) (h : ∀ c ∈ t, c.isLabel = true) : t.Firm :=
  firm_iff.2 ⟨hne, fun c hc => Label.isBlank_of_isLabel (h c (List.mem_of_head? hc)),
    fun c hc => Label.isBlank_of_isLabel (h c (List.mem_of_getLast? hc))⟩

/-- Between two firm texts anything may stand. -/
theorem Firm.around {a b : Text} (ha : a.Firm) (hb : b.Firm) (between : Text) :
    (a ++ between ++ b).Firm := by
  obtain ⟨hane, hfirst, -⟩ := firm_iff.1 ha
  obtain ⟨hbne, -, hlast⟩ := firm_iff.1 hb
  refine firm_iff.2 ⟨List.append_ne_nil_of_right_ne_nil _ hbne, ?_, ?_⟩
  · rw [List.append_assoc, List.head?_append_of_ne_nil _ hane]
    exact hfirst
  · rw [List.getLast?_append_of_ne_nil _ hbne]
    exact hlast

theorem Firm.strip_concat {t : Text} (h : t.Firm) : (t ++ [newline]).strip = t := by
  have hfeed : [newline].all CodePoint.isBlank = true := by decide
  rw [strip, trim_append_right hfeed]
  exact h.2

theorem ofLines_of_firm {l : Text} {ls : List Text} (hl : l.Firm) (hls : ∀ l' ∈ ls, l'.Firm) :
    ∃ rest, ofLines (l :: ls) = l ++ rest ++ [newline] ∧ (l ++ rest).Firm := by
  -- over the lines from the first one: what follows is firm but for its last line feed
  induction ls generalizing l with
  | nil => exact ⟨[], by simp, by simpa using hl⟩
  | cons l' ls ih =>
      obtain ⟨rest, hlines, hfirm⟩ := ih (hls l' List.mem_cons_self)
        fun l'' hl'' => hls l'' (List.mem_cons_of_mem _ hl'')
      refine ⟨[newline] ++ (l' ++ rest), ?_, ?_⟩
      · rw [ofLines_cons, hlines]
        simp
      · rw [← List.append_assoc]
        exact hl.around hfirm [newline]

end Text

theorem Tier.firm_stepId (tier : Tier) (index : Nat) : (tier.stepId index).Firm := by
  have hword : tier.word ≠ [] := by cases tier <;> decide
  refine Text.firm_of_isLabel ?_ fun c => isLabel_of_mem_stepId
  rw [stepId_eq]
  exact List.append_ne_nil_of_left_ne_nil hword _

namespace Mermaid

theorem firm_directive : directive.Firm := by decide

theorem Statement.Plain.firm_line {s : Statement} (h : s.Plain) : s.line.Firm := by
  cases h with
  | @node tier index label _ =>
      have hclosing : (Text.ofString "\"]").Firm := by decide
      have hline := (tier.firm_stepId index).around hclosing (Text.ofString "[\"" ++ label)
      rw [← List.append_assoc] at hline
      exact hline
  | edge source target i j =>
      exact (source.firm_stepId i).around (target.firm_stepId j) (Text.ofString " --> ")

end Mermaid

namespace Outline
open Mermaid

/-- The text of an outline begins with the direction and ends in one line feed, in front of which
there is nothing to strip. -/
theorem toMermaid_eq_concat (t : Text) :
    ∃ rest, toMermaid t = directive ++ rest ++ [newline] ∧ (directive ++ rest).Firm := by
  rw [toMermaid, Graph.mermaid, Graph.mermaidLines_eq]
  refine Text.ofLines_of_firm firm_directive fun line hline => ?_
  obtain ⟨s, hs, rfl⟩ := List.mem_map.1 hline
  exact (plain_of_mem_statements t s hs).firm_line

end Outline

end OutlineChart
