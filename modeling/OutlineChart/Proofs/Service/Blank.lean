import OutlineChart.Proofs.Text.Pieces
import OutlineChart.Proofs.Text.Trim
import OutlineChart.Service

/-! # Outlines without lines

Whether an outline is blank is asked twice: of the whole text before it is compiled, and of each of
its lines when it is read.  The two differ in the byte-order mark, which is no whitespace but which
the lines lose at their ends: a text of such marks has no lines, and is compiled all the same.
-/

namespace OutlineChart

open CodePoint

namespace Outline

/-- An outline has no lines if there is nothing in it but what lines lose at their ends. -/
theorem lines_eq_nil_iff {t : Text} : lines t = [] ↔ ∀ c ∈ t, c.isMargin = true := by
  have hfeed : newline.isMargin = true := by decide
  rw [← Text.forall_mem_lines_iff hfeed, lines, List.filter_eq_nil_iff, List.forall_mem_map]
  apply forall₂_congr
  intro line _
  simp [Line.trim, Text.trim_eq_nil_iff]

theorem isBlank_iff {t : Text} : t.isBlank = true ↔ lines t = [] ∧ byteOrderMark ∉ t := by
  rw [lines_eq_nil_iff, Text.isBlank, List.all_eq_true]
  constructor
  · intro h
    constructor
    · intro c hc
      simp [isMargin, h c hc]
    · intro hmark
      exact absurd (h _ hmark) (by simp [isBlank_byteOrderMark])
  · rintro ⟨hmargin, hmark⟩ c hc
    have hne : c ≠ byteOrderMark := fun heq => hmark (heq ▸ hc)
    simpa [isMargin, hne] using hmargin c hc

theorem toMermaid_of_lines_eq_nil {t : Text} (h : lines t = []) :
    toMermaid t = Text.ofString "graph TD\n" := by
  rw [toMermaid, parse, h]
  decide

end Outline

namespace Service
open Browser

/-- An outline is refused or compiled, without any call and without a word in the log. -/
theorem generateDiagram_apply (outline : Option Text) (o : Oracle) :
    generateDiagram outline o =
      ⟨if (outline.getD []).isBlank then .error (.diagram emptyInput)
        else .ok (Outline.toMermaid (outline.getD [])), [], o⟩ := by
  unfold generateDiagram generateDiagramWith
  split
  · rfl
  · rfl

/-- An outline is refused if it has no lines, unless that is for a byte-order mark: then it is
compiled like any other, to a diagram without steps. -/
theorem generateDiagram_refuses_unmarked (t : Text) (o : Oracle) :
    generateDiagram (some t) o =
        ⟨if Outline.lines t = [] ∧ byteOrderMark ∉ t then .error (.diagram emptyInput)
          else .ok (Outline.toMermaid t), [], o⟩ ∧
      (Outline.lines t = [] → byteOrderMark ∈ t →
        (generateDiagram (some t) o).result = .ok (Text.ofString "graph TD\n")) := by
  have hends : generateDiagram (some t) o =
      ⟨if Outline.lines t = [] ∧ byteOrderMark ∉ t then .error (.diagram emptyInput)
        else .ok (Outline.toMermaid t), [], o⟩ := by
    rw [generateDiagram_apply, Option.getD_some]
    simp only [Outline.isBlank_iff]
  refine ⟨hends, ?_⟩
  intro hlines hmark
  rw [hends, if_neg fun h => h.2 hmark, Outline.toMermaid_of_lines_eq_nil hlines]

/-- A lone byte-order mark has no lines, and is not refused. -/
theorem lone_mark_compiled :
    Outline.lines [byteOrderMark] = [] ∧
      (generateDiagram (some [byteOrderMark]) .calm).result =
        .ok (Text.ofString "graph TD\n") := by
  constructor
  · decide
  · rfl

end Service

end OutlineChart
