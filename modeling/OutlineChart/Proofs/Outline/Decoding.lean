import OutlineChart.Proofs.Flowchart.Decode
import OutlineChart.Proofs.Outline.Progress
import OutlineChart.Proofs.Outline.Runs

/-! # Outlines from their Mermaid text

The text of an outline tells its graph: ids, tiers, labels and edges are read back in order, so two
outlines have one text exactly if they have one graph.
-/

namespace OutlineChart

namespace Outline
open Mermaid

theorem plain_of_mem_statements (t : Text) : ∀ s ∈ (parse t).statements, s.Plain := by
  have hsound := sound_parse t
  have htold : Graph.ofStatements (parse t).statements = parse t :=
    hsound.grown.ofStatements_statements
  intro s hs
  cases s with
  | node step =>
      have hmem : step ∈ (parse t).nodes := by
        rw [← htold]
        exact List.mem_filterMap.2 ⟨_, hs, rfl⟩
      obtain ⟨tier, index, body, _, rfl⟩ := hsound.opened step hmem
      exact .node tier index fun c => Label.mem_ofText
  | edge edge =>
      have hmem : edge ∈ (parse t).edges := by
        rw [← htold]
        exact List.mem_filterMap.2 ⟨_, hs, rfl⟩
      obtain ⟨parent, hparent, target, htarget, rfl⟩ := hsound.grown.exists_ends hmem
      obtain ⟨tier, i, _, _, rfl⟩ := hsound.opened parent hparent
      obtain ⟨tier', j, _, _, rfl⟩ := hsound.opened target htarget
      exact .edge tier tier' i j

theorem ofMermaid?_toMermaid (t : Text) : Graph.ofMermaid? (toMermaid t) = some (parse t) :=
  (grown_parse t).ofMermaid?_mermaid (plain_of_mem_statements t)

/-- Nothing of a graph is lost in its text. -/
theorem toMermaid_lossless :
    (∀ t : Text, Graph.ofMermaid? (toMermaid t) = some (parse t)) ∧
      ∀ a b : Text, toMermaid a = toMermaid b ↔ parse a = parse b := by
  refine ⟨ofMermaid?_toMermaid, ?_⟩
  intro a b
  constructor
  · intro h
    have hread := ofMermaid?_toMermaid a
    rw [h, ofMermaid?_toMermaid b] at hread
    exact (Option.some.inj hread).symm
  · intro h
    rw [toMermaid, toMermaid, h]

end Outline

end OutlineChart
