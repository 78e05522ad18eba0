import OutlineChart.Proofs.Flowchart.Statement

/-! # Declaration before use

In the statements of a grown graph nothing is used before it is declared: an edge comes right behind
the step that it leads to, and the primary step that it comes from stands further up.
-/

namespace OutlineChart

namespace Mermaid

/-- A statement may stand behind others. -/
inductive Statement.Follows (before : List Statement) : Statement → Prop
  | node (step : Step) : Follows before (.node step)
  | edge {earlier : List Statement} {source target : Step} :
      before = earlier ++ [.node target] → .node source ∈ earlier → source.tier = .primary →
      Follows before (.edge ⟨source.id, target.id⟩)

/-- Every statement may stand behind those before it. -/
def InOrder (ss : List Statement) : Prop :=
  ∀ before s after, ss = before ++ s :: after → s.Follows before

theorem inOrder_nil : InOrder [] := by
  intro before s after h
  exact absurd h.symm (List.append_ne_nil_of_right_ne_nil _ (List.cons_ne_nil _ _))

theorem InOrder.concat {ss : List Statement} (h : InOrder ss) {s : Statement} (hs : s.Follows ss) :
    InOrder (ss ++ [s]) := by
  intro before s' after hsplit
  -- the list is split at its new end, or else where it could be split before
  rcases List.eq_nil_or_concat after with rfl | ⟨after', last, rfl⟩
  · obtain ⟨hbefore, hlast⟩ := List.append_inj' hsplit rfl
    obtain rfl : s = s' := List.singleton_inj.1 hlast
    exact hbefore ▸ hs
  · rw [List.concat_eq_append, ← List.cons_append, ← List.append_assoc] at hsplit
    exact h before s' after' (List.append_inj' hsplit rfl).1

end Mermaid

namespace Graph
open Mermaid

/-- There is one statement for each step and each edge. -/
theorem length_ofStatements (ss : List Statement) :
    ss.length = (ofStatements ss).nodes.length + (ofStatements ss).edges.length := by
  induction ss with
  | nil => rfl
  | cons s ss ih =>
      simp only [ofStatements] at ih
      cases s with
      | node step =>
          simp only [ofStatements, List.filterMap_cons, Statement.node?, Statement.edge?,
            List.length_cons]
          omega
      | edge edge =>
          simp only [ofStatements, List.filterMap_cons, Statement.node?, Statement.edge?,
            List.length_cons]
          omega

theorem node_mem_statements {g : Graph} {step : Step} :
    .node step ∈ g.statements ↔ step ∈ g.nodes := by
  simp [statements]

namespace Grown

variable {g : Graph}

theorem length_statements (h : Grown g) :
    g.statements.length = g.nodes.length + g.edges.length := by
  have hlength := length_ofStatements g.statements
  rwa [h.ofStatements_statements] at hlength

/-- The step and its edge are added behind all others, so only they have to be looked at. -/
theorem inOrder (h : Grown g) : InOrder g.statements := by
  induction h with
  | empty => exact inOrder_nil
  | @add g step grown fresh _ ih =>
      rw [grown.statements_add fresh]
      have hnode : InOrder (g.statements ++ [.node step]) := ih.concat (.node step)
      cases hparent : lastPrimary? g.nodes with
      | none => exact hnode
      | some parent =>
          obtain ⟨hmem, hprimary⟩ := mem_of_lastPrimary? hparent
          have hedge : (Statement.edge ⟨parent.id, step.id⟩).Follows
              (g.statements ++ [.node step]) :=
            .edge rfl (node_mem_statements.2 hmem) hprimary
          have hboth := hnode.concat hedge
          rw [List.append_assoc] at hboth
          exact hboth

end Grown

end Graph

end OutlineChart
