import OutlineChart.Proofs.Flowchart.Grown
import OutlineChart.Proofs.Flowchart.Incoming

/-! # Statements

The lines of Mermaid text as data: a step, or an edge.  A grown graph writes the statements of each
step as they were added, since no edge is added later for an id that is known, so the statements
hold the whole graph in the order in which it grew.
-/

namespace OutlineChart

namespace Mermaid

/-- A line under the direction line. -/
inductive Statement where
  | node (step : Step)
  | edge (edge : Edge)
  deriving DecidableEq, Repr

namespace Statement

def line : Statement → Text
  | node s => nodeLine s
  | edge e => edgeLine e

def node? : Statement → Option Step
  | node s => some s
  | edge _ => none

def edge? : Statement → Option Edge
  | node _ => none
  | edge e => some e

end Statement

/-- What is written for a step and the id of the parent that it is attached to. -/
def statementsOf (step : Step) (parent : Option Text) : List Statement :=
  .node step :: (parent.map fun id => Statement.edge ⟨id, step.id⟩).toList

end Mermaid

namespace Graph
open Mermaid

def statements (g : Graph) : List Statement :=
  g.nodes.flatMap fun step => .node step :: ((into? g.incoming step.id).map Statement.edge).toList

theorem mermaidLines_eq (g : Graph) :
    g.mermaidLines = directive :: g.statements.map Statement.line := by
  unfold mermaidLines statements
  rw [List.map_flatMap]
  refine congrArg (directive :: ·) (List.flatMap_congr ?_)
  intro step _
  cases into? g.incoming step.id <;> rfl

theorem mermaid_eq_ofLines (g : Graph) :
    g.mermaid = Text.ofString "graph TD\n" ++ Text.ofLines (g.statements.map Statement.line) := by
  have hfirst : Text.ofLines [directive] = Text.ofString "graph TD\n" := by decide
  rw [mermaid, mermaidLines_eq, ← List.singleton_append, Text.ofLines_append, hfirst]

/-- The steps and the edges that statements tell of. -/
def ofStatements (ss : List Statement) : Graph :=
  ⟨ss.filterMap Statement.node?, ss.filterMap Statement.edge?⟩

theorem ofStatements_append_statementsOf (ss : List Statement) (step : Step)
    (parent : Option Text) :
    ofStatements (ss ++ statementsOf step parent) = (ofStatements ss).add step parent := by
  unfold ofStatements add
  rw [List.filterMap_append, List.filterMap_append]
  cases parent <;> rfl

namespace Grown

variable {g : Graph}

theorem target_ne_of_fresh (h : Grown g) {id : Text} (hfresh : ∀ known ∈ g.nodes, known.id ≠ id) :
    ∀ edge ∈ g.edges, edge.target ≠ id := by
  intro edge hedge
  obtain ⟨_, _, target, htarget, rfl⟩ := h.exists_ends hedge
  exact hfresh target htarget

/-- A step under a new id is written behind all others, and they stay as they are. -/
theorem statements_add (h : Grown g) {step : Step}
    (hfresh : ∀ known ∈ g.nodes, known.id ≠ step.id) (parent : Option Text) :
    (g.add step parent).statements = g.statements ++ statementsOf step parent := by
  have hnone : into? g.incoming step.id = none :=
    into?_incoming_eq_none (h.target_ne_of_fresh hfresh)
  have hold : ∀ known ∈ g.nodes,
      into? (g.add step parent).incoming known.id = into? g.incoming known.id := by
    intro known hknown
    cases parent with
    | none => exact into?_incoming_add_none g step known.id
    | some parent =>
        rw [into?_incoming_add_some, if_neg (Ne.symm (hfresh known hknown))]
  have hnew : into? (g.add step parent).incoming step.id =
      parent.map fun id => (⟨id, step.id⟩ : Edge) := by
    cases parent with
    | none => exact (into?_incoming_add_none g step step.id).trans hnone
    | some parent => rw [into?_incoming_add_some, if_pos rfl, Option.map_some]
  unfold statements
  rw [nodes_add, List.flatMap_append, List.flatMap_singleton, hnew]
  congr 1
  · apply List.flatMap_congr
    intro known hknown
    rw [hold known hknown]
  · cases parent <;> rfl

/-- The statements of a grown graph tell all of it. -/
theorem ofStatements_statements (h : Grown g) : ofStatements g.statements = g := by
  induction h with
  | empty => rfl
  | @add g step grown fresh _ ih =>
      rw [grown.statements_add fresh, ofStatements_append_statementsOf, ih]

end Grown

end Graph

end OutlineChart
