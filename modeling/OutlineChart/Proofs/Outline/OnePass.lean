import OutlineChart.Proofs.Flowchart.Additions
import OutlineChart.Proofs.Outline.Progress

/-! # Compiling in one pass

A compiler that keeps a line counter and the id of the last primary step, and writes what a line
opens as soon as it has read it.  Collecting the whole graph, entering its edges into a table and
going over its steps a second time writes the same text.
-/

namespace OutlineChart

namespace Outline

/-- All that is kept between two lines: the number of the next one and the id of the last primary
step. -/
structure Cursor where
  index : Nat
  parent : Option Text
  deriving DecidableEq, Repr

namespace Cursor

def start : Cursor := ⟨0, none⟩

def write (parent : Option Text) (id body : Text) : Text :=
  id ++ Text.ofString "[\"" ++ Label.ofText body ++ Text.ofString "\"]\n" ++
    match parent with
    | some p => p ++ Text.ofString " --> " ++ id ++ Text.ofString "\n"
    | none => []

/-- Reads one line: what is written for it, and what is kept after it. -/
def emit (c : Cursor) (line : Text) : Text × Cursor :=
  match Line.read line, c.parent with
  | .primary body, parent =>
      let id := Text.ofString "step" ++ Text.ofNat c.index
      (write parent id body, ⟨c.index + 1, some id⟩)
  | .secondary body, some parent =>
      let id := Text.ofString "sub" ++ Text.ofNat c.index
      (write (some parent) id body, ⟨c.index + 1, some parent⟩)
  | _, _ => ([], ⟨c.index + 1, c.parent⟩)

def emitAll (c : Cursor) : List Text → Text
  | [] => []
  | line :: ls => (c.emit line).1 ++ emitAll (c.emit line).2 ls

end Cursor

/-- The Mermaid text of an outline, without a graph. -/
def compileOnePass (t : Text) : Text := Text.ofString "graph TD\n" ++ Cursor.start.emitAll (lines t)

/-! ## One line -/

/-- What a parse keeps besides its graph. -/
def Progress.cursor (p : Progress) : Cursor := ⟨p.index, p.parent⟩

theorem Cursor.emit_cursor (p : Progress) (line : Text) :
    p.cursor.emit line =
      match Line.opens? p.parent.isSome line with
      | some (tier, body) =>
          (write p.parent (tier.stepId p.index) body, (p.declare tier body).cursor)
      | none => ([], p.skip.cursor) := by
  obtain ⟨index, parent, graph⟩ := p
  unfold Cursor.emit Progress.cursor Line.opens?
  cases Line.read line with
  | primary body => rfl
  | secondary body => cases parent <;> rfl
  | other => rfl

theorem ofLines_statementsOf (tier : Tier) (index : Nat) (body : Text) (parent : Option Text) :
    Text.ofLines ((Mermaid.statementsOf (Step.opened tier index body) parent).map
      Mermaid.Statement.line) = Cursor.write parent (tier.stepId index) body :=
  Graph.ofLines_statementsOf (Step.opened tier index body) parent

theorem Progress.Sound.mermaid_advance {p : Progress} (h : Sound p) (line : Text) :
    (p.advance line).graph.mermaid = p.graph.mermaid ++ (p.cursor.emit line).1 ∧
      (p.advance line).cursor = (p.cursor.emit line).2 := by
  rw [Cursor.emit_cursor]
  rcases advance_cases p line with ⟨tier, body, hopens, hnext⟩ | ⟨hpasses, hnext⟩
  · rw [hopens, hnext]
    refine ⟨?_, rfl⟩
    have hfresh : ∀ known ∈ p.graph.nodes,
        known.id ≠ (Step.opened tier p.index body).id := h.fresh tier
    have hstatements := h.grown.statements_add hfresh p.parent
    rw [Graph.mermaid, Graph.mermaid, Graph.mermaidLines_eq, Graph.mermaidLines_eq,
      Progress.declare, hstatements, List.map_append, ← List.cons_append, Text.ofLines_append,
      ofLines_statementsOf]
  · rw [hpasses, hnext]
    exact ⟨(List.append_nil _).symm, rfl⟩

/-! ## All lines -/

theorem Progress.Sound.mermaid_advanceAll {p : Progress} (h : Sound p) (ls : List Text) :
    (p.advanceAll ls).graph.mermaid = p.graph.mermaid ++ p.cursor.emitAll ls := by
  induction ls generalizing p with
  | nil => exact (List.append_nil _).symm
  | cons line ls ih =>
      obtain ⟨htext, hcursor⟩ := h.mermaid_advance line
      calc (p.advanceAll (line :: ls)).graph.mermaid
          = ((p.advance line).advanceAll ls).graph.mermaid := rfl
        _ = (p.advance line).graph.mermaid ++ (p.advance line).cursor.emitAll ls :=
            ih (h.advance line)
        _ = p.graph.mermaid ++ (p.cursor.emit line).1 ++ (p.cursor.emit line).2.emitAll ls := by
            rw [htext, hcursor]
        _ = p.graph.mermaid ++ p.cursor.emitAll (line :: ls) := List.append_assoc _ _ _

/-- Both compilers write the same text. -/
theorem toMermaid_eq_compileOnePass (t : Text) : toMermaid t = compileOnePass t := by
  have hstart : Progress.start.graph.mermaid = Text.ofString "graph TD\n" := by decide
  rw [toMermaid, parse, Progress.sound_start.mermaid_advanceAll, hstart]
  rfl

example : compileOnePass (Text.ofString "- a\n1. b\nc\n- d") =
    Text.ofString "graph TD\nstep1[\"b\"]\nsub3[\"d\"]\nstep1 --> sub3\n" := by decide

end Outline

end OutlineChart
