import OutlineChart.Outline.Line
import OutlineChart.Flowchart.Mermaid

/-! # Parsing outlines

Lines are numbered after the blank ones are gone, and a line that opens no step still takes a
number.  Primary steps are chained; a secondary step hangs off the primary step before it and is
dropped when there is none.
-/

namespace OutlineChart

/-- The id of a step that stands on a given line. -/
def Tier.stepId : Tier → Nat → Text
  | .primary, index => Text.ofString "step" ++ Text.ofNat index
  | .secondary, index => Text.ofString "sub" ++ Text.ofNat index

namespace Outline

/-- Where a parse stands between two lines. -/
structure Progress where
  /-- The number of the next line. -/
  index : Nat
  /-- The id of the last primary step. -/
  parent : Option Text
  graph : Graph
  deriving DecidableEq, Repr

namespace Progress

def start : Progress := ⟨0, none, .empty⟩

def advance (p : Progress) (line : Text) : Progress :=
  match Line.read line with
  | .primary body =>
      let id := Tier.primary.stepId p.index
      ⟨p.index + 1, some id, p.graph.add ⟨id, .primary, Label.ofText body⟩ p.parent⟩
  | .secondary body =>
      match p.parent with
      | none => ⟨p.index + 1, none, p.graph⟩
      | some parent =>
          let step := ⟨Tier.secondary.stepId p.index, .secondary, Label.ofText body⟩
          ⟨p.index + 1, some parent, p.graph.add step (some parent)⟩
  | .other => ⟨p.index + 1, p.parent, p.graph⟩

def advanceAll (p : Progress) (ls : List Text) : Progress := ls.foldl advance p

@[simp] theorem advanceAll_nil (p : Progress) : p.advanceAll [] = p := rfl

theorem advanceAll_append (p : Progress) (ls ms : List Text) :
    p.advanceAll (ls ++ ms) = (p.advanceAll ls).advanceAll ms := List.foldl_append ..

theorem index_advance (p : Progress) (line : Text) : (p.advance line).index = p.index + 1 := by
  unfold advance
  split
  · rfl
  · split <;> rfl
  · rfl

end Progress

def parse (t : Text) : Graph := (Progress.start.advanceAll (lines t)).graph

def toMermaid (t : Text) : Text := (parse t).mermaid

end Outline

end OutlineChart
