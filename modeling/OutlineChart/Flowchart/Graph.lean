import OutlineChart.Text.Basic
import OutlineChart.Text.Quoted

/-! # Flowchart graphs

Steps in the order in which they were added, and the edges that attach them to a parent.  A step's
incoming edge is looked up by its id; of several edges into one id the last one counts.
-/

namespace OutlineChart

inductive Tier where
  | primary
  | secondary
  deriving DecidableEq, Repr

/-- One box of a flowchart. -/
structure Step where
  id : Text
  tier : Tier
  label : Text
  deriving DecidableEq, Repr

structure Edge where
  source : Text
  target : Text
  deriving DecidableEq, Repr

structure Graph where
  nodes : List Step
  edges : List Edge
  deriving DecidableEq, Repr

namespace Tier

def name : Tier → String
  | primary => "primary"
  | secondary => "secondary"

def ofName? (name : String) : Option Tier :=
  if name = "primary" then some primary else if name = "secondary" then some secondary else none

theorem ofName?_name (tier : Tier) : ofName? tier.name = some tier := by cases tier <;> rfl

/-- What is said of a name that is no tier's. -/
def unknownMessage (name : String) : String := Quoted.ofString name ++ " is not a valid StepTier"

end Tier

namespace Graph

def empty : Graph := ⟨[], []⟩

/-- Adds a step, and the edge from its parent if it has one. -/
def add (g : Graph) (step : Step) (parent : Option Text) : Graph where
  nodes := g.nodes ++ [step]
  edges := g.edges ++ (parent.map (Edge.mk · step.id)).toList

@[simp] theorem nodes_add (g : Graph) (step : Step) (parent : Option Text) :
    (g.add step parent).nodes = g.nodes ++ [step] := rfl

@[simp] theorem edges_add_none (g : Graph) (step : Step) : (g.add step none).edges = g.edges :=
  List.append_nil _

@[simp] theorem edges_add_some (g : Graph) (step : Step) (parent : Text) :
    (g.add step (some parent)).edges = g.edges ++ [⟨parent, step.id⟩] := rfl

def ofTier (g : Graph) (tier : Tier) : List Step := g.nodes.filter fun step => step.tier = tier

/-! ## Incoming edges -/

/-- Puts an edge into a table by target: a known target keeps its place. -/
def enter (table : List Edge) (edge : Edge) : List Edge :=
  if table.any fun known => known.target = edge.target then
    table.map fun known => if known.target = edge.target then edge else known
  else table ++ [edge]

/-- One edge for each target, the last one added for it. -/
def incoming (g : Graph) : List Edge := g.edges.foldl enter []

/-- The entry of a table for one target. -/
def into? (table : List Edge) (target : Text) : Option Edge :=
  table.find? fun edge => edge.target = target

end Graph

end OutlineChart
