import OutlineChart.Flowchart.Graph

/-! # Mermaid text

A graph is written as one statement a line under a direction line: every step, and right after it
the edge that attached it.
-/

namespace OutlineChart

namespace Mermaid

/-- The first line of every diagram. -/
def directive : Text := Text.ofString "graph TD"

def nodeLine (step : Step) : Text :=
  step.id ++ Text.ofString "[\"" ++ step.label ++ Text.ofString "\"]"

def edgeLine (edge : Edge) : Text := edge.source ++ Text.ofString " --> " ++ edge.target

/-- The lines of one step, given the edge into it. -/
def stepLines (step : Step) (edge : Option Edge) : List Text :=
  nodeLine step :: (edge.map edgeLine).toList

end Mermaid

namespace Graph
open Mermaid

def mermaidLines (g : Graph) : List Text :=
  let table := g.incoming
  directive :: g.nodes.flatMap fun step => stepLines step (into? table step.id)

def mermaid (g : Graph) : Text := Text.ofLines g.mermaidLines

theorem mermaidLines_empty : empty.mermaidLines = [directive] := rfl

end Graph

end OutlineChart
