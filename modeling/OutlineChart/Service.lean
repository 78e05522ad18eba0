import OutlineChart.Outline.Parse
import OutlineChart.Render.Pdf

/-! # Services

The two things that the command line and the HTTP interface offer: compiling an outline into
Mermaid text and rendering Mermaid text to PDF.
-/

namespace OutlineChart

namespace Service
open Browser

def emptyInput : DiagramError := .plain .emptyInput "Empty input received" none

def compilationError (f : Failure) : DiagramError :=
  .plain .internal ("Diagram error: " ++ f.text) (some f.text)

/-- Compiles an outline with a given compiler; blank input is refused before that. -/
def generateDiagramWith (compile : Text → Act Text) (outline : Option Text) : Act Text :=
  let text := outline.getD []
  if text.isBlank then Act.raise (.diagram emptyInput)
  else do
    match ← Act.attempt (compile text) with
    | .error (.failure f _) =>
        Act.log .compilationFailed
        Act.raise (.diagramFrom f (compilationError f))
    | ended => Act.ofExcept ended

/-- The compiler, which cannot fail. -/
def compile (outline : Text) : Act Text := pure (Outline.toMermaid outline)

def generateDiagram (outline : Option Text) : Act Text := generateDiagramWith compile outline

/-- Renders Mermaid text; what was received is logged without the whitespace around it. -/
def generatePdf (b : Backend) (s : Settings) (code : Option Text) : Act Render.Document := do
  let stripped := (code.getD []).strip
  Act.log (.codeReceived stripped)
  Render.renderPdf b s (some stripped)

end Service

end OutlineChart
