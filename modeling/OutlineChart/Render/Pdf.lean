import OutlineChart.Browser.Chromium
import OutlineChart.Render.Page

/-! # Rendering to PDF

A description is checked, an environment is launched within its deadline, and the page is opened,
loaded, awaited, perhaps photographed, and exported within its deadline.  Whatever happens after
the launch, the environment is closed; what fails in closing or photographing is only logged.
-/

namespace OutlineChart

namespace Render
open Browser

structure Document where
  content : Bytes
  filename : String
  deriving DecidableEq, Repr

def Document.size (d : Document) : Nat := d.content.length

def Document.mediaType : String := "application/pdf"

/-! ## Telling what went wrong -/

/-- Runs an act; a failure is raised again as the diagram error it amounts to. -/
def orElse {α : Type} (tell : Failure → DiagramError) (x : Act α) : Act α := do
  match ← Act.attempt x with
  | .error (.failure f _) => Act.raise (.diagramFrom f (tell f))
  | ended => Act.ofExcept ended

def stageFailure (stage : Text) (timeoutMs : Int) (message : Text) : Failure → DiagramError
  | .timeout text => .renderTimeout stage timeoutMs (some text)
  | f => .plain .render message (some f.text)

def pageFailure (f : Failure) : DiagramError :=
  .plain .launch "Could not open a page" (some f.text)

def exportFailure (f : Failure) : DiagramError :=
  .plain .exporting "PDF export failed" (some f.textOrName)

/-! ## Stages -/

def launchMessage : Text := "Could not launch rendering environment"

def launch (b : Backend) (s : Settings) : Act Unit := do
  match ← Act.attempt (Act.within s.launchTimeoutMs (b.launch s)) with
  | .error (.failure (.timeout text) _) =>
      Act.log (.launchTimedOut s.launchTimeoutMs)
      let details : Text := "Launch timed out after " ++ toString s.launchTimeoutMs ++ " ms"
      Act.raise (.diagramFrom (.timeout text) (.plain .launch launchMessage (some details)))
  | .error (.failure f _) =>
      Act.log .launchFailed
      Act.raise (.diagramFrom f (.plain .launch launchMessage (some f.text)))
  | ended => Act.ofExcept ended

/-- Takes the debug screenshot; only being cancelled matters. -/
def photograph (b : Backend) (s : Settings) (path : String) : Act Unit := do
  match ← Act.attempt (b.screenshot path s.screenshotTimeoutMs) with
  | .error (.failure ..) => Act.log (.screenshotFailed path)
  | ended => Act.ofExcept ended

/-- Everything between the launch and the closing of an environment. -/
def draw (b : Backend) (s : Settings) (html : Text) : Act Bytes := do
  orElse pageFailure b.newPage
  orElse (stageFailure "content-load" s.contentTimeoutMs "Failed to load diagram page")
    (b.loadHtml html s.contentTimeoutMs)
  orElse (stageFailure "render-completion" s.renderTimeoutMs "Diagram failed to render")
    (b.waitForDiagram s.renderTimeoutMs)
  match s.screenshotPath? with
  | some path => photograph b s path
  | none => pure ()
  orElse exportFailure (Act.within s.exportTimeoutMs (b.exportPdf s.pdfOptions))

/-- Closes an environment; only being cancelled matters. -/
def closeQuietly (b : Backend) : Act Unit := do
  match ← Act.attempt b.close with
  | .error (.failure ..) => Act.log .closeFailed
  | ended => Act.ofExcept ended

/-- Logs the diagram error that a drawing ended with. -/
def logEnd : Except Raised Bytes → Act Unit
  | .error (.failure (.diagram e) _) => Act.log (.renderFailed e)
  | _ => pure ()

/-! ## The render -/

def renderCode (b : Backend) (s : Settings) (code : Text) : Act Document := do
  launch b s
  let ended ← Act.attempt (draw b s (page s code))
  logEnd ended
  closeQuietly b
  let content ← Act.ofExcept ended
  let document : Document := ⟨content, s.pdfFilename⟩
  Act.log (.documentRendered document.size)
  pure document

def renderPdf (b : Backend) (s : Settings) (description : Option Text) : Act Document :=
  match accept description with
  | .ok code => renderCode b s code
  | .error e => Act.raise (.diagram e)

end Render

end OutlineChart
