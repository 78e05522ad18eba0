import OutlineChart.Browser.Chromium

/-! # A Chromium environment in use

One environment and one page at hand, driven step by step.  A launch replaces the environment, a
new page replaces the page, and a step that fails leaves both as they are, except that closing
always ends in a closed environment.
-/

namespace OutlineChart

namespace Browser

namespace Chromium

inductive Step where
  | launch
  | newPage
  | loadHtml (html : Text) (timeoutMs : Int)
  | wait (timeoutMs : Int)
  | screenshot (path : String) (timeoutMs : Int)
  | exportPdf (options : PdfOptions)
  | close
  deriving DecidableEq, Repr

/-- What is at hand between two steps. -/
structure Desk where
  environment : Option Environment := none
  hasPage : Bool := false
  deriving DecidableEq, Repr

inductive Reply where
  | done
  | exported (content : Bytes)
  /-- The step needs an environment and there has been none. -/
  | noEnvironment
  /-- The step needs a page and there has been none. -/
  | noPage
  deriving DecidableEq, Repr

namespace Desk

def onPage (desk : Desk) (work : Act Reply) : Act Reply :=
  if desk.hasPage then work else pure .noPage

def reply (x : Act Unit) : Act Reply := do
  x
  pure .done

def perform (s : Settings) (pdf : Bytes) (desk : Desk) : Step → Act Reply
  | .launch => do
      let _ ← Chromium.launch s
      pure .done
  | .newPage =>
      match desk.environment with
      | some environment => reply environment.newPage
      | none => pure .noEnvironment
  | .loadHtml html timeoutMs => desk.onPage (reply (Chromium.loadHtml html timeoutMs))
  | .wait timeoutMs => desk.onPage (reply (Chromium.waitForDiagram timeoutMs))
  | .screenshot path timeoutMs => desk.onPage (reply (Chromium.screenshot path timeoutMs))
  | .exportPdf options =>
      desk.onPage do
        let content ← Chromium.exportPdf pdf options
        pure (.exported content)
  | .close =>
      match desk.environment with
      | some environment => reply environment.close
      | none => pure .noEnvironment

def after (desk : Desk) : Step → Except Raised Reply → Desk
  | .launch, .ok _ => { desk with environment := some .opened }
  | .newPage, .ok .done => { desk with hasPage := true }
  | .close, _ => { desk with environment := desk.environment.map fun _ => .closed }
  | _, _ => desk

def runs (s : Settings) (pdf : Bytes) : Desk → Oracle → List Step → List (Run Reply)
  | _, _, [] => []
  | desk, o, step :: steps =>
      let run := desk.perform s pdf step o
      run :: runs s pdf (desk.after step run.result) run.rest steps

end Desk

end Chromium

end Browser

end OutlineChart
