import OutlineChart.Failure
import OutlineChart.Settings.Basic

/-! # Browser calls

The calls that rendering makes to an environment, and those that the Chromium environment makes to
its driver.  The oracle holds, for each name, the outcomes of the calls to come.
-/

namespace OutlineChart

namespace Browser

inductive CallName where
  | launch
  | newPage
  | loadHtml
  | waitForDiagram
  | screenshot
  | exportPdf
  | close
  | startDriver
  | launchChromium
  | openPage
  | setContent
  | waitForFunction
  | capturePage
  | printPage
  | closeBrowser
  | stopDriver
  deriving DecidableEq, Repr

inductive Call where
  | launch
  | newPage
  | loadHtml (html : Text) (timeoutMs : Int)
  | waitForDiagram (timeoutMs : Int)
  | screenshot (path : String) (timeoutMs : Int)
  | exportPdf (options : PdfOptions)
  | close
  | startDriver
  | launchChromium (headless : Bool) (args : List Text) (timeoutMs : Int)
  | openPage
  | setContent (html : Text) (timeoutMs : Int)
  | waitForFunction (timeoutMs : Int)
  | capturePage (path : String) (timeoutMs : Int)
  | printPage (options : PdfOptions)
  | closeBrowser
  | stopDriver
  deriving DecidableEq, Repr

def Call.name : Call → CallName
  | launch => .launch
  | newPage => .newPage
  | loadHtml .. => .loadHtml
  | waitForDiagram _ => .waitForDiagram
  | screenshot .. => .screenshot
  | exportPdf _ => .exportPdf
  | close => .close
  | startDriver => .startDriver
  | launchChromium .. => .launchChromium
  | openPage => .openPage
  | setContent .. => .setContent
  | waitForFunction _ => .waitForFunction
  | capturePage .. => .capturePage
  | printPage _ => .printPage
  | closeBrowser => .closeBrowser
  | stopDriver => .stopDriver

inductive Outcome where
  | success
  | fail (error : Failure)
  /-- The caller is cancelled during the call. -/
  | cancel
  /-- The call never ends by itself. -/
  | hang
  deriving DecidableEq, Repr

/-! ## Oracles -/

/-- The outcome of the first, second, … call to come of each name. -/
abbrev Oracle := CallName → Nat → Outcome

namespace Oracle

def calm : Oracle := fun _ _ => .success

/-- What is left when some calls of each name are made. -/
def advance (o : Oracle) (made : CallName → Nat) : Oracle := fun name k => o name (k + made name)

def afterCall (o : Oracle) (name : CallName) : Oracle :=
  o.advance fun other => if other = name then 1 else 0

theorem advance_zero (o : Oracle) : o.advance (fun _ => 0) = o := rfl

theorem advance_advance (o : Oracle) (first second : CallName → Nat) :
    (o.advance first).advance second = o.advance fun name => first name + second name := by
  funext name k
  show o name (k + second name + first name) = o name (k + (first name + second name))
  rw [Nat.add_assoc, Nat.add_comm (second name)]

end Oracle

end Browser

end OutlineChart
