import OutlineChart.Browser.Backend

/-! # Chromium

A Chromium environment is a driver and a browser process that live and end together.  A launch
that fails half way stops the driver it started, closing releases both whatever fails, and an
environment that was closed opens no page and is not closed again.
-/

namespace OutlineChart

namespace Browser

namespace Chromium

/-- Both handles are held, or both have been let go. -/
inductive Environment where
  | opened
  | closed
  deriving DecidableEq, Repr

/-! ## Pages -/

/-- A page answers in time or times out; the driver's own timeout counts as the latter. -/
def timed (x : Act Unit) : Act Unit := do
  match ← Act.attempt x with
  | .error (.failure (.driverTimeout text) _) =>
      Act.raise (.failure (.timeout text) (some (.driverTimeout text)))
  | ended => Act.ofExcept ended

def loadHtml (html : Text) (timeoutMs : Int) : Act Unit :=
  timed (.call (.setContent html timeoutMs))

def waitForDiagram (timeoutMs : Int) : Act Unit := timed (.call (.waitForFunction timeoutMs))

def screenshot (path : String) (timeoutMs : Int) : Act Unit :=
  timed (.call (.capturePage path timeoutMs))

/-- A PDF export has no deadline of the driver's. -/
def exportPdf (pdf : Bytes) (options : PdfOptions) : Act Bytes := do
  .call (.printPage options)
  pure pdf

/-! ## Environments -/

/-- Starts the driver and the browser; a driver without a browser is stopped. -/
def launch (s : Settings) : Act Environment := do
  .call .startDriver
  let chromium := Call.launchChromium s.browserHeadless s.browserArgs s.launchTimeoutMs
  match ← Act.attempt (.call chromium) with
  | .ok () =>
      Act.log (.browserLaunched s.browserArgs)
      pure .opened
  | .error failed =>
      match ← Act.attempt (.call .stopDriver) with
      | .ok () => Act.raise failed
      | .error later => Act.raise (failed.supersede later)

namespace Environment

def newPage : Environment → Act Unit
  | opened => .call .openPage
  | closed => Act.raise (.failure (.ordinary "RuntimeError" "Browser already closed") none)

/-- Lets both handles go; the environment is closed afterwards, also if this fails. -/
def close : Environment → Act Unit
  | closed => pure ()
  | opened => do
      let browser ← Act.attempt (.call .closeBrowser)
      let driver ← Act.attempt (.call .stopDriver)
      match browser, driver with
      | .error earlier, .error later => Act.raise (earlier.supersede later)
      | .ok (), .error later => Act.raise later
      | ended, .ok () => Act.ofExcept ended

end Environment

end Chromium

/-- Rendering with Chromium; each render has an environment of its own. -/
def Backend.chromium (pdf : Bytes) : Backend where
  launch s := do
    let _ ← Chromium.launch s
    pure ()
  newPage := Chromium.Environment.opened.newPage
  loadHtml := Chromium.loadHtml
  waitForDiagram := Chromium.waitForDiagram
  screenshot := Chromium.screenshot
  exportPdf := Chromium.exportPdf pdf
  close := Chromium.Environment.opened.close

end Browser

end OutlineChart
