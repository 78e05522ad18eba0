import OutlineChart.Text.Basic

/-! # Settings

Everything that can be configured, with the values that hold when nothing is.  Times are in
milliseconds.
-/

namespace OutlineChart

structure Settings where
  host : String := "0.0.0.0"
  port : Int := 5000
  logLevel : String := "INFO"
  corsOrigins : List Text := [Text.ofString "*"]
  maxBodyBytes : Int := 10 * 1024 * 1024
  mermaidScriptUrl : String :=
    "https://cdn.jsdelivr.net/npm/mermaid@10.6.1/dist/mermaid.min.js"
  browserHeadless : Bool := true
  browserArgs : List Text :=
    ["--no-sandbox", "--disable-setuid-sandbox", "--disable-dev-shm-usage"].map Text.ofString
  launchTimeoutMs : Int := 60000
  contentTimeoutMs : Int := 30000
  renderTimeoutMs : Int := 30000
  exportTimeoutMs : Int := 60000
  screenshotTimeoutMs : Int := 10000
  debugScreenshotPath : Option String := none
  pdfFormat : String := "A4"
  pdfMargin : String := "2cm"
  pdfFilename : String := "process-diagram.pdf"
  deriving DecidableEq, Repr

structure PdfOptions where
  format : String := "A4"
  /-- The width of a margin for each side that has one. -/
  margin : List (String × String) :=
    [("top", "2cm"), ("right", "2cm"), ("bottom", "2cm"), ("left", "2cm")]
  printBackground : Bool := true
  preferCssPageSize : Bool := true
  deriving DecidableEq, Repr

namespace Settings

/-- The configured paper and the same margin on every side. -/
def pdfOptions (s : Settings) : PdfOptions where
  format := s.pdfFormat
  margin := ["top", "right", "bottom", "left"].map fun side => (side, s.pdfMargin)

/-- The debug screenshot's path; an empty path asks for none. -/
def screenshotPath? (s : Settings) : Option String := s.debugScreenshotPath.filter (· ≠ "")

end Settings

end OutlineChart
