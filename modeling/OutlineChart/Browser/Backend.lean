import OutlineChart.Browser.Act
import OutlineChart.Text.Utf8

/-! # Rendering environments

Rendering is written against a backend: an environment is launched, opens a page, and is closed.
The plain backend answers every request with one call of the same name.
-/

namespace OutlineChart

namespace Browser

/-- What rendering asks of a browser. -/
structure Backend where
  launch : Settings → Act Unit
  newPage : Act Unit
  loadHtml : Text → Int → Act Unit
  waitForDiagram : Int → Act Unit
  screenshot : String → Int → Act Unit
  exportPdf : PdfOptions → Act Bytes
  close : Act Unit

/-- One call for each request; an export that succeeds gives `pdf`. -/
def Backend.plain (pdf : Bytes) : Backend where
  launch _ := .call .launch
  newPage := .call .newPage
  loadHtml html timeoutMs := .call (.loadHtml html timeoutMs)
  waitForDiagram timeoutMs := .call (.waitForDiagram timeoutMs)
  screenshot path timeoutMs := .call (.screenshot path timeoutMs)
  exportPdf options := do
    .call (.exportPdf options)
    pure pdf
  close := .call .close

end Browser

end OutlineChart
