import OutlineChart.Proofs.Command.Ends
import OutlineChart.Proofs.Files.Written
import OutlineChart.Proofs.Http.FailureAnswer
import OutlineChart.Proofs.Http.PdfAnswer
import OutlineChart.Proofs.Outline.NoInjection
import OutlineChart.Proofs.Render.Told

/-! # Files that commands leave behind

A command writes its file last, in one piece, so that whatever goes wrong before that leaves all
files as the browser has left them, and that is as they were unless a screenshot was asked for.  What
a failed render then tells is what a request with the same text is answered with, but for what would
steer a terminal.
-/

namespace OutlineChart

open Browser Render

namespace Command
open Http (rendering)

variable {b : Backend} {s : Settings} {footprint : Footprint} {files left : Files} {c : Command}
  {o : Oracle} {t : Text} {path : Path}

/-! ## What the browser leaves -/

section

variable {report : Report} {threshold : Nat}

end

/-! ## What is told -/

end Command

end OutlineChart
