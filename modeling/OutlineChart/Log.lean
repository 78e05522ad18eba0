import OutlineChart.Failure
import OutlineChart.Json.Value

/-! # Log records

What is logged, as events.  Level, message, the mark of a failure's trace and the extra fields all
follow from the event.
-/

namespace OutlineChart

namespace Log

inductive Level where
  | debug
  | info
  | warning
  | error
  deriving DecidableEq, Repr

def Level.name : Level → String
  | .debug => "DEBUG"
  | .info => "INFO"
  | .warning => "WARNING"
  | .error => "ERROR"

inductive Record where
  | codeReceived (code : Text)
  | compilationFailed
  | launchTimedOut (timeoutMs : Int)
  | launchFailed
  | browserLaunched (args : List Text)
  | screenshotFailed (path : String)
  | renderFailed (error : DiagramError)
  | closeFailed
  | documentRendered (bytes : Nat)
  | diagramRequestFailed
  | pdfRequestFailed
  deriving DecidableEq, Repr

namespace Record

def level : Record → Level
  | codeReceived _ => .info
  | compilationFailed => .error
  | launchTimedOut _ => .error
  | launchFailed => .error
  | browserLaunched _ => .debug
  | screenshotFailed _ => .warning
  | renderFailed _ => .error
  | closeFailed => .warning
  | documentRendered _ => .info
  | diagramRequestFailed => .error
  | pdfRequestFailed => .error

def message : Record → Text
  | codeReceived code => "Received Mermaid code: " ++ code
  | compilationFailed => "Outline compilation failed"
  | launchTimedOut _ => "Rendering environment did not start"
  | launchFailed => "Rendering environment failed to launch"
  | browserLaunched _ => "Launched Chromium"
  | screenshotFailed _ => "Debug screenshot failed"
  | renderFailed error => "Diagram rendering failed: " ++ error.message
  | closeFailed => "Failed to close rendering environment"
  | documentRendered _ => "Rendered diagram PDF"
  | diagramRequestFailed => "Unexpected error while generating diagram"
  | pdfRequestFailed => "PDF generation error"

def hasTrace : Record → Bool
  | compilationFailed => true
  | launchFailed => true
  | screenshotFailed _ => true
  | closeFailed => true
  | diagramRequestFailed => true
  | pdfRequestFailed => true
  | _ => false

def orNull (t : Option Text) : Json.Value := (t.map Json.Value.string).getD .null

def extra : Record → List (String × Json.Value)
  | launchTimedOut timeoutMs => [("timeout_ms", .ofInt timeoutMs)]
  | browserLaunched args => [("browser_args", .array (args.map .string))]
  | screenshotFailed path => [("path", .ofString path)]
  | renderFailed error => [("stage", orNull error.stage?), ("details", orNull error.details)]
  | documentRendered bytes => [("bytes", .ofNat bytes)]
  | _ => []

end Record

end Log

end OutlineChart
