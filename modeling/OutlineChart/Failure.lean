import OutlineChart.Text.Basic

/-! # Failures

A diagram error is what callers are told: its kind fixes the name, the status and the place in the
hierarchy.  A failure is anything that can be caught; cancellation and a deadline that has run out
are no failures and pass through whoever catches those.
-/

namespace OutlineChart

/-! ## Diagram errors -/

/-- A kind of diagram error.  There may be others than those below. -/
structure DiagramError.Kind where
  name : String
  status : Nat
  /-- The error comes from rendering. -/
  isRender : Bool
  deriving DecidableEq, Repr

namespace DiagramError.Kind

def general : Kind := ⟨"DiagramError", 500, false⟩

def emptyInput : Kind := ⟨"EmptyInputError", 400, false⟩

def invalidFormat : Kind := ⟨"InvalidDiagramFormatError", 400, false⟩

def internal : Kind := ⟨"InternalError", 500, false⟩

def render : Kind := ⟨"RenderError", 500, true⟩

def launch : Kind := ⟨"EnvironmentLaunchFailureError", 500, true⟩

def exporting : Kind := ⟨"ExportFailedError", 500, true⟩

def timeout : Kind := ⟨"RenderTimeoutError", 500, true⟩

end DiagramError.Kind

inductive DiagramError where
  | plain (kind : DiagramError.Kind) (message : Text) (details : Option Text)
  /-- A stage of a render did not end in time. -/
  | renderTimeout (stage : Text) (timeoutMs : Int) (details : Option Text)
  deriving DecidableEq, Repr

namespace DiagramError

def kind : DiagramError → Kind
  | plain kind .. => kind
  | renderTimeout .. => .timeout

def message : DiagramError → Text
  | plain _ message _ => message
  | renderTimeout stage timeoutMs _ =>
      "Timed out after " ++ toString timeoutMs ++ " ms waiting for " ++ stage

def details : DiagramError → Option Text
  | plain _ _ details => details
  | renderTimeout _ _ details => details

/-- The stage that ran out of time, if that is what happened. -/
def stage? : DiagramError → Option Text
  | plain .. => none
  | renderTimeout stage .. => some stage

def name (e : DiagramError) : String := e.kind.name

def status (e : DiagramError) : Nat := e.kind.status

def isRender (e : DiagramError) : Bool := e.kind.isRender

/-- The names of an error and of the kinds that include it, the narrowest first. -/
def lineage (e : DiagramError) : List String :=
  [e.name] ++ (if e.isRender && e.name ≠ "RenderError" then ["RenderError"] else []) ++
    (if e.name ≠ "DiagramError" then ["DiagramError"] else [])

/-- Details that say something; empty details say nothing. -/
def remark? (e : DiagramError) : Option Text := e.details.filter (· ≠ [])

/-- The message, and after a colon the details if they say something. -/
def report (e : DiagramError) : Text :=
  match e.remark? with
  | some remark => e.message ++ ": " ++ remark
  | none => e.message

end DiagramError

/-! ## Failures -/

inductive Failure where
  /-- A failure whose kind is of no further interest. -/
  | ordinary (name : String) (text : Text)
  /-- A deadline passed. -/
  | timeout (text : Text)
  /-- The browser driver's own deadline passed, which is not the same thing. -/
  | driverTimeout (text : Text)
  | driver (text : Text)
  /-- A number of milliseconds that is no number of seconds. -/
  | overflow
  | diagram (error : DiagramError)
  deriving DecidableEq, Repr

namespace Failure

def text : Failure → Text
  | ordinary _ text => text
  | timeout text => text
  | driverTimeout text => text
  | driver text => text
  | overflow => "integer division result too large for a float"
  | diagram error => error.message

def name : Failure → String
  | ordinary name _ => name
  | timeout _ => "TimeoutError"
  | driverTimeout _ => "TimeoutError"
  | driver _ => "Error"
  | overflow => "OverflowError"
  | diagram error => error.name

/-- The text, or the name of a failure that has none. -/
def textOrName (f : Failure) : Text := if f.text = [] then f.name else f.text

end Failure

/-! ## What work can end with instead of a result -/

inductive Raised where
  /-- A failure, and the failure it was raised from. -/
  | failure (error : Failure) (cause : Option Failure)
  | cancelled
  /-- Cancelled by a deadline that has run out. -/
  | expired
  deriving DecidableEq, Repr

namespace Raised

/-- A diagram error that is not due to another failure. -/
def diagram (error : DiagramError) : Raised := .failure (.diagram error) none

/-- A diagram error raised from a failure. -/
def diagramFrom (cause : Failure) (error : DiagramError) : Raised :=
  .failure (.diagram error) (some cause)

/-- What remains when `later` is raised while `earlier` is passing: the later one, but a
cancellation does not call off the deadline that is due. -/
def supersede : Raised → Raised → Raised
  | .expired, .cancelled => .expired
  | _, later => later

end Raised

end OutlineChart
