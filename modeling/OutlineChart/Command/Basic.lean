import OutlineChart.Files.Path
import OutlineChart.Text.Basic

/-! # Commands

What can be asked for on the command line.
-/

namespace OutlineChart

/-- Where a command takes the text it works on from. -/
inductive Source where
  | file (path : Path)
  | text (text : Text)
  deriving DecidableEq, Repr

inductive Command where
  /-- Compile an outline, and print the diagram or write it to a file. -/
  | generate (source : Source) (output : Option Path)
  /-- Render a diagram into a file. -/
  | render (file output : Path)
  /-- Answer HTTP requests, where it is configured or here. -/
  | serve (host : Option String) (port : Option Int)
  deriving DecidableEq, Repr

namespace Command

/-- A service works on no text. -/
def source : Command → Source
  | generate source _ => source
  | render file _ => .file file
  | serve .. => .text []

def showsLog : Command → Bool
  | generate .. => false
  | render .. => true
  | serve .. => true

/-- Where a rendered document goes if nothing else is said. -/
def defaultDocument : Path := .ofString "process-diagram.pdf"

end Command

end OutlineChart
