import OutlineChart.Command.Arguments
import OutlineChart.Files.Tree
import OutlineChart.Log.Threshold
import OutlineChart.Service
import OutlineChart.Text.ControlSequence
import OutlineChart.Text.Newline

/-! # Running a command

A command reads its text, works on it, and only when all of that has succeeded writes its file and
tells so.  A diagram error is told and leaves the files alone; everything else that goes wrong
breaks the command off.
-/

namespace OutlineChart

namespace Command
open Browser

inductive Crash where
  | file (error : FileError)
  /-- A text file is not in UTF-8. -/
  | undecodable
  /-- A text cannot be written in UTF-8. -/
  | unencodable
  /-- The configured log level is none. -/
  | level (misnomer : Log.Misnomer)
  | raised (error : Raised)
  deriving DecidableEq, Repr

def Crash.message : Crash → String
  | file .missing => "no such file or folder"
  | file .isFolder => "a folder is no file"
  | file .notFolder => "a file is no folder"
  | file .tooLong => "the path is too long"
  | undecodable => "the file is not in UTF-8"
  | unencodable => "the text cannot be written in UTF-8"
  | level misnomer => misnomer.message
  | raised (.failure f _) => String.ofList f.textOrName.spelled
  | raised _ => "cancelled"

inductive Ending where
  | finished (output : String)
  /-- A diagram error has been told. -/
  | failed (report : String)
  | crashed (crash : Crash)
  /-- The arguments are no command. -/
  | misused
  deriving DecidableEq, Repr

def Ending.status : Ending → Nat
  | finished _ => 0
  | failed _ => 1
  | crashed _ => 1
  | misused => 2

/-- A text as it is printed: no terminal reads along. -/
def printed (s : String) : String := String.ofList (ControlSequence.strip s.toList)

/-- A text as it is told.  Lone surrogates are spelled out, which neither makes nor breaks a control
sequence. -/
def told (t : Text) : String := printed (String.ofList t.spelled)

/-! ## Reading -/

def decode (content : Bytes) : Except Crash Text :=
  match Utf8.decode? content with
  | some cs => .ok (.ofChars (Newline.unify cs))
  | none => .error .undecodable

/-- The text that a command works on, given what reading a file gives. -/
def input (readFile : Path → Except FileError Bytes) (c : Command) : Except Crash Text :=
  match c.source with
  | .text text => .ok text
  | .file path =>
      match readFile path with
      | .ok content => decode content
      | .error e => .error (.file e)

/-! ## Working -/

/-- What is left to do when the work has succeeded: to write a file, to print, to listen. -/
structure Delivery where
  file : Option (Path × Bytes) := none
  output : String := ""
  address : Option (String × Int) := none
  deriving DecidableEq, Repr

def diagram (output : Option Path) (mermaid : Text) : Except Crash Delivery :=
  match Text.toChars? mermaid, output with
  | none, _ => .error .unencodable
  | some cs, none => .ok { output := String.ofList cs }
  | some cs, some path =>
      .ok { file := some (path, Utf8.encode cs), output := "Wrote " ++ path.toString ++ "\n" }

def document (output : Path) (d : Render.Document) : Delivery where
  file := some (output, d.content)
  output := "Wrote " ++ output.toString ++ " (" ++ toString d.size ++ " bytes)\n"

/-- The address to listen at; an empty host and the port zero stand for the configured ones. -/
def address (s : Settings) (host : Option String) (port : Option Int) : String × Int :=
  ((host.filter (· ≠ "")).getD s.host, (port.filter (· ≠ 0)).getD s.port)

def work (b : Backend) (s : Settings) (text : Text) : Command → Act (Except Crash Delivery)
  | generate _ output => do
      let mermaid ← Service.generateDiagram (some text)
      pure (diagram output mermaid)
  | render _ output => do
      let d ← Service.generatePdf b s (some text)
      pure (.ok (document output d))
  | serve host port => pure (.ok { address := some (address s host port) })

def complaint (e : DiagramError) : Command → Text
  | render .. => e.report ++ "\n"
  | _ => e.message ++ "\n"

def endingOf (c : Command) : Raised → Ending
  | .failure (.diagram e) _ => .failed (told (c.complaint e))
  | e => .crashed (.raised e)

/-! ## The whole command -/

/-- What a call of the browser leaves in the files. -/
abbrev Footprint := Call → Files → Files

/-- The files after all calls of a trace. -/
def Footprint.after (footprint : Footprint) (files : Files) (trace : List Entry) : Files :=
  trace.foldl (fun files entry =>
    match entry with
    | .called call => footprint call files
    | _ => files) files

structure Report where
  ending : Ending
  files : Files
  threshold : Nat := Log.defaultThreshold
  address : Option (String × Int) := none
  deriving DecidableEq, Repr

/-- Writes the file, if there is one, and then prints. -/
def deliver (files : Files) (d : Delivery) : Ending × Files :=
  match d.file with
  | none => (.finished (printed d.output), files)
  | some (path, content) =>
      match files.write path content with
      | .ok files => (.finished (printed d.output), files)
      | .error e => (.crashed (.file e), files)

/-- The level from which on records are shown. -/
def threshold (s : Settings) (c : Command) : Except Log.Misnomer Nat :=
  if c.showsLog then Log.threshold s.logLevel else .ok Log.defaultThreshold

def conclude (c : Command) (threshold : Nat) (files : Files) :
    Except Raised (Except Crash Delivery) → Report
  | .error e => { ending := c.endingOf e, files, threshold }
  | .ok (.error crash) => { ending := .crashed crash, files, threshold }
  | .ok (.ok delivery) =>
      let (ending, files) := deliver files delivery
      { ending, files, threshold, address := delivery.address }

/-- Runs a command on files, once the level of the log is set. -/
def runAt (threshold : Nat) (b : Backend) (s : Settings) (footprint : Footprint) (files : Files)
    (c : Command) : Act Report :=
  match c.input files.read with
  | .error crash => pure { ending := .crashed crash, files, threshold }
  | .ok text => do
      let (ended, trace) ← Act.observe (c.work b s text)
      pure (c.conclude threshold (footprint.after files trace) ended)

def run (b : Backend) (s : Settings) (footprint : Footprint) (files : Files) (c : Command) :
    Act Report :=
  match c.threshold s with
  | .ok threshold => c.runAt threshold b s footprint files
  | .error misnomer => pure { ending := .crashed (.level misnomer), files }

def runArguments (b : Backend) (s : Settings) (footprint : Footprint) (files : Files)
    (arguments : List String) : Act Report :=
  match ofArguments? arguments with
  | some c => c.run b s footprint files
  | none => pure { ending := .misused, files }

end Command

end OutlineChart
