import OutlineChart.Command.Run
import OutlineChart.Settings.Load

/-! # The program

Loads the settings from the environment and from an environment file, and runs one command on the
file system.  No browser and no network are at hand, so that a launch fails and listening is
refused.
-/

namespace OutlineChart

namespace Program
open Browser

/-- The variables of the environment that have the name of a field. -/
def environment : IO (List (String × String)) :=
  (Settings.fields.flatMap fun field => [field.name, field.name.toUpper]).filterMapM fun name => do
    return (← IO.getEnv name).map fun value => (name, value)

def fileError : IO.Error → FileError
  | .inappropriateType .. => .isFolder
  | _ => .missing

def readFile (path : Path) : IO (Except FileError Bytes) := do
  try
    return .ok (← IO.FS.readBinFile path.toString).toList
  catch e =>
    return .error (fileError e)

def writeFile (path : Path) (content : Bytes) : IO (Except FileError Unit) := do
  try
    IO.FS.writeBinFile path.toString ⟨content.toArray⟩
    return .ok ()
  catch e =>
    return .error (fileError e)

def environmentFile : IO (Option (List Char)) := do
  match ← readFile (.ofString ".env") with
  | .ok content => return some (Newline.unify (Utf8.decode content))
  | .error _ => return none

/-- No driver starts. -/
def noBrowser : Oracle
  | .startDriver, _ => .fail (.driver "no browser is available")
  | _, _ => .success

def showLog (threshold : Nat) (records : List Log.Record) : IO Unit :=
  (records.filter fun record => threshold ≤ record.level.number).forM fun record =>
    let message := String.ofList record.message.spelled
    IO.eprintln (record.level.name ++ " - " ++ message)

def deliver (d : Command.Delivery) : IO Command.Ending := do
  if let some (path, content) := d.file then
    if let .error e ← writeFile path content then
      return .crashed (.file e)
  if let some (host, port) := d.address then
    IO.eprintln ("cannot listen at " ++ host ++ ":" ++ toString port)
  return .finished (Command.printed d.output)

/-- Runs a command, once the level of the log is set. -/
def performAt (threshold : Nat) (s : Settings) (c : Command) : IO Command.Ending := do
  let read ← match c.source with
    | .file path => readFile path
    | .text _ => pure (.error .missing)
  match c.input fun _ => read with
  | .error crash => return .crashed crash
  | .ok text =>
      let run := c.work (.chromium []) s text noBrowser
      showLog threshold run.logs
      match run.result with
      | .error e => return c.endingOf e
      | .ok (.error crash) => return .crashed crash
      | .ok (.ok delivery) => deliver delivery

def perform (s : Settings) (c : Command) : IO Command.Ending :=
  match c.threshold s with
  | .ok threshold => performAt threshold s c
  | .error misnomer => return .crashed (.level misnomer)

def tell (ending : Command.Ending) : IO UInt32 := do
  match ending with
  | .finished output => IO.print output
  | .failed report => IO.eprint report
  | .crashed crash => IO.eprintln crash.message
  | .misused =>
      IO.eprintln "usage: generate (--file FILE | --text TEXT) [--output FILE]"
      IO.eprintln "       render --file FILE [--output FILE]"
      IO.eprintln "       serve [--host HOST] [--port PORT]"
  return .ofNat ending.status

def reportIssue (issue : Settings.Issue) : IO Unit :=
  IO.eprintln (String.intercalate "." issue.place ++ ": " ++ issue.flaw.name)

def reportLoadError : Settings.LoadError → IO Unit
  | .invalid issues => issues.forM reportIssue
  | e => IO.eprintln e.message

end Program

end OutlineChart

open OutlineChart in
def main (arguments : List String) : IO UInt32 := do
  let sources : Settings.Sources :=
    { environment := ← Program.environment, file := ← Program.environmentFile }
  match Settings.load sources with
  | .error e =>
      Program.reportLoadError e
      return 1
  | .ok s =>
      match Command.ofArguments? arguments with
      | some c => Program.tell (← Program.perform s c)
      | none => Program.tell .misused
