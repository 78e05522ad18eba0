import OutlineChart.Command.Basic
import OutlineChart.Command.Options
import OutlineChart.Settings.Scalar

/-! # Reading a command

The first argument names a command, and the rest are its options.  Nothing else may be given, and
what a command cannot do without has to be.
-/

namespace OutlineChart

namespace Command

inductive Verb where
  | generate
  | render
  | serve
  deriving DecidableEq, Repr

namespace Verb

def all : List Verb := [generate, render, serve]

def word : Verb → String
  | generate => "generate"
  | render => "render"
  | serve => "serve"

def ofString? (word : String) : Option Verb := all.find? (·.word = word)

def keys : Verb → List Key
  | generate => [.file, .text, .output]
  | render => [.file, .output]
  | serve => [.host, .port]

/-- Where to take an outline from; a file comes before a text. -/
def source? (given : Given) : Option Source :=
  match given.value? .file with
  | some path => some (.file (.ofString path))
  | none => (given.value? .text).map fun text => .text (.ofString text)

/-- A port, written as the settings have it. -/
def port? (s : String) : Option Int := (Settings.integerOfText (.ofString s)).toOption

def command? (given : Given) : Verb → Option Command
  | generate =>
      (source? given).map fun source =>
        .generate source ((given.value? .output).map Path.ofString)
  | render =>
      (given.value? .file).map fun file =>
        .render (.ofString file) (((given.value? .output).map Path.ofString).getD defaultDocument)
  | serve =>
      match given.value? .port with
      | none => some (.serve (given.value? .host) none)
      | some port => (port? port).map fun n => .serve (given.value? .host) (some n)

end Verb

/-- Every path that is given can be the path of a file: it holds no null character. -/
def Given.hasPaths (given : Given) : Bool :=
  [Key.file, Key.output].all fun key => !((given.value? key).getD "").contains '\x00'

def ofOptions? (verb : Verb) (arguments : List String) : Option Command :=
  match Given.ofArguments? verb.keys arguments with
  | none => none
  | some given => if given.loose.isEmpty && given.hasPaths then verb.command? given else none

def ofVerb? : List String → Option Command
  | [] => none
  | word :: arguments =>
      match Verb.ofString? word with
      | some verb => ofOptions? verb arguments
      | none => none

/-- Reads the arguments of a command line; two dashes may stand before the verb. -/
def ofArguments? : List String → Option Command
  | "--" :: arguments => ofVerb? arguments
  | arguments => ofVerb? arguments

end Command

end OutlineChart
