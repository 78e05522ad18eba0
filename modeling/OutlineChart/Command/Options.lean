/-! # Options

An option is written as a word after two dashes or as a letter after one.  Its value is attached to
the word by an equals sign or directly to the letter, or else it is the next argument, whatever
that looks like.  Two dashes alone end the options.
-/

namespace OutlineChart

namespace Command

inductive Key where
  | file
  | text
  | output
  | host
  | port
  deriving DecidableEq, Repr

def Key.word : Key → String
  | file => "file"
  | text => "text"
  | output => "output"
  | host => "host"
  | port => "port"

def Key.letter? : Key → Option Char
  | file => some 'f'
  | text => some 't'
  | output => some 'o'
  | _ => none

/-- How an argument reads where an option may stand. -/
inductive Token where
  | option (key : Key) (attached : Option String)
  | unknown
  /-- No option follows. -/
  | stop
  /-- An argument that belongs to no option. -/
  | loose
  deriving DecidableEq, Repr

namespace Token

/-- An option by its word, with the value after the equals sign if there is one. -/
def ofWord (keys : List Key) (cs : List Char) : Token :=
  let word := String.ofList (cs.takeWhile (· ≠ '='))
  match keys.find? (·.word = word), cs.dropWhile (· ≠ '=') with
  | some key, _ :: value => option key (some (String.ofList value))
  | some key, [] => option key none
  | none, _ => unknown

/-- An option by its letter, with the value after it if there is one. -/
def ofLetter (keys : List Key) (letter : Char) (cs : List Char) : Token :=
  match keys.find? (·.letter? = some letter) with
  | some key => option key (if cs.isEmpty then none else some (String.ofList cs))
  | none => unknown

def ofString (keys : List Key) (argument : String) : Token :=
  match argument.toList with
  | ['-', '-'] => stop
  | '-' :: '-' :: word => ofWord keys word
  | '-' :: letter :: rest => ofLetter keys letter rest
  | _ => loose

end Token

/-- Values by their keys in the order given, and the arguments that belong to no option. -/
structure Given where
  values : List (Key × String) := []
  loose : List String := []
  deriving DecidableEq, Repr

namespace Given

/-- Reads arguments; nothing if an option is unknown or lacks its value. -/
def ofArguments? (keys : List Key) : List String → Option Given
  | [] => some {}
  | argument :: arguments =>
      match Token.ofString keys argument with
      | .stop => some { loose := arguments }
      | .unknown => none
      | .loose =>
          (ofArguments? keys arguments).map fun given =>
            { given with loose := argument :: given.loose }
      | .option key (some value) =>
          (ofArguments? keys arguments).map fun given =>
            { given with values := (key, value) :: given.values }
      | .option key none =>
          match arguments with
          | [] => none
          | value :: arguments =>
              (ofArguments? keys arguments).map fun given =>
                { given with values := (key, value) :: given.values }

/-- The value of a key, the last one if it is given more than once. -/
def value? (given : Given) (key : Key) : Option String := given.values.reverse.lookup key

end Given

end Command

end OutlineChart
