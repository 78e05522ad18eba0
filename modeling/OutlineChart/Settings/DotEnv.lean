import OutlineChart.Text.Basic

/-! # Environment files

A file of assignments `NAME=value`, one a line.  A value may be quoted, and then span lines; a
comment begins with a number sign; what is no assignment is skipped to the end of its line.
References to variables in braces are replaced by what was assigned before or, failing that, by the
environment.
-/

namespace OutlineChart

namespace Settings

namespace DotEnv

/-- An assignment; a name without an equals sign has no value. -/
abbrev Binding := String × Option String

def isBlank (c : Char) : Bool := CodePoint.isBlank (.char c)

/-- Whitespace within a line. -/
def isInlineBlank (c : Char) : Bool := isBlank c && c ≠ '\r' && c ≠ '\n'

def isLineEnd (c : Char) : Bool := c = '\r' || c = '\n'

def skipInline (cs : List Char) : List Char := cs.dropWhile isInlineBlank

/-! ## Values -/

/-- The content of a quoted value and what follows its closing quote.  A backslash takes the next
character along, so that a quote after it closes nothing. -/
def quoted? (quote : Char) : List Char → Option (List Char × List Char)
  | [] => none
  | '\\' :: c :: cs =>
      (quoted? quote cs).map fun (content, rest) => ('\\' :: c :: content, rest)
  | c :: cs =>
      if c = quote then some ([], cs)
      else (quoted? quote cs).map fun (content, rest) => (c :: content, rest)

def singleEscape? : Char → Option Char
  | '\\' => some '\\'
  | '\'' => some '\''
  | _ => none

def doubleEscape? : Char → Option Char
  | '\\' => some '\\'
  | '\'' => some '\''
  | '"' => some '"'
  | 'a' => some '\x07'
  | 'b' => some '\x08'
  | 'f' => some '\x0c'
  | 'n' => some '\n'
  | 'r' => some '\r'
  | 't' => some '\t'
  | 'v' => some '\x0b'
  | _ => none

/-- Resolves escapes; a backslash before anything else stands for itself. -/
def unescape (escape? : Char → Option Char) : List Char → List Char
  | [] => []
  | '\\' :: c :: cs =>
      match escape? c with
      | some d => d :: unescape escape? cs
      | none => '\\' :: unescape escape? (c :: cs)
  | c :: cs => c :: unescape escape? cs

/-- The line up to a number sign that follows whitespace; the flag says that whitespace has just
been read. -/
def dropComment : Bool → List Char → List Char
  | _, [] => []
  | blank, c :: cs => if c = '#' && blank then [] else c :: dropComment (isBlank c) cs

def trimEnd (cs : List Char) : List Char := (cs.reverse.dropWhile isBlank).reverse

/-- A value, and what follows it; the flag says that whitespace stands before it. -/
def value? (blank : Bool) : List Char → Option (List Char × List Char)
  | '\'' :: cs =>
      (quoted? '\'' cs).map fun (content, rest) => (unescape singleEscape? content, rest)
  | '"' :: cs =>
      (quoted? '"' cs).map fun (content, rest) => (unescape doubleEscape? content, rest)
  | cs =>
      some (trimEnd (dropComment blank (cs.takeWhile fun c => !isLineEnd c)),
        cs.dropWhile fun c => !isLineEnd c)

/-! ## Names -/

/-- The word that may stand before a name, with whitespace after it. -/
def skipExport (cs : List Char) : List Char :=
  if "export".toList.isPrefixOf cs then
    let rest := cs.drop 6
    if (rest.takeWhile isInlineBlank).isEmpty then cs else skipInline rest
  else cs

def name? : List Char → Option (List Char × List Char)
  | '\'' :: cs =>
      match cs.takeWhile (· ≠ '\''), cs.dropWhile (· ≠ '\'') with
      | c :: name, _ :: rest => some (c :: name, rest)
      | _, _ => none
  | cs =>
      let isName (c : Char) : Bool := c ≠ '=' && c ≠ '#' && !isBlank c
      match cs.takeWhile isName with
      | [] => none
      | name => some (name, cs.dropWhile isName)

/-! ## Lines -/

/-- What follows the end of the line, if nothing but a comment stands before it. -/
def lineEnd? (cs : List Char) : Option (List Char) :=
  let cs := match skipInline cs with
    | '#' :: comment => comment.dropWhile fun c => !isLineEnd c
    | _ => cs
  match skipInline cs with
  | [] => some []
  | '\r' :: '\n' :: rest => some rest
  | c :: rest => if isLineEnd c then some rest else none

def skipLine (cs : List Char) : List Char := (cs.dropWhile fun c => !isLineEnd c).drop 1

/-- One assignment, comment or faulty line, and what follows it. -/
def binding (cs : List Char) : Option Binding × List Char :=
  match skipExport (cs.dropWhile isBlank) with
  | [] => (none, [])
  | '#' :: comment => (none, skipLine comment)
  | cs =>
      match name? cs with
      | none => (none, skipLine cs)
      | some (name, rest) =>
          let found := match skipInline rest with
            | '=' :: rest =>
                let after := skipInline rest
                match value? (rest.head?.any isInlineBlank) after with
                | some (value, rest) => Except.ok (some (String.ofList value), rest)
                | none => .error after
            | rest => .ok (none, rest)
          match found with
          | .error rest => (none, skipLine rest)
          | .ok (value, rest) =>
              match lineEnd? rest with
              | some rest => (some (String.ofList name, value), rest)
              | none => (none, skipLine rest)

/-- The assignments from here on; every line takes at least one character. -/
def bindingsFrom : Nat → List Char → List Binding
  | 0, _ => []
  | _, [] => []
  | fuel + 1, cs =>
      let (found, rest) := binding cs
      found.toList ++ bindingsFrom fuel rest

/-- The assignments of a file.  A byte-order mark in front of everything is none of its text. -/
def bindings : List Char → List Binding
  | '\uFEFF' :: cs => bindingsFrom (cs.length + 1) cs
  | cs => bindingsFrom (cs.length + 1) cs

/-! ## References -/

/-- A reference after its opening brace: name, default, and what follows it. -/
def reference? (cs : List Char) : Option (List Char × List Char × List Char) :=
  let isName (c : Char) : Bool := c ≠ '\x7d' && c ≠ ':'
  let name := cs.takeWhile isName
  match cs.dropWhile isName with
  | '\x7d' :: rest => some (name, [], rest)
  | ':' :: '-' :: rest =>
      match rest.dropWhile (· ≠ '\x7d') with
      | _ :: after => some (name, rest.takeWhile (· ≠ '\x7d'), after)
      | [] => none
  | _ => none

/-- Replaces references by what a look-up gives. -/
def expandFrom (look : String → Option String) : Nat → List Char → List Char
  | 0, cs => cs
  | _, [] => []
  | fuel + 1, '$' :: '\x7b' :: cs =>
      match reference? cs with
      | some (name, default, rest) =>
          ((look (String.ofList name)).map String.toList).getD default ++ expandFrom look fuel rest
      | none => '$' :: expandFrom look fuel ('\x7b' :: cs)
  | fuel + 1, c :: cs => c :: expandFrom look fuel cs

def expand (look : String → Option String) (s : String) : String :=
  String.ofList (expandFrom look (s.length + 1) s.toList)

/-- Sets a name; a known name keeps its place. -/
def set (table : List Binding) (name : String) (value : Option String) : List Binding :=
  if table.any (·.1 = name) then
    table.map fun entry => if entry.1 = name then (name, value) else entry
  else table ++ [(name, value)]

/-- Earlier assignments come before the environment; a name without a value counts as empty. -/
def look (environment : List (String × String)) (table : List Binding) (name : String) :
    Option String :=
  match table.lookup name with
  | some value => some (value.getD "")
  | none => environment.lookup name

/-- The variables that a file assigns, each once, in the order of their first assignment. -/
def table (environment : List (String × String)) (cs : List Char) : List Binding :=
  (bindings cs).foldl
    (fun table (name, value) => set table name (value.map (expand (look environment table)))) []

end DotEnv

end Settings

end OutlineChart
