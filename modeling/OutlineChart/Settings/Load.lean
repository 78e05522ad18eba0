import OutlineChart.Settings.Basic
import OutlineChart.Settings.DotEnv
import OutlineChart.Settings.Scalar
import OutlineChart.Json.Document
import OutlineChart.Text.Lowercase

/-! # Loading settings

Values that are given explicitly come before the environment, the environment before an environment
file, and that before the defaults.  Names are compared without regard to case.  Every flawed field
is reported, in the order of the fields, and after them the names that are no field's.
-/

namespace OutlineChart

namespace Settings

/-! ## Issues -/

structure Issue where
  place : List String
  flaw : Flaw
  deriving DecidableEq, Repr

inductive Origin where
  | environment
  | file
  deriving DecidableEq, Repr

def Origin.name : Origin → String
  | environment => "EnvSettingsSource"
  | file => "DotEnvSettingsSource"

inductive LoadError where
  /-- The text of a list is no JSON document. -/
  | unreadable (field : String) (origin : Origin)
  /-- The text of a list nests too deep to be read. -/
  | tooDeep (nest : Json.Nest)
  | invalid (issues : List Issue)
  deriving DecidableEq, Repr

def LoadError.message : LoadError → String
  | unreadable field origin =>
      "error parsing value for field \"" ++ field ++ "\" from source \"" ++ origin.name ++ "\""
  | tooDeep nest => nest.tooDeepMessage
  | invalid _ => ""

/-! ## Fields -/

/-- A field, the key under which its flaws are reported as a rule, and how its value is set; a flaw
comes with its place in the value. -/
structure Field where
  name : String
  key : String
  isList : Bool
  set : Json.Value → Settings → Except (List Issue) Settings

namespace Field

/-- A field whose value is read as a whole. -/
def keyed {α : Type} (name key : String) (read : Json.Value → Except Flaw α)
    (put : Settings → α → Settings) : Field where
  name := name
  key := key
  isList := false
  set v s :=
    match read v with
    | .ok a => .ok (put s a)
    | .error flaw => .error [⟨[], flaw⟩]

/-- Most fields are reported under their name. -/
def scalar {α : Type} (name : String) (read : Json.Value → Except Flaw α)
    (put : Settings → α → Settings) : Field := keyed name name read put

def list (name : String) (put : Settings → List Text → Settings) : Field where
  name := name
  key := name
  isList := true
  set v s :=
    match v with
    | .array items =>
        match texts items with
        | .ok ts => .ok (put s ts)
        | .error flaws => .error (flaws.map fun (i, flaw) => ⟨[toString i], flaw⟩)
    | _ => .error [⟨[], .listType⟩]

end Field

def fields : List Field :=
  [.scalar "host" string fun s a => { s with host := a },
    .keyed "port" "PORT" integer fun s a => { s with port := a },
    .scalar "log_level" string fun s a => { s with logLevel := a },
    .list "cors_origins" fun s a => { s with corsOrigins := a },
    .scalar "max_body_bytes" integer fun s a => { s with maxBodyBytes := a },
    .scalar "mermaid_script_url" string fun s a => { s with mermaidScriptUrl := a },
    .scalar "browser_headless" truth fun s a => { s with browserHeadless := a },
    .list "browser_args" fun s a => { s with browserArgs := a },
    .scalar "launch_timeout_ms" integer fun s a => { s with launchTimeoutMs := a },
    .scalar "content_timeout_ms" integer fun s a => { s with contentTimeoutMs := a },
    .scalar "render_timeout_ms" integer fun s a => { s with renderTimeoutMs := a },
    .scalar "export_timeout_ms" integer fun s a => { s with exportTimeoutMs := a },
    .scalar "screenshot_timeout_ms" integer fun s a => { s with screenshotTimeoutMs := a },
    .scalar "debug_screenshot_path" optionalString fun s a => { s with debugScreenshotPath := a },
    .scalar "pdf_format" string fun s a => { s with pdfFormat := a },
    .scalar "pdf_margin" string fun s a => { s with pdfMargin := a },
    .scalar "pdf_filename" string fun s a => { s with pdfFilename := a }]

/-- Some field has this name, but for case. -/
def isField (name : String) : Bool := fields.any fun field => field.name = Lowercase.ofString name

/-! ## Sources -/

structure Sources where
  given : List (String × Json.Value) := []
  environment : List (String × String) := []
  /-- The content of the environment file, if there is one, with plain line feeds. -/
  file : Option (List Char) := none
  /-- The levels that a list may nest. -/
  room : Nat := 900

namespace Sources

/-- The value that is given for a field: its name in capitals counts before the other spellings,
and of those the first. -/
def given? (s : Sources) (field : Field) : Option Json.Value :=
  (s.given.lookup field.name.toUpper).or <|
    (s.given.find? fun entry => Lowercase.ofString entry.1 = field.name).map (·.2)

/-- Where the flaws of a field are: under its name if just that is given, or else under its key. -/
def place (s : Sources) (field : Field) : String :=
  let isGiven (name : String) : Bool := s.given.any fun entry => entry.1 = name
  if isGiven field.name && !isGiven field.key then field.name else field.key

/-- The same variables by their names in lower case; of several with one name the last counts. -/
def lowerNames (bindings : List DotEnv.Binding) : List DotEnv.Binding :=
  bindings.foldl (fun table (name, value) => DotEnv.set table (Lowercase.ofString name) value) []

def environmentVariables (s : Sources) : List DotEnv.Binding :=
  lowerNames (s.environment.map fun (name, value) => (name, some value))

def fileVariables (s : Sources) : List DotEnv.Binding :=
  match s.file with
  | some cs => lowerNames (DotEnv.table s.environment cs)
  | none => []

/-- What variables say about the fields; a list is read as JSON, where null says nothing. -/
def assigned (room : Nat) (origin : Origin) (bindings : List DotEnv.Binding) :
    List Field → Except LoadError (List (String × Json.Value))
  | [] => .ok []
  | field :: rest =>
      match (bindings.lookup field.name).join with
      | none => assigned room origin bindings rest
      | some value =>
          if field.isList then
            match Json.parse room value.toList with
            | .error (.tooDeep nest) => .error (.tooDeep nest)
            | .error .invalid => .error (.unreadable field.name origin)
            | .ok .null => assigned room origin bindings rest
            | .ok v => (assigned room origin bindings rest).map ((field.name, v) :: ·)
          else (assigned room origin bindings rest).map ((field.name, .ofString value) :: ·)

/-- The names in the environment file that are no field's; those without a value do not count. -/
def strayVariables (s : Sources) : List String :=
  s.fileVariables.filterMap fun (name, value) =>
    if (value.getD "").isEmpty || isField name then none else some name

def strayNames (s : Sources) : List String :=
  (s.given.map (·.1)).filter fun name => !isField name

end Sources

/-! ## Loading -/

/-- Sets the fields that have a value, and collects what is wrong and where. -/
def setAll (value? : Field → Option Json.Value) (place : Field → String) :
    List Field → Settings → List Issue → Settings × List Issue
  | [], s, issues => (s, issues)
  | field :: rest, s, issues =>
      match value? field with
      | none => setAll value? place rest s issues
      | some v =>
          match field.set v s with
          | .ok s => setAll value? place rest s issues
          | .error found =>
              let found := found.map fun issue => { issue with place := place field :: issue.place }
              setAll value? place rest s (issues ++ found)

def load (sources : Sources) : Except LoadError Settings :=
  match Sources.assigned sources.room .environment sources.environmentVariables fields with
  | .error e => .error e
  | .ok environment =>
      match Sources.assigned sources.room .file sources.fileVariables fields with
      | .error e => .error e
      | .ok file =>
          let value? (field : Field) : Option Json.Value :=
            (sources.given? field).or <| (environment.lookup field.name).or <|
              file.lookup field.name
          let (settings, issues) := setAll value? sources.place fields {} []
          let fromFile := sources.strayVariables
          let given := sources.strayNames.filter fun name => !fromFile.contains name
          match issues ++ (fromFile ++ given).map fun name => ⟨[name], .extraForbidden⟩ with
          | [] => .ok settings
          | issues => .error (.invalid issues)

/-- Settings do not change once they are loaded. -/
def assignmentError (field : String) : LoadError := .invalid [⟨[field], .frozenInstance⟩]

end Settings

end OutlineChart
