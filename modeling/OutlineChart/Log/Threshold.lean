import OutlineChart.Log

/-! # Log levels as numbers

A configured level is a name; records below its number are not shown.  Two names stand for
something else than a level, and cannot be configured.
-/

namespace OutlineChart

namespace Log

def Level.number : Level → Nat
  | .debug => 10
  | .info => 20
  | .warning => 30
  | .error => 40

def thresholds : List (String × Nat) :=
  [("NOTSET", 0), ("DEBUG", 10), ("INFO", 20), ("WARN", 30), ("WARNING", 30), ("ERROR", 40),
    ("FATAL", 50), ("CRITICAL", 50)]

/-- The letters beyond ASCII whose capitals are in ASCII. -/
def capitals : List (Char × List Char) :=
  [('ß', ['S', 'S']), ('ı', ['I']), ('ſ', ['S']), ('ﬀ', ['F', 'F']), ('ﬁ', ['F', 'I']),
    ('ﬂ', ['F', 'L']), ('ﬃ', ['F', 'F', 'I']), ('ﬄ', ['F', 'F', 'L']), ('ﬅ', ['S', 'T']),
    ('ﬆ', ['S', 'T'])]

def capital (c : Char) : List Char := (capitals.lookup c).getD [c.toUpper]

/-- What a name stands for that is no level's. -/
inductive Misnomer where
  /-- The layout in which records are shown. -/
  | layout
  /-- The table of styles in which layouts are written. -/
  | styles
  deriving DecidableEq, Repr

def Misnomer.message : Misnomer → String
  | layout => "a layout is no log level"
  | styles => "a table of styles is no log level"

def misnomers : List (String × Misnomer) := [("BASIC_FORMAT", .layout), ("_STYLES", .styles)]

/-- The number of a named level, in any case.  Any name that is not taken counts as the level of
information. -/
def threshold (name : String) : Except Misnomer Nat :=
  let name := String.ofList (name.toList.flatMap capital)
  match misnomers.lookup name with
  | some misnomer => .error misnomer
  | none => .ok ((thresholds.lookup name).getD 20)

/-- What holds as long as no level is configured. -/
def defaultThreshold : Nat := 30

end Log

end OutlineChart
