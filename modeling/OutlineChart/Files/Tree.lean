import OutlineChart.Files.Path
import OutlineChart.Text.Utf8

/-! # File trees

Files by their places, and the folder that relative paths start from.  A folder is there if a file
lies below it or if it holds the starting folder.  Reading back gives what was written, and writing
one file changes no other.
-/

namespace OutlineChart

/-- The names on the way from the root. -/
abbrev Place := List String

inductive FileError where
  | missing
  | isFolder
  /-- Something on the way is no folder. -/
  | notFolder
  /-- The path or a name in it is too long. -/
  | tooLong
  deriving DecidableEq, Repr

structure Files where
  /-- The folder that relative paths start from. -/
  here : Place := []
  contents : List (Place × Bytes) := []
  deriving DecidableEq, Repr

namespace Files

def content? (fs : Files) (place : Place) : Option Bytes := fs.contents.lookup place

def isFolder (fs : Files) (place : Place) : Bool :=
  place.isPrefixOf fs.here ||
    fs.contents.any fun entry => place ≠ entry.1 && place.isPrefixOf entry.1

/-! ## From paths to places -/

def maxNameBytes : Nat := 255

def maxPathBytes : Nat := 4095

/-- Goes from a place along names; only from a folder does a name lead on, if it is not too long. -/
def walk (fs : Files) : Place → List String → Except FileError Place
  | place, [] => .ok place
  | place, name :: names =>
      if fs.isFolder place then
        if maxNameBytes < name.utf8ByteSize then .error .tooLong
        else fs.walk (if name = ".." then place.dropLast else place ++ [name]) names
      else if (fs.content? place).isSome then .error .notFolder
      else .error .missing

def locate (fs : Files) (p : Path) : Except FileError Place :=
  if maxPathBytes < p.toString.utf8ByteSize then .error .tooLong
  else fs.walk (if p.isAbsolute then [] else fs.here) p.names

/-! ## Reading and writing -/

def readAt (fs : Files) (place : Place) : Except FileError Bytes :=
  if fs.isFolder place then .error .isFolder
  else match fs.content? place with
    | some content => .ok content
    | none => .error .missing

def read (fs : Files) (p : Path) : Except FileError Bytes := do
  fs.readAt (← fs.locate p)

/-- The files with one more, or with a new content of one. -/
def put (fs : Files) (place : Place) (content : Bytes) : Files :=
  { fs with contents := (place, content) :: fs.contents.filter fun entry => entry.1 ≠ place }

def write (fs : Files) (p : Path) (content : Bytes) : Except FileError Files := do
  let place ← fs.locate p
  if fs.isFolder place then .error .isFolder else .ok (fs.put place content)

/-- The files of `fs` that are not in `before` with the same content. -/
def changes (fs before : Files) : List (Place × Bytes) :=
  fs.contents.filter fun entry => before.content? entry.1 ≠ some entry.2

end Files

end OutlineChart
