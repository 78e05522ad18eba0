/-! # Paths

A path is written with slashes between names.  Empty names and single dots mean nothing and are
left out; a double dot is kept, since only the file system knows what lies above a folder.
-/

namespace OutlineChart

structure Path where
  /-- How many slashes it begins with: none, one, or exactly two. -/
  slashes : Nat
  names : List String
  deriving DecidableEq, Repr

namespace Path

def pieces (cs : List Char) : List String := (cs.splitOn '/').map String.ofList

/-- Reads a path.  More than two slashes in front count as one. -/
def ofString (s : String) : Path where
  slashes :=
    let n := (s.toList.takeWhile (· = '/')).length
    if n ≤ 2 then n else 1
  names := (pieces s.toList).filter fun name => name ≠ "" && name ≠ "."

/-- Writes a path; the path without names is a single dot. -/
def toString (p : Path) : String :=
  if p.slashes = 0 && p.names.isEmpty then "."
  else String.ofList (List.replicate p.slashes '/') ++ String.intercalate "/" p.names

instance : ToString Path := ⟨toString⟩

def isAbsolute (p : Path) : Bool := 0 < p.slashes

end Path

end OutlineChart
