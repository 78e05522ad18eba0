import OutlineChart.Json.Literal
import OutlineChart.Json.Numeral

/-! # JSON documents

A document is one value between blanks.  The words for infinities and for the number that is none
are read as numbers.  Arrays and objects nest as deep as there is room for; what opens one more is
refused there and then, whatever would follow it.
-/

namespace OutlineChart

namespace Json

/-- What other values stand in. -/
inductive Nest where
  | array
  | object
  deriving DecidableEq, Repr

def Nest.name : Nest → String
  | array => "array"
  | object => "object"

/-- What is told of an array or object for which there is no room. -/
def Nest.tooDeepMessage (nest : Nest) : String :=
  "maximum recursion depth exceeded while decoding a JSON " ++ nest.name ++
    " from a unicode string"

inductive Fault where
  | invalid
  | tooDeep (nest : Nest)
  deriving DecidableEq, Repr

def isBlank (c : Char) : Bool := c = ' ' || c = '\t' || c = '\n' || c = '\r'

def skipBlanks (cs : List Char) : List Char := cs.dropWhile isBlank

def after? (word : String) (cs : List Char) : Option (List Char) :=
  if word.toList.isPrefixOf cs then some (cs.drop word.length) else none

def words : List (String × Value) :=
  [("null", .null), ("true", .bool true), ("false", .bool false), ("NaN", .number .nan),
    ("Infinity", .number (.infinite false)), ("-Infinity", .number (.infinite true))]

def word? (cs : List Char) : Option (Value × List Char) :=
  words.findSome? fun (word, value) => (after? word cs).map fun rest => (value, rest)

def number? (cs : List Char) : Option (Value × List Char) :=
  (numeral? cs).map fun (n, rest) => (.number n, rest)

/-- The key of a field with its colon, and what follows them. -/
def key? : List Char → Option (Text × List Char)
  | '"' :: rest => do
      let (key, rest) ← literal? rest
      match skipBlanks rest with
      | ':' :: rest => some (key, skipBlanks rest)
      | _ => none
  | _ => none

/-- What is read, or the fault that nothing is. -/
def orInvalid {α : Type} : Option α → Except Fault α
  | some a => .ok a
  | none => .error .invalid

-- The first number is fuel.  What bounds the reading of a document is the second one: the levels
-- for which there is room.
mutual

/-- A value that begins here, and what follows it. -/
def value : Nat → Nat → List Char → Except Fault (Value × List Char)
  | 0, _, _ => .error .invalid
  | fuel + 1, room, cs =>
      match cs with
      | '"' :: rest => (orInvalid (literal? rest)).map fun (t, rest) => (.string t, rest)
      | '[' :: rest =>
          match room with
          | 0 => .error (.tooDeep .array)
          | room + 1 =>
              match skipBlanks rest with
              | ']' :: rest => .ok (.array [], rest)
              | rest => (items fuel room rest).map fun (vs, rest) => (.array vs, rest)
      | '\x7b' :: rest =>
          match room with
          | 0 => .error (.tooDeep .object)
          | room + 1 =>
              match skipBlanks rest with
              | '\x7d' :: rest => .ok (.object [], rest)
              | rest => (fields fuel room rest).map fun (fs, rest) => (.object fs, rest)
      | cs => orInvalid ((word? cs).or (number? cs))

/-- The values up to a closing bracket; at least one. -/
def items : Nat → Nat → List Char → Except Fault (List Value × List Char)
  | 0, _, _ => .error .invalid
  | fuel + 1, room, cs => do
      let (v, rest) ← value fuel room cs
      match skipBlanks rest with
      | ']' :: rest => .ok ([v], rest)
      | ',' :: rest =>
          let (vs, rest) ← items fuel room (skipBlanks rest)
          .ok (v :: vs, rest)
      | _ => .error .invalid

/-- The fields up to a closing brace; at least one. -/
def fields : Nat → Nat → List Char → Except Fault (List (Text × Value) × List Char)
  | 0, _, _ => .error .invalid
  | fuel + 1, room, cs => do
      let (key, rest) ← orInvalid (key? cs)
      let (v, rest) ← value fuel room rest
      match skipBlanks rest with
      | '\x7d' :: rest => .ok ([(key, v)], rest)
      | ',' :: rest =>
          let (fs, rest) ← fields fuel room (skipBlanks rest)
          .ok ((key, v) :: fs, rest)
      | _ => .error .invalid

end

theorem orInvalid_eq_ok_iff {α : Type} {x : Option α} {a : α} :
    orInvalid x = .ok a ↔ x = some a := by
  cases x <;> simp [orInvalid]

theorem orInvalid_ne_tooDeep {α : Type} (x : Option α) (nest : Nest) :
    orInvalid x ≠ .error (.tooDeep nest) := by
  cases x <;> simp [orInvalid]

theorem map_eq_ok_iff {α β : Type} {f : α → β} {x : Except Fault α} {b : β} :
    x.map f = .ok b ↔ ∃ a, x = .ok a ∧ f a = b := by
  cases x <;> simp [Except.map]

theorem bind_eq_ok_iff {α β : Type} {x : Except Fault α} {f : α → Except Fault β} {b : β} :
    (x >>= f) = .ok b ↔ ∃ a, x = .ok a ∧ f a = .ok b := by
  cases x <;> simp [bind, Except.bind]

theorem map_eq_error_iff {α β : Type} {f : α → β} {x : Except Fault α} {fault : Fault} :
    x.map f = .error fault ↔ x = .error fault := by
  cases x <;> simp [Except.map]

theorem bind_eq_error_iff {α β : Type} {x : Except Fault α} {f : α → Except Fault β}
    {fault : Fault} :
    (x >>= f) = .error fault ↔ x = .error fault ∨ ∃ a, x = .ok a ∧ f a = .error fault := by
  cases x <;> simp [bind, Except.bind]

theorem value_quote (fuel room : Nat) (rest : List Char) :
    value (fuel + 1) room ('"' :: rest) =
      (orInvalid (literal? rest)).map fun (t, rest) => (.string t, rest) := by
  rw [value]

theorem value_array_of_full (fuel : Nat) (rest : List Char) :
    value (fuel + 1) 0 ('[' :: rest) = .error (.tooDeep .array) := by
  rw [value]

theorem value_array (fuel room : Nat) (rest : List Char) :
    value (fuel + 1) (room + 1) ('[' :: rest) =
      match skipBlanks rest with
      | ']' :: rest => .ok (.array [], rest)
      | rest => (items fuel room rest).map fun (vs, rest) => (.array vs, rest) := by
  rw [value]

theorem value_object_of_full (fuel : Nat) (rest : List Char) :
    value (fuel + 1) 0 ('\x7b' :: rest) = .error (.tooDeep .object) := by
  rw [value]

theorem value_object (fuel room : Nat) (rest : List Char) :
    value (fuel + 1) (room + 1) ('\x7b' :: rest) =
      match skipBlanks rest with
      | '\x7d' :: rest => .ok (.object [], rest)
      | rest => (fields fuel room rest).map fun (fs, rest) => (.object fs, rest) := by
  rw [value]

/-- Every level takes at least one character for two steps. -/
def fuelFor (cs : List Char) : Nat := 2 * cs.length + 1

/-- The value of a document; nothing but blanks may surround it. -/
def parse (room : Nat) (cs : List Char) : Except Fault Value := do
  let (v, rest) ← value (fuelFor cs) room (skipBlanks cs)
  if (skipBlanks rest).isEmpty then .ok v else .error .invalid

end Json

end OutlineChart
