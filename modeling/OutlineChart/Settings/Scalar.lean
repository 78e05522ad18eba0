import OutlineChart.Json.Binary64
import OutlineChart.Json.Numeral

/-! # Reading the value of a setting

A value comes as JSON; what the environment holds comes as a string.  An integer may be written as
a number or as a text, a truth value as a number or as one of a few words; strings and lists of
strings are taken only as such.
-/

namespace OutlineChart

namespace Settings

inductive Flaw where
  | intType
  | intParsing
  | intParsingSize
  | intFromFloat
  | finiteNumber
  | boolType
  | boolParsing
  | stringType
  | stringUnicode
  | listType
  | extraForbidden
  | frozenInstance
  deriving DecidableEq, Repr

def Flaw.name : Flaw → String
  | intType => "int_type"
  | intParsing => "int_parsing"
  | intParsingSize => "int_parsing_size"
  | intFromFloat => "int_from_float"
  | finiteNumber => "finite_number"
  | boolType => "bool_type"
  | boolParsing => "bool_parsing"
  | stringType => "string_type"
  | stringUnicode => "string_unicode"
  | listType => "list_type"
  | extraForbidden => "extra_forbidden"
  | frozenInstance => "frozen_instance"

/-! ## Integers -/

/-- What may stand around an integer: whitespace, the ASCII separators excepted. -/
def isPadding (c : CodePoint) : Bool := c.isBlank && !c.isIn [(0x1C, 0x1F)]

/-- An optional sign, true for a minus, and what follows it; a plus is followed by no minus. -/
def signed? : List Char → Option (Bool × List Char)
  | '+' :: '-' :: _ => none
  | '+' :: cs => some (false, cs)
  | '-' :: cs => some (true, cs)
  | cs => some (false, cs)

/-- What remains of a number after zeros and underscores in front, of which the last one is given.
It begins with a digit or a sign; before a point, or if nothing remains, the last one stays. -/
def afterZeros (last : Char) : List Char → Option (List Char)
  | [] => some [last]
  | c :: cs =>
      if c = '0' || c = '_' then afterZeros c cs
      else if c = '-' || Json.isDigit c then some (c :: cs)
      else if c = '.' then some (last :: c :: cs)
      else none

def dropZeros : List Char → Option (List Char)
  | [] => none
  | c :: cs =>
      if c = '0' then afterZeros c cs
      else if c = '-' || Json.isDigit c then some (c :: cs)
      else none

/-- What stands before a point that only zeros follow, one at least. -/
def wholePart : List Char → List Char
  | [] => []
  | '.' :: zeros => if !zeros.isEmpty && zeros.all (· = '0') then [] else '.' :: zeros
  | c :: cs => c :: wholePart cs

/-- Joins groups that are separated by single underscores. -/
def ungrouped (cs : List Char) : List Char :=
  let groups := cs.splitOn '_'
  if groups.any (·.isEmpty) then cs else groups.flatten

/-- Reads an integer in plain form: an optional minus sign and digits, the first of which is a zero
only if it stands alone.  Too many digits are told before anything that follows them. -/
def plainInteger (cs : List Char) : Except Flaw Int :=
  let (negative, digits) := match cs with
    | '-' :: digits => (true, digits)
    | digits => (false, digits)
  match Json.wholePart? digits with
  | none => .error .intParsing
  | some (whole, rest) =>
      if Json.maxIntegerDigits < whole.length then .error .intParsingSize
      else if !rest.isEmpty then .error .intParsing
      else
        let n : Int := Json.ofDigits whole
        .ok (if negative then -n else n)

/-- The plain form of an integer that is written as a text: without padding, a plus sign, leading
zeros, underscores, and a point with zeros after it. -/
def plainForm? (t : Text) : Option (List Char) := do
  let cs ← Text.toChars? (t.trim isPadding)
  let (negative, cs) ← signed? cs
  let digits := ungrouped (wholePart (← dropZeros cs))
  return if negative then '-' :: digits else digits

/-- Reads an integer that is written as a text, in plain form or in one that has such a form.  Only
of a text that begins in plain form itself is it told that the digits are too many. -/
def integerOfText (t : Text) : Except Flaw Int :=
  match (Text.toChars? t).elim (.error .intParsing) plainInteger with
  | .error .intParsing =>
      match (plainForm? t).elim (.error .intParsing) plainInteger with
      | .ok n => .ok n
      | .error _ => .error .intParsing
  | read => read

/-- No integer of 64 bits reaches this. -/
def wordBound : Nat := 0x8000000000000000

def integerOfFraction (x : Json.Binary64) : Except Flaw Int :=
  match x with
  | .finite .. =>
      match x.toInt? with
      | none => .error .intFromFloat
      | some n => if n.natAbs < wordBound then .ok n else .error .intParsingSize
  | _ => .error .finiteNumber

def fraction : Json.Number → Json.Binary64
  | .decimal negative digits exponent => .ofDecimal negative digits exponent
  | .nan => .nan
  | _ => .infinite

def integer : Json.Value → Except Flaw Int
  | .bool b => .ok (if b then 1 else 0)
  | .number (.integer n) => .ok n
  | .number n => integerOfFraction (fraction n)
  | .string t => integerOfText t
  | _ => .error .intType

/-! ## Truth values -/

def trueWords : List String := ["1", "on", "t", "true", "y", "yes"]

def falseWords : List String := ["0", "off", "f", "false", "n", "no"]

def truthOfText (t : Text) : Except Flaw Bool :=
  match Text.toChars? t with
  | none => .error .boolParsing
  | some cs =>
      let word := (String.ofList cs).toLower
      if trueWords.contains word then .ok true
      else if falseWords.contains word then .ok false
      else .error .boolParsing

def truthOfInt (n : Int) : Except Flaw Bool :=
  if n = 0 then .ok false else if n = 1 then .ok true else .error .boolParsing

/-- An integer counts as a truth value if it fits into 64 bits. -/
def fitsWord (n : Int) : Bool := -(wordBound : Int) ≤ n && n < wordBound

def truth : Json.Value → Except Flaw Bool
  | .bool b => .ok b
  | .string t => truthOfText t
  | .number (.integer n) => if fitsWord n then truthOfInt n else .error .boolType
  | .number n =>
      match integerOfFraction (fraction n) with
      | .ok n => truthOfInt n
      | .error _ => .error .boolType
  | _ => .error .boolType

/-! ## Strings -/

def ofText (t : Text) : Except Flaw String :=
  match Text.toChars? t with
  | some cs => .ok (String.ofList cs)
  | none => .error .stringUnicode

def string : Json.Value → Except Flaw String
  | .string t => ofText t
  | _ => .error .stringType

def optionalString : Json.Value → Except Flaw (Option String)
  | .null => .ok none
  | v => (string v).map some

/-- The texts of a list, or the flaw of each item that is none, with its position. -/
def texts (items : List Json.Value) : Except (List (Nat × Flaw)) (List Text) :=
  let flaws := items.zipIdx.filterMap fun (item, i) =>
    match item with
    | .string _ => none
    | _ => some (i, Flaw.stringType)
  if flaws.isEmpty then .ok (items.filterMap Json.Value.text?) else .error flaws

end Settings

end OutlineChart
