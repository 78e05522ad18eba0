import OutlineChart.Json.Value

/-! # JSON numerals

An optional minus sign, an integer part without superfluous zeros, a fraction, an exponent.  An
integer part alone spells an integer, and an integer of very many digits is refused.
-/

namespace OutlineChart

namespace Json

def isDigit (c : Char) : Bool := '0' ≤ c && c ≤ '9'

def ofDigits (ds : List Char) : Nat := Nat.ofDigitChars 10 ds 0

def maxIntegerDigits : Nat := 4300

/-- The digits of the integer part: a zero alone, or digits that begin with another one. -/
def wholePart? : List Char → Option (List Char × List Char)
  | '0' :: rest => some (['0'], rest)
  | c :: rest =>
      if isDigit c then some (c :: rest.takeWhile isDigit, rest.dropWhile isDigit) else none
  | [] => none

/-- The digits after a point; a point without digits is left unread. -/
def fraction : List Char → List Char × List Char
  | '.' :: rest =>
      match rest.takeWhile isDigit with
      | [] => ([], '.' :: rest)
      | ds => (ds, rest.dropWhile isDigit)
  | cs => ([], cs)

/-- The sign of an exponent is true for a minus. -/
def exponentSign : List Char → Bool × List Char
  | '-' :: rest => (true, rest)
  | '+' :: rest => (false, rest)
  | cs => (false, cs)

/-- The exponent, if there is one; a mark without digits is left unread. -/
def exponent (cs : List Char) : Option Int × List Char :=
  match cs with
  | c :: rest =>
      if c = 'e' ∨ c = 'E' then
        let (negative, rest) := exponentSign rest
        match rest.takeWhile isDigit with
        | [] => (none, cs)
        | ds =>
            (some (if negative then -(ofDigits ds : Int) else ofDigits ds), rest.dropWhile isDigit)
      else (none, cs)
  | [] => (none, [])

def magnitude? (negative : Bool) (cs : List Char) : Option (Number × List Char) := do
  let (whole, rest) ← wholePart? cs
  let (places, rest) := fraction rest
  let (power, rest) := exponent rest
  match places, power with
  | [], none =>
      if whole.length ≤ maxIntegerDigits then
        let n : Int := ofDigits whole
        some (.integer (if negative then -n else n), rest)
      else none
  | _, _ =>
      some (.decimal negative (ofDigits (whole ++ places)) (power.getD 0 - places.length), rest)

def numeral? : List Char → Option (Number × List Char)
  | '-' :: rest => magnitude? true rest
  | cs => magnitude? false cs

end Json

end OutlineChart
