import OutlineChart.Text.Hexadecimal

/-! # Hosts

Whom a request is sent to: a name, or an address in brackets, and perhaps a port after a colon.
-/

namespace OutlineChart

namespace Http

namespace Host

/-! ## Names -/

def marks : List Char := "-._~!$&'()*+,;=".toList

/-- What stands for itself: ASCII letters and digits, and the marks. -/
def isPlain (c : Char) : Bool := c.isAlphanum || marks.contains c

/-- What a name is made of: what stands for itself, and the percent sign of an escape. -/
def isNameChar (c : Char) : Bool := isPlain c || c = '%'

/-! ## Addresses -/

/-- A number below 256 in decimal, without superfluous zeros. -/
def isOctet (cs : List Char) : Bool :=
  !cs.isEmpty && cs.all Char.isDigit && cs.length ≤ 3 && (cs.head? ≠ some '0' || cs.length = 1) &&
    Nat.ofDigitChars 10 cs 0 ≤ 255

def isDotted (cs : List Char) : Bool :=
  let octets := cs.splitOn '.'
  octets.length = 4 && octets.all isOctet

/-- A group of an address: up to four hexadecimal digits. -/
def isGroup (cs : List Char) : Bool :=
  !cs.isEmpty && cs.length ≤ 4 && cs.all Hexadecimal.isDigit

/-- How many groups some pieces make.  At the end of an address a dotted piece makes two. -/
def countGroups? (atEnd : Bool) : List (List Char) → Option Nat
  | [] => some 0
  | piece :: pieces =>
      if isGroup piece then (countGroups? atEnd pieces).map (· + 1)
      else if atEnd && pieces.isEmpty && isDotted piece then some 2
      else none

/-- The groups between colons; nothing at all has none. -/
def groups? (atEnd : Bool) (cs : List Char) : Option Nat :=
  if cs.isEmpty then some 0 else countGroups? atEnd (cs.splitOn ':')

/-- What stands before and after the first two colons in a row. -/
def splitGap : List Char → Option (List Char × List Char)
  | [] => none
  | ':' :: ':' :: cs => some ([], cs)
  | c :: cs => (splitGap cs).map fun (before, after) => (c :: before, after)

/-- Eight groups, some of which, one at least, two colons in a row may stand for. -/
def isNumeric (cs : List Char) : Bool :=
  match splitGap cs with
  | none => groups? true cs = some 8
  | some (before, after) =>
      match groups? false before, groups? true after with
      | some m, some n => m + n ≤ 7
      | _, _ => false

/-- An address of a later version: its number, a point, and a text of its own. -/
def isLater (cs : List Char) : Bool :=
  let version := cs.takeWhile Hexadecimal.isDigit
  match cs.dropWhile Hexadecimal.isDigit with
  | '.' :: text =>
      !version.isEmpty && !text.isEmpty && text.all fun c => isPlain c || c = ':'
  | _ => false

/-- What may stand in brackets. -/
def isAddress : List Char → Bool
  | 'v' :: later => isLater later
  | cs => isNumeric cs

/-! ## Ports -/

def maxPort : Nat := 65535

def maxPortDigits : Nat := 4300

/-- Nothing, or a colon and the number of a port. -/
def isPort : List Char → Bool
  | [] => true
  | ':' :: digits =>
      !digits.isEmpty && digits.all Char.isDigit && digits.length ≤ maxPortDigits &&
        Nat.ofDigitChars 10 digits 0 ≤ maxPort
  | _ => false

/-- A host as a request tells it. -/
def isValid : List Char → Bool
  | '[' :: cs =>
      match cs.dropWhile (· ≠ ']') with
      | _ :: port => isAddress (cs.takeWhile (· ≠ ']')) && isPort port
      | [] => false
  | cs => !(cs.takeWhile isNameChar).isEmpty && isPort (cs.dropWhile isNameChar)

end Host

end Http

end OutlineChart
