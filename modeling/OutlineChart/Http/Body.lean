import OutlineChart.Http.Message
import OutlineChart.Json.Document

/-! # Request bodies

A body is read as UTF-8 text within a limit, which a declared length is held to before anything is
read.  A JSON document that is a string is unwrapped; every other text is passed on as it is, unless
it nests deeper than there is room for.
-/

namespace OutlineChart

namespace Http

namespace Body

/-! ## Declared lengths -/

/-- A declared length that consists of digits, not all of which are decimal or which are too many,
cannot be read as a number. -/
inductive LengthError where
  | notDecimal (value : String)
  | tooLong (digits : Nat)
  deriving DecidableEq, Repr

/-- A value is quoted up to this length, the opening quote included. -/
def quotedLength : Nat := 200

def LengthError.message : LengthError → String
  | notDecimal value =>
      "invalid literal for int() with base 10: " ++
        String.ofList (('\'' :: value.toList ++ ['\'']).take quotedLength)
  | tooLong digits =>
      "Exceeds the limit (" ++ toString Json.maxIntegerDigits ++
        " digits) for integer string conversion: value has " ++ toString digits ++
        " digits; use sys.set_int_max_str_digits() to increase the limit"

/-- Decimal digits and, of Latin-1, the three superscripts. -/
def isDigitLike (c : Char) : Bool := Json.isDigit c || c = '¹' || c = '²' || c = '³'

/-- The declared length, if digits declare one.  Too many decimal digits are told before anything
that follows them. -/
def declared? (hs : Headers) : Except LengthError (Option Nat) :=
  let value := (hs.value? "content-length").getD ""
  let cs := value.toList
  let decimal := cs.takeWhile Json.isDigit
  if cs.isEmpty || !cs.all isDigitLike then .ok none
  else if decimal.length > Json.maxIntegerDigits then .error (.tooLong decimal.length)
  else if decimal.length < cs.length then .error (.notDecimal value)
  else .ok (some (Json.ofDigits cs))

/-! ## Reading -/

/-- What leaves a body unread. -/
inductive Obstacle where
  | length (error : LengthError)
  /-- A document nests too deep. -/
  | nesting (nest : Json.Nest)
  deriving DecidableEq, Repr

namespace Obstacle

def name : Obstacle → String
  | length _ => "ValueError"
  | nesting _ => "RecursionError"

def message : Obstacle → String
  | length error => error.message
  | nesting nest => nest.tooDeepMessage

end Obstacle

inductive Reading where
  /-- The declared length is over the limit; the body is not read. -/
  | declaredTooLarge
  /-- The body is over the limit. -/
  | tooLarge
  | text (t : Text)
  deriving DecidableEq, Repr

/-- The text of a reading within the limit. -/
def Reading.text? : Reading → Option Text
  | text t => some t
  | _ => none

def isJson (hs : Headers) : Bool :=
  "application/json".toList.isPrefixOf ((hs.value? "content-type").getD "").toList

/-- The string that a JSON document is, or else the document itself. -/
def unwrap (room : Nat) (cs : List Char) : Except Json.Nest Text :=
  match Json.parse room cs with
  | .ok (.string s) => .ok s
  | .error (.tooDeep nest) => .error nest
  | _ => .ok (Text.ofChars cs)

def interpret (room : Nat) (hs : Headers) (cs : List Char) : Except Json.Nest Text :=
  if isJson hs then unwrap room cs else .ok (Text.ofChars cs)

def read (room : Nat) (maxBytes : Int) (hs : Headers) (body : Bytes) : Except Obstacle Reading :=
  match declared? hs with
  | .error e => .error (.length e)
  | .ok declared =>
      if declared.any fun n => maxBytes < n then .ok .declaredTooLarge
      else if maxBytes < body.length then .ok .tooLarge
      else match interpret room hs (Utf8.decode body) with
        | .ok t => .ok (.text t)
        | .error nest => .error (.nesting nest)

end Body

def Request.read (r : Request) (maxBytes : Int) : Except Body.Obstacle Body.Reading :=
  Body.read r.room maxBytes r.headers r.body

end Http

end OutlineChart
