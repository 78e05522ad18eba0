import OutlineChart.Text.Basic

/-! # JSON values

Numbers keep apart what is written as an integer and what is written with a point or an exponent.
Fields keep the order in which they are written; a repeated key counts with its last value.
-/

namespace OutlineChart

namespace Json

inductive Number where
  | integer (value : Int)
  /-- `digits · 10 ^ exponent` with a sign. -/
  | decimal (negative : Bool) (digits : Nat) (exponent : Int)
  | infinite (negative : Bool)
  | nan
  deriving DecidableEq, Repr

inductive Value where
  | null
  | bool (b : Bool)
  | number (n : Number)
  | string (s : Text)
  | array (items : List Value)
  | object (fields : List (Text × Value))
  deriving Repr, Inhabited

namespace Value

def ofString (s : String) : Value := .string (Text.ofString s)

def ofInt (n : Int) : Value := .number (.integer n)

def ofNat (n : Nat) : Value := ofInt n

/-- The value of the last field with a key. -/
def field? (key : Text) : Value → Option Value
  | .object fields => (fields.reverse.find? fun field => field.1 = key).map (·.2)
  | _ => none

def text? : Value → Option Text
  | .string s => some s
  | _ => none

end Value

end Json

end OutlineChart
