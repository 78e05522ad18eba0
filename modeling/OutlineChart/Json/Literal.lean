import OutlineChart.Json.Value
import OutlineChart.Text.Hexadecimal

/-! # JSON string literals

A literal is read into pieces, characters and UTF-16 units of escapes, and the pieces are then
joined: two units that form a pair become one character, any other surrogate stays alone.
-/

namespace OutlineChart

namespace Json
open CodePoint

/-! ## Escapes -/

def unit? (a b c d : Char) : Option Nat := do
  let a ← Hexadecimal.value? a
  let b ← Hexadecimal.value? b
  let c ← Hexadecimal.value? c
  let d ← Hexadecimal.value? d
  some (((a * 16 + b) * 16 + c) * 16 + d)

def shortEscape? : Char → Option Char
  | '"' => some '"'
  | '\\' => some '\\'
  | '/' => some '/'
  | 'b' => some '\x08'
  | 'f' => some '\x0c'
  | 'n' => some '\n'
  | 'r' => some '\r'
  | 't' => some '\t'
  | _ => none

/-! ## Pieces -/

/-- A character that is written as itself or by a short escape, or the unit of a long escape. -/
inductive Piece where
  | char (c : Char)
  | unit (n : Nat)
  deriving DecidableEq, Repr

/-- The pieces up to the closing quote, and what follows it. -/
def pieces? : List Char → Option (List Piece × List Char)
  | [] => none
  | '"' :: rest => some ([], rest)
  | '\\' :: 'u' :: a :: b :: c :: d :: rest =>
      match unit? a b c d, pieces? rest with
      | some n, some (ps, rest) => some (.unit n :: ps, rest)
      | _, _ => none
  | '\\' :: e :: rest =>
      match shortEscape? e, pieces? rest with
      | some c, some (ps, rest) => some (.char c :: ps, rest)
      | _, _ => none
  | c :: rest =>
      if c = '\\' ∨ c < ' ' then none
      else (pieces? rest).map fun (ps, rest) => (.char c :: ps, rest)

/-! ## Joining -/

def pair? (high low : Nat) : Option Char :=
  if 0xD800 ≤ high ∧ high < 0xDC00 ∧ 0xDC00 ≤ low ∧ low < 0xE000 then
    some (Char.ofNat (0x10000 + (high - 0xD800) * 0x400 + (low - 0xDC00)))
  else none

/-- The code point of a unit that is in no pair. -/
def ofUnit (n : Nat) : CodePoint :=
  if 0xD800 ≤ n ∧ n < 0xE000 then .half (Fin.ofNat 0x800 (n - 0xD800)) else .char (Char.ofNat n)

def join : List Piece → Text
  | [] => []
  | .char c :: ps => .char c :: join ps
  | [.unit n] => [ofUnit n]
  | .unit n :: .char c :: ps => ofUnit n :: .char c :: join ps
  | .unit m :: .unit n :: ps =>
      match pair? m n with
      | some c => .char c :: join ps
      | none => ofUnit m :: join (.unit n :: ps)

/-- The text of a literal whose opening quote is read, and what follows the literal. -/
def literal? (cs : List Char) : Option (Text × List Char) :=
  (pieces? cs).map fun (ps, rest) => (join ps, rest)

/-! ## Writing -/

/-- A character inside a literal, escaped only where JSON asks for it. -/
def escapeChar (c : Char) : List Char :=
  if c = '"' then ['\\', '"']
  else if c = '\\' then ['\\', '\\']
  else if c = '\n' then ['\\', 'n']
  else if c = '\r' then ['\\', 'r']
  else if c = '\t' then ['\\', 't']
  else if c = '\x08' then ['\\', 'b']
  else if c = '\x0c' then ['\\', 'f']
  else if c < ' ' then '\\' :: 'u' :: Hexadecimal.digits 4 c.toNat
  else [c]

/-- A lone surrogate is not escaped. -/
def escape : CodePoint → Text
  | .char c => Text.ofChars (escapeChar c)
  | .half unit => [.half unit]

def quote (t : Text) : Text := .char '"' :: t.flatMap escape ++ [.char '"']

end Json

end OutlineChart
