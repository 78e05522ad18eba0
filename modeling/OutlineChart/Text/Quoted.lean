import OutlineChart.Text.Hexadecimal
import OutlineChart.Text.Printable

/-! # Quoted texts

How a text is shown inside a message: between two quotes, on one line, and with nothing in it that
does not show.
-/

namespace OutlineChart

namespace Quoted

/-- Single quotes, unless they stand in the text and double quotes do not. -/
def mark (cs : List Char) : Char := if cs.contains '\'' && !cs.contains '"' then '"' else '\''

/-- A character by its number, in as few digits as its size asks for: two, four or eight. -/
def numbered (c : Char) : List Char :=
  let n := c.toNat
  if n < 0x100 then '\\' :: 'x' :: Hexadecimal.digits 2 n
  else if n < 0x10000 then '\\' :: 'u' :: Hexadecimal.digits 4 n
  else '\\' :: 'U' :: Hexadecimal.digits 8 n

def escape (quote c : Char) : List Char :=
  if c = quote then ['\\', c]
  else if c = '\\' then ['\\', '\\']
  else if c = '\n' then ['\\', 'n']
  else if c = '\r' then ['\\', 'r']
  else if c = '\t' then ['\\', 't']
  else if CodePoint.isPrintable (.char c) then [c]
  else numbered c

def ofChars (cs : List Char) : List Char :=
  mark cs :: cs.flatMap (escape (mark cs)) ++ [mark cs]

def ofString (s : String) : String := String.ofList (ofChars s.toList)

end Quoted

end OutlineChart
