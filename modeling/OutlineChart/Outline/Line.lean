import OutlineChart.Outline.Label

/-! # Outline lines

A numbered line opens a primary step, a dashed line a secondary one, and any other line opens
nothing.  Lines are trimmed before they are read, and the blank ones do not count.
-/

namespace OutlineChart

/-- What one line of an outline says. -/
inductive Line where
  /-- Digits and a period, then the text of a primary step. -/
  | primary (body : Text)
  /-- A dash, then the text of a secondary step. -/
  | secondary (body : Text)
  | other
  deriving DecidableEq, Repr

namespace Line
open CodePoint

def period : CodePoint := char '.'

def dash : CodePoint := char '-'

/-- Reads the mark of a trimmed line; whitespace after the mark is not part of the body. -/
def read (line : Text) : Line :=
  match line.takeWhile isDigit, line.dropWhile isDigit with
  | _ :: _, c :: body => if c = period then .primary (body.dropWhile isBlank) else .other
  | [], c :: body => if c = dash then .secondary (body.dropWhile isBlank) else .other
  | _, [] => .other

/-- A line without whitespace and byte-order marks at its ends. -/
def trim (line : Text) : Text := Text.trim isMargin line

@[simp] theorem read_nil : read [] = .other := rfl

end Line

namespace Outline

/-- The trimmed lines of an outline that are not empty. -/
def lines (t : Text) : List Text := (t.lines.map Line.trim).filter fun line => !line.isEmpty

theorem lines_append_newline (a b : Text) :
    lines (a ++ CodePoint.newline :: b) = lines a ++ lines b := by
  simp [lines, Text.lines_append_newline]

end Outline

end OutlineChart
