/-! # Line ends of text files

A text file may end its lines with a carriage return, a line feed or both; read as text it has line
feeds only.
-/

namespace OutlineChart

namespace Newline

/-- Every line end as one line feed. -/
def unify : List Char → List Char
  | [] => []
  | '\r' :: '\n' :: cs => '\n' :: unify cs
  | c :: cs => (if c = '\r' then '\n' else c) :: unify cs

end Newline

end OutlineChart
