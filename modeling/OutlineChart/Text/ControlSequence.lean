/-! # Control sequences

What steers a terminal: an escape character, a bracket, parameters, and a letter that ends the
sequence.  Where no terminal reads along, the sequences are left out; whatever else begins with an
escape character stays.
-/

namespace OutlineChart

namespace ControlSequence

def introducer : Char := '\x1b'

def isParameter (c : Char) : Bool := c.isDigit || c = ';' || c = '?'

/-- What follows a sequence, if the text begins with one. -/
def after? : List Char → Option (List Char)
  | '\x1b' :: '[' :: cs =>
      match cs.dropWhile isParameter with
      | c :: rest => if c.isAlpha then some rest else none
      | [] => none
  | _ => none

theorem length_of_after? {cs rest : List Char} (h : after? cs = some rest) :
    rest.length < cs.length := by
  unfold after? at h
  split at h
  · rename_i cs
    split at h
    · rename_i c tail found
      have shorter := (List.dropWhile_suffix isParameter (l := cs)).length_le
      split at h
      · simp only [Option.some.injEq] at h
        simp only [found, List.length_cons] at shorter
        simp only [← h, List.length_cons]
        omega
      · contradiction
    · contradiction
  · contradiction

theorem after?_of_ne {c : Char} (h : c ≠ introducer) (cs : List Char) :
    after? (c :: cs) = none := by
  unfold after?
  split
  · rename_i found
    simp only [List.cons.injEq] at found
    exact absurd found.1 h
  · rfl

/-- The text without the sequences. -/
def strip : List Char → List Char
  | [] => []
  | c :: cs =>
      match _h : after? (c :: cs) with
      | some rest => strip rest
      | none => c :: strip cs
termination_by cs => cs.length
decreasing_by
  · exact length_of_after? _h
  · simp

@[simp] theorem strip_nil : strip [] = [] := by rw [strip]

theorem strip_of_after?_eq_none {c : Char} {cs : List Char} (h : after? (c :: cs) = none) :
    strip (c :: cs) = c :: strip cs := by
  rw [strip]
  split
  · next found =>
      rw [h] at found
      cases found
  · rfl

theorem strip_cons_of_ne {c : Char} (h : c ≠ introducer) (cs : List Char) :
    strip (c :: cs) = c :: strip cs := strip_of_after?_eq_none (after?_of_ne h cs)

/-- A text without an escape character is left alone. -/
theorem strip_of_notMem {cs : List Char} (h : introducer ∉ cs) : strip cs = cs := by
  induction cs with
  | nil => exact strip_nil
  | cons c cs ih =>
      simp only [List.mem_cons, not_or] at h
      rw [strip_cons_of_ne (Ne.symm h.1), ih h.2]

end ControlSequence

end OutlineChart
