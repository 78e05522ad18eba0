import OutlineChart.Text.Basic

/-! # Labels

What a step shows of its line: everything outside letters, digits and hyphens becomes blank, a run
of blanks becomes one space, and the ends are stripped.  Such a label needs no quoting.
-/

namespace OutlineChart

namespace Label
open CodePoint

/-- A code point that is neither kept in a label nor whitespace counts as a space. -/
def soften (c : CodePoint) : CodePoint := if c.isLabel || c.isBlank then c else space

/-- Every run of whitespace becomes one space; the flag says that a run has begun. -/
def squeezeFrom : Bool → Text → Text
  | _, [] => []
  | inRun, c :: t =>
      if c.isBlank then
        if inRun then squeezeFrom true t else space :: squeezeFrom true t
      else c :: squeezeFrom false t

def squeeze (t : Text) : Text := squeezeFrom false t

def ofText (t : Text) : Text := (squeeze (t.map soften)).strip

theorem soften_of_isLabel {c : CodePoint} (h : c.isLabel = true) : soften c = c := by
  simp [soften, h]

theorem isBlank_soften (c : CodePoint) : (soften c).isBlank = !c.isLabel := by
  unfold soften
  cases label : c.isLabel with
  | true =>
      cases blank : c.isBlank with
      | true => simp [isLabel_of_isBlank blank] at label
      | false => simp [blank]
  | false =>
      cases blank : c.isBlank with
      | true => simp [blank]
      | false => simpa using isBlank_space

@[simp] theorem ofText_nil : ofText [] = [] := rfl

/-! ## Maximal runs

The same label without passes: the maximal runs of kept code points, one space between them. -/

/-- The maximal runs of letters, digits and hyphens, in order. -/
def runs (t : Text) : List Text := (t.splitOnP fun c => !c.isLabel).filter fun run => !run.isEmpty

/-- The runs with one space between neighbours. -/
def join (rs : List Text) : Text := [space].intercalate rs

end Label

end OutlineChart
