import OutlineChart.Outline.Line
import OutlineChart.Proofs.Text.Pieces
import OutlineChart.Proofs.Text.Trim
import Mathlib.Data.List.Forall2

/-! # The grammar of lines

What counts as a line, and what makes a line numbered or dashed, said without a scanner.  The reader
of lines accepts exactly this grammar; it only drops the whitespace behind a mark.
-/

namespace OutlineChart

namespace Line
open CodePoint

/-! ## Marks -/

/-- One or more digits, a period and a rest. -/
def Numbered (line rest : Text) : Prop :=
  ∃ digits, digits ≠ [] ∧ digits.all isDigit = true ∧ line = digits ++ period :: rest

/-- A dash and a rest. -/
def Dashed (line rest : Text) : Prop := line = dash :: rest

theorem read_of_numbered {line rest : Text} (h : Numbered line rest) :
    read line = .primary (rest.dropWhile isBlank) := by
  obtain ⟨digits, hne, hall, rfl⟩ := h
  have hdigits : ∀ c ∈ digits, isDigit c = true := List.all_eq_true.1 hall
  have hperiod : isDigit period = false := by decide
  obtain ⟨first, others, rfl⟩ := List.exists_cons_of_ne_nil hne
  unfold read
  rw [List.takeWhile_append_of_pos hdigits, List.dropWhile_append_of_pos hdigits,
    List.takeWhile_cons_of_neg (by simp [hperiod]), List.dropWhile_cons_of_neg (by simp [hperiod])]
  simp

theorem read_of_dashed {line rest : Text} (h : Dashed line rest) :
    read line = .secondary (rest.dropWhile isBlank) := by
  subst h
  have hdash : isDigit dash = false := by decide
  unfold read
  rw [List.takeWhile_cons_of_neg (by simp [hdash]), List.dropWhile_cons_of_neg (by simp [hdash])]
  simp

theorem read_eq_primary_iff {line body : Text} :
    read line = .primary body ↔ ∃ rest, Numbered line rest ∧ body = rest.dropWhile isBlank := by
  constructor
  · intro h
    have hsplit := List.takeWhile_append_dropWhile (p := isDigit) (l := line)
    have hall := List.all_takeWhile (p := isDigit) (l := line)
    unfold read at h
    split at h
    · next first others mark rest hdigits hrest =>
        split at h
        · next hmark =>
            rw [hdigits, hrest, hmark] at hsplit
            rw [hdigits] at hall
            exact ⟨rest, ⟨first :: others, List.cons_ne_nil _ _, hall, hsplit.symm⟩,
              (Line.primary.inj h).symm⟩
        · cases h
    · split at h <;> cases h
    · cases h
  · intro h
    obtain ⟨rest, hline, rfl⟩ := h
    exact read_of_numbered hline

theorem read_eq_secondary_iff {line body : Text} :
    read line = .secondary body ↔ ∃ rest, Dashed line rest ∧ body = rest.dropWhile isBlank := by
  constructor
  · intro h
    have hsplit := List.takeWhile_append_dropWhile (p := isDigit) (l := line)
    unfold read at h
    split at h
    · split at h <;> cases h
    · next mark rest hdigits hrest =>
        split at h
        · next hmark =>
            rw [hdigits, hrest, hmark] at hsplit
            exact ⟨rest, hsplit.symm, (Line.secondary.inj h).symm⟩
        · cases h
    · cases h
  · intro h
    obtain ⟨rest, hline, rfl⟩ := h
    exact read_of_dashed hline

def IsNumbered (line : Text) : Prop := ∃ rest, Numbered line rest

def IsDashed (line : Text) : Prop := ∃ rest, Dashed line rest

theorem isNumbered_iff {line : Text} : IsNumbered line ↔ ∃ body, read line = .primary body := by
  constructor
  · intro h
    obtain ⟨rest, hline⟩ := h
    exact ⟨_, read_of_numbered hline⟩
  · intro h
    obtain ⟨body, hread⟩ := h
    obtain ⟨rest, hline, _⟩ := read_eq_primary_iff.1 hread
    exact ⟨rest, hline⟩

theorem isDashed_iff {line : Text} : IsDashed line ↔ ∃ body, read line = .secondary body := by
  constructor
  · intro h
    obtain ⟨rest, hline⟩ := h
    exact ⟨_, read_of_dashed hline⟩
  · intro h
    obtain ⟨body, hread⟩ := h
    obtain ⟨rest, hline, _⟩ := read_eq_secondary_iff.1 hread
    exact ⟨rest, hline⟩

instance : DecidablePred IsNumbered := fun line =>
  match h : read line with
  | .primary body => isTrue (isNumbered_iff.2 ⟨body, h⟩)
  | .secondary _ | .other => isFalse (by simp [isNumbered_iff, h])

instance : DecidablePred IsDashed := fun line =>
  match h : read line with
  | .secondary body => isTrue (isDashed_iff.2 ⟨body, h⟩)
  | .primary _ | .other => isFalse (by simp [isDashed_iff, h])

end Line

namespace Outline
open CodePoint

/-! ## Lines -/

/-- `ls` are the pieces of a text between line feeds, without whitespace and byte-order marks at
their ends, and without the empty ones among them. -/
def IsLines (t : Text) (ls : List Text) : Prop :=
  ∃ pieces trimmed : List Text, pieces ≠ [] ∧ (∀ piece ∈ pieces, newline ∉ piece) ∧
    t = [newline].intercalate pieces ∧ List.Forall₂ (Text.IsTrim isMargin) pieces trimmed ∧
      ls = trimmed.filter fun line => !line.isEmpty

theorem forall₂_isTrim_iff {pieces trimmed : List Text} :
    List.Forall₂ (Text.IsTrim isMargin) pieces trimmed ↔ trimmed = pieces.map Line.trim := by
  constructor
  · intro h
    induction h with
    | nil => rfl
    | cons hpiece _ ih => rw [List.map_cons, ← ih, Text.isTrim_iff.1 hpiece, Line.trim]
  · intro h
    rw [h, List.forall₂_map_right_iff, List.forall₂_same]
    intro piece _
    exact Text.isTrim_trim isMargin piece

theorem isLines_iff {t : Text} {ls : List Text} : IsLines t ls ↔ ls = lines t := by
  constructor
  · intro h
    obtain ⟨pieces, trimmed, hne, hpieces, rfl, htrimmed, rfl⟩ := h
    rw [lines, Text.lines, List.splitOn_intercalate newline hpieces hne,
      ← forall₂_isTrim_iff.1 htrimmed]
  · intro h
    subst h
    refine ⟨t.lines, t.lines.map Line.trim, List.splitOn_ne_nil _ _, ?_, ?_, ?_, rfl⟩
    · intro piece hpiece
      exact Text.newline_notMem_of_mem_lines hpiece
    · exact (List.intercalate_splitOn newline).symm
    · exact forall₂_isTrim_iff.2 rfl

end Outline

end OutlineChart
