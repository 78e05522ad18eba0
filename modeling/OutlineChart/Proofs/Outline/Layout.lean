import OutlineChart.Outline.Parse
import OutlineChart.Proofs.Outline.Grammar
import OutlineChart.Proofs.Outline.Runs
import Mathlib.Logic.Relation

/-! # Layout

How an outline is laid out makes no difference to what it says: neither the whitespace around its
lines and behind their marks, nor blank lines, nor the numbers that stand in front of its steps, nor
which characters separate the words of a label.  All that counts of a line is whether it opens a
primary step, a secondary one or none, and the words behind its mark.
-/

namespace OutlineChart

namespace Line
open CodePoint

/-! ## What a line says -/

/-- What is read of a trimmed line, with a label in place of the body. -/
def labelled (line : Text) : Line :=
  match read line with
  | .primary body => .primary (Label.ofText body)
  | .secondary body => .secondary (Label.ofText body)
  | .other => .other

/-- What a line says before it is trimmed; a blank one says nothing. -/
def meaning? (line : Text) : Option Line :=
  if (trim line).isEmpty then none else some (labelled (trim line))

theorem meaning?_congr {line line' : Text} (h : trim line = trim line') :
    meaning? line = meaning? line' := by
  unfold meaning?
  rw [h]

theorem meaning?_of_margin {line : Text} (h : ∀ c ∈ line, c.isMargin = true) :
    meaning? line = none := by
  have hempty : trim line = [] := Text.trim_eq_nil_iff.2 h
  unfold meaning?
  rw [hempty]
  rfl

def IsNumber (digits : Text) : Prop := digits ≠ [] ∧ ∀ c ∈ digits, c.isDigit = true

/-- Opens a line of a tier, with whitespace and byte-order marks in front of it. -/
inductive Mark : Tier → Text → Prop
  | numbered (front digits : Text) : (∀ c ∈ front, c.isMargin = true) → IsNumber digits →
      Mark .primary (front ++ digits ++ [period])
  | dashed (front : Text) : (∀ c ∈ front, c.isMargin = true) → Mark .secondary (front ++ [dash])

/-- A line of a tier with a label. -/
def ofLabel (label : Text) : Tier → Line
  | .primary => .primary label
  | .secondary => .secondary label

/-- What is trimmed off behind a mark are no words. -/
theorem runs_trimRight_isMargin (rest : Text) :
    Label.runs (Text.trimRight isMargin rest) = Label.runs rest := by
  obtain ⟨back, hback, hall⟩ := Text.exists_trimRight_append isMargin rest
  have hnone : ∀ c ∈ back, c.isLabel = false := fun c hc =>
    isLabel_of_isMargin (List.all_eq_true.1 hall c hc)
  have hruns := Label.runs_append_of_not_isLabel hnone (Text.trimRight isMargin rest)
  rw [← hback] at hruns
  exact hruns.symm

/-- Trimming a line that opens a step leaves its mark without what stands in front of it. -/
theorem trim_mark_append {front core : Text} {c : CodePoint}
    (hfront : ∀ c ∈ front, c.isMargin = true)
    (hcore : ∀ d ∈ (core ++ [c]).head?, d.isMargin = false) (hc : c.isMargin = false)
    (rest : Text) :
    trim (front ++ core ++ c :: rest) = core ++ c :: Text.trimRight isMargin rest := by
  have hkept : (core ++ c :: rest).dropWhile isMargin = core ++ c :: rest := by
    cases core with
    | nil => exact List.dropWhile_cons_of_neg (by simp [hc])
    | cons d core => exact List.dropWhile_cons_of_neg (by simp [hcore d rfl])
  rw [List.append_assoc, trim, Text.trim_append_left (List.all_eq_true.2 hfront),
    Text.trim_eq_trimRight, hkept, Text.trimRight_append_cons_of_stays hc]

theorem isMargin_of_mem_head? {digits : Text} {mark c : CodePoint}
    (hdigits : ∀ c ∈ digits, c.isDigit = true) (hmark : mark.isMargin = false)
    (h : c ∈ (digits ++ [mark]).head?) : c.isMargin = false := by
  have hmem : c ∈ digits ++ [mark] := List.mem_of_mem_head? h
  rcases List.mem_append.1 hmem with hdigit | hlast
  · exact isMargin_of_isLabel (isLabel_of_isDigit (hdigits c hdigit))
  · rw [List.mem_singleton.1 hlast]
    exact hmark

/-- What a line says is what its trimmed text says. -/
theorem meaning?_of_labelled {line trimmed : Text} {said : Line} (htrim : trim line = trimmed)
    (hne : trimmed ≠ []) (hsaid : labelled trimmed = said) : meaning? line = some said := by
  unfold meaning?
  rw [htrim, if_neg (by simpa using hne), hsaid]

/-- Behind a mark only the words count. -/
theorem Mark.meaning?_append {tier : Tier} {mark : Text} (h : Mark tier mark) (rest : Text) :
    meaning? (mark ++ rest) = some (ofLabel (Label.join (Label.runs rest)) tier) := by
  have hlabel : Label.ofText ((Text.trimRight isMargin rest).dropWhile isBlank) =
      Label.join (Label.runs rest) := by
    rw [Label.ofText_dropWhile_isBlank, Label.ofText_eq_join_runs, runs_trimRight_isMargin]
  cases h with
  | numbered front digits hfront hnumber =>
      have hperiod : period.isMargin = false := by decide
      have hsplit : front ++ digits ++ [period] ++ rest = front ++ digits ++ period :: rest := by
        simp
      have hread := read_of_numbered
        ⟨digits, hnumber.1, List.all_eq_true.2 hnumber.2,
          (rfl : digits ++ period :: Text.trimRight isMargin rest = _)⟩
      rw [hsplit]
      refine meaning?_of_labelled (trim_mark_append hfront ?_ hperiod rest) (by simp) ?_
      · intro c hc
        exact isMargin_of_mem_head? hnumber.2 hperiod hc
      · rw [labelled, hread]
        exact congrArg Line.primary hlabel
  | dashed front hfront =>
      have hdash : dash.isMargin = false := by decide
      have hsplit : front ++ [dash] ++ rest = front ++ [] ++ dash :: rest := by simp
      have hread := read_of_dashed (rfl : dash :: Text.trimRight isMargin rest = _)
      rw [hsplit]
      refine meaning?_of_labelled (trim_mark_append hfront ?_ hdash rest) (by simp) ?_
      · intro c hc
        exact @isMargin_of_mem_head? [] _ _ (fun _ h => absurd h List.not_mem_nil) hdash hc
      · rw [labelled, List.nil_append, hread]
        exact congrArg Line.secondary hlabel

/-! ## Laying out a line anew -/

/-- One line written in two ways that say the same. -/
inductive Relaid : Text → Text → Prop
  /-- Other whitespace and byte-order marks at the ends. -/
  | ends (front back front' back' line : Text) : (∀ c ∈ front ++ back, c.isMargin = true) →
      (∀ c ∈ front' ++ back', c.isMargin = true) →
      Relaid (front ++ line ++ back) (front' ++ line ++ back')
  /-- Another number in front of a primary step. -/
  | number (front digits digits' rest : Text) : (∀ c ∈ front, c.isMargin = true) →
      IsNumber digits → IsNumber digits' →
      Relaid (front ++ digits ++ [period] ++ rest) (front ++ digits' ++ [period] ++ rest)
  /-- Whitespace behind the mark. -/
  | gap {tier : Tier} {mark : Text} (blanks rest : Text) : Mark tier mark →
      (∀ c ∈ blanks, c.isBlank = true) → Relaid (mark ++ rest) (mark ++ (blanks ++ rest))
  /-- Another code point between two words behind the mark. -/
  | separator {tier : Tier} {mark : Text} (before after : Text) {c c' : CodePoint} :
      Mark tier mark → c.isLabel = false → c'.isLabel = false →
      Relaid (mark ++ (before ++ c :: after)) (mark ++ (before ++ c' :: after))

theorem trim_between {front back : Text} (h : ∀ c ∈ front ++ back, c.isMargin = true)
    (line : Text) : trim (front ++ line ++ back) = trim line := by
  obtain ⟨hfront, hback⟩ := List.forall_mem_append.1 h
  exact Text.trim_around (List.all_eq_true.2 hfront) (List.all_eq_true.2 hback) line

theorem Relaid.meaning?_eq {line line' : Text} (h : Relaid line line') :
    meaning? line = meaning? line' := by
  cases h with
  | ends front back front' back' line hold hnew =>
      exact meaning?_congr ((trim_between hold _).trans (trim_between hnew _).symm)
  | number front digits digits' rest hfront hold hnew =>
      rw [(Mark.numbered _ _ hfront hold).meaning?_append,
        (Mark.numbered _ _ hfront hnew).meaning?_append]
  | gap blanks rest hmark hblanks =>
      have hnone := fun c hc => isLabel_of_isBlank (hblanks c hc)
      rw [hmark.meaning?_append, hmark.meaning?_append, Label.runs_of_not_isLabel_append hnone]
  | separator before after hmark hc hc' =>
      rw [hmark.meaning?_append, hmark.meaning?_append, Label.runs_append_cons_of_not_isLabel hc,
        Label.runs_append_cons_of_not_isLabel hc']

end Line

namespace Outline
open CodePoint

/-! ## Laying out an outline anew -/

/-- One step in the layout of an outline. -/
inductive Relaid (t t' : Text) : Prop
  /-- A line laid out anew. -/
  | line (before after : List Text) {line line' : Text} : t.lines = before ++ line :: after →
      t'.lines = before ++ line' :: after → Line.Relaid line line' → Relaid t t'
  /-- Blank lines put in between. -/
  | blank (before blanks after : List Text) : t.lines = before ++ after →
      t'.lines = before ++ blanks ++ after → (∀ line ∈ blanks, ∀ c ∈ line, c.isMargin = true) →
      Relaid t t'
  /-- A carriage return in front of a line feed. -/
  | carriageReturn (before after : Text) : t = before ++ newline :: after →
      t' = before ++ char '\r' :: newline :: after → Relaid t t'

/-- What the lines of an outline say, without the blank ones. -/
def meanings (t : Text) : List Line := t.lines.filterMap Line.meaning?

theorem map_labelled_lines (t : Text) : (lines t).map Line.labelled = meanings t := by
  unfold lines meanings
  induction t.lines with
  | nil => rfl
  | cons line ls ih =>
      rw [List.map_cons, List.filter_cons, List.filterMap_cons, ← ih]
      unfold Line.meaning?
      cases hblank : (Line.trim line).isEmpty <;> rfl

/-- Outlines that differ in one line mean the same if that line does. -/
theorem meanings_eq_of_line {t t' line line' : Text} {before after : List Text}
    (hold : t.lines = before ++ line :: after) (hnew : t'.lines = before ++ line' :: after)
    (hline : Line.meaning? line = Line.meaning? line') : meanings t = meanings t' := by
  rw [meanings, meanings, hold, hnew, List.filterMap_append, List.filterMap_append,
    List.filterMap_cons, List.filterMap_cons, hline]

theorem Relaid.meanings_eq {t t' : Text} (h : Relaid t t') : meanings t = meanings t' := by
  cases h with
  | line before after hold hnew hline => exact meanings_eq_of_line hold hnew hline.meaning?_eq
  | blank before blanks after hold hnew hblanks =>
      have hnone : blanks.filterMap Line.meaning? = [] := by
        refine List.filterMap_eq_nil_iff.2 fun line hline => ?_
        exact Line.meaning?_of_margin (hblanks line hline)
      rw [meanings, meanings, hold, hnew, List.filterMap_append, List.filterMap_append,
        List.filterMap_append, hnone, List.append_nil]
  | carriageReturn before after hold hnew =>
      -- the return becomes the end of the line in front of the feed
      have hreturn : char '\r' ≠ newline := by decide
      obtain ⟨earlier, last, hlast, hlonger⟩ := Text.exists_lines_concat hreturn before
      have htrim : Line.trim (last ++ [char '\r']) = Line.trim last :=
        Text.trim_append_right (by decide) last
      have hsplit : t' = before ++ [char '\r'] ++ newline :: after := by simp [hnew]
      have hlines : t.lines = earlier ++ last :: after.lines := by
        rw [hold, Text.lines_append_newline, hlast, List.append_assoc, List.singleton_append]
      have hlines' : t'.lines = earlier ++ (last ++ [char '\r']) :: after.lines := by
        rw [hsplit, Text.lines_append_newline, hlonger, List.append_assoc, List.singleton_append]
      exact meanings_eq_of_line hlines hlines' (Line.meaning?_congr htrim.symm)

/-! ## Reading what is said -/

namespace Progress

/-- Two lines that say the same do the same to a parse. -/
theorem advance_congr (p : Progress) {line line' : Text}
    (h : Line.labelled line = Line.labelled line') : p.advance line = p.advance line' := by
  unfold Line.labelled at h
  unfold advance
  cases hread : Line.read line <;> cases hread' : Line.read line' <;>
    simp only [hread, hread', reduceCtorEq, Line.primary.injEq, Line.secondary.injEq] at h ⊢
  · rw [h]
  · rw [h]

theorem advanceAll_congr (p : Progress) {ls ls' : List Text}
    (h : ls.map Line.labelled = ls'.map Line.labelled) : p.advanceAll ls = p.advanceAll ls' := by
  induction ls generalizing p ls' with
  | nil =>
      have hnil : ls' = [] := List.map_eq_nil_iff.1 h.symm
      rw [hnil]
  | cons line ls ih =>
      obtain ⟨line', ls', rfl, hline, hrest⟩ := List.map_eq_cons_iff.1 h.symm
      calc p.advanceAll (line :: ls)
          = (p.advance line).advanceAll ls := rfl
        _ = (p.advance line).advanceAll ls' := ih (p.advance line) hrest.symm
        _ = (p.advance line').advanceAll ls' := by rw [advance_congr p hline.symm]

end Progress

/-- What its lines say is all that counts of an outline. -/
theorem parse_eq_of_meanings_eq {t t' : Text} (h : meanings t = meanings t') :
    parse t = parse t' := by
  rw [← map_labelled_lines, ← map_labelled_lines] at h
  exact congrArg Progress.graph (Progress.start.advanceAll_congr h)

/-- However an outline is laid out anew, in any number of steps and back, it parses to the same
graph and compiles to the same text. -/
theorem parse_eq_of_relaid {t t' : Text} (h : Relation.EqvGen Relaid t t') :
    parse t = parse t' ∧ toMermaid t = toMermaid t' := by
  have hmeanings : meanings t = meanings t' := by
    induction h with
    | rel _ _ hstep => exact hstep.meanings_eq
    | refl _ => rfl
    | symm _ _ _ ih => exact ih.symm
    | trans _ _ _ _ _ ihfirst ihsecond => exact ihfirst.trans ihsecond
  have hparse : parse t = parse t' := parse_eq_of_meanings_eq hmeanings
  exact ⟨hparse, congrArg Graph.mermaid hparse⟩

/-- A byte-order mark goes, the number changes, a blank line comes in, a carriage return, another
separator and a tab behind the dash. -/
theorem parse_eq_of_relaid_in_six_steps :
    Relation.EqvGen Relaid (Text.ofString "\uFEFF 1. a b\n- c")
        (Text.ofString "12. a_b\r\n \n-\t c") ∧
      parse (Text.ofString "\uFEFF 1. a b\n- c") =
        parse (Text.ofString "12. a_b\r\n \n-\t c") ∧
      toMermaid (Text.ofString "\uFEFF 1. a b\n- c") =
        toMermaid (Text.ofString "12. a_b\r\n \n-\t c") := by
  have hempty : ∀ c ∈ ([] : Text), c.isMargin = true := fun _ h => absurd h List.not_mem_nil
  have hnumber : Line.Mark .primary (Text.ofString "12.") :=
    .numbered [] (Text.ofString "12") hempty (by unfold Line.IsNumber; decide)
  have hdash : Line.Mark .secondary (Text.ofString "-") := .dashed [] hempty
  have hunderscore : (char '_').isLabel = false := by decide
  have ends : Relaid (Text.ofString "\uFEFF 1. a b\n- c") (Text.ofString "1. a b\n- c") :=
    .line [] [Text.ofString "- c"] (by decide) (by decide)
      (.ends (Text.ofString "\uFEFF ") [] [] [] (Text.ofString "1. a b") (by decide) (by decide))
  have number : Relaid (Text.ofString "1. a b\n- c") (Text.ofString "12. a b\n- c") :=
    .line [] [Text.ofString "- c"] (by decide) (by decide)
      (.number [] (Text.ofString "1") (Text.ofString "12") (Text.ofString " a b") hempty
        (by unfold Line.IsNumber; decide) (by unfold Line.IsNumber; decide))
  have blank : Relaid (Text.ofString "12. a b\n- c") (Text.ofString "12. a b\n \n- c") :=
    .blank [Text.ofString "12. a b"] [Text.ofString " "] [Text.ofString "- c"] (by decide)
      (by decide) (by decide)
  have carriageReturn :
      Relaid (Text.ofString "12. a b\n \n- c") (Text.ofString "12. a b\r\n \n- c") :=
    .carriageReturn (Text.ofString "12. a b") (Text.ofString " \n- c") rfl rfl
  have separator :
      Relaid (Text.ofString "12. a b\r\n \n- c") (Text.ofString "12. a_b\r\n \n- c") :=
    .line [] [Text.ofString " ", Text.ofString "- c"] (by decide) (by decide)
      (.separator (Text.ofString " a") (Text.ofString "b\r") hnumber isLabel_space hunderscore)
  have gap :
      Relaid (Text.ofString "12. a_b\r\n \n- c") (Text.ofString "12. a_b\r\n \n-\t c") :=
    .line [Text.ofString "12. a_b\r", Text.ofString " "] [] (by decide) (by decide)
      (.gap (Text.ofString "\t") (Text.ofString " c") hdash (by decide))
  have hrelaid := (Relation.EqvGen.rel _ _ ends).trans _ _ _
    ((Relation.EqvGen.rel _ _ number).trans _ _ _
      ((Relation.EqvGen.rel _ _ blank).trans _ _ _
        ((Relation.EqvGen.rel _ _ carriageReturn).trans _ _ _
          ((Relation.EqvGen.rel _ _ separator).trans _ _ _ (Relation.EqvGen.rel _ _ gap)))))
  exact ⟨hrelaid, parse_eq_of_relaid hrelaid⟩

end Outline

end OutlineChart
