import OutlineChart.Proofs.Flowchart.Declared
import OutlineChart.Proofs.Outline.Decoding
import Mathlib.Data.List.Chain

/-! # No text of an outline becomes syntax

Whatever an outline says, its Mermaid text is a direction line with step lines and edge lines under
it, in an order in which every step is declared before it is used.  What is taken from the outline
stands in labels only, and these hold words of letters, digits and hyphens with single spaces
between them.
-/

namespace OutlineChart

open CodePoint

/-! ## Labels -/

theorem CodePoint.value_lt_of_isLabel {c : CodePoint} (h : c.isLabel = true) : c.value < 0x80 := by
  simp only [isLabel, labelRanges, isIn_cons, isIn_nil, Bool.or_false, Bool.or_eq_true,
    Bool.and_eq_true, decide_eq_true_eq] at h
  omega

namespace Label

/-- Letters, digits, hyphens, and single spaces that stand inside. -/
structure IsClean (label : Text) : Prop where
  chars : ∀ c ∈ label, c.isLabel = true ∨ c = space
  head_ne : label.head? ≠ some space
  last_ne : label.getLast? ≠ some space
  no_double : ¬ [space, space] <:+: label

theorem space_notMem {run : Text} (h : ∀ c ∈ run, c.isLabel = true) : space ∉ run := by
  intro hmem
  have hspace := h space hmem
  rw [isLabel_space] at hspace
  exact Bool.false_ne_true hspace

theorem isClean_of_isLabel {run : Text} (h : ∀ c ∈ run, c.isLabel = true) : IsClean run where
  chars := fun c hc => Or.inl (h c hc)
  head_ne := fun hhead => space_notMem h (List.mem_of_head? hhead)
  last_ne := fun hlast => space_notMem h (List.mem_of_getLast? hlast)
  no_double := fun hdouble => space_notMem h (hdouble.subset List.mem_cons_self)

theorem no_double_iff {label : Text} : ¬ [space, space] <:+: label ↔
    label.IsChain fun c d => ¬ (c = space ∧ d = space) := by
  rw [List.isChain_iff_forall_rel_of_append_cons_cons]
  constructor
  · rintro hno c d before after rfl ⟨rfl, rfl⟩
    exact hno ⟨before, after, by simp⟩
  · rintro hchain ⟨before, after, rfl⟩
    have hsplit : before ++ [space, space] ++ after = before ++ space :: space :: after := by simp
    exact hchain hsplit ⟨rfl, rfl⟩

theorem IsClean.cons_run {run t : Text} (hrun : ∀ c ∈ run, c.isLabel = true) (hne : run ≠ [])
    (ht : IsClean t) (htne : t ≠ []) : IsClean (run ++ space :: t) where
  chars := by
    intro c hc
    rcases List.mem_append.1 hc with hc | hc
    · exact Or.inl (hrun c hc)
    · rcases List.mem_cons.1 hc with rfl | hc
      · exact Or.inr rfl
      · exact ht.chars c hc
  head_ne := by
    rw [List.head?_append_of_ne_nil _ hne]
    exact (isClean_of_isLabel hrun).head_ne
  last_ne := by
    rw [List.getLast?_append_of_ne_nil _ (List.cons_ne_nil _ _),
      List.getLast?_cons_of_ne_nil htne]
    exact ht.last_ne
  no_double := by
    rw [no_double_iff]
    have hleft := no_double_iff.1 (isClean_of_isLabel hrun).no_double
    have hright := no_double_iff.1 ht.no_double
    refine hleft.append (hright.cons ?_) ?_
    · -- the space is followed by what a clean text begins with
      rintro c hc ⟨-, rfl⟩
      exact ht.head_ne hc
    · rintro c hc d - ⟨rfl, -⟩
      exact (isClean_of_isLabel hrun).last_ne hc

theorem isClean_join {rs : List Text}
    (hrs : ∀ run ∈ rs, run ≠ [] ∧ ∀ c ∈ run, c.isLabel = true) : IsClean (join rs) := by
  induction rs with
  | nil => exact isClean_of_isLabel (by simp)
  | cons run rs ih =>
      obtain ⟨hne, hrun⟩ := hrs run List.mem_cons_self
      have hrest := ih fun run' hrun' => hrs run' (List.mem_cons_of_mem _ hrun')
      cases rs with
      | nil => simpa [join] using isClean_of_isLabel hrun
      | cons next rs =>
          have hnext : join (next :: rs) ≠ [] :=
            join_ne_nil (hrs next (List.mem_cons_of_mem _ List.mem_cons_self)).1 rs
          rw [join_cons_of_ne_nil run (List.cons_ne_nil _ _)]
          exact IsClean.cons_run hrun hne hrest hnext

theorem isClean_ofText (t : Text) : IsClean (ofText t) := by
  rw [ofText_eq_join_runs]
  exact isClean_join fun run hrun => ⟨ne_nil_of_mem_runs hrun, isLabel_of_mem_runs hrun⟩

end Label

/-! ## Lines -/

namespace Mermaid

/-- A line declares a step: the id, and a clean label in brackets and quotes. -/
def Declares (id line : Text) : Prop :=
  ∃ label, Label.IsClean label ∧ line = id ++ opening ++ label ++ closing

/-- What a line under the direction line may be, given the lines between the two. -/
inductive LineFollows (before : List Text) : Text → Prop
  | node {line : Text} (tier : Tier) (index : Nat) :
      Declares (tier.stepId index) line → LineFollows before line
  /-- An edge stands right under its target, and its source is declared further up. -/
  | edge {earlier : List Text} {source target : Text} (tier : Tier) (i j : Nat) :
      before = earlier ++ [target] → Declares (tier.stepId j) target →
      source ∈ earlier → Declares (Tier.primary.stepId i) source →
      LineFollows before (Tier.primary.stepId i ++ arrow ++ tier.stepId j)

/-- The code points that diagrams are written with besides those of labels. -/
def marks : Text := Text.ofString " []\">\n"

theorem Statement.Plain.mem_line {s : Statement} (h : s.Plain) {c : CodePoint} (hc : c ∈ s.line) :
    c.isLabel = true ∨ c ∈ marks := by
  have hspace : space ∈ marks := by decide
  have hopening : ∀ d ∈ Text.ofString "[\"", d ∈ marks := by decide
  have hclosing : ∀ d ∈ Text.ofString "\"]", d ∈ marks := by decide
  have harrow : ∀ d ∈ Text.ofString " --> ", d.isLabel = true ∨ d ∈ marks := by decide
  cases h with
  | node tier index hlabel =>
      simp only [Statement.line, nodeLine, List.mem_append] at hc
      rcases hc with ((hid | hopen) | hlab) | hclose
      · exact Or.inl (Tier.isLabel_of_mem_stepId hid)
      · exact Or.inr (hopening c hopen)
      · rcases hlabel c hlab with hkept | rfl
        · exact Or.inl hkept
        · exact Or.inr hspace
      · exact Or.inr (hclosing c hclose)
  | edge source target i j =>
      simp only [Statement.line, edgeLine, List.mem_append] at hc
      rcases hc with (hsource | harr) | htarget
      · exact Or.inl (Tier.isLabel_of_mem_stepId hsource)
      · exact harrow c harr
      · exact Or.inl (Tier.isLabel_of_mem_stepId htarget)

end Mermaid

namespace Outline
open Mermaid

theorem declares_of_mem_nodes {t : Text} {step : Step} (h : step ∈ (parse t).nodes) :
    ∃ tier index, step.id = tier.stepId index ∧ Declares step.id (nodeLine step) ∧
      step.tier = tier := by
  obtain ⟨tier, index, body, _, rfl⟩ := (sound_parse t).opened step h
  exact ⟨tier, index, rfl, ⟨Label.ofText body, Label.isClean_ofText body, rfl⟩, rfl⟩

theorem lineFollows_of_split {t : Text} {before after : List Text} {line : Text}
    (h : (parse t).statements.map Statement.line = before ++ line :: after) :
    LineFollows before line := by
  -- a split of the lines comes from a split of the statements
  obtain ⟨first, rest, hsplit, rfl, hrest⟩ := List.map_eq_append_iff.1 h
  obtain ⟨s, last, rfl, rfl, -⟩ := List.map_eq_cons_iff.1 hrest
  have hmem : ∀ step, .node step ∈ first ++ [s] → step ∈ (parse t).nodes := by
    intro step hstep
    refine Graph.node_mem_statements.1 ?_
    rw [hsplit]
    simp only [List.mem_append, List.mem_cons, List.not_mem_nil, or_false] at hstep ⊢
    exact hstep.imp_right Or.inl
  cases (grown_parse t).inOrder first s last hsplit with
  | node step =>
      obtain ⟨tier, index, hid, hdeclares, -⟩ := declares_of_mem_nodes (hmem step (by simp))
      exact .node tier index (hid ▸ hdeclares)
  | @edge earlier source target hfirst hsource hprimary =>
      obtain ⟨tier, i, hid, hdeclares, htier⟩ :=
        declares_of_mem_nodes (hmem source (by simp [hfirst, hsource]))
      obtain ⟨tier', j, hid', hdeclares', -⟩ :=
        declares_of_mem_nodes (hmem target (by simp [hfirst]))
      obtain rfl : tier = .primary := htier.symm.trans hprimary
      rw [hid] at hdeclares
      rw [hid'] at hdeclares'
      have hline : (Statement.edge ⟨source.id, target.id⟩).line =
          Tier.primary.stepId i ++ arrow ++ tier'.stepId j := by
        rw [← hid, ← hid']
        rfl
      rw [hline, hfirst, List.map_append]
      exact .edge tier' i j rfl hdeclares' (List.mem_map_of_mem hsource) hdeclares

theorem mem_toMermaid {t : Text} {c : CodePoint} (h : c ∈ toMermaid t) :
    c.isLabel = true ∨ c ∈ marks := by
  rw [toMermaid, Graph.mermaid, Graph.mermaidLines_eq] at h
  obtain ⟨line, hline, hc⟩ := List.mem_flatMap.1 h
  rcases List.mem_append.1 hc with hc | hc
  · rcases List.mem_cons.1 hline with rfl | hline
    · have hdirective : ∀ d ∈ directive, d.isLabel = true ∨ d ∈ marks := by decide
      exact hdirective c hc
    · obtain ⟨s, hs, rfl⟩ := List.mem_map.1 hline
      exact (plain_of_mem_statements t s hs).mem_line hc
  · rw [List.mem_singleton.1 hc]
    exact Or.inr (by decide)

/-- A text of code points below 0x80 is one of ASCII characters. -/
theorem exists_ofChars {t : Text} (h : ∀ c ∈ t, c.value < 0x80) :
    ∃ cs, t = Text.ofChars cs ∧ ∀ c ∈ cs, c.toNat < 0x80 := by
  induction t with
  | nil => exact ⟨[], rfl, by simp⟩
  | cons c t ih =>
      obtain ⟨cs, rfl, hascii⟩ := ih fun c' hc' => h c' (List.mem_cons_of_mem _ hc')
      have hc : c.value < 0x80 := h c List.mem_cons_self
      cases c with
      | char d => exact ⟨d :: cs, rfl, List.forall_mem_cons.2 ⟨hc, hascii⟩⟩
      | half unit =>
          rw [CodePoint.value_half] at hc
          omega

/-- A diagram is ASCII, whatever its outline holds. -/
theorem exists_toMermaid_eq (t : Text) :
    ∃ cs, toMermaid t = Text.ofChars cs ∧ ∀ c ∈ cs, c.toNat < 0x80 := by
  apply exists_ofChars
  intro c hc
  rcases mem_toMermaid hc with hlabel | hmark
  · exact CodePoint.value_lt_of_isLabel hlabel
  · have hmarks : ∀ d ∈ marks, d.value < 0x80 := by decide
    exact hmarks c hmark

/-- The Mermaid text of any outline is the direction line and under it one line for each step and
each edge, every one of which may stand where it stands; and it is ASCII without `<`, `&` and
carriage returns. -/
theorem toMermaid_no_injection (t : Text) :
    (∃ ls : List Text, toMermaid t = Text.ofLines (directive :: ls) ∧
      (∀ line ∈ ls, newline ∉ line) ∧
      (∀ before line after, ls = before ++ line :: after → LineFollows before line) ∧
      (directive :: ls).length = 1 + (parse t).nodes.length + (parse t).edges.length) ∧
    ∀ c ∈ toMermaid t, c.value < 0x80 ∧ c ≠ char '<' ∧ c ≠ char '&' ∧ c ≠ char '\r' := by
  refine ⟨⟨(parse t).statements.map Statement.line, ?_, ?_, ?_, ?_⟩, ?_⟩
  · rw [toMermaid, Graph.mermaid, Graph.mermaidLines_eq]
  · intro line hline
    obtain ⟨s, hs, rfl⟩ := List.mem_map.1 hline
    exact newline_notMem_line (plain_of_mem_statements t s hs)
  · intro before line after hsplit
    exact lineFollows_of_split hsplit
  · rw [List.length_cons, List.length_map, (grown_parse t).length_statements]
    omega
  · intro c hc
    rcases mem_toMermaid hc with hlabel | hmark
    · refine ⟨value_lt_of_isLabel hlabel, ?_, ?_, ?_⟩
      all_goals
        rintro rfl
        exact absurd hlabel (by decide)
    · have hmarks : ∀ d ∈ marks,
          d.value < 0x80 ∧ d ≠ char '<' ∧ d ≠ char '&' ∧ d ≠ char '\r' := by decide
      exact hmarks c hmark

end Outline

end OutlineChart
