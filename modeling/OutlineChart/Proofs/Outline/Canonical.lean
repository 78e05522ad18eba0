import OutlineChart.Proofs.Outline.NoInjection
import OutlineChart.Proofs.Outline.Steps

/-! # Canonical outlines

A graph that numbers its steps in order and chains them as outlines do is written as an outline with
one line for each number up to the last.  Parsing that outline gives the graph back, and every parse
is such a graph, so these graphs are exactly what outlines say.
-/

namespace OutlineChart

open CodePoint

/-! ## Graphs of outlines -/

def Step.number (step : Step) : Nat :=
  Nat.ofDigitChars 10 ((Text.toChars? (step.id.drop step.tier.word.length)).getD []) 0

theorem Step.number_of_id {step : Step} {i : Nat} (h : step.id = step.tier.stepId i) :
    step.number = i := by
  rw [number, h, Tier.stepId_eq, List.drop_left, Text.ofNat, Text.toChars?_ofChars]
  exact Nat.ofDigitChars_toDigits (by decide) (by decide)

theorem Step.numbers_of_ids {numbers : List Nat} {steps : List Step}
    (h : List.Forall₂ (fun i step => step.id = step.tier.stepId i) numbers steps) :
    numbers = steps.map Step.number := by
  induction h with
  | nil => rfl
  | cons hid _ ih => rw [List.map_cons, number_of_id hid, ← ih]

namespace Graph

/-- Strictly increasing numbers in the ids, a primary step in front, labels that are labels of
themselves, and for each step but the first one edge, from the nearest primary step before it. -/
structure IsOutlined (g : Graph) : Prop where
  numbered : ∃ numbers : List Nat, numbers.Pairwise (· < ·) ∧
    List.Forall₂ (fun i step => step.id = step.tier.stepId i) numbers g.nodes
  root_primary : ∀ root ∈ g.nodes.head?, root.tier = .primary
  labels : ∀ step ∈ g.nodes, Label.ofText step.label = step.label
  edge_at : ∀ k, g.edges[k]? = g.nodes[k + 1]?.bind fun target =>
    (lastPrimary? (g.nodes.take (k + 1))).map fun parent => ⟨parent.id, target.id⟩

/-- The steps determine the edges. -/
theorem IsOutlined.eq_of_nodes {g g' : Graph} (h : IsOutlined g) (h' : IsOutlined g')
    (hnodes : g.nodes = g'.nodes) : g = g' := by
  have hedges : g.edges = g'.edges := by
    refine List.ext_getElem? fun k => ?_
    rw [h.edge_at, h'.edge_at, hnodes]
  cases g
  cases g'
  exact Graph.mk.injEq .. ▸ ⟨hnodes, hedges⟩

end Graph

/-! ## Writing a graph -/

def Tier.mark : Tier → Text
  | .primary => Text.ofString "1."
  | .secondary => Text.ofString "-"

def Step.outlineLine (step : Step) : Text := step.tier.mark ++ space :: step.label

namespace Graph

/-- What stands on a line whose number no step has. -/
def filler : Text := Text.ofString "x"

def lineAt (g : Graph) (i : Nat) : Text :=
  ((g.nodes.find? fun step => step.number = i).map Step.outlineLine).getD filler

theorem lineAt_cases (g : Graph) (i : Nat) :
    (∃ step ∈ g.nodes, step.number = i ∧ g.lineAt i = step.outlineLine) ∨ g.lineAt i = filler := by
  unfold lineAt
  cases hfind : g.nodes.find? fun step => step.number = i with
  | none => exact Or.inr rfl
  | some step =>
      exact Or.inl ⟨step, List.mem_of_find?_eq_some hfind, by simpa using List.find?_some hfind, rfl⟩

/-- How many lines the outline of a graph has: the number of the last step has one. -/
def outlineLength (g : Graph) : Nat := (g.nodes.getLast?.map fun step => step.number + 1).getD 0

/-- A graph as an outline, with a line for each number up to the last. -/
def outline (g : Graph) : Text :=
  [newline].intercalate ((List.range g.outlineLength).map g.lineAt)

end Graph

/-! ## Reading a written line -/

theorem Line.numbered_mark (rest : Text) : Numbered (Tier.primary.mark ++ rest) rest :=
  ⟨Text.ofString "1", by decide, by decide, rfl⟩

theorem Outline.Opens.of_mark {ls : List Text} {i : Nat} {step : Step} {rest : Text}
    (hid : step.id = step.tier.stepId i) (hline : ls[i]? = some (step.tier.mark ++ rest))
    (hlabel : Label.join (Label.runs rest) = step.label)
    (hearlier : step.tier = .secondary → ∃ earlier ∈ ls.take i, Line.IsNumbered earlier) :
    Opens ls i step := by
  obtain ⟨id, tier, label⟩ := step
  obtain rfl : id = tier.stepId i := hid
  obtain rfl : Label.join (Label.runs rest) = label := hlabel
  cases tier with
  | primary => exact .numbered hline (Line.numbered_mark rest)
  | secondary => exact .dashed hline rfl (hearlier rfl)

/-- A line loses the space behind its mark if the label is empty, and nothing otherwise. -/
theorem Step.exists_trim_outlineLine {step : Step} (hlabel : Label.ofText step.label = step.label) :
    ∃ rest, Line.trim step.outlineLine = step.tier.mark ++ rest ∧
      Label.join (Label.runs rest) = step.label := by
  have hhead : ∀ c ∈ step.tier.mark.head?, c.isMargin = false := by
    cases step.tier <;> decide
  have hlast : ∀ c ∈ step.tier.mark.getLast?, c.isMargin = false := by
    cases step.tier <;> decide
  have hne : step.tier.mark ≠ [] := by
    cases step.tier <;> decide
  have hclean : Label.IsClean step.label := hlabel ▸ Label.isClean_ofText step.label
  by_cases hempty : step.label = []
  · refine ⟨[], ?_, hempty.symm⟩
    rw [outlineLine, hempty, Line.trim, Text.trim_append_right (by decide), List.append_nil,
      Text.trim_eq_self hhead hlast]
  · refine ⟨space :: step.label, ?_, ?_⟩
    · refine Text.trim_eq_self ?_ ?_
      · rw [outlineLine, List.head?_append_of_ne_nil _ hne]
        exact hhead
      · intro c hc
        rw [outlineLine, List.getLast?_append_of_ne_nil _ (List.cons_ne_nil _ _),
          List.getLast?_cons_of_ne_nil hempty] at hc
        rcases hclean.chars c (List.mem_of_getLast? hc) with hkept | rfl
        · exact isMargin_of_isLabel hkept
        · exact absurd hc hclean.last_ne
    · rw [Label.runs_cons_of_not_isLabel isLabel_space, ← Label.ofText_eq_join_runs, hlabel]

theorem Step.newline_notMem_outlineLine {step : Step}
    (hlabel : Label.ofText step.label = step.label) : newline ∉ step.outlineLine := by
  intro hmem
  rcases List.mem_append.1 hmem with hmark | hmem
  · revert hmark
    cases step.tier <;> decide
  · rcases List.mem_cons.1 hmem with hspace | hmem
    · exact absurd hspace (by decide)
    · rw [← hlabel] at hmem
      rcases Label.mem_ofText hmem with hkept | hspace
      · exact absurd hkept (by decide)
      · exact absurd hspace (by decide)

namespace Graph.IsOutlined

variable {g : Graph} {step : Step}

/-! ## Numbers -/

theorem numbers_sorted (h : IsOutlined g) : (g.nodes.map Step.number).Pairwise (· < ·) := by
  obtain ⟨numbers, hsorted, hids⟩ := h.numbered
  exact Step.numbers_of_ids hids ▸ hsorted

theorem id_eq (h : IsOutlined g) : ∀ step ∈ g.nodes, step.id = step.tier.stepId step.number := by
  obtain ⟨numbers, -, hids⟩ := h.numbered
  rw [Step.numbers_of_ids hids, List.forall₂_map_left_iff, List.forall₂_same] at hids
  exact hids

theorem find?_number (h : IsOutlined g) (hstep : step ∈ g.nodes) :
    (g.nodes.find? fun known => known.number = step.number) = some step := by
  obtain ⟨found, hfound⟩ : ∃ found,
      (g.nodes.find? fun known => known.number = step.number) = some found := by
    rw [← Option.isSome_iff_exists, List.find?_isSome]
    exact ⟨step, hstep, by simp⟩
  have hnumber : found.number = step.number := by simpa using List.find?_some hfound
  have hnodup : (g.nodes.map Step.number).Nodup := h.numbers_sorted.imp Nat.ne_of_lt
  rw [hfound, List.inj_on_of_nodup_map hnodup (List.mem_of_find?_eq_some hfound) hstep hnumber]

theorem lineAt_number (h : IsOutlined g) (hstep : step ∈ g.nodes) :
    g.lineAt step.number = step.outlineLine := by
  rw [lineAt, h.find?_number hstep]
  rfl

theorem number_lt_outlineLength (h : IsOutlined g) (hstep : step ∈ g.nodes) :
    step.number < g.outlineLength := by
  have hne : g.nodes ≠ [] := List.ne_nil_of_mem hstep
  have hle : step.number ≤ (g.nodes.getLast hne).number := by
    have hsorted : g.nodes.Pairwise fun known later => known.number ≤ later.number :=
      (List.pairwise_map.1 h.numbers_sorted).imp Nat.le_of_lt
    exact hsorted.rel_getLast_of_rel_getLast_getLast hstep (Nat.le_refl _)
  rw [outlineLength, List.getLast?_eq_some_getLast hne]
  exact Nat.lt_succ_of_le hle

/-! ## Lines -/

theorem newline_notMem_lineAt (h : IsOutlined g) (i : Nat) : newline ∉ g.lineAt i := by
  rcases lineAt_cases g i with ⟨step, hstep, -, hline⟩ | hline
  · exact hline ▸ Step.newline_notMem_outlineLine (h.labels step hstep)
  · rw [hline]
    decide

theorem trim_lineAt_ne_nil (h : IsOutlined g) (i : Nat) : Line.trim (g.lineAt i) ≠ [] := by
  rcases lineAt_cases g i with ⟨step, hstep, -, hline⟩ | hline
  · obtain ⟨rest, htrim, -⟩ := Step.exists_trim_outlineLine (h.labels step hstep)
    rw [hline, htrim]
    cases step.tier <;> exact List.cons_ne_nil _ _
  · rw [hline]
    decide

/-- No line of a written graph is lost, not even a filler. -/
theorem lines_outline (h : IsOutlined g) :
    Outline.lines g.outline =
      (List.range g.outlineLength).map fun i => Line.trim (g.lineAt i) := by
  have hkept : ∀ line ∈ (List.range g.outlineLength).map fun i => Line.trim (g.lineAt i),
      (!line.isEmpty) = true := by
    intro line hline
    obtain ⟨i, -, rfl⟩ := List.mem_map.1 hline
    simpa using h.trim_lineAt_ne_nil i
  have hpieces : ∀ line ∈ (List.range g.outlineLength).map g.lineAt, newline ∉ line := by
    intro line hline
    obtain ⟨i, -, rfl⟩ := List.mem_map.1 hline
    exact h.newline_notMem_lineAt i
  by_cases hzero : g.outlineLength = 0
  · rw [outline, hzero]
    rfl
  · have hne : (List.range g.outlineLength).map g.lineAt ≠ [] := by simpa using hzero
    rw [Outline.lines, outline, Text.lines, List.splitOn_intercalate newline hpieces hne,
      List.map_map, ← List.filter_eq_self.2 hkept]
    rfl

theorem getElem?_lines_outline_iff (h : IsOutlined g) {i : Nat} {line : Text} :
    (Outline.lines g.outline)[i]? = some line ↔
      i < g.outlineLength ∧ Line.trim (g.lineAt i) = line := by
  rw [h.lines_outline, List.getElem?_map]
  by_cases hi : i < g.outlineLength
  · simp [hi]
  · rw [List.getElem?_eq_none (by simpa using hi)]
    simp [hi]

/-! ## Steps that are read back -/

theorem getElem?_lines_number (h : IsOutlined g) (hstep : step ∈ g.nodes) :
    ∃ rest, (Outline.lines g.outline)[step.number]? = some (step.tier.mark ++ rest) ∧
      Label.join (Label.runs rest) = step.label := by
  obtain ⟨rest, htrim, hrest⟩ := Step.exists_trim_outlineLine (h.labels step hstep)
  refine ⟨rest, ?_, hrest⟩
  rw [h.getElem?_lines_outline_iff, h.lineAt_number hstep]
  exact ⟨h.number_lt_outlineLength hstep, htrim⟩

/-- The line of the first step is numbered, and it stands before the lines of all others. -/
theorem exists_numbered_before (h : IsOutlined g) (hstep : step ∈ g.nodes)
    (htier : step.tier = .secondary) :
    ∃ earlier ∈ (Outline.lines g.outline).take step.number, Line.IsNumbered earlier := by
  obtain ⟨root, nodes, hnodes⟩ := List.exists_cons_of_ne_nil (List.ne_nil_of_mem hstep)
  have hroot : root ∈ g.nodes := hnodes ▸ List.mem_cons_self
  have hprimary : root.tier = .primary := h.root_primary root (by rw [hnodes]; rfl)
  have hlater : step ∈ nodes := by
    rcases List.mem_cons.1 (hnodes ▸ hstep) with rfl | hlater
    · exact absurd (hprimary.symm.trans htier) (by decide)
    · exact hlater
  have hlt : root.number < step.number := by
    have hsorted := List.pairwise_map.1 h.numbers_sorted
    rw [hnodes] at hsorted
    exact List.rel_of_pairwise_cons hsorted hlater
  obtain ⟨rest, hline, -⟩ := h.getElem?_lines_number hroot
  rw [hprimary] at hline
  rw [← List.getElem?_take_of_lt hlt] at hline
  exact ⟨_, List.mem_of_getElem? hline, rest, Line.numbered_mark rest⟩

theorem opens_number (h : IsOutlined g) (hstep : step ∈ g.nodes) :
    Outline.Opens (Outline.lines g.outline) step.number step := by
  obtain ⟨rest, hline, hlabel⟩ := h.getElem?_lines_number hstep
  exact .of_mark (h.id_eq step hstep) hline hlabel (h.exists_numbered_before hstep)

/-- A filler opens nothing. -/
theorem mem_numbers_of_opens (h : IsOutlined g) {i : Nat}
    (hopens : Outline.Opens (Outline.lines g.outline) i step) :
    i ∈ g.nodes.map Step.number := by
  obtain ⟨line, tier, body, hline, hmark, -⟩ := Outline.Opens.iff_opens?.1 hopens
  obtain ⟨-, htrim⟩ := h.getElem?_lines_outline_iff.1 hline
  rcases lineAt_cases g i with ⟨known, hknown, rfl, -⟩ | hfiller
  · exact List.mem_map_of_mem hknown
  · have hother : Line.read (Line.trim filler) = .other := by decide
    rw [← htrim, hfiller, Line.opens?, hother] at hmark
    cases hmark

theorem openedInOrder_outline (h : IsOutlined g) :
    Outline.OpenedInOrder (Outline.lines g.outline) g.nodes := by
  refine ⟨g.nodes.map Step.number, h.numbers_sorted, fun i => ⟨?_, ?_⟩, ?_⟩
  · intro hi
    obtain ⟨step, hstep, rfl⟩ := List.mem_map.1 hi
    exact ⟨step, h.opens_number hstep⟩
  · rintro ⟨step, hopens⟩
    exact h.mem_numbers_of_opens hopens
  · rw [List.forall₂_map_left_iff, List.forall₂_same]
    exact fun step hstep => h.opens_number hstep

end Graph.IsOutlined

namespace Outline

theorem isOutlined_parse (t : Text) : (parse t).IsOutlined where
  numbered := by
    obtain ⟨numbers, hsorted, -, hsteps⟩ := openedInOrder_advanceAll (lines t)
    refine ⟨numbers, hsorted, hsteps.imp ?_⟩
    intro i step hopens
    cases hopens <;> rfl
  root_primary := (grown_parse t).head_primary
  labels := by
    intro step hstep
    obtain ⟨tier, index, body, -, rfl⟩ := (sound_parse t).opened step hstep
    exact Label.ofText_ofText body
  edge_at := (grown_parse t).getElem?_edges

theorem parse_outline {g : Graph} (h : g.IsOutlined) : parse g.outline = g := by
  have hnodes : OpenedInOrder (lines g.outline) (parse g.outline).nodes :=
    openedInOrder_advanceAll (lines g.outline)
  exact (isOutlined_parse g.outline).eq_of_nodes h (hnodes.unique h.openedInOrder_outline)

/-- The graphs of outlines are those that are read back from the outline they are written as; so
writing what was read of a text, and reading that, loses nothing. -/
theorem isOutlined_iff_parsed (g : Graph) :
    (g.IsOutlined ↔ ∃ t, parse t = g) ∧ (g.IsOutlined ↔ parse g.outline = g) ∧
      ∀ t, parse (parse t).outline = parse t ∧ toMermaid (parse t).outline = toMermaid t := by
  refine ⟨⟨?_, ?_⟩, ⟨parse_outline, ?_⟩, ?_⟩
  · intro h
    exact ⟨g.outline, parse_outline h⟩
  · rintro ⟨t, rfl⟩
    exact isOutlined_parse t
  · intro h
    exact h ▸ isOutlined_parse g.outline
  · intro t
    have hparse := parse_outline (isOutlined_parse t)
    exact ⟨hparse, congrArg Graph.mermaid hparse⟩

example : (parse (Text.ofString "note\n2. - a\n\n- \nx\n7.b")).outline =
    Text.ofString "x\n1. - a\n- \nx\n1. b" := by decide

end Outline

end OutlineChart
