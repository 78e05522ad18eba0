import OutlineChart.Proofs.Flowchart.Grown
import OutlineChart.Proofs.Outline.Grammar
import OutlineChart.Proofs.Outline.StepId

/-! # What a line does to a parse

A line either opens a step or is passed over, and in both cases takes a number.  The graph that has
been read grows, its steps carry numbers below the next one, and the id that is kept is that of its
last primary step.  So an outline parses to a tree if a line of it is numbered, else to nothing.
-/

namespace OutlineChart

/-- What a line opens: the tier and the body of a step.  A secondary step needs a primary one before
it. -/
def Line.opens? (attached : Bool) (line : Text) : Option (Tier × Text) :=
  match Line.read line with
  | .primary body => some (.primary, body)
  | .secondary body => if attached then some (.secondary, body) else none
  | .other => none

theorem Line.opens?_false {line body : Text} {tier : Tier}
    (h : Line.opens? false line = some (tier, body)) : tier = .primary := by
  unfold Line.opens? at h
  split at h
  · cases h
    rfl
  · exact absurd h (by simp)
  · exact absurd h (by simp)

theorem Line.opens?_primary_iff (attached : Bool) (line : Text) :
    (Line.opens? attached line).map Prod.fst = some .primary ↔ Line.IsNumbered line := by
  rw [Line.isNumbered_iff]
  unfold Line.opens?
  cases Line.read line with
  | primary body => simp
  | secondary body => cases attached <;> simp
  | other => simp

theorem Line.opens?_secondary_iff (attached : Bool) (line : Text) :
    (Line.opens? attached line).map Prod.fst = some .secondary ↔
      attached = true ∧ Line.IsDashed line := by
  rw [Line.isDashed_iff]
  unfold Line.opens?
  cases Line.read line with
  | primary body => simp
  | secondary body => cases attached <;> simp
  | other => simp

def Step.opened (tier : Tier) (index : Nat) (body : Text) : Step :=
  ⟨tier.stepId index, tier, Label.ofText body⟩

namespace Outline

namespace Progress

/-! ## One line -/

/-- Goes on after a line that opens a step. -/
def declare (p : Progress) (tier : Tier) (body : Text) : Progress where
  index := p.index + 1
  parent := if tier = .primary then some (tier.stepId p.index) else p.parent
  graph := p.graph.add (Step.opened tier p.index body) p.parent

/-- Goes on after a line that opens nothing. -/
def skip (p : Progress) : Progress := { p with index := p.index + 1 }

theorem advance_eq (p : Progress) (line : Text) :
    p.advance line =
      match Line.opens? p.parent.isSome line with
      | some (tier, body) => p.declare tier body
      | none => p.skip := by
  unfold advance Line.opens?
  cases Line.read line with
  | primary body => rfl
  | secondary body =>
      obtain ⟨index, parent, graph⟩ := p
      cases parent with
      | none => rfl
      | some parent => rfl
  | other => rfl

theorem advance_cases (p : Progress) (line : Text) :
    (∃ tier body, Line.opens? p.parent.isSome line = some (tier, body) ∧
      p.advance line = p.declare tier body) ∨
    (Line.opens? p.parent.isSome line = none ∧ p.advance line = p.skip) := by
  rw [advance_eq]
  cases h : Line.opens? p.parent.isSome line with
  | none => exact Or.inr ⟨rfl, rfl⟩
  | some opened => exact Or.inl ⟨opened.1, opened.2, rfl, rfl⟩

/-! ## The invariant -/

/-- What holds of a parse between any two lines. -/
structure Sound (p : Progress) : Prop where
  grown : p.graph.Grown
  parent_eq : p.parent = (Graph.lastPrimary? p.graph.nodes).map Step.id
  opened : ∀ step ∈ p.graph.nodes, ∃ tier index body, index < p.index ∧
    step = Step.opened tier index body

theorem sound_start : Sound start where
  grown := .empty
  parent_eq := rfl
  opened := by
    intro step hstep
    exact absurd hstep (List.not_mem_nil)

theorem Sound.fresh {p : Progress} (h : Sound p) (tier : Tier) :
    ∀ known ∈ p.graph.nodes, known.id ≠ tier.stepId p.index := by
  intro known hknown heq
  obtain ⟨tier', index, body, hlt, rfl⟩ := h.opened known hknown
  have hindex := (Tier.stepId_inj heq).2
  omega

theorem Sound.declare {p : Progress} (h : Sound p) {tier : Tier} {body : Text}
    (hfirst : p.parent = none → tier = .primary) : Sound (p.declare tier body) where
  grown := by
    have hfresh : ∀ known ∈ p.graph.nodes,
        known.id ≠ (Step.opened tier p.index body).id := h.fresh tier
    have hroot : p.graph.nodes = [] → tier = .primary := by
      intro hnodes
      refine hfirst ?_
      rw [h.parent_eq, hnodes]
      rfl
    have hgrown := Graph.Grown.add h.grown hfresh hroot
    rw [← h.parent_eq] at hgrown
    exact hgrown
  parent_eq := by
    rw [Progress.declare, Graph.nodes_add, Graph.lastPrimary?_concat]
    cases tier with
    | primary => rfl
    | secondary => exact h.parent_eq
  opened := by
    intro step hstep
    rcases List.mem_append.1 hstep with hold | hnew
    · obtain ⟨tier', index, body', hlt, heq⟩ := h.opened step hold
      exact ⟨tier', index, body', Nat.lt_succ_of_lt hlt, heq⟩
    · exact ⟨tier, p.index, body, Nat.lt_succ_self _, List.mem_singleton.1 hnew⟩

theorem Sound.skip {p : Progress} (h : Sound p) : Sound p.skip where
  grown := h.grown
  parent_eq := h.parent_eq
  opened := by
    intro step hstep
    obtain ⟨tier, index, body, hlt, heq⟩ := h.opened step hstep
    exact ⟨tier, index, body, Nat.lt_succ_of_lt hlt, heq⟩

theorem Sound.advance {p : Progress} (h : Sound p) (line : Text) : Sound (p.advance line) := by
  rcases advance_cases p line with ⟨tier, body, hopens, hnext⟩ | ⟨_, hnext⟩
  · rw [hnext]
    refine h.declare ?_
    intro hnone
    rw [hnone] at hopens
    exact Line.opens?_false hopens
  · rw [hnext]
    exact h.skip

theorem Sound.advanceAll {p : Progress} (h : Sound p) (ls : List Text) :
    Sound (p.advanceAll ls) := by
  induction ls generalizing p with
  | nil => exact h
  | cons line ls ih => exact ih (h.advance line)

/-! ## Counting lines -/

theorem index_advanceAll (p : Progress) (ls : List Text) :
    (p.advanceAll ls).index = p.index + ls.length := by
  induction ls generalizing p with
  | nil => rfl
  | cons line ls ih =>
      have hrest := ih (p.advance line)
      rw [index_advance] at hrest
      rw [List.length_cons, Nat.add_comm ls.length 1, ← Nat.add_assoc]
      exact hrest

theorem advanceAll_concat (p : Progress) (ls : List Text) (line : Text) :
    p.advanceAll (ls ++ [line]) = (p.advanceAll ls).advance line := by
  rw [advanceAll_append]
  rfl

/-! ## Numbered lines -/

/-- A primary step is known as soon as a line was numbered. -/
theorem isSome_parent_advance (p : Progress) (line : Text) :
    (p.advance line).parent.isSome = (p.parent.isSome || decide (Line.IsNumbered line)) := by
  have hnumbered := Line.opens?_primary_iff p.parent.isSome line
  rcases p.advance_cases line with ⟨tier, body, hopens, hnext⟩ | ⟨hpasses, hnext⟩
  · rw [hopens] at hnumbered
    rw [hnext, Progress.declare]
    cases tier with
    | primary =>
        have hline : Line.IsNumbered line := hnumbered.1 rfl
        simp [hline]
    | secondary =>
        have hline : ¬ Line.IsNumbered line := fun h => by simpa using hnumbered.2 h
        simp [hline]
  · rw [hpasses] at hnumbered
    have hline : ¬ Line.IsNumbered line := fun h => by simpa using hnumbered.2 h
    rw [hnext, Progress.skip]
    simp [hline]

theorem isSome_parent_advanceAll (p : Progress) (ls : List Text) :
    (p.advanceAll ls).parent.isSome = (p.parent.isSome || ls.any (Line.IsNumbered ·)) := by
  induction ls generalizing p with
  | nil => simp
  | cons line ls ih =>
      have hrest := ih (p.advance line)
      rw [isSome_parent_advance, Bool.or_assoc] at hrest
      exact hrest

theorem Sound.isSome_parent_iff {p : Progress} (h : Sound p) :
    p.parent.isSome = true ↔ p.graph.nodes ≠ [] := by
  rw [h.parent_eq, Option.isSome_map]
  constructor
  · intro hsome hnil
    rw [hnil] at hsome
    exact absurd hsome (by simp)
  · intro hne
    exact h.grown.isSome_lastPrimary? hne

end Progress

theorem sound_parse (t : Text) : Progress.Sound (Progress.start.advanceAll (lines t)) :=
  Progress.sound_start.advanceAll (lines t)

theorem grown_parse (t : Text) : (parse t).Grown := (sound_parse t).grown

theorem nodes_parse_ne_nil_iff (t : Text) :
    (parse t).nodes ≠ [] ↔ ∃ line ∈ lines t, Line.IsNumbered line := by
  have hparent := Progress.isSome_parent_advanceAll Progress.start (lines t)
  have hany : (Progress.start.advanceAll (lines t)).parent.isSome = true ↔
      ∃ line ∈ lines t, Line.IsNumbered line := by
    rw [hparent]
    simp [Progress.start]
  exact (sound_parse t).isSome_parent_iff.symm.trans hany

/-- An outline parses to nothing or to a tree, and to a tree as soon as a line of it is numbered. -/
theorem parse_eq_empty_or_isTree (t : Text) :
    (parse t = Graph.empty ∧ ∀ line ∈ lines t, ¬ Line.IsNumbered line) ∨
      ((parse t).IsTree ∧ ∃ line ∈ lines t, Line.IsNumbered line) := by
  have hgrown := grown_parse t
  have hnumbered := nodes_parse_ne_nil_iff t
  by_cases hne : (parse t).nodes = []
  · refine Or.inl ⟨?_, ?_⟩
    · have hedges : (parse t).edges = [] := by simpa [hne] using hgrown.targets
      rw [Graph.empty, ← hne, ← hedges]
    · intro line hline hmark
      exact hnumbered.2 ⟨line, hline, hmark⟩ hne
  · exact Or.inr ⟨hgrown.isTree hne, hnumbered.1 hne⟩

end Outline

end OutlineChart
