import OutlineChart.Proofs.Outline.Grammar
import OutlineChart.Proofs.Outline.Progress
import OutlineChart.Proofs.Outline.Runs
import Mathlib.Data.List.Induction
import Mathlib.Data.List.Sort

/-! # Which lines open steps

The steps of an outline, read off its lines one by one: a numbered line opens a primary step, a
dashed line behind a numbered one a secondary step, and no other line opens any.  A parse has these
steps and no more, in the order of the lines.
-/

namespace OutlineChart

theorem Step.opened_dropWhile_isBlank (tier : Tier) (index : Nat) (rest : Text) :
    Step.opened tier index (rest.dropWhile CodePoint.isBlank) =
      ⟨tier.stepId index, tier, Label.join (Label.runs rest)⟩ := by
  rw [Step.opened, Label.ofText_dropWhile_isBlank, Label.ofText_eq_join_runs]

namespace Outline

/-! ## Opening lines -/

inductive Opens (ls : List Text) (i : Nat) : Step → Prop
  | numbered {line rest : Text} : ls[i]? = some line → Line.Numbered line rest →
      Opens ls i ⟨Text.ofString "step" ++ Text.ofNat i, .primary, Label.join (Label.runs rest)⟩
  | dashed {line rest : Text} : ls[i]? = some line → Line.Dashed line rest →
      (∃ earlier ∈ ls.take i, Line.IsNumbered earlier) →
      Opens ls i ⟨Text.ofString "sub" ++ Text.ofNat i, .secondary, Label.join (Label.runs rest)⟩

namespace Opens

variable {ls : List Text} {i : Nat} {step : Step}

theorem lt_length (h : Opens ls i step) : i < ls.length := by
  cases h with
  | numbered hline _ => exact (List.getElem?_eq_some_iff.1 hline).1
  | dashed hline _ _ => exact (List.getElem?_eq_some_iff.1 hline).1

/-- A line opens what the reader says, a dashed one if some line before it is numbered. -/
theorem iff_opens? : Opens ls i step ↔ ∃ line tier body, ls[i]? = some line ∧
    Line.opens? ((ls.take i).any (Line.IsNumbered ·)) line = some (tier, body) ∧
      step = Step.opened tier i body := by
  have hany : (∃ earlier ∈ ls.take i, Line.IsNumbered earlier) ↔
      (ls.take i).any (Line.IsNumbered ·) = true := by
    simp
  constructor
  · intro h
    cases h with
    | @numbered line rest hline hmark =>
        have hread := Line.read_of_numbered hmark
        refine ⟨line, .primary, rest.dropWhile CodePoint.isBlank, hline, ?_, ?_⟩
        · rw [Line.opens?, hread]
        · exact (Step.opened_dropWhile_isBlank .primary i rest).symm
    | @dashed line rest hline hmark hearlier =>
        have hread := Line.read_of_dashed hmark
        refine ⟨line, .secondary, rest.dropWhile CodePoint.isBlank, hline, ?_, ?_⟩
        · rw [Line.opens?, hread, hany.1 hearlier]
          rfl
        · exact (Step.opened_dropWhile_isBlank .secondary i rest).symm
  · intro h
    obtain ⟨line, tier, body, hline, hopens, rfl⟩ := h
    unfold Line.opens? at hopens
    split at hopens
    · next hread =>
        cases hopens
        obtain ⟨rest, hmark, rfl⟩ := Line.read_eq_primary_iff.1 hread
        rw [Step.opened_dropWhile_isBlank]
        exact .numbered hline hmark
    · next hread =>
        split at hopens
        · next hearlier =>
            cases hopens
            obtain ⟨rest, hmark, rfl⟩ := Line.read_eq_secondary_iff.1 hread
            rw [Step.opened_dropWhile_isBlank]
            exact .dashed hline hmark (hany.2 hearlier)
        · cases hopens
    · cases hopens

theorem unique (h : Opens ls i step) {step' : Step} (h' : Opens ls i step') : step = step' := by
  obtain ⟨line, tier, body, hline, hopens, rfl⟩ := iff_opens?.1 h
  obtain ⟨line', tier', body', hline', hopens', rfl⟩ := iff_opens?.1 h'
  obtain rfl : line = line' := Option.some.inj (hline.symm.trans hline')
  have hsame : (tier, body) = (tier', body') := Option.some.inj (hopens.symm.trans hopens')
  obtain ⟨rfl, rfl⟩ := Prod.mk.inj hsame
  rfl

/-- What a line opens does not depend on the lines after it. -/
theorem concat_iff (hi : i < ls.length) (line : Text) :
    Opens (ls ++ [line]) i step ↔ Opens ls i step := by
  have hget : (ls ++ [line])[i]? = ls[i]? := List.getElem?_append_left hi
  have htake : (ls ++ [line]).take i = ls.take i :=
    List.take_append_of_le_length (Nat.le_of_lt hi)
  rw [iff_opens?, iff_opens?, hget, htake]

theorem last_iff (line : Text) :
    Opens (ls ++ [line]) ls.length step ↔
      ∃ tier body, Line.opens? (ls.any (Line.IsNumbered ·)) line = some (tier, body) ∧
        step = Step.opened tier ls.length body := by
  have hget : (ls ++ [line])[ls.length]? = some line := List.getElem?_concat_length
  have htake : (ls ++ [line]).take ls.length = ls := List.take_left
  rw [iff_opens?, hget, htake]
  constructor
  · intro h
    obtain ⟨line', tier, body, hline, hopens⟩ := h
    obtain rfl : line = line' := Option.some.inj hline
    exact ⟨tier, body, hopens⟩
  · intro h
    obtain ⟨tier, body, hopens⟩ := h
    exact ⟨line, tier, body, rfl, hopens⟩

theorem of_concat {line : Text} (h : Opens (ls ++ [line]) i step) :
    Opens ls i step ∨ i = ls.length := by
  have hlt := h.lt_length
  rw [List.length_append, List.length_singleton] at hlt
  by_cases hi : i < ls.length
  · exact Or.inl ((concat_iff hi line).1 h)
  · exact Or.inr (by omega)

end Opens

/-- The steps are those that lines open, in the order of the lines. -/
def OpenedInOrder (ls : List Text) (steps : List Step) : Prop :=
  ∃ numbers : List Nat, numbers.Pairwise (· < ·) ∧ (∀ i, i ∈ numbers ↔ ∃ step, Opens ls i step) ∧
    List.Forall₂ (Opens ls) numbers steps

namespace OpenedInOrder

variable {ls : List Text} {steps : List Step} {line : Text}

theorem nil : OpenedInOrder [] [] := by
  refine ⟨[], List.Pairwise.nil, ?_, List.Forall₂.nil⟩
  intro i
  constructor
  · intro hi
    exact absurd hi List.not_mem_nil
  · intro h
    obtain ⟨step, hopens⟩ := h
    exact absurd hopens.lt_length (Nat.not_lt_zero _)

/-- The lines determine the steps. -/
theorem unique (h : OpenedInOrder ls steps) {steps' : List Step} (h' : OpenedInOrder ls steps') :
    steps = steps' := by
  obtain ⟨numbers, hsorted, hmem, hsteps⟩ := h
  obtain ⟨numbers', hsorted', hmem', hsteps'⟩ := h'
  have hnumbers : numbers = numbers' := by
    apply hsorted.eq_of_mem_iff hsorted'
    intro i
    rw [hmem, hmem']
  subst hnumbers
  have hopens : Relator.RightUnique (Opens ls) := fun _ _ _ h h' => h.unique h'
  exact List.right_unique_forall₂' hopens hsteps hsteps'

theorem passes (h : OpenedInOrder ls steps)
    (hnone : ∀ step, ¬ Opens (ls ++ [line]) ls.length step) :
    OpenedInOrder (ls ++ [line]) steps := by
  obtain ⟨numbers, hsorted, hmem, hsteps⟩ := h
  refine ⟨numbers, hsorted, ?_, ?_⟩
  · intro i
    rw [hmem]
    constructor
    · intro h
      obtain ⟨step, hopens⟩ := h
      exact ⟨step, (Opens.concat_iff hopens.lt_length line).2 hopens⟩
    · intro h
      obtain ⟨step, hopens⟩ := h
      rcases hopens.of_concat with hold | rfl
      · exact ⟨step, hold⟩
      · exact absurd hopens (hnone step)
  · exact hsteps.imp fun i step hopens => (Opens.concat_iff hopens.lt_length line).2 hopens

theorem opens (h : OpenedInOrder ls steps) {step : Step}
    (hlast : Opens (ls ++ [line]) ls.length step) :
    OpenedInOrder (ls ++ [line]) (steps ++ [step]) := by
  obtain ⟨numbers, hsorted, hmem, hsteps⟩ := h
  refine ⟨numbers ++ [ls.length], ?_, ?_, ?_⟩
  · rw [List.pairwise_append]
    refine ⟨hsorted, List.pairwise_singleton _ _, ?_⟩
    intro i hi j hj
    obtain ⟨known, hopens⟩ := (hmem i).1 hi
    rw [List.mem_singleton.1 hj]
    exact hopens.lt_length
  · intro i
    rw [List.mem_append, hmem, List.mem_singleton]
    constructor
    · intro h
      rcases h with ⟨known, hopens⟩ | rfl
      · exact ⟨known, (Opens.concat_iff hopens.lt_length line).2 hopens⟩
      · exact ⟨step, hlast⟩
    · intro h
      obtain ⟨known, hopens⟩ := h
      exact hopens.of_concat.imp (fun hold => ⟨known, hold⟩) id
  · refine List.rel_append ?_ (List.Forall₂.cons hlast List.Forall₂.nil)
    exact hsteps.imp fun i known hopens => (Opens.concat_iff hopens.lt_length line).2 hopens

end OpenedInOrder

/-! ## The steps of a parse -/

theorem openedInOrder_advanceAll (ls : List Text) :
    OpenedInOrder ls (Progress.start.advanceAll ls).graph.nodes := by
  induction ls using List.reverseRecOn with
  | nil => exact OpenedInOrder.nil
  | append_singleton ls line ih =>
      have hindex : (Progress.start.advanceAll ls).index = ls.length := by
        rw [Progress.index_advanceAll]
        exact Nat.zero_add _
      have hparent : (Progress.start.advanceAll ls).parent.isSome = ls.any (Line.IsNumbered ·) :=
        Progress.isSome_parent_advanceAll Progress.start ls
      rw [Progress.advanceAll_concat]
      rcases Progress.advance_cases (Progress.start.advanceAll ls) line with
        ⟨tier, body, hopens, hnext⟩ | ⟨hpasses, hnext⟩
      · rw [hparent] at hopens
        rw [hnext, Progress.declare, hindex]
        exact ih.opens ((Opens.last_iff line).2 ⟨tier, body, hopens, rfl⟩)
      · rw [hparent] at hpasses
        rw [hnext]
        refine ih.passes ?_
        intro step hopens
        obtain ⟨tier, body, hsome, _⟩ := (Opens.last_iff line).1 hopens
        rw [hpasses] at hsome
        cases hsome

/-! ## Counting steps -/

theorem Progress.length_ofTier_advance (p : Progress) (line : Text) (tier : Tier) :
    ((p.advance line).graph.ofTier tier).length = (p.graph.ofTier tier).length +
      if (Line.opens? p.parent.isSome line).map Prod.fst = some tier then 1 else 0 := by
  rcases p.advance_cases line with ⟨opened, body, hopens, hnext⟩ | ⟨hpasses, hnext⟩
  · rw [hopens, hnext, Progress.declare, Graph.ofTier, Graph.nodes_add, List.filter_append,
      List.length_append, Option.map_some]
    by_cases htier : opened = tier
    · simp [Graph.ofTier, Step.opened, htier]
    · simp [Graph.ofTier, Step.opened, htier]
  · rw [hpasses, hnext]
    rfl

theorem Progress.length_primary_advanceAll (p : Progress) (ls : List Text) :
    ((p.advanceAll ls).graph.ofTier .primary).length =
      (p.graph.ofTier .primary).length + ls.countP (Line.IsNumbered ·) := by
  induction ls generalizing p with
  | nil => rfl
  | cons line ls ih =>
      have hrest := ih (p.advance line)
      rw [length_ofTier_advance] at hrest
      rw [List.countP_cons]
      simp only [Line.opens?_primary_iff, decide_eq_true_eq] at hrest ⊢
      rw [Nat.add_comm (ls.countP _), ← Nat.add_assoc]
      exact hrest

/-- Behind a primary step every dashed line counts. -/
theorem Progress.length_secondary_of_isSome {p : Progress} (h : p.parent.isSome = true)
    (ls : List Text) :
    ((p.advanceAll ls).graph.ofTier .secondary).length =
      (p.graph.ofTier .secondary).length + ls.countP (Line.IsDashed ·) := by
  induction ls generalizing p with
  | nil => rfl
  | cons line ls ih =>
      have hnext : (p.advance line).parent.isSome = true := by
        rw [isSome_parent_advance, h, Bool.true_or]
      have hrest := ih hnext
      rw [length_ofTier_advance] at hrest
      rw [List.countP_cons]
      simp only [Line.opens?_secondary_iff, h, true_and, decide_eq_true_eq] at hrest ⊢
      rw [Nat.add_comm (ls.countP _), ← Nat.add_assoc]
      exact hrest

theorem Line.not_isDashed_of_isNumbered {line : Text} (h : Line.IsNumbered line) :
    ¬ Line.IsDashed line := by
  obtain ⟨body, hread⟩ := Line.isNumbered_iff.1 h
  simp [Line.isDashed_iff, hread]

/-- Before any primary step the dashed lines are lost. -/
theorem Progress.length_secondary_of_isNone {p : Progress} (h : p.parent.isSome = false)
    (ls : List Text) :
    ((p.advanceAll ls).graph.ofTier .secondary).length = (p.graph.ofTier .secondary).length +
      (ls.dropWhile (¬ Line.IsNumbered ·)).countP (Line.IsDashed ·) := by
  induction ls generalizing p with
  | nil => rfl
  | cons line ls ih =>
      have hsame : ((p.advance line).graph.ofTier .secondary).length =
          (p.graph.ofTier .secondary).length := by
        rw [length_ofTier_advance, if_neg, Nat.add_zero]
        rw [Line.opens?_secondary_iff, h]
        simp
      have hnext := isSome_parent_advance p line
      rw [h, Bool.false_or] at hnext
      by_cases hline : Line.IsNumbered line
      · have hrest := length_secondary_of_isSome (hnext.trans (decide_eq_true hline)) ls
        rw [hsame] at hrest
        rw [List.dropWhile_cons_of_neg (by simp [hline]), List.countP_cons_of_neg
          (by simp [Line.not_isDashed_of_isNumbered hline])]
        exact hrest
      · have hrest := ih (hnext.trans (decide_eq_false hline))
        rw [hsame] at hrest
        rw [List.dropWhile_cons_of_pos (by simp [hline])]
        exact hrest

/-- A parse has exactly the steps that the lines open, in their order; so it has as many primary
steps as there are numbered lines, and as many secondary steps as there are dashed lines behind the
first numbered one. -/
theorem parse_follows_grammar (t : Text) :
    (∀ ls, IsLines t ls ↔ ls = lines t) ∧
    (∀ steps, OpenedInOrder (lines t) steps ↔ steps = (parse t).nodes) ∧
    ((parse t).ofTier .primary).length = (lines t).countP (Line.IsNumbered ·) ∧
    ((parse t).ofTier .secondary).length =
      ((lines t).dropWhile (¬ Line.IsNumbered ·)).countP (Line.IsDashed ·) := by
  have hnodes : OpenedInOrder (lines t) (parse t).nodes := openedInOrder_advanceAll (lines t)
  refine ⟨fun ls => isLines_iff, ?_, ?_, ?_⟩
  · intro steps
    constructor
    · intro h
      exact h.unique hnodes
    · intro h
      exact h ▸ hnodes
  · have hcount := Progress.length_primary_advanceAll Progress.start (lines t)
    exact hcount.trans (Nat.zero_add _)
  · have hcount := Progress.length_secondary_of_isNone (p := Progress.start) rfl (lines t)
    exact hcount.trans (Nat.zero_add _)

end Outline

end OutlineChart
