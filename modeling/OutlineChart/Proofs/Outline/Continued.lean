import OutlineChart.Proofs.Outline.OnePass

/-! # Outlines that go on

Text that is put behind an outline, on a new line, changes nothing of what was read before it.  Each
of its lines adds a step or none, by itself: numbered behind all earlier lines and attached to the
last primary step before it, be that from the text itself or from what it was put behind.
-/

namespace OutlineChart

namespace Outline
open OutlineChart.Graph

/-! ## What each line adds -/

/-- The last numbered line among the first `j` lines. -/
def lastNumbered? (ls : List Text) (j : Nat) : Option Nat :=
  ((List.range j).filter fun k => ls[k]?.any (Line.IsNumbered ·)).getLast?

theorem lastNumbered?_append {ls : List Text} {j : Nat} (hj : j ≤ ls.length) (ms : List Text) :
    lastNumbered? (ls ++ ms) j = lastNumbered? ls j := by
  unfold lastNumbered?
  congr 1
  refine List.filter_congr fun k hk => ?_
  rw [List.getElem?_append_left (Nat.lt_of_lt_of_le (List.mem_range.1 hk) hj)]

theorem lastNumbered?_concat (ls : List Text) (line : Text) :
    lastNumbered? (ls ++ [line]) (ls.length + 1) =
      if Line.IsNumbered line then some ls.length else lastNumbered? ls ls.length := by
  have hfirst : (List.range ls.length).filter (fun k => (ls ++ [line])[k]?.any (Line.IsNumbered ·)) =
      (List.range ls.length).filter fun k => ls[k]?.any (Line.IsNumbered ·) := by
    refine List.filter_congr fun k hk => ?_
    rw [List.getElem?_append_left (List.mem_range.1 hk)]
  unfold lastNumbered?
  rw [List.range_succ, List.filter_append, hfirst]
  by_cases h : Line.IsNumbered line
  · simp [h]
  · simp [h]

namespace Cursor

/-- Where the reading stands behind a text. -/
def behind (t : Text) : Cursor := ⟨(lines t).length, (lastPrimary? (parse t).nodes).map Step.id⟩

/-- The id of the last primary step before line `j`: that of a numbered line among those that are
read from here, or the one that is known already. -/
def parentOf (c : Cursor) (ls : List Text) (j : Nat) : Option Text :=
  ((lastNumbered? ls j).map fun k => Tier.primary.stepId (c.index + k)).or c.parent

def addition? (c : Cursor) (ls : List Text) (j : Nat) : Option Addition :=
  (ls[j]?.bind (Line.opens? (c.parentOf ls j).isSome)).map fun (tier, body) =>
    ⟨Step.opened tier (c.index + j) body, c.parentOf ls j⟩

/-- What the lines add that are read from here, in their order. -/
def additions (c : Cursor) (ls : List Text) : List Addition :=
  (List.range ls.length).filterMap (c.addition? ls)

variable (c : Cursor)

theorem parentOf_append {ls : List Text} {j : Nat} (hj : j ≤ ls.length) (ms : List Text) :
    c.parentOf (ls ++ ms) j = c.parentOf ls j := by
  unfold parentOf
  rw [lastNumbered?_append hj]

theorem parentOf_concat (ls : List Text) (line : Text) :
    c.parentOf (ls ++ [line]) (ls.length + 1) =
      if Line.IsNumbered line then some (Tier.primary.stepId (c.index + ls.length))
      else c.parentOf ls ls.length := by
  unfold parentOf
  rw [lastNumbered?_concat]
  by_cases h : Line.IsNumbered line
  · simp [h]
  · simp [h]

/-- A further line changes nothing of what the others add. -/
theorem additions_concat (ls : List Text) (line : Text) :
    c.additions (ls ++ [line]) = c.additions ls ++
      ((Line.opens? (c.parentOf ls ls.length).isSome line).map fun (tier, body) =>
        (⟨Step.opened tier (c.index + ls.length) body, c.parentOf ls ls.length⟩ : Addition)).toList := by
  have hfirst : (List.range ls.length).filterMap (c.addition? (ls ++ [line])) =
      (List.range ls.length).filterMap (c.addition? ls) := by
    refine List.filterMap_congr fun k hk => ?_
    have hlt := List.mem_range.1 hk
    unfold addition?
    rw [List.getElem?_append_left hlt, c.parentOf_append (Nat.le_of_lt hlt)]
  have hlast : c.addition? (ls ++ [line]) ls.length =
      (Line.opens? (c.parentOf ls ls.length).isSome line).map fun (tier, body) =>
        ⟨Step.opened tier (c.index + ls.length) body, c.parentOf ls ls.length⟩ := by
    unfold addition?
    rw [List.getElem?_concat_length, c.parentOf_append (Nat.le_refl _), Option.bind_some]
  unfold additions
  rw [List.length_append, List.length_singleton, List.range_succ, List.filterMap_append, hfirst,
    ← hlast, List.filterMap_cons, List.filterMap_nil]
  cases c.addition? (ls ++ [line]) ls.length <;> rfl

end Cursor

/-! ## Reading on -/

namespace Progress

/-- From wherever a parse stands, the lines to come add what each of them adds by itself. -/
theorem advanceAll_adds (p : Progress) (ls : List Text) :
    (p.advanceAll ls).parent = p.cursor.parentOf ls ls.length ∧
      (p.advanceAll ls).graph = p.graph.addAll (p.cursor.additions ls) := by
  induction ls using List.reverseRecOn with
  | nil => exact ⟨rfl, rfl⟩
  | append_singleton ls line ih =>
      obtain ⟨hparent, hgraph⟩ := ih
      have hindex : (p.advanceAll ls).index = p.cursor.index + ls.length := index_advanceAll p ls
      have hnumbered := Line.opens?_primary_iff (p.advanceAll ls).parent.isSome line
      rw [advanceAll_concat, List.length_append, List.length_singleton, Cursor.parentOf_concat,
        Cursor.additions_concat, Graph.addAll_append, ← hparent, ← hgraph, ← hindex]
      rcases advance_cases (p.advanceAll ls) line with ⟨tier, body, hopens, hnext⟩ | ⟨hpasses, hnext⟩
      · rw [hopens] at hnumbered
        rw [hnext, hopens, declare]
        refine ⟨?_, rfl⟩
        cases tier with
        | primary =>
            have hline : Line.IsNumbered line := hnumbered.1 rfl
            rw [if_pos rfl, if_pos hline]
        | secondary =>
            have hline : ¬ Line.IsNumbered line := fun h => by simpa using hnumbered.2 h
            rw [if_neg hline]
            rfl
      · rw [hpasses] at hnumbered
        have hline : ¬ Line.IsNumbered line := fun h => by simpa using hnumbered.2 h
        rw [hnext, hpasses, if_neg hline]
        exact ⟨rfl, rfl⟩

end Progress

theorem cursor_behind (t : Text) : (Progress.start.advanceAll (lines t)).cursor = Cursor.behind t := by
  have hindex : (Progress.start.advanceAll (lines t)).index = (lines t).length := by
    rw [Progress.index_advanceAll]
    exact Nat.zero_add _
  rw [Progress.cursor, hindex, (sound_parse t).parent_eq]
  rfl

theorem advanceAll_lines_append (a b : Text) :
    Progress.start.advanceAll (lines (a ++ CodePoint.newline :: b)) =
      (Progress.start.advanceAll (lines a)).advanceAll (lines b) := by
  rw [lines_append_newline, Progress.advanceAll_append]

/-- Behind a text and a line feed, all that was read and written of the text stays in front, and each
line to come adds what it adds by itself.  Blank text changes nothing on either side. -/
theorem parse_goes_on (a b : Text) :
    (parse (a ++ CodePoint.newline :: b)).nodes =
        (parse a).nodes ++ ((Cursor.behind a).additions (lines b)).map Addition.step ∧
      (parse (a ++ CodePoint.newline :: b)).edges =
        (parse a).edges ++ ((Cursor.behind a).additions (lines b)).filterMap Addition.edge? ∧
      toMermaid (a ++ CodePoint.newline :: b) =
        toMermaid a ++ (Cursor.behind a).emitAll (lines b) ∧
      parse b = Graph.empty.addAll (Cursor.start.additions (lines b)) ∧
      (lines a = [] → parse (a ++ CodePoint.newline :: b) = parse b) ∧
      (lines b = [] → parse (a ++ CodePoint.newline :: b) = parse a) := by
  have hadds := ((Progress.start.advanceAll (lines a)).advanceAll_adds (lines b)).2
  have hwrites := (sound_parse a).mermaid_advanceAll (lines b)
  rw [cursor_behind, ← advanceAll_lines_append] at hadds hwrites
  have hgraph : parse (a ++ CodePoint.newline :: b) =
      (parse a).addAll ((Cursor.behind a).additions (lines b)) := hadds
  refine ⟨?_, ?_, hwrites, ?_, ?_, ?_⟩
  · rw [hgraph, nodes_addAll]
  · rw [hgraph, edges_addAll]
  · exact (Progress.start.advanceAll_adds (lines b)).2
  · intro hblank
    rw [parse, advanceAll_lines_append, hblank]
    rfl
  · intro hblank
    rw [parse, advanceAll_lines_append, hblank]
    rfl

theorem parse_goes_on_behind_a_note :
    let a := Text.ofString "1. a\nnote"
    let b := Text.ofString "- b\n2. c"
    let blank := Text.ofString " \n\uFEFF"
    (parse (a ++ CodePoint.newline :: b)).edges =
        [⟨Tier.primary.stepId 0, Tier.secondary.stepId 2⟩,
          ⟨Tier.primary.stepId 0, Tier.primary.stepId 3⟩] ∧
      lines blank = [] ∧ parse (blank ++ CodePoint.newline :: b) = parse b ∧
      parse (a ++ CodePoint.newline :: blank) = parse a := by
  intro a b blank
  have hblank : lines blank = [] := by decide
  obtain ⟨-, hedges, -⟩ := parse_goes_on a b
  obtain ⟨-, -, -, -, hbefore, -⟩ := parse_goes_on blank b
  obtain ⟨-, -, -, -, -, hafter⟩ := parse_goes_on a blank
  refine ⟨?_, hblank, hbefore hblank, hafter hblank⟩
  rw [hedges]
  decide

end Outline

end OutlineChart
