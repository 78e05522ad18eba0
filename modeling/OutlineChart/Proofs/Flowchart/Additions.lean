import OutlineChart.Proofs.Flowchart.Statement
import Mathlib.Data.List.Induction

/-! # Graphs by their additions

A graph is what has been added to it, and nothing keeps an id from being added twice.  Each step is
written with the parent that its id was attached to last, be that before the step was added or long
after it.  Only when no id is added twice are the edges written just as they were added.
-/

namespace OutlineChart

namespace Graph
open Mermaid

/-! ## Adding many steps -/

/-- A step to be added, and the id of the parent that it is attached to. -/
structure Addition where
  step : Step
  parent : Option Text
  deriving DecidableEq, Repr

def Addition.edge? (a : Addition) : Option Edge := a.parent.map (Edge.mk · a.step.id)

def addAll (g : Graph) (as : List Addition) : Graph := as.foldl (fun g a => g.add a.step a.parent) g

theorem addAll_append (g : Graph) (as bs : List Addition) :
    g.addAll (as ++ bs) = (g.addAll as).addAll bs := List.foldl_append ..

theorem addAll_concat (g : Graph) (as : List Addition) (a : Addition) :
    g.addAll (as ++ [a]) = (g.addAll as).add a.step a.parent := addAll_append g as [a]

theorem nodes_addAll (g : Graph) (as : List Addition) :
    (g.addAll as).nodes = g.nodes ++ as.map Addition.step := by
  induction as generalizing g with
  | nil => simp [addAll]
  | cons a as ih =>
      have hrest := ih (g.add a.step a.parent)
      rw [nodes_add, List.append_assoc] at hrest
      exact hrest

theorem edges_addAll (g : Graph) (as : List Addition) :
    (g.addAll as).edges = g.edges ++ as.filterMap Addition.edge? := by
  induction as generalizing g with
  | nil => simp [addAll]
  | cons a as ih =>
      have hrest := ih (g.add a.step a.parent)
      have hedges : (g.add a.step a.parent).edges ++ as.filterMap Addition.edge? =
          g.edges ++ (a :: as).filterMap Addition.edge? := by
        rw [List.filterMap_cons, add, Addition.edge?]
        cases a.parent <;> simp
      exact hrest.trans hedges

/-! ## The last parent of an id -/

/-- The parent that an id was attached to last, after a further addition. -/
def reattach (id : Text) (known : Option Text) (a : Addition) : Option Text :=
  if a.step.id = id then a.parent.or known else known

/-- The parent that an id was attached to last. -/
def lastParent? (as : List Addition) (id : Text) : Option Text := as.foldl (reattach id) none

/-- An id was attached to a parent, and to no other one after that. -/
def Attaches (as : List Addition) (id parent : Text) : Prop :=
  ∃ before step after, as = before ++ ⟨step, some parent⟩ :: after ∧ step.id = id ∧
    ∀ later ∈ after, later.step.id = id → later.parent = none

theorem lastParent?_concat (as : List Addition) (a : Addition) (id : Text) :
    lastParent? (as ++ [a]) id = reattach id (lastParent? as id) a := by
  unfold lastParent?
  rw [List.foldl_append]
  rfl

/-- The last addition attaches its id, or else nothing changes. -/
theorem attaches_concat_iff {as : List Addition} {a : Addition} {id parent : Text} :
    Attaches (as ++ [a]) id parent ↔
      (a.step.id = id ∧ a.parent = some parent) ∨
        ((a.step.id = id → a.parent = none) ∧ Attaches as id parent) := by
  constructor
  · intro h
    obtain ⟨before, step, after, hsplit, hid, hlater⟩ := h
    cases after using List.reverseRecOn with
    | nil =>
        have hlast : a = ⟨step, some parent⟩ :=
          List.singleton_inj.1 (List.append_inj' hsplit rfl).2
        apply Or.inl
        rw [hlast]
        exact ⟨hid, rfl⟩
    | append_singleton after last =>
        rw [← List.cons_append, ← List.append_assoc] at hsplit
        obtain ⟨has, hlast⟩ := List.append_inj' hsplit rfl
        have hsame : a = last := List.singleton_inj.1 hlast
        apply Or.inr
        constructor
        · rw [hsame]
          exact hlater last (by simp)
        · exact ⟨before, step, after, has, hid, fun later hmem => hlater later (by simp [hmem])⟩
  · intro h
    cases h with
    | inl hnew =>
        obtain ⟨step, known⟩ := a
        obtain ⟨hid, hparent⟩ := hnew
        have hknown : known = some parent := hparent
        rw [hknown]
        exact ⟨as, step, [], rfl, hid, fun later hmem => absurd hmem List.not_mem_nil⟩
    | inr hold =>
        obtain ⟨hsilent, before, step, after, has, hid, hlater⟩ := hold
        refine ⟨before, step, after ++ [a], by simp [has], hid, ?_⟩
        intro later hmem
        cases List.mem_append.1 hmem with
        | inl hmem => exact hlater later hmem
        | inr hmem =>
            rw [List.mem_singleton.1 hmem]
            exact hsilent

theorem lastParent?_eq_some_iff {as : List Addition} {id parent : Text} :
    lastParent? as id = some parent ↔ Attaches as id parent := by
  induction as using List.reverseRecOn with
  | nil => simp [lastParent?, Attaches]
  | append_singleton as a ih =>
      rw [lastParent?_concat, attaches_concat_iff, ← ih, reattach]
      by_cases hid : a.step.id = id
      · cases hparent : a.parent with
        | none => simp [hid]
        | some p => simp [hid]
      · simp [hid]

/-- The table of incoming edges holds, for every id, the parent that it was attached to last. -/
theorem into?_incoming_addAll (as : List Addition) (id : Text) :
    into? (empty.addAll as).incoming id = (lastParent? as id).map (Edge.mk · id) := by
  induction as using List.reverseRecOn with
  | nil => rfl
  | append_singleton as a ih =>
      rw [addAll_concat, lastParent?_concat, reattach]
      cases hparent : a.parent with
      | none =>
          rw [into?_incoming_add_none, ih]
          simp
      | some parent =>
          rw [into?_incoming_add_some, ih]
          by_cases hid : a.step.id = id
          · simp [hid]
          · simp [hid]

theorem lastParent?_eq_none {as : List Addition} {id : Text}
    (h : ∀ a ∈ as, a.step.id ≠ id) : lastParent? as id = none := by
  cases hlast : lastParent? as id with
  | none => rfl
  | some parent =>
      obtain ⟨before, step, after, has, hid, -⟩ := lastParent?_eq_some_iff.1 hlast
      have hmem : (⟨step, some parent⟩ : Addition) ∈ as := by
        rw [has]
        simp
      exact absurd hid (h _ hmem)

/-- Under an id of its own, a step keeps the parent that it was added with. -/
theorem lastParent?_of_nodup {as : List Addition} (h : (as.map fun a => a.step.id).Nodup)
    {a : Addition} (ha : a ∈ as) : lastParent? as a.step.id = a.parent := by
  induction as using List.reverseRecOn with
  | nil => exact absurd ha List.not_mem_nil
  | append_singleton as last ih =>
      rw [List.map_append, List.nodup_append] at h
      obtain ⟨hnodup, -, hfresh⟩ := h
      have hapart : ∀ known ∈ as, known.step.id ≠ last.step.id := fun known hknown =>
        hfresh _ (List.mem_map_of_mem hknown) _ (by simp)
      rw [lastParent?_concat, reattach]
      cases List.mem_append.1 ha with
      | inl hknown => rw [if_neg (Ne.symm (hapart a hknown)), ih hnodup hknown]
      | inr hlast =>
          rw [List.mem_singleton.1 hlast, if_pos rfl, lastParent?_eq_none hapart, Option.or_none]

/-! ## What is written -/

/-- Every step is stated with the parent that its id was attached to last. -/
theorem statements_addAll (as : List Addition) :
    (empty.addAll as).statements =
      as.flatMap fun a => statementsOf a.step (lastParent? as a.step.id) := by
  have hnodes : (empty.addAll as).nodes = as.map Addition.step := nodes_addAll empty as
  unfold statements
  rw [hnodes, List.flatMap_map]
  apply List.flatMap_congr
  intro a _
  rw [into?_incoming_addAll]
  unfold statementsOf
  rw [Option.map_map]
  rfl

/-- Statements of steps with the parents that they are added with tell of just these additions. -/
theorem ofStatements_flatMap (as : List Addition) :
    ofStatements (as.flatMap fun a => statementsOf a.step a.parent) = empty.addAll as := by
  induction as using List.reverseRecOn with
  | nil => rfl
  | append_singleton as a ih =>
      rw [List.flatMap_append, List.flatMap_singleton, ofStatements_append_statementsOf, ih,
        addAll_concat]

/-- When no id is added twice, every step and every edge has a statement of its own. -/
theorem ofStatements_statements_addAll {as : List Addition}
    (h : (as.map fun a => a.step.id).Nodup) :
    ofStatements (empty.addAll as).statements = empty.addAll as := by
  have hkept : (empty.addAll as).statements = as.flatMap fun a => statementsOf a.step a.parent := by
    rw [statements_addAll]
    apply List.flatMap_congr
    intro a ha
    rw [lastParent?_of_nodup h ha]
  rw [hkept, ofStatements_flatMap]

/-- A step under a new id is stated behind the others, which stay as they are. -/
theorem statements_addAll_concat {as : List Addition} {a : Addition}
    (h : ∀ known ∈ as, known.step.id ≠ a.step.id) :
    (empty.addAll (as ++ [a])).statements =
      (empty.addAll as).statements ++ statementsOf a.step a.parent := by
  have hnew : lastParent? (as ++ [a]) a.step.id = a.parent := by
    rw [lastParent?_concat, reattach, if_pos rfl, lastParent?_eq_none h, Option.or_none]
  rw [statements_addAll, statements_addAll, List.flatMap_append, List.flatMap_singleton, hnew]
  congr 1
  apply List.flatMap_congr
  intro known hknown
  rw [lastParent?_concat, reattach, if_neg (Ne.symm (h known hknown))]

def written (step : Step) (parent : Option Text) : Text :=
  step.id ++ Text.ofString "[\"" ++ step.label ++ Text.ofString "\"]\n" ++
    match parent with
    | some id => id ++ Text.ofString " --> " ++ step.id ++ Text.ofString "\n"
    | none => []

theorem ofLines_statementsOf (step : Step) (parent : Option Text) :
    Text.ofLines ((statementsOf step parent).map Statement.line) = written step parent := by
  have hclose : Text.ofString "\"]\n" = Text.ofString "\"]" ++ [CodePoint.newline] := by decide
  have hend : Text.ofString "\n" = [CodePoint.newline] := by decide
  unfold statementsOf written
  cases parent with
  | none => simp [Statement.line, nodeLine, hclose]
  | some id => simp [Statement.line, nodeLine, edgeLine, hclose, hend]

theorem mermaid_addAll (as : List Addition) :
    (empty.addAll as).mermaid = Text.ofString "graph TD\n" ++
      as.flatMap fun a => written a.step (lastParent? as a.step.id) := by
  rw [mermaid_eq_ofLines, statements_addAll, List.map_flatMap, Text.ofLines, List.flatMap_assoc]
  congr 1
  apply List.flatMap_congr
  intro a _
  exact ofLines_statementsOf a.step (lastParent? as a.step.id)

/-- An edge shows at the steps of its target that were there before it. -/
example :
    let step (label : String) : Step := ⟨Text.ofString "a", .primary, Text.ofString label⟩
    (empty.addAll [⟨step "x", none⟩, ⟨step "y", some (Text.ofString "z")⟩]).mermaid =
      Text.ofString "graph TD\na[\"x\"]\nz --> a\na[\"y\"]\nz --> a\n" := by decide

theorem mermaid_addAll_concat {as : List Addition} {a : Addition}
    (h : ∀ known ∈ as, known.step.id ≠ a.step.id) :
    (empty.addAll (as ++ [a])).mermaid = (empty.addAll as).mermaid ++ written a.step a.parent := by
  rw [mermaid_eq_ofLines, mermaid_eq_ofLines, statements_addAll_concat h, List.map_append,
    Text.ofLines_append, ofLines_statementsOf, List.append_assoc]

/-! ## The table of incoming edges -/

theorem map_target_enter (table : List Edge) (edge : Edge) :
    (enter table edge).map Edge.target =
      if edge.target ∈ table.map Edge.target then table.map Edge.target
      else table.map Edge.target ++ [edge.target] := by
  have hknown : (table.any fun known => known.target = edge.target) = true ↔
      edge.target ∈ table.map Edge.target := by
    simp [List.any_eq_true]
  unfold enter
  by_cases hmem : edge.target ∈ table.map Edge.target
  · rw [if_pos (hknown.2 hmem), if_pos hmem, List.map_map]
    apply List.map_congr_left
    intro known _
    by_cases hsame : known.target = edge.target
    · simp [hsame]
    · simp [hsame]
  · rw [if_neg (mt hknown.1 hmem), if_neg hmem, List.map_append]
    rfl

/-- Entering an edge adds its target, unless it is known. -/
theorem nodup_enter {table : List Edge} (h : (table.map Edge.target).Nodup) (edge : Edge) :
    ((enter table edge).map Edge.target).Nodup := by
  rw [map_target_enter]
  split
  · exact h
  · next hnew => exact List.Nodup.append h (List.nodup_singleton _) (by simpa using hnew)

theorem nodup_foldl_enter (edges : List Edge) {table : List Edge}
    (h : (table.map Edge.target).Nodup) : ((edges.foldl enter table).map Edge.target).Nodup := by
  induction edges generalizing table with
  | nil => exact h
  | cons edge edges ih => exact ih (nodup_enter h edge)

/-- No edge into its target comes after it. -/
def IsLastInto (edges : List Edge) (edge : Edge) : Prop :=
  ∃ before after, edges = before ++ edge :: after ∧ ∀ later ∈ after, later.target ≠ edge.target

theorem isLastInto_iff {edges : List Edge} {edge : Edge} :
    IsLastInto edges edge ↔
      (edges.filter fun e => e.target = edge.target).getLast? = some edge := by
  rw [List.getLast?_eq_head?_reverse, ← List.filter_reverse, List.head?_filter,
    List.find?_eq_some_iff_append]
  constructor
  · intro h
    obtain ⟨before, after, hsplit, hlater⟩ := h
    refine ⟨by simp, after.reverse, before.reverse, by simp [hsplit], ?_⟩
    intro later hmem
    simpa using hlater later (List.mem_reverse.1 hmem)
  · intro h
    obtain ⟨-, after, before, hsplit, hlater⟩ := h
    refine ⟨before.reverse, after.reverse, ?_, ?_⟩
    · simpa using congrArg List.reverse hsplit
    · intro later hmem
      simpa using hlater later (List.mem_reverse.1 hmem)

/-- With one entry for each target, an entry is what is found under its target. -/
theorem mem_iff_into? {table : List Edge} (h : (table.map Edge.target).Nodup) {edge : Edge} :
    edge ∈ table ↔ into? table edge.target = some edge := by
  unfold into?
  constructor
  · intro hmem
    cases hfound : table.find? fun e => e.target = edge.target with
    | none => exact absurd (List.find?_eq_none.1 hfound edge hmem) (by simp)
    | some found =>
        have htarget : found.target = edge.target := by simpa using List.find?_some hfound
        rw [List.inj_on_of_nodup_map h (List.mem_of_find?_eq_some hfound) hmem htarget]
  · exact List.mem_of_find?_eq_some

theorem mem_incoming_iff (g : Graph) (edge : Edge) :
    edge ∈ g.incoming ↔ IsLastInto g.edges edge := by
  have hnodup : (g.incoming.map Edge.target).Nodup := nodup_foldl_enter g.edges List.nodup_nil
  rw [mem_iff_into? hnodup, into?_incoming, isLastInto_iff]

/-- There is an entry for each target of an edge, and for no other. -/
theorem mem_targets_incoming_iff (g : Graph) (target : Text) :
    target ∈ g.incoming.map Edge.target ↔ target ∈ g.edges.map Edge.target := by
  constructor
  · intro h
    obtain ⟨edge, hmem, htarget⟩ := List.mem_map.1 h
    obtain ⟨before, after, hsplit, -⟩ := (mem_incoming_iff g edge).1 hmem
    rw [hsplit, ← htarget]
    simp
  · intro h
    obtain ⟨edge, hmem, htarget⟩ := List.mem_map.1 h
    have hne : (g.edges.filter fun e => e.target = target) ≠ [] :=
      List.ne_nil_of_mem (List.mem_filter.2 ⟨hmem, by simpa using htarget⟩)
    have hlast := List.getLast?_eq_some_getLast hne
    have hinto := List.mem_filter.1 (List.mem_of_getLast? hlast)
    rw [← into?_incoming] at hlast
    exact List.mem_map.2 ⟨_, List.mem_of_find?_eq_some hlast, by simpa using hinto.2⟩

/-! ## The whole history -/

/-- Whatever is added, every step is written in its turn, with the parent that its id was attached to
last.  With ids that are all different the lines tell of each step and of each edge once, in their
order, and one more step under a new id is written behind all others.  The table of incoming edges
has one entry for each target, the last edge that was added for it. -/
theorem additions_written_exactly (as : List Addition) :
    (∀ id parent, lastParent? as id = some parent ↔ Attaches as id parent) ∧
      (empty.addAll as).mermaid = Text.ofString "graph TD\n" ++
        as.flatMap (fun a => written a.step (lastParent? as a.step.id)) ∧
      ((as.map fun a => a.step.id).Nodup → ∃ ss : List Statement,
        (empty.addAll as).mermaid =
          Text.ofString "graph TD\n" ++ Text.ofLines (ss.map Statement.line) ∧
        ss.filterMap Statement.node? = as.map Addition.step ∧
        ss.filterMap Statement.edge? = (empty.addAll as).edges) ∧
      (∀ a : Addition, (∀ known ∈ as, known.step.id ≠ a.step.id) →
        (empty.addAll (as ++ [a])).mermaid =
          (empty.addAll as).mermaid ++ written a.step a.parent) ∧
      ((empty.addAll as).incoming.map Edge.target).Nodup ∧
      (∀ target, target ∈ (empty.addAll as).incoming.map Edge.target ↔
        target ∈ (empty.addAll as).edges.map Edge.target) ∧
      ∀ edge, edge ∈ (empty.addAll as).incoming ↔ IsLastInto (empty.addAll as).edges edge := by
  refine ⟨?_, mermaid_addAll as, ?_, ?_, ?_, ?_, ?_⟩
  · intro id parent
    exact lastParent?_eq_some_iff
  · intro hnodup
    have htold := ofStatements_statements_addAll hnodup
    refine ⟨(empty.addAll as).statements, mermaid_eq_ofLines _, ?_, congrArg Graph.edges htold⟩
    exact (congrArg Graph.nodes htold).trans (nodes_addAll empty as)
  · intro a hfresh
    exact mermaid_addAll_concat hfresh
  · exact nodup_foldl_enter (empty.addAll as).edges List.nodup_nil
  · exact mem_targets_incoming_iff (empty.addAll as)
  · exact mem_incoming_iff (empty.addAll as)

/-- Two steps that hang off each other and a third one that nobody knows. -/
def circle : List Addition :=
  [⟨⟨Text.ofString "a", .primary, Text.ofString "A"⟩, some (Text.ofString "b")⟩,
    ⟨⟨Text.ofString "b", .primary, []⟩, some (Text.ofString "a")⟩]

theorem additions_written_exactly_of_circle :
    let last : Addition := ⟨⟨[], .secondary, Text.ofString "\"]"⟩, some []⟩
    (circle.map fun a => a.step.id).Nodup ∧ (∀ known ∈ circle, known.step.id ≠ last.step.id) ∧
      (∃ ss : List Statement,
        (empty.addAll circle).mermaid =
          Text.ofString "graph TD\n" ++ Text.ofLines (ss.map Statement.line) ∧
        ss.filterMap Statement.edge? =
          [⟨Text.ofString "b", Text.ofString "a"⟩, ⟨Text.ofString "a", Text.ofString "b"⟩]) ∧
      (empty.addAll (circle ++ [last])).mermaid = Text.ofString
        "graph TD\na[\"A\"]\nb --> a\nb[\"\"]\na --> b\n[\"\"]\"]\n --> \n" := by
  intro last
  have hnodup : (circle.map fun a => a.step.id).Nodup := by decide
  have hfresh : ∀ known ∈ circle, known.step.id ≠ last.step.id := by decide
  obtain ⟨-, hwritten, hstated, hnext, -⟩ := additions_written_exactly circle
  obtain ⟨ss, htext, -, hedges⟩ := hstated hnodup
  refine ⟨hnodup, hfresh, ⟨ss, htext, hedges⟩, ?_⟩
  rw [hnext last hfresh, hwritten]
  decide

end Graph

end OutlineChart
