import OutlineChart.Flowchart.Mermaid

/-! # Looking up incoming edges

The table of incoming edges holds one edge for each target.  Looking a target up in it finds the
last edge that was added for that target, whatever came between.
-/

namespace OutlineChart

namespace Graph

/-- Entering an edge changes the entry of its own target and no other. -/
theorem into?_enter (table : List Edge) (edge : Edge) (target : Text) :
    into? (enter table edge) target =
      if edge.target = target then some edge else into? table target := by
  unfold enter into?
  split
  · next known =>
      -- replacing an entry keeps its target, so the search stops at the same place
      have hsame : (fun e : Edge => decide (e.target = target)) ∘
          (fun e => if e.target = edge.target then edge else e) =
            fun e : Edge => decide (e.target = target) := by
        funext e
        by_cases he : e.target = edge.target
        · simp [he]
        · simp [he]
      rw [List.find?_map, hsame]
      by_cases ht : edge.target = target
      · obtain ⟨first, hfirst⟩ := Option.isSome_iff_exists.1
          (List.find?_isSome.2 (List.any_eq_true.1 known))
        have heq : first.target = edge.target := by simpa using List.find?_some hfirst
        rw [ht] at hfirst
        simp [hfirst, heq, ht]
      · rw [if_neg ht]
        cases hfound : table.find? fun e => decide (e.target = target) with
        | none => rfl
        | some first =>
            have heq : first.target = target := by simpa using List.find?_some hfound
            have hne : first.target ≠ edge.target := fun h => ht (h.symm.trans heq)
            simp [hne]
  · next unknown =>
      rw [List.find?_append]
      by_cases ht : edge.target = target
      · have hnone : (table.find? fun e => decide (e.target = target)) = none := by
          rw [List.find?_eq_none]
          intro e he
          have hall := List.any_eq_false.1 (Bool.not_eq_true _ ▸ unknown) e he
          simpa [ht] using hall
        simp [hnone, ht]
      · simp [ht]

theorem into?_foldl_enter (edges table : List Edge) (target : Text) :
    into? (edges.foldl enter table) target =
      ((edges.filter fun edge => edge.target = target).getLast?).or (into? table target) := by
  induction edges generalizing table with
  | nil => simp
  | cons edge edges ih =>
      rw [List.foldl_cons, ih, into?_enter]
      by_cases ht : edge.target = target
      · simp [ht, List.getLast?_cons, Option.or_some]
      · simp [ht]

/-- A target's entry is the last edge added for it. -/
theorem into?_incoming (g : Graph) (target : Text) :
    into? g.incoming target = (g.edges.filter fun edge => edge.target = target).getLast? := by
  rw [incoming, into?_foldl_enter]
  simp [into?]

theorem into?_incoming_add_none (g : Graph) (step : Step) (target : Text) :
    into? (g.add step none).incoming target = into? g.incoming target := by
  rw [into?_incoming, into?_incoming, edges_add_none]

/-- A later edge hides the earlier ones into its target and shows for no other. -/
theorem into?_incoming_add_some (g : Graph) (step : Step) (parent target : Text) :
    into? (g.add step (some parent)).incoming target =
      if step.id = target then some ⟨parent, step.id⟩ else into? g.incoming target := by
  rw [into?_incoming, into?_incoming, edges_add_some, List.filter_append]
  by_cases ht : step.id = target
  · simp [ht]
  · simp [ht]

theorem into?_incoming_eq_none {g : Graph} {target : Text}
    (h : ∀ edge ∈ g.edges, edge.target ≠ target) : into? g.incoming target = none := by
  have hnone : (g.edges.filter fun edge => edge.target = target) = [] := by
    rw [List.filter_eq_nil_iff]
    intro edge hedge
    simpa using h edge hedge
  rw [into?_incoming, hnone]
  rfl

end Graph

end OutlineChart
