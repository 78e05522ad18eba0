import OutlineChart.Flowchart.Graph
import Mathlib.Data.List.Nodup
import Mathlib.Logic.Relation

/-! # Grown graphs

A graph grows when a step with an id of its own is attached to the last primary step, the first one
being primary itself.  Whatever has grown is a tree: its edges follow its steps, and each leads from
the nearest primary step before its target.
-/

namespace OutlineChart

namespace Graph

def lastPrimary? (steps : List Step) : Option Step :=
  (steps.filter fun step => step.tier = .primary).getLast?

@[simp] theorem lastPrimary?_nil : lastPrimary? [] = none := rfl

theorem lastPrimary?_concat (steps : List Step) (step : Step) :
    lastPrimary? (steps ++ [step]) =
      if step.tier = .primary then some step else lastPrimary? steps := by
  unfold lastPrimary?
  rw [List.filter_append]
  by_cases h : step.tier = .primary
  · simp [h]
  · simp [h]

theorem mem_of_lastPrimary? {steps : List Step} {step : Step} (h : lastPrimary? steps = some step) :
    step ∈ steps ∧ step.tier = .primary := by
  have hmem := List.mem_filter.1 (List.mem_of_getLast? h)
  exact ⟨hmem.1, by simpa using hmem.2⟩

theorem isSome_lastPrimary? {steps : List Step} {step : Step} (hmem : step ∈ steps)
    (h : step.tier = .primary) : (lastPrimary? steps).isSome = true := by
  have hne : steps.filter (fun step => step.tier = .primary) ≠ [] :=
    List.ne_nil_of_mem (List.mem_filter.2 ⟨hmem, by simpa using h⟩)
  rw [lastPrimary?, List.getLast?_eq_some_getLast hne]
  rfl

/-- The graphs that come about step by step. -/
inductive Grown : Graph → Prop
  | empty : Grown empty
  | add {g : Graph} {step : Step} : Grown g → (∀ known ∈ g.nodes, known.id ≠ step.id) →
      (g.nodes = [] → step.tier = .primary) →
      Grown (g.add step ((lastPrimary? g.nodes).map Step.id))

namespace Grown

variable {g : Graph}

theorem nodup_ids (h : Grown g) : (g.nodes.map Step.id).Nodup := by
  induction h with
  | empty => exact List.nodup_nil
  | @add g step _ fresh _ ih =>
      have hnew : step.id ∉ g.nodes.map Step.id := by
        intro hmem
        obtain ⟨known, hknown, hid⟩ := List.mem_map.1 hmem
        exact fresh known hknown hid
      rw [nodes_add, List.map_append]
      exact List.Nodup.append ih (List.nodup_singleton _) (by simpa using hnew)

theorem head_primary (h : Grown g) : ∀ root ∈ g.nodes.head?, root.tier = .primary := by
  induction h with
  | empty =>
      intro root hroot
      exact absurd hroot (by simp [Graph.empty])
  | @add g step _ _ first ih =>
      intro root hroot
      rw [nodes_add] at hroot
      cases hnodes : g.nodes with
      | nil =>
          rw [hnodes] at hroot
          have hstep : step = root := by simpa using hroot
          exact hstep ▸ first hnodes
      | cons node nodes =>
          rw [hnodes] at hroot
          exact ih root (by simpa [hnodes] using hroot)

theorem isSome_lastPrimary? (h : Grown g) (hne : g.nodes ≠ []) :
    (lastPrimary? g.nodes).isSome = true := by
  obtain ⟨root, hroot⟩ := Option.isSome_iff_exists.1 (List.isSome_head?.2 hne)
  exact Graph.isSome_lastPrimary? (List.mem_of_head? hroot) (h.head_primary root hroot)

/-- An edge is added with every step but the first. -/
theorem targets (h : Grown g) : g.edges.map Edge.target = g.nodes.tail.map Step.id := by
  induction h with
  | empty => rfl
  | @add g step grown _ _ ih =>
      by_cases hne : g.nodes = []
      · have hedges : g.edges = [] := by simpa [hne] using ih
        simp [hne, hedges]
      · obtain ⟨parent, hparent⟩ := Option.isSome_iff_exists.1 (grown.isSome_lastPrimary? hne)
        rw [hparent, Option.map_some, edges_add_some, nodes_add, List.tail_append_of_ne_nil hne,
          List.map_append, List.map_append, ih]
        rfl

theorem length_nodes (h : Grown g) (hne : g.nodes ≠ []) :
    g.nodes.length = g.edges.length + 1 := by
  have hlength := congrArg List.length h.targets
  have hpos := List.length_pos_iff.2 hne
  simp only [List.length_map, List.length_tail] at hlength
  omega

/-- What is added later changes nothing at the position of an edge. -/
theorem source (h : Grown g) {k : Nat} {edge : Edge} (hedge : g.edges[k]? = some edge) :
    ∃ parent, lastPrimary? (g.nodes.take (k + 1)) = some parent ∧ edge.source = parent.id := by
  induction h with
  | empty => exact absurd hedge (by simp [Graph.empty])
  | @add g step grown _ _ ih =>
      by_cases hne : g.nodes = []
      · have hedges : g.edges = [] := by simpa [hne] using grown.targets
        simp [hne, hedges] at hedge
      · obtain ⟨parent, hparent⟩ := Option.isSome_iff_exists.1 (grown.isSome_lastPrimary? hne)
        have hlength := grown.length_nodes hne
        rw [hparent, Option.map_some, edges_add_some] at hedge
        by_cases hk : k < g.edges.length
        · rw [List.getElem?_append_left hk] at hedge
          rw [nodes_add, List.take_append_of_le_length (by omega)]
          exact ih hedge
        · have hlast : k = g.edges.length := by
            have hbound := (List.getElem?_eq_some_iff.1 hedge).1
            simp only [List.length_append, List.length_singleton] at hbound
            omega
          subst hlast
          have hnew : (⟨parent.id, step.id⟩ : Edge) = edge := by simpa using hedge
          refine ⟨parent, ?_, hnew ▸ rfl⟩
          rw [nodes_add, List.take_append_of_le_length (by omega), ← hlength, List.take_length]
          exact hparent

theorem exists_ends (h : Grown g) {edge : Edge} (hedge : edge ∈ g.edges) :
    ∃ parent ∈ g.nodes, ∃ target ∈ g.nodes, edge = ⟨parent.id, target.id⟩ := by
  obtain ⟨k, hk⟩ := List.getElem?_of_mem hedge
  obtain ⟨parent, hparent, hsource⟩ := h.source hk
  have hmem : edge.target ∈ g.nodes.tail.map Step.id := h.targets ▸ List.mem_map_of_mem hedge
  obtain ⟨target, htarget, hid⟩ := List.mem_map.1 hmem
  refine ⟨parent, List.mem_of_mem_take (mem_of_lastPrimary? hparent).1, target,
    List.mem_of_mem_tail htarget, ?_⟩
  rw [← hsource, hid]

end Grown

/-! ## Trees -/

/-- A tree that is rooted at its first step and whose edges follow its steps. -/
structure IsTree (g : Graph) : Prop where
  /-- The root is primary, and no edge leads to it. -/
  root : ∃ root, g.nodes.head? = some root ∧ root.tier = .primary ∧
    ∀ edge ∈ g.edges, edge.target ≠ root.id
  length_nodes : g.nodes.length = g.edges.length + 1
  /-- The edge at `k` leads to the step at `k + 1`, from the nearest primary step before it. -/
  edge_at : ∀ k edge, g.edges[k]? = some edge → ∃ parent target,
    g.nodes[k + 1]? = some target ∧ lastPrimary? (g.nodes.take (k + 1)) = some parent ∧
      edge = ⟨parent.id, target.id⟩
  one_incoming : ∀ k target, g.nodes[k + 1]? = some target →
    g.edges.countP (fun edge => edge.target = target.id) = 1
  secondary_leaf : ∀ step ∈ g.nodes, step.tier = .secondary → ∀ edge ∈ g.edges,
    edge.source ≠ step.id
  nodup_ids : (g.nodes.map Step.id).Nodup
  /-- Every step is reached from the root along edges. -/
  reached : ∀ root ∈ g.nodes.head?, ∀ step ∈ g.nodes,
    Relation.ReflTransGen (fun a b => (⟨a, b⟩ : Edge) ∈ g.edges) root.id step.id

namespace Grown

variable {g : Graph}

theorem target_ne_root (h : Grown g) {root : Step} (hroot : g.nodes.head? = some root) :
    ∀ edge ∈ g.edges, edge.target ≠ root.id := by
  intro edge hedge heq
  have hnodes : g.nodes = root :: g.nodes.tail := List.eq_cons_of_mem_head? hroot
  have hnodup := h.nodup_ids
  rw [hnodes, List.map_cons, List.nodup_cons, ← h.targets] at hnodup
  exact hnodup.1 (heq ▸ List.mem_map_of_mem hedge)

theorem edge_at (h : Grown g) {k : Nat} {edge : Edge} (hedge : g.edges[k]? = some edge) :
    ∃ parent target, g.nodes[k + 1]? = some target ∧
      lastPrimary? (g.nodes.take (k + 1)) = some parent ∧ edge = ⟨parent.id, target.id⟩ := by
  obtain ⟨parent, hparent, hsource⟩ := h.source hedge
  have htarget : (g.nodes.tail.map Step.id)[k]? = some edge.target := by
    rw [← h.targets, List.getElem?_map, hedge]
    rfl
  rw [List.getElem?_map, List.getElem?_tail, Option.map_eq_some_iff] at htarget
  obtain ⟨target, hat, hid⟩ := htarget
  exact ⟨parent, target, hat, hparent, by rw [← hsource, hid]⟩

/-- The steps say which edges there are. -/
theorem getElem?_edges (h : Grown g) (k : Nat) :
    g.edges[k]? = g.nodes[k + 1]?.bind fun target =>
      (lastPrimary? (g.nodes.take (k + 1))).map fun parent => ⟨parent.id, target.id⟩ := by
  cases hedge : g.edges[k]? with
  | some edge =>
      obtain ⟨parent, target, htarget, hparent, rfl⟩ := h.edge_at hedge
      rw [htarget, Option.bind_some, hparent, Option.map_some]
  | none =>
      have htargets : (g.edges.map Edge.target)[k]? = (g.nodes.tail.map Step.id)[k]? := by
        rw [h.targets]
      rw [List.getElem?_map, hedge, List.getElem?_map, List.getElem?_tail, Option.map_none,
        eq_comm, Option.map_eq_none_iff] at htargets
      rw [htargets, Option.bind_none]

theorem one_incoming (h : Grown g) {k : Nat} {target : Step}
    (htarget : g.nodes[k + 1]? = some target) :
    g.edges.countP (fun edge => edge.target = target.id) = 1 := by
  have hmem : target.id ∈ g.edges.map Edge.target := by
    rw [h.targets]
    rw [← List.getElem?_tail] at htarget
    exact List.mem_map_of_mem (List.mem_of_getElem? htarget)
  have hnodup : (g.edges.map Edge.target).Nodup := by
    rw [h.targets]
    exact h.nodup_ids.sublist ((List.tail_sublist _).map _)
  have hcount := List.count_eq_one_of_mem hnodup hmem
  rw [List.count, List.countP_map] at hcount
  simpa [Function.comp_def, beq_eq_decide] using hcount

theorem secondary_leaf (h : Grown g) {step : Step} (hstep : step ∈ g.nodes)
    (htier : step.tier = .secondary) : ∀ edge ∈ g.edges, edge.source ≠ step.id := by
  intro edge hedge heq
  obtain ⟨k, hk⟩ := List.getElem?_of_mem hedge
  obtain ⟨parent, hparent, hsource⟩ := h.source hk
  obtain ⟨hmem, hprimary⟩ := mem_of_lastPrimary? hparent
  have hsame : parent = step :=
    List.inj_on_of_nodup_map h.nodup_ids (List.mem_of_mem_take hmem) hstep (hsource ▸ heq)
  rw [hsame, htier] at hprimary
  exact Tier.noConfusion hprimary

theorem reached (h : Grown g) {root : Step} (hroot : g.nodes.head? = some root) (k : Nat)
    {step : Step} (hstep : g.nodes[k]? = some step) :
    Relation.ReflTransGen (fun a b => (⟨a, b⟩ : Edge) ∈ g.edges) root.id step.id := by
  induction k using Nat.strongRecOn generalizing step with
  | ind k ih =>
      cases k with
      | zero =>
          rw [← List.head?_eq_getElem?, hroot] at hstep
          rw [Option.some.inj hstep]
      | succ k =>
          have hlength := h.length_nodes (List.ne_nil_of_mem (List.mem_of_mem_head? hroot))
          have hbound := (List.getElem?_eq_some_iff.1 hstep).1
          obtain ⟨edge, hedge⟩ : ∃ edge, g.edges[k]? = some edge :=
            ⟨_, List.getElem?_eq_getElem (by omega)⟩
          obtain ⟨parent, target, htarget, hparent, heq⟩ := h.edge_at hedge
          have hsame : target = step := Option.some.inj (htarget.symm.trans hstep)
          obtain ⟨j, hj⟩ := List.getElem?_of_mem (mem_of_lastPrimary? hparent).1
          have hjk : j < k + 1 := by
            have hlt := (List.getElem?_eq_some_iff.1 hj).1
            exact Nat.lt_of_lt_of_le hlt (List.length_take_le _ _)
          rw [List.getElem?_take_of_lt hjk] at hj
          refine Relation.ReflTransGen.tail (ih j hjk hj) ?_
          exact hsame ▸ heq ▸ List.mem_of_getElem? hedge

theorem isTree (h : Grown g) (hne : g.nodes ≠ []) : g.IsTree where
  root := by
    obtain ⟨root, hroot⟩ := Option.isSome_iff_exists.1 (List.isSome_head?.2 hne)
    exact ⟨root, hroot, h.head_primary root hroot, h.target_ne_root hroot⟩
  length_nodes := h.length_nodes hne
  edge_at := fun _ _ => h.edge_at
  one_incoming := fun _ _ => h.one_incoming
  secondary_leaf := fun _ => h.secondary_leaf
  nodup_ids := h.nodup_ids
  reached := by
    intro root hroot step hstep
    obtain ⟨k, hk⟩ := List.getElem?_of_mem hstep
    exact h.reached hroot k hk

end Grown

end Graph

end OutlineChart
