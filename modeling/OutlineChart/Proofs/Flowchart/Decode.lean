import OutlineChart.Proofs.Flowchart.Statement
import OutlineChart.Proofs.Outline.StepId
import OutlineChart.Proofs.Text.Pieces

/-! # Reading Mermaid text back

A line is a statement: behind the id stands either a label in brackets and quotes or an arrow.  Ids
consist of what labels keep and labels hold neither quotes nor line feeds, so nothing that is
written can be taken for anything else, and a grown graph is read back from its text.
-/

namespace OutlineChart

open CodePoint

namespace Mermaid

def opening : Text := Text.ofString "[\""

def closing : Text := Text.ofString "\"]"

def arrow : Text := Text.ofString " --> "

def quote : CodePoint := char '"'

def Statement.read? (line : Text) : Option Statement :=
  let id := line.takeWhile isLabel
  let rest := line.dropWhile isLabel
  if opening.isPrefixOf rest then
    let label := (rest.drop opening.length).takeWhile (· != quote)
    (Tier.ofId? id).map fun tier => .node ⟨id, tier, label⟩
  else if arrow.isPrefixOf rest then some (.edge ⟨id, rest.drop arrow.length⟩)
  else none

/-- The statements that outlines give rise to. -/
inductive Statement.Plain : Statement → Prop
  | node (tier : Tier) (index : Nat) {label : Text} :
      (∀ c ∈ label, c.isLabel = true ∨ c = space) → Plain (.node ⟨tier.stepId index, tier, label⟩)
  | edge (source target : Tier) (i j : Nat) : Plain (.edge ⟨source.stepId i, target.stepId j⟩)

theorem takeWhile_stepId (tier : Tier) (index : Nat) {c : CodePoint} (hc : c.isLabel = false)
    (rest : Text) :
    (tier.stepId index ++ c :: rest).takeWhile isLabel = tier.stepId index ∧
      (tier.stepId index ++ c :: rest).dropWhile isLabel = c :: rest := by
  have hid : ∀ d ∈ tier.stepId index, d.isLabel = true := fun d => Tier.isLabel_of_mem_stepId
  constructor
  · rw [List.takeWhile_append_of_pos hid, List.takeWhile_cons_of_neg (by simp [hc]),
      List.append_nil]
  · rw [List.dropWhile_append_of_pos hid, List.dropWhile_cons_of_neg (by simp [hc])]

theorem takeWhile_label {label : Text} (h : ∀ c ∈ label, c.isLabel = true ∨ c = space) :
    (label ++ closing).takeWhile (· != quote) = label := by
  have hlabel : ∀ c ∈ label, (c != quote) = true := by
    intro c hc
    rcases h c hc with hkept | rfl
    · have hne : c ≠ quote := by
        intro heq
        rw [heq] at hkept
        exact absurd hkept (by decide)
      simpa using hne
    · decide
  have hclosing : closing.takeWhile (· != quote) = [] := by decide
  rw [List.takeWhile_append_of_pos hlabel, hclosing, List.append_nil]

theorem read?_line {s : Statement} (h : s.Plain) : Statement.read? s.line = some s := by
  cases h with
  | @node tier index label hlabel =>
      have hline : (Statement.node ⟨tier.stepId index, tier, label⟩).line =
          tier.stepId index ++ (opening ++ (label ++ closing)) := by
        simp [Statement.line, nodeLine, opening, closing]
      have hopen : opening ++ (label ++ closing) = char '[' :: quote :: (label ++ closing) := rfl
      obtain ⟨hid, hrest⟩ := takeWhile_stepId tier index (c := char '[') (by decide)
        (quote :: (label ++ closing))
      rw [← hopen] at hid hrest
      have hstarts : opening.isPrefixOf (opening ++ (label ++ closing)) = true := by simp
      unfold Statement.read?
      rw [hline, hid, hrest]
      simp only [hstarts, if_true, List.drop_left, takeWhile_label hlabel, Tier.ofId?_stepId]
      rfl
  | edge source target i j =>
      have hline : (Statement.edge ⟨source.stepId i, target.stepId j⟩).line =
          source.stepId i ++ (arrow ++ target.stepId j) := by
        simp [Statement.line, edgeLine, arrow]
      have harrow : arrow ++ target.stepId j = space :: (arrow.tail ++ target.stepId j) := rfl
      obtain ⟨hid, hrest⟩ := takeWhile_stepId source i isLabel_space (arrow.tail ++ target.stepId j)
      rw [← harrow] at hid hrest
      have hnode : opening.isPrefixOf (arrow ++ target.stepId j) = false := rfl
      have hstarts : arrow.isPrefixOf (arrow ++ target.stepId j) = true := by simp
      unfold Statement.read?
      rw [hline, hid, hrest]
      simp only [hnode, hstarts, Bool.false_eq_true, if_false, if_true, List.drop_left]

theorem newline_notMem_line {s : Statement} (h : s.Plain) : newline ∉ s.line := by
  have hid : ∀ (tier : Tier) (index : Nat), newline ∉ tier.stepId index := by
    intro tier index hmem
    exact absurd (Tier.isLabel_of_mem_stepId hmem) (by decide)
  cases h with
  | @node tier index label hlabel =>
      have hnot : newline ∉ label := by
        intro hmem
        exact absurd (hlabel newline hmem) (by decide)
      have hopen : newline ∉ Text.ofString "[\"" := by decide
      have hclose : newline ∉ Text.ofString "\"]" := by decide
      simp [Statement.line, nodeLine, hid, hnot, hopen, hclose]
  | edge source target i j =>
      have harrow : newline ∉ Text.ofString " --> " := by decide
      simp [Statement.line, edgeLine, hid, harrow]

theorem mapM_read?_line {ss : List Statement} (h : ∀ s ∈ ss, s.Plain) :
    (ss.map Statement.line).mapM Statement.read? = some ss := by
  induction ss with
  | nil => rfl
  | cons s ss ih =>
      have hrest := ih fun s' hs' => h s' (List.mem_cons_of_mem _ hs')
      rw [List.map_cons, List.mapM_cons, read?_line (h s List.mem_cons_self), hrest]
      rfl

end Mermaid

namespace Graph
open Mermaid

/-- Reads a diagram: the direction line, and a statement on every other line. -/
def ofMermaid? (t : Text) : Option Graph :=
  match Text.lines t with
  | [] => none
  | first :: rest =>
      if first = directive then (rest.dropLast.mapM Statement.read?).map ofStatements else none

/-- A grown graph of plain statements is read back from its text. -/
theorem Grown.ofMermaid?_mermaid {g : Graph} (h : Grown g) (hplain : ∀ s ∈ g.statements, s.Plain) :
    ofMermaid? g.mermaid = some g := by
  have hfeed : ∀ l ∈ directive :: g.statements.map Statement.line, newline ∉ l := by
    intro l hl
    rcases List.mem_cons.1 hl with rfl | hl
    · decide
    · obtain ⟨s, hs, rfl⟩ := List.mem_map.1 hl
      exact newline_notMem_line (hplain s hs)
  unfold ofMermaid?
  rw [mermaid, mermaidLines_eq, Text.lines_ofLines hfeed, List.cons_append]
  simp only [if_true, List.dropLast_concat, mapM_read?_line hplain, Option.map_some,
    h.ofStatements_statements]

end Graph

end OutlineChart
