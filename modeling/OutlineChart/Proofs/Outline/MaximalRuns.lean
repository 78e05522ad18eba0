import OutlineChart.Proofs.Outline.Runs

/-! # Maximal runs

Which runs a text has, said without splitting it: gaps and runs take turns, and a run goes on for as
long as it can.  A text is parted in one way only, and its label differs from it in the gaps alone.
So labels are their own labels, they keep what there is to keep, and a text may be cut in any gap.
-/

namespace OutlineChart

namespace Label
open CodePoint

/-! ## Parting a text -/

/-- Gaps and runs in turn.  A run ends only where the text ends or something that is not kept
follows it, so two runs never meet. -/
inductive Parted : Text → List Text → Prop
  | gap {gap : Text} (hgap : ∀ c ∈ gap, c.isLabel = false) : Parted gap []
  | run {gap run rest : Text} {rs : List Text} (hgap : ∀ c ∈ gap, c.isLabel = false)
      (hne : run ≠ []) (hrun : ∀ c ∈ run, c.isLabel = true)
      (hend : ∀ c ∈ rest.head?, c.isLabel = false) (hrest : Parted rest rs) :
      Parted (gap ++ run ++ rest) (run :: rs)

namespace Parted

variable {c : CodePoint} {t : Text} {rs : List Text}

/-- The first gap grows. -/
theorem cons_of_not_isLabel (hc : c.isLabel = false) (h : Parted t rs) : Parted (c :: t) rs := by
  cases h with
  | gap hgap => exact gap (List.forall_mem_cons.2 ⟨hc, hgap⟩)
  | @run front _ rest _ hgap hne hrun hend hrest =>
      have hfront : ∀ d ∈ c :: front, d.isLabel = false := List.forall_mem_cons.2 ⟨hc, hgap⟩
      exact run hfront hne hrun hend hrest

/-- A run is opened in front of a gap. -/
theorem cons_of_head? (hc : c.isLabel = true) (hend : ∀ d ∈ t.head?, d.isLabel = false)
    (h : Parted t rs) : Parted (c :: t) ([c] :: rs) := by
  have halone : ∀ d ∈ [c], d.isLabel = true := by simpa using hc
  exact run (List.forall_mem_nil _) (List.cons_ne_nil c []) halone hend h

/-- The first run grows if nothing stands before it, and otherwise a new one is opened. -/
theorem exists_cons_of_isLabel (hc : c.isLabel = true) (h : Parted t rs) :
    ∃ rs', Parted (c :: t) rs' := by
  cases h with
  | gap hgap =>
      have hend : ∀ d ∈ t.head?, d.isLabel = false := fun d hd =>
        hgap d (List.mem_of_mem_head? hd)
      exact ⟨_, (gap hgap).cons_of_head? hc hend⟩
  | @run front first rest rs hgap hne hrun hend hrest =>
      cases front with
      | nil =>
          have hgrown : ∀ d ∈ c :: first, d.isLabel = true := List.forall_mem_cons.2 ⟨hc, hrun⟩
          exact ⟨_, run (List.forall_mem_nil _) (List.cons_ne_nil c first) hgrown hend hrest⟩
      | cons d front =>
          have hend' : ∀ e ∈ (d :: front ++ first ++ rest).head?, e.isLabel = false := by
            simpa using hgap d List.mem_cons_self
          exact ⟨_, (run hgap hne hrun hend hrest).cons_of_head? hc hend'⟩

end Parted

theorem exists_parted (t : Text) : ∃ rs, Parted t rs := by
  induction t with
  | nil => exact ⟨[], .gap (by simp)⟩
  | cons c t ih =>
      obtain ⟨rs, h⟩ := ih
      cases hc : c.isLabel with
      | true => exact h.exists_cons_of_isLabel hc
      | false => exact ⟨rs, h.cons_of_not_isLabel hc⟩

theorem Parted.eq_runs {t : Text} {rs : List Text} (h : Parted t rs) : rs = runs t := by
  induction h with
  | @gap front hgap =>
      have hnone := runs_of_not_isLabel_append hgap []
      rw [List.append_nil] at hnone
      exact hnone.symm
  | run hgap hne hrun hend _ ih =>
      rw [List.append_assoc, runs_of_not_isLabel_append hgap, runs_append_of_head? hne hrun hend,
        ← ih]

/-- A text is parted in one way, into its runs. -/
theorem parted_iff {t : Text} {rs : List Text} : Parted t rs ↔ rs = runs t := by
  constructor
  · exact Parted.eq_runs
  · intro h
    obtain ⟨found, hfound⟩ := exists_parted t
    rw [h, ← hfound.eq_runs]
    exact hfound

/-! ## What is kept -/

theorem Parted.flatten_eq_filter {t : Text} {rs : List Text} (h : Parted t rs) :
    rs.flatten = t.filter isLabel := by
  induction h with
  | gap hgap => exact (List.filter_eq_nil_iff.2 fun c hc => by simp [hgap c hc]).symm
  | @run front run rest rs hgap hne hrun hend hrest ih =>
      have hfront : front.filter isLabel = [] :=
        List.filter_eq_nil_iff.2 fun c hc => by simp [hgap c hc]
      rw [List.filter_append, List.filter_append, hfront, List.filter_eq_self.2 hrun,
        List.flatten_cons, ih]
      rfl

/-- Nothing is put between runs that would be kept. -/
theorem filter_isLabel_join {rs : List Text} (h : ∀ run ∈ rs, ∀ c ∈ run, c.isLabel = true) :
    (join rs).filter isLabel = rs.flatten := by
  induction rs with
  | nil => rfl
  | cons run rs ih =>
      obtain ⟨hrun, hrest⟩ := List.forall_mem_cons.1 h
      by_cases hlast : rs = []
      · subst hlast
        simpa [join] using hrun
      · rw [join_cons_of_ne_nil run hlast, List.filter_append, List.filter_eq_self.2 hrun,
          List.filter_cons_of_neg (by simp [isLabel_space]), ih hrest, List.flatten_cons]

theorem filter_isLabel_ofText (t : Text) : (ofText t).filter isLabel = t.filter isLabel := by
  have hparted : Parted t (runs t) := parted_iff.2 rfl
  rw [ofText_eq_join_runs, filter_isLabel_join fun run hrun => isLabel_of_mem_runs hrun,
    hparted.flatten_eq_filter]

/-! ## Cutting in a gap -/

theorem join_append {rs qs : List Text} (hrs : rs ≠ []) (hqs : qs ≠ []) :
    join (rs ++ qs) = join rs ++ space :: join qs := by
  induction rs with
  | nil => exact absurd rfl hrs
  | cons run rs ih =>
      by_cases hlast : rs = []
      · subst hlast
        rw [List.singleton_append, join_cons_of_ne_nil run hqs]
        simp [join]
      · have hne : rs ++ qs ≠ [] := by simp [hlast]
        rw [List.cons_append, join_cons_of_ne_nil run hne, ih hlast, join_cons_of_ne_nil run hlast,
          List.append_assoc, List.cons_append]

theorem ofText_eq_nil_iff {t : Text} : ofText t = [] ↔ runs t = [] := by
  rw [ofText_eq_join_runs, join_runs_eq_nil]

/-- The labels of both sides of a gap, with one space between them if there are two. -/
theorem ofText_append_cons_of_not_isLabel {c : CodePoint} (hc : c.isLabel = false) (a b : Text) :
    ofText (a ++ c :: b) =
      if ofText a = [] then ofText b
      else if ofText b = [] then ofText a
      else ofText a ++ space :: ofText b := by
  rw [ofText_eq_join_runs (a ++ c :: b), runs_append_cons_of_not_isLabel hc]
  split
  · next ha => rw [ofText_eq_nil_iff.1 ha, List.nil_append, ofText_eq_join_runs]
  · next ha =>
      split
      · next hb => rw [ofText_eq_nil_iff.1 hb, List.append_nil, ofText_eq_join_runs]
      · next hb =>
          rw [join_append (mt ofText_eq_nil_iff.2 ha) (mt ofText_eq_nil_iff.2 hb),
            ofText_eq_join_runs, ofText_eq_join_runs]

/-! ## The label of a text -/

/-- A label is the maximal runs of its text with one space between neighbours.  So it is its own
label, it keeps what there is to keep, in order, and when a text is cut where nothing is kept, its
label is put together from those of the two parts. -/
theorem ofText_joins_maximal_runs (t : Text) :
    (∀ rs, Parted t rs ↔ rs = runs t) ∧ ofText t = [space].intercalate (runs t) ∧
      ofText (ofText t) = ofText t ∧ (ofText t).filter isLabel = t.filter isLabel ∧
      ∀ c, c.isLabel = false → ∀ rest, ofText (t ++ c :: rest) =
        if ofText t = [] then ofText rest
        else if ofText rest = [] then ofText t
        else ofText t ++ space :: ofText rest := by
  refine ⟨fun _ => parted_iff, ofText_eq_join_runs t, ofText_ofText t, filter_isLabel_ofText t, ?_⟩
  intro c hc rest
  exact ofText_append_cons_of_not_isLabel hc t rest

/-- Cut at a line separator, behind a gap of other whitespace and before one of other marks. -/
theorem ofText_joins_maximal_runs_of_separated :
    let t := Text.ofString "\t<b>A-1 \u00A0"
    let rest := Text.ofString ".\u3000 b-\""
    (char '\u2028').isLabel = false ∧ Parted t (runs t) ∧
      ofText t = Text.ofString "b A-1" ∧ ofText rest = Text.ofString "b-" ∧
      ofText (t ++ char '\u2028' :: rest) = Text.ofString "b A-1 b-" := by
  intro t rest
  obtain ⟨hparted, hjoined, -, -, hcut⟩ := ofText_joins_maximal_runs t
  have hgap : (char '\u2028').isLabel = false := by decide
  have hleft : ofText t = Text.ofString "b A-1" := hjoined.trans (by decide)
  have hright : ofText rest = Text.ofString "b-" := by decide
  refine ⟨hgap, (hparted _).2 rfl, hleft, hright, ?_⟩
  rw [hcut _ hgap rest, hleft, hright]
  decide

end Label

end OutlineChart
