import OutlineChart.Outline.Label
import OutlineChart.Proofs.Text.Pieces
import OutlineChart.Proofs.Text.Trim

/-! # Labels are joined runs

A label is made in three passes: soften, squeeze, strip.  Together they keep exactly the maximal
runs of letters, digits and hyphens and put one space between neighbours.
-/

namespace OutlineChart

namespace Label
open CodePoint

/-! ## Reading runs -/

@[simp] theorem runs_nil : runs [] = [] := rfl

theorem runs_cons_of_not_isLabel {c : CodePoint} (h : c.isLabel = false) (t : Text) :
    runs (c :: t) = runs t := by
  simp [runs, List.splitOnP_cons_eq_if_modifyHead, h]

/-- A code point that is kept opens a run, or joins the one that begins right behind it. -/
theorem runs_cons_of_isLabel {c : CodePoint} (h : c.isLabel = true) (t : Text) :
    ∃ run rest, t.splitOnP (fun c => !c.isLabel) = run :: rest ∧
      runs (c :: t) = (c :: run) :: rest.filter fun run => !run.isEmpty := by
  obtain ⟨run, rest, hsplit⟩ :=
    List.exists_cons_of_ne_nil (List.splitOnP_ne_nil (fun c => !c.isLabel) t)
  refine ⟨run, rest, hsplit, ?_⟩
  simp [runs, List.splitOnP_cons_eq_if_modifyHead, h, hsplit]

theorem runs_singleton {c : CodePoint} (h : c.isLabel = true) : runs [c] = [[c]] := by
  simp [runs, List.splitOnP_cons_eq_if_modifyHead, h]

theorem runs_cons_cons_of_not_isLabel {c d : CodePoint} (hc : c.isLabel = true)
    (hd : d.isLabel = false) (t : Text) : runs (c :: d :: t) = [c] :: runs t := by
  simp [runs, List.splitOnP_cons_eq_if_modifyHead, hc, hd]

/-- No run goes across a code point that is not kept. -/
theorem runs_append_cons_of_not_isLabel {c : CodePoint} (h : c.isLabel = false) (a b : Text) :
    runs (a ++ c :: b) = runs a ++ runs b := by
  unfold runs
  rw [List.splitOnP_append_cons a b (by simp [h]), List.filter_append]

theorem runs_append_of_not_isLabel {back : Text} (h : ∀ c ∈ back, c.isLabel = false) (t : Text) :
    runs (t ++ back) = runs t := by
  induction back generalizing t with
  | nil => rw [List.append_nil]
  | cons c back ih =>
      obtain ⟨hc, hback⟩ := List.forall_mem_cons.1 h
      rw [runs_append_cons_of_not_isLabel hc, ← List.nil_append back, ih hback, runs_nil,
        List.append_nil]

theorem runs_of_not_isLabel_append {front : Text} (h : ∀ c ∈ front, c.isLabel = false) (t : Text) :
    runs (front ++ t) = runs t := by
  induction front with
  | nil => rfl
  | cons c front ih =>
      obtain ⟨hc, hfront⟩ := List.forall_mem_cons.1 h
      rw [List.cons_append, runs_cons_of_not_isLabel hc, ih hfront]

theorem ne_nil_of_mem_runs {t run : Text} (h : run ∈ runs t) : run ≠ [] := by
  have hrun := (List.mem_filter.1 h).2
  simpa using hrun

theorem isLabel_of_mem_runs {t run : Text} (h : run ∈ runs t) : ∀ c ∈ run, c.isLabel = true := by
  intro c hc
  simpa using Text.eq_false_of_mem_splitOnP (List.mem_filter.1 h).1 c hc

/-! ## Joining runs -/

@[simp] theorem join_nil : join [] = [] := rfl

theorem join_cons_cons (c : CodePoint) (run : Text) (rs : List Text) :
    join ((c :: run) :: rs) = c :: join (run :: rs) := by
  cases rs with
  | nil => simp [join]
  | cons r rs => simp [join, List.intercalate_cons_cons]

theorem join_cons_of_ne_nil (run : Text) {rs : List Text} (h : rs ≠ []) :
    join (run :: rs) = run ++ space :: join rs := by
  simp [join, List.intercalate_cons_of_ne_nil h]

theorem join_ne_nil {run : Text} (hne : run ≠ []) (rs : List Text) : join (run :: rs) ≠ [] := by
  obtain ⟨c, run, rfl⟩ := List.exists_cons_of_ne_nil hne
  rw [join_cons_cons]
  exact List.cons_ne_nil _ _

theorem join_runs_eq_nil {t : Text} : join (runs t) = [] ↔ runs t = [] := by
  constructor
  · intro h
    cases hruns : runs t with
    | nil => rfl
    | cons run rs =>
        have hne : run ≠ [] := ne_nil_of_mem_runs (hruns ▸ List.mem_cons_self)
        exact absurd (hruns ▸ h) (join_ne_nil hne rs)
  · intro h
    rw [h, join_nil]

theorem join_runs_cons_cons {c d : CodePoint} (hc : c.isLabel = true) (hd : d.isLabel = true)
    (t : Text) : join (runs (c :: d :: t)) = c :: join (runs (d :: t)) := by
  obtain ⟨run, rest, hsplit, hruns⟩ := runs_cons_of_isLabel hc (d :: t)
  obtain ⟨run', rest', hsplit', hruns'⟩ := runs_cons_of_isLabel hd t
  have hhead : run = d :: run' ∧ rest = rest' := by
    simpa [List.splitOnP_cons_eq_if_modifyHead, hd, hsplit', eq_comm] using hsplit
  rw [hruns, hruns', hhead.1, hhead.2, join_cons_cons]

/-! ## The passes -/

theorem isBlank_of_isLabel {c : CodePoint} (h : c.isLabel = true) : c.isBlank = false := by
  cases hblank : c.isBlank with
  | true =>
      rw [isLabel_of_isBlank hblank] at h
      exact absurd h Bool.false_ne_true
  | false => rfl

theorem squeezeFrom_soften_of_isLabel {c : CodePoint} (h : c.isLabel = true) (inRun : Bool)
    (t : Text) : squeezeFrom inRun (soften c :: t) = c :: squeezeFrom false t := by
  have hblank : (soften c).isBlank = false := by simp [isBlank_soften, h]
  rw [squeezeFrom, if_neg (by simp [hblank]), soften_of_isLabel h]

theorem squeezeFrom_soften_of_not_isLabel {c : CodePoint} (h : c.isLabel = false) (inRun : Bool)
    (t : Text) : squeezeFrom inRun (soften c :: t) =
      if inRun then squeezeFrom true t else space :: squeezeFrom true t := by
  have hblank : (soften c).isBlank = true := by simp [isBlank_soften, h]
  rw [squeezeFrom, if_pos hblank]

theorem dropWhile_squeezeFrom_true (t : Text) :
    (squeezeFrom true t).dropWhile isBlank = squeezeFrom true t := by
  induction t with
  | nil => rfl
  | cons c t ih =>
      cases hc : c.isBlank with
      | true => simpa [squeezeFrom, hc] using ih
      | false => simp [squeezeFrom, hc]

/-- Behind a run of blanks the squeezed text, trimmed on its right, is the joined runs; behind a
code point that is kept it goes on with the run of that code point. -/
theorem trimRight_squeezeFrom (t : Text) :
    Text.trimRight isBlank (squeezeFrom true (t.map soften)) = join (runs t) ∧
      ∀ c : CodePoint, c.isLabel = true →
        c :: Text.trimRight isBlank (squeezeFrom false (t.map soften)) = join (runs (c :: t)) := by
  induction t with
  | nil =>
      refine ⟨rfl, ?_⟩
      intro c hc
      rw [runs_singleton hc]
      simp [squeezeFrom, join]
  | cons d t ih =>
      obtain ⟨behindBlank, behindLabel⟩ := ih
      cases hd : d.isLabel with
      | true =>
          have hsame : ∀ inRun, Text.trimRight isBlank
              (squeezeFrom inRun ((d :: t).map soften)) = join (runs (d :: t)) := by
            intro inRun
            rw [List.map_cons, squeezeFrom_soften_of_isLabel hd,
              Text.trimRight_cons_of_stays (Or.inl (isBlank_of_isLabel hd)), behindLabel d hd]
          refine ⟨hsame true, ?_⟩
          intro c hc
          rw [hsame false, join_runs_cons_cons hc hd]
      | false =>
          refine ⟨?_, ?_⟩
          · rw [List.map_cons, squeezeFrom_soften_of_not_isLabel hd, if_pos rfl, behindBlank,
              runs_cons_of_not_isLabel hd]
          · intro c hc
            rw [List.map_cons, squeezeFrom_soften_of_not_isLabel hd, if_neg (by simp),
              runs_cons_cons_of_not_isLabel hc hd]
            cases hruns : runs t with
            | nil =>
                have hnil : Text.trimRight isBlank (squeezeFrom true (t.map soften)) = [] := by
                  rw [behindBlank, hruns, join_nil]
                rw [Text.trimRight_cons_of_drops isBlank_space hnil]
                simp [join]
            | cons run rs =>
                have hne : join (runs t) ≠ [] := by
                  rw [Ne, join_runs_eq_nil, hruns]
                  exact List.cons_ne_nil _ _
                rw [Text.trimRight_cons_of_stays (Or.inr (behindBlank ▸ hne)), behindBlank, hruns,
                  join_cons_of_ne_nil _ (List.cons_ne_nil _ _)]
                rfl

/-- The label of a text is its runs with one space between neighbours. -/
theorem ofText_eq_join_runs (t : Text) : ofText t = join (runs t) := by
  cases t with
  | nil => rfl
  | cons c t =>
      have passes : ofText (c :: t) = Text.trimRight isBlank
          ((squeezeFrom false ((c :: t).map soften)).dropWhile isBlank) := rfl
      obtain ⟨behindBlank, behindLabel⟩ := trimRight_squeezeFrom t
      cases hc : c.isLabel with
      | true =>
          have hblank : c.isBlank = false := isBlank_of_isLabel hc
          rw [passes, List.map_cons, squeezeFrom_soften_of_isLabel hc,
            List.dropWhile_cons_of_neg (by simp [hblank]),
            Text.trimRight_cons_of_stays (Or.inl hblank), behindLabel c hc]
      | false =>
          rw [passes, List.map_cons, squeezeFrom_soften_of_not_isLabel hc, if_neg (by simp),
            List.dropWhile_cons_of_pos isBlank_space, dropWhile_squeezeFrom_true, behindBlank,
            runs_cons_of_not_isLabel hc]

theorem mem_squeezeFrom {inRun : Bool} {t : Text} {c : CodePoint} (h : c ∈ squeezeFrom inRun t) :
    c = space ∨ c ∈ t ∧ c.isBlank = false := by
  induction t generalizing inRun with
  | nil => exact absurd h List.not_mem_nil
  | cons d t ih =>
      have later : c ∈ squeezeFrom true t ∨ c ∈ squeezeFrom false t →
          c = space ∨ c ∈ d :: t ∧ c.isBlank = false := by
        intro hlater
        rcases hlater with hc | hc
        · exact (ih hc).imp_right fun hc => ⟨List.mem_cons_of_mem _ hc.1, hc.2⟩
        · exact (ih hc).imp_right fun hc => ⟨List.mem_cons_of_mem _ hc.1, hc.2⟩
      rw [squeezeFrom] at h
      split at h
      · split at h
        · exact later (Or.inl h)
        · rcases List.mem_cons.1 h with rfl | hc
          · exact Or.inl rfl
          · exact later (Or.inl hc)
      · next hd =>
          rcases List.mem_cons.1 h with rfl | hc
          · exact Or.inr ⟨List.mem_cons_self, by simpa using hd⟩
          · exact later (Or.inr hc)

/-- Nothing but letters, digits, hyphens and spaces stands in a label. -/
theorem mem_ofText {t : Text} {c : CodePoint} (h : c ∈ ofText t) :
    c.isLabel = true ∨ c = space := by
  have hmem : c ∈ squeeze (t.map soften) := Text.mem_of_mem_trim h
  rcases mem_squeezeFrom hmem with rfl | ⟨hsoft, hblank⟩
  · exact Or.inr rfl
  · obtain ⟨d, _, rfl⟩ := List.mem_map.1 hsoft
    rw [isBlank_soften] at hblank
    have hd : d.isLabel = true := by simpa using hblank
    rw [soften_of_isLabel hd]
    exact Or.inl hd

/-- Whitespace in front of a text does not show in its label. -/
theorem ofText_dropWhile_isBlank (t : Text) : ofText (t.dropWhile isBlank) = ofText t := by
  rw [ofText_eq_join_runs, ofText_eq_join_runs]
  induction t with
  | nil => rfl
  | cons c t ih =>
      cases hc : c.isBlank with
      | true =>
          rw [List.dropWhile_cons_of_pos hc, ih, runs_cons_of_not_isLabel (isLabel_of_isBlank hc)]
      | false => rw [List.dropWhile_cons_of_neg (by simp [hc])]

/-! ## Labels of labels -/

theorem runs_of_isLabel {run : Text} (hne : run ≠ []) (h : ∀ c ∈ run, c.isLabel = true) :
    runs run = [run] := by
  have hsplit : run.splitOnP (fun c => !c.isLabel) = [run] :=
    List.splitOnP_eq_singleton fun c hc => by simp [h c hc]
  simp [runs, hsplit, hne]

theorem runs_append_of_head? {run rest : Text} (hne : run ≠ [])
    (h : ∀ c ∈ run, c.isLabel = true) (hend : ∀ c ∈ rest.head?, c.isLabel = false) :
    runs (run ++ rest) = run :: runs rest := by
  cases rest with
  | nil => rw [List.append_nil, runs_of_isLabel hne h, runs_nil]
  | cons c rest =>
      have hc : c.isLabel = false := hend c rfl
      rw [runs_append_cons_of_not_isLabel hc, runs_of_isLabel hne h, runs_cons_of_not_isLabel hc]
      rfl

/-- Joined runs are told apart again. -/
theorem runs_join {rs : List Text} (h : ∀ run ∈ rs, run ≠ [] ∧ ∀ c ∈ run, c.isLabel = true) :
    runs (join rs) = rs := by
  induction rs with
  | nil => rfl
  | cons run rs ih =>
      obtain ⟨hne, hrun⟩ := h run List.mem_cons_self
      have hrest := ih fun run' hrun' => h run' (List.mem_cons_of_mem _ hrun')
      by_cases hlast : rs = []
      · subst hlast
        simpa [join] using runs_of_isLabel hne hrun
      · have hend : ∀ c ∈ (space :: join rs).head?, c.isLabel = false := by simp [isLabel_space]
        rw [join_cons_of_ne_nil run hlast, runs_append_of_head? hne hrun hend,
          runs_cons_of_not_isLabel isLabel_space, hrest]

theorem ofText_ofText (t : Text) : ofText (ofText t) = ofText t := by
  have hjoined : runs (join (runs t)) = runs t :=
    runs_join fun run hrun => ⟨ne_nil_of_mem_runs hrun, isLabel_of_mem_runs hrun⟩
  rw [ofText_eq_join_runs t, ofText_eq_join_runs, hjoined]

end Label

end OutlineChart
