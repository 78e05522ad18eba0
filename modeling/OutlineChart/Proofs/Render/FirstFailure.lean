import OutlineChart.Proofs.Render.Stage

/-! # What is told of a render that fails

A render with the plain backend that is not cancelled gives the exported bytes, or the error of the
first of its mandatory stages that fails, raised from the failure that the stage met.
-/

namespace OutlineChart

namespace Render
open Browser

namespace Stage

/-- The stages that a document depends on. -/
def mandatory (s : Settings) (code : Text) : List Stage :=
  [launch s, newPage, loadHtml s code, waitForDiagram s, exportPdf s]

/-- The failure that a stage meets: that of its deadline before the call, that of the call itself,
or the timeout of a call that hung. -/
def failure? (o : Oracle) (st : Stage) : Option Failure :=
  match st.lapsed?, o st.call.name 0 with
  | some f, _ => some f
  | none, .fail f => some f
  | none, .hang => some (.timeout "")
  | none, _ => none

/-- The failure that a stage meets, and what callers are told of it. -/
def told? (o : Oracle) (st : Stage) : Option (Failure × DiagramError) :=
  (st.failure? o).bind fun f => (st.report? f).map fun e => (f, e)

variable {o : Oracle}

theorem raised?_eq_told? {st : Stage} (hcancel : o st.call.name 0 ≠ .cancel)
    (hhang : o st.call.name 0 = .hang → st.deadlineMs.isSome) :
    st.raised? o = (st.told? o).map fun told => .diagramFrom told.1 told.2 := by
  unfold raised? told? ending failure?
  cases st.lapsed? with
  | some f => cases h : st.report? f <;> simp [h]
  | none =>
      cases hends : o st.call.name 0 with
      | success => cases st.deadlineMs <;> rfl
      | fail f => cases h : st.report? f <;> cases st.deadlineMs <;> simp [Outcome.result, Act.lapse, h]
      | cancel => exact absurd hends hcancel
      | hang =>
          obtain ⟨timeoutMs, h⟩ := Option.isSome_iff_exists.1 (hhang hends)
          cases hr : st.report? (.timeout "") <;> simp [h, Outcome.result, Act.lapse, hr]

theorem raised?_screenshot (s : Settings) (path : String) (hcancel : o .screenshot 0 ≠ .cancel)
    (hhang : o .screenshot 0 ≠ .hang) : (screenshot s path).raised? o = none := by
  have hends : (screenshot s path).ending o = (o .screenshot 0).result := rfl
  unfold raised?
  rw [hends]
  cases h : o .screenshot 0 with
  | success => rfl
  | fail f => rfl
  | cancel => exact absurd h hcancel
  | hang => exact absurd h hhang

/-- The screenshot raises nothing, so only the mandatory stages are to be looked at. -/
theorem findSome?_raised?_all (hcancel : ∀ name k, o name k ≠ .cancel)
    (hhangs : o.HangsOnlyAt [.launch, .exportPdf]) (s : Settings) (code : Text) :
    (all s code).findSome? (raised? o) = ((mandatory s code).findSome? (told? o)).map fun told =>
      .diagramFrom told.1 told.2 := by
  have hshot : ∀ path, (screenshot s path).raised? o = none := fun path =>
    raised?_screenshot s path (hcancel _ _) fun h => by simpa using hhangs _ _ h
  have hskip : (all s code).findSome? (raised? o) = (mandatory s code).findSome? (raised? o) := by
    unfold all drawing mandatory
    cases s.debugScreenshotPath.filter (· ≠ "") with
    | none => rfl
    | some path => simp [List.findSome?_cons, hshot]
  -- a stage that may hang has a deadline, so that its hanging is a timeout
  have hbounded : ∀ st ∈ mandatory s code, o st.call.name 0 = .hang → st.deadlineMs.isSome := by
    intro st hst hhang
    have hname : st.call.name ∈ [CallName.launch, .exportPdf] := hhangs _ _ hhang
    simp only [mandatory, List.mem_cons, List.not_mem_nil, or_false] at hst
    obtain rfl | rfl | rfl | rfl | rfl := hst
    · rfl
    · simp at hname
    · simp at hname
    · simp at hname
    · rfl
  rw [hskip, List.map_findSome?]
  exact findSome?_congr fun st hst => raised?_eq_told? (hcancel _ _) (hbounded st hst)

end Stage

/-- Without a cancellation, a description that does not begin as a top-down graph is refused, and
any other gives the exported bytes unless a mandatory stage fails; the first that does is told. -/
theorem renderPdf_tells_first_failure {o : Oracle} (hcancel : ∀ name k, o name k ≠ .cancel)
    (hhangs : o.HangsOnlyAt [.launch, .exportPdf]) (pdf : Bytes) (s : Settings)
    (description : Option Text) :
    (renderPdf (.plain pdf) s description o).result =
      if Mermaid.directive <+: (description.getD []).strip then
        match (Stage.mandatory s (description.getD []).strip).findSome? (Stage.told? o) with
        | some (f, e) => .error (.failure (.diagram e) (some f))
        | none => .ok ⟨pdf, s.pdfFilename⟩
      else .error (.failure
        (.diagram (.plain .invalidFormat "Invalid Mermaid code format" none)) none) := by
  have hclose : forgive (o .close 0).result = .ok () := by
    cases h : o .close 0 with
    | success => rfl
    | fail f => rfl
    | cancel => exact absurd h (hcancel _ _)
    | hang => simpa using hhangs _ _ h
  by_cases hdirective : Mermaid.directive <+: (description.getD []).strip
  · rw [renderPdf_of_directive _ s hdirective, if_pos hdirective, result_renderCode_plain hclose,
      Stage.findSome?_raised?_all hcancel hhangs]
    cases (Stage.mandatory s (description.getD []).strip).findSome? (Stage.told? o) <;> rfl
  · rw [renderPdf_of_no_directive _ s hdirective, if_neg hdirective]
    rfl

/-- A page that the driver gives up on, in an environment that cannot be closed. -/
def slowPage : Oracle
  | .loadHtml, _ => .fail (.driverTimeout "slow")
  | .close, _ => .fail (.driver "gone")
  | _, _ => .success

theorem renderPdf_tells_first_failure_of_slow_page :
    (∀ name k, slowPage name k ≠ .cancel) ∧ slowPage.HangsOnlyAt [.launch, .exportPdf] ∧
      (renderPdf (.plain []) {} (some (Text.ofString "graph TD\n")) slowPage).result =
        .error (.failure (.diagram (.plain .render "Failed to load diagram page" (some "slow")))
          (some (.driverTimeout "slow"))) := by
  have hcancel : ∀ name k, slowPage name k ≠ .cancel := by
    intro name k
    cases name <;> simp [slowPage]
  have hhangs : slowPage.HangsOnlyAt [.launch, .exportPdf] := by
    intro name k h
    cases name <;> simp [slowPage] at h
  have htold : (Stage.mandatory {} (Text.ofString "graph TD")).findSome? (Stage.told? slowPage) =
      some (.driverTimeout "slow", .plain .render "Failed to load diagram page" (some "slow")) := by
    decide +kernel
  have hcode : ((some (Text.ofString "graph TD\n")).getD []).strip = Text.ofString "graph TD" := rfl
  have hresult := renderPdf_tells_first_failure hcancel hhangs [] {}
    (some (Text.ofString "graph TD\n"))
  rw [hcode, if_pos (by decide +kernel), htold] at hresult
  exact ⟨hcancel, hhangs, hresult⟩

end Render

end OutlineChart
