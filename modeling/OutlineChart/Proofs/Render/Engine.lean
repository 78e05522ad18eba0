import OutlineChart.Proofs.Render.FirstFailure
import OutlineChart.Proofs.Render.Protocol
import OutlineChart.Proofs.Render.Relayed

/-! # Rendering with either engine

What holds of a render with the plain backend and with Chromium alike: the calls that it is put
together from, and, when no call is cancelled and calls hang within a deadline only, that it ends in
a document or in the failure of a stage.
-/

namespace OutlineChart

namespace Render
open Browser Chromium

inductive Engine where
  | plain
  | chromium
  deriving DecidableEq, Repr

namespace Engine

def backend (pdf : Bytes) : Engine → Backend
  | plain => .plain pdf
  | chromium => .chromium pdf

/-! ## Calls -/

def names : Engine → List CallName
  | plain => [.launch, .newPage, .loadHtml, .waitForDiagram, .screenshot, .exportPdf, .close]
  | chromium => sessionNames ++ pageNames

theorem callsOnly_renderPdf_plain (pdf : Bytes) (s : Settings) (description : Option Text) :
    Act.CallsOnly plain.names (renderPdf (.plain pdf) s description) := by
  have hpages : PagesOnly plain.names (.plain pdf) := {
    newPage := .call (by simp [names, Call.name])
    loadHtml := fun _ _ => .call (by simp [names, Call.name])
    waitForDiagram := fun _ => .call (by simp [names, Call.name])
    screenshot := fun _ _ => .call (by simp [names, Call.name])
    exportPdf := fun _ => .bind (.call (by simp [names, Call.name])) fun _ => .result pdf }
  exact callsOnly_renderPdf hpages (.call (by simp [names, Call.name]))
    (.call (by simp [names, Call.name])) description

theorem callsOnly_renderPdf (engine : Engine) (pdf : Bytes) (s : Settings)
    (description : Option Text) :
    Act.CallsOnly engine.names (renderPdf (engine.backend pdf) s description) := by
  cases engine with
  | plain => exact callsOnly_renderPdf_plain pdf s description
  | chromium => exact callsOnly_renderPdf_chromium pdf s description

/-- Calls hang within the deadlines of launching and exporting only.  Stopping the driver belongs to
the launch if the browser failed; behind a launch that hung itself no deadline is left. -/
def HangsInTime (o : Oracle) : Engine → Prop
  | plain => o.HangsOnlyAt [.launch, .exportPdf]
  | chromium => o.HangsOnlyAt [.startDriver, .launchChromium, .stopDriver, .printPage] ∧
      (o .stopDriver 0 = .hang → o .startDriver 0 = .success →
        o .launchChromium 0 ≠ .success ∧ o .launchChromium 0 ≠ .hang)

end Engine

namespace Stage

theorem ofRender_of_report? {s : Settings} {code : Text} {f : Failure} {e : DiagramError} :
    ∀ st ∈ all s code, st.report? f = some e → e.OfRender := by
  refine forall_mem_all ?_ ?_ ?_ ?_ ?_ ?_
  · cases f <;> (rintro ⟨⟩; simp [DiagramError.OfRender, DiagramError.kind])
  · rintro ⟨⟩
    exact ofRender_pageFailure f
  · cases f <;> (rintro ⟨⟩; simp [DiagramError.OfRender, DiagramError.kind])
  · cases f <;> (rintro ⟨⟩; simp [DiagramError.OfRender, DiagramError.kind])
  · rintro path ⟨⟩
  · rintro ⟨⟩
    exact ofRender_exportFailure f

/-- A stage whose call may hang has a deadline, so it raises nothing but what callers are told. -/
theorem told_of_raised? {o : Oracle} (hcancel : ∀ name k, o name k ≠ .cancel)
    (hhangs : o.HangsOnlyAt [.launch, .exportPdf, .close]) (s : Settings) (code : Text) {st : Stage}
    (hst : st ∈ all s code) {raised : Raised} (h : st.raised? o = some raised) :
    ∃ f e, raised = .diagramFrom f e ∧ e.OfRender := by
  have hbounded : ∀ st ∈ all s code, st.call.name ∈ [CallName.launch, .exportPdf, .close] →
      st.deadlineMs.isSome :=
    forall_mem_all (fun _ => rfl) (by simp) (by simp) (by simp) (by simp) (fun _ => rfl)
  rw [raised?_eq_told? (hcancel _ _) fun hhang => hbounded st hst (hhangs _ _ hhang)] at h
  obtain ⟨⟨f, e⟩, htold, rfl⟩ := Option.map_eq_some_iff.1 h
  obtain ⟨f', -, hreport⟩ := Option.bind_eq_some_iff.1 htold
  obtain ⟨e', he', heq⟩ := Option.map_eq_some_iff.1 hreport
  cases heq
  exact ⟨f, e, rfl, ofRender_of_report? st hst he'⟩

end Stage

/-! ## How a render ends -/

/-- A document, or the failure of a stage as callers are told of it. -/
inductive Drawn (content : Bytes) (filename : String) : Except Raised Document → Prop
  | document : Drawn content filename (.ok ⟨content, filename⟩)
  | failed {f : Failure} {e : DiagramError} : e.OfRender →
      Drawn content filename (.error (.diagramFrom f e))

theorem drawn_renderCode_plain {o : Oracle} (hcancel : ∀ name k, o name k ≠ .cancel)
    (hhangs : o.HangsOnlyAt [.launch, .exportPdf, .close])
    (hclose : o .close 0 = .hang → o .launch 0 ≠ .success) (pdf : Bytes) (s : Settings)
    (code : Text) : Drawn pdf s.pdfFilename (renderCode (.plain pdf) s code o).result := by
  rw [(renderCode_plain pdf s code o).2]
  cases hlaunch : (Stage.launch s).raised? o with
  | some raised =>
      obtain ⟨f, e, rfl, he⟩ :=
        Stage.told_of_raised? hcancel hhangs s code List.mem_cons_self hlaunch
      exact .failed he
  | none =>
      have hlaunched : o .launch 0 = .success := by
        have hpassed : ((Stage.launch s).raised? o).isSome = _ :=
          Stage.isSome_raised?_of_mem s code _ List.mem_cons_self
        rw [hlaunch, Stage.fails, Stage.name_launch] at hpassed
        cases h : o .launch 0 <;> simp [h] at hpassed ⊢
      have hforgiven : forgive (o .close 0).result = .ok () := by
        cases h : o .close 0 with
        | success => rfl
        | fail f => rfl
        | cancel => exact absurd h (hcancel _ _)
        | hang => exact absurd hlaunched (hclose h)
      rw [hforgiven]
      cases hdraw : (Stage.drawing s code).findSome? (Stage.raised? o) with
      | none => exact .document
      | some raised =>
          obtain ⟨st, hst, hraised⟩ := List.exists_of_findSome?_eq_some hdraw
          obtain ⟨f, e, rfl, he⟩ := Stage.told_of_raised? hcancel hhangs s code
            (List.mem_cons_of_mem _ hst) hraised
          exact .failed he

/-- A closing that hangs was left by a launch that failed. -/
theorem script_launch_ne_success {o : Oracle} (hcancel : ∀ name k, o name k ≠ .cancel)
    (h : Engine.chromium.HangsInTime o) (hclose : script o .close 0 = .hang) :
    script o .launch 0 ≠ .success := by
  obtain ⟨hhangs, hstop⟩ := h
  have hstuck : o .stopDriver 0 = .hang := by
    rcases (Outcome.thenCleaned_eq_hang_iff (hcancel _ _)).1 hclose with hstuck | ⟨hbrowser, -⟩
    · exact hstuck
    · exact absurd (hhangs _ _ hbrowser) (by simp)
  by_cases hdriver : o .startDriver 0 = .success
  · rw [script_launch_of_started hdriver, if_neg (hstop hstuck hdriver).1, hstuck]
    cases o .launchChromium 0 <;> simp [Outcome.thenCleaned]
  · rw [script_launch_of_unstarted hdriver]
    exact hdriver

/-- Without a cancellation, and with calls hanging within a deadline only, an accepted description
ends in a document or in what is told of a stage. -/
theorem Engine.drawn_renderCode {engine : Engine} {o : Oracle}
    (hcancel : ∀ name k, o name k ≠ .cancel) (hhangs : engine.HangsInTime o) (pdf : Bytes)
    (s : Settings) (code : Text) :
    Drawn pdf s.pdfFilename (renderCode (engine.backend pdf) s code o).result := by
  cases engine with
  | plain =>
      have hnever : o .close 0 ≠ .hang := fun h => absurd (hhangs _ _ h) (by simp)
      refine drawn_renderCode_plain hcancel (fun name k h => ?_) (absurd · hnever) pdf s code
      exact List.mem_append_left [.close] (hhangs name k h)
  | chromium =>
      have hended : (renderCode (Engine.chromium.backend pdf) s code o).result =
          (renderCode (.plain pdf) s code (script o)).result :=
        result_renderCode_chromium pdf s code o
      rw [hended]
      exact drawn_renderCode_plain (script_ne_cancel hcancel) (hangsOnlyAt_script hhangs.1)
        (script_launch_ne_success hcancel hhangs) pdf s code

end Render

end OutlineChart
