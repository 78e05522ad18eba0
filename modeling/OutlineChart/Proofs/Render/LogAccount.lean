import OutlineChart.Proofs.Render.Engine
import OutlineChart.Proofs.Render.Logs
import OutlineChart.Proofs.Render.Told

/-! # The log accounts for the render

Every end of a render, with either engine, has its record: one error if it fails, one piece of
information if it gives a document, and one warning for each screenshot and each closing that
failed, whatever else happens.
-/

namespace OutlineChart

namespace Render
open Browser Chromium

/-! ## Engines -/

namespace Engine

/-- The call that takes a screenshot. -/
def shot : Engine → CallName
  | plain => .screenshot
  | chromium => .capturePage

/-- The call that closing an environment begins with. -/
def closer : Engine → CallName
  | plain => .close
  | chromium => .closeBrowser

/-- How the requests of a render end. -/
def requests : Engine → Oracle → Oracle
  | plain, o => o
  | chromium, o => script o

/-- How many of the environments that were closed failed to close. -/
def failedCloses (engine : Engine) (o : Oracle) (names : List CallName) : Nat :=
  (engine.requests o).failures .close (names.count engine.closer)

variable (engine : Engine) (pdf : Bytes) (s : Settings)

theorem quiet : (engine.backend pdf).Quiet := by
  cases engine with
  | plain => exact Backend.quiet_plain pdf
  | chromium => exact Backend.quiet_chromium pdf

theorem photographs_plain : Photographs plain.shot (.plain pdf) where
  launch _ := ⟨_, by simp [shot, Call.name], .call_self .launch⟩
  newPage := ⟨_, by simp [shot, Call.name], .call_self .newPage⟩
  loadHtml html timeoutMs := ⟨_, by simp [shot, Call.name], .call_self (.loadHtml html timeoutMs)⟩
  waitForDiagram timeoutMs :=
    ⟨_, by simp [shot, Call.name], .call_self (.waitForDiagram timeoutMs)⟩
  exportPdf options :=
    ⟨_, by simp [shot, Call.name], .bind (.call_self (.exportPdf options)) fun _ => .result pdf⟩
  close := ⟨_, by simp [shot, Call.name], .call_self .close⟩
  screenshot_callsOnly path timeoutMs := .call_self (.screenshot path timeoutMs)
  screenshot_names path timeoutMs o := Act.names_call (.screenshot path timeoutMs) o
  screenshot_failed path timeoutMs o :=
    (congrArg failed (Act.result_call (.screenshot path timeoutMs) o)).trans (failed_result _)

theorem photographs_chromium : Photographs chromium.shot (.chromium pdf) where
  launch s := ⟨_, by simp [shot], .bind (callsOnly_launch s) fun _ => .result ()⟩
  newPage := ⟨_, by simp [shot, Call.name], .call_self .openPage⟩
  loadHtml html timeoutMs :=
    ⟨_, by simp [shot, Call.name], callsOnly_timed (.call_self (.setContent html timeoutMs))⟩
  waitForDiagram timeoutMs :=
    ⟨_, by simp [shot, Call.name], callsOnly_timed (.call_self (.waitForFunction timeoutMs))⟩
  exportPdf options :=
    ⟨_, by simp [shot, Call.name], .bind (.call_self (.printPage options)) fun _ => .result pdf⟩
  close := ⟨_, by simp [shot], callsOnly_close⟩
  screenshot_callsOnly path timeoutMs := callsOnly_timed (.call_self (.capturePage path timeoutMs))
  screenshot_names path timeoutMs o :=
    ((wraps_timed _).names o).trans (Act.names_call (.capturePage path timeoutMs) o)
  screenshot_failed path timeoutMs o := by
    have hended := congrArg failed (result_timed_call (.capturePage path timeoutMs) o)
    rw [failed_uncaused, failed_result, Outcome.isFailure_timed] at hended
    exact hended

theorem photographs : Photographs engine.shot (engine.backend pdf) := by
  cases engine with
  | plain => exact photographs_plain pdf
  | chromium => exact photographs_chromium pdf

/-! ## Closing -/

theorem avoids_closer_launch : (launch (engine.backend pdf) s).Avoids engine.closer := by
  cases engine with
  | plain => exact ⟨_, by simp [closer], (performs_launch pdf s).callsOnly⟩
  | chromium => exact ⟨_, by simp [closer, relayed], (follows_launch pdf s).callsOnly⟩

theorem avoids_closer_draw (code : Text) :
    (draw (engine.backend pdf) s (page s code)).Avoids engine.closer := by
  cases engine with
  | plain =>
      have hclose := close_notMem_all s code
      rw [Stage.all, List.map_cons, List.mem_cons, not_or] at hclose
      exact ⟨_, hclose.2, (performs_draw pdf s code).callsOnly⟩
  | chromium =>
      have hcalls := callsOnly_draw s (pagesOnly_chromium pdf) (page s code)
      exact ⟨_, by simp [closer, pageNames], hcalls⟩

theorem count_closer_close (o : Oracle) :
    ((engine.backend pdf).close o).names.count engine.closer = 1 := by
  cases engine with
  | plain => rw [backend, Backend.plain, Act.names_call]; rfl
  | chromium =>
      have hnames : ((chromium.backend pdf).close o).names = [.closeBrowser, .stopDriver] :=
        names_close o
      rw [hnames]
      rfl

theorem result_close (o : Oracle) :
    ((engine.backend pdf).close o).result = (engine.requests o .close 0).result := by
  cases engine with
  | plain => exact Act.result_call .close o
  | chromium => exact Chromium.result_close o

variable {s}

/-- Neither the launch nor the drawing has a say in how the closing ends. -/
theorem requests_close_of_launched {o : Oracle}
    (hlaunch : (launch (engine.backend pdf) s o).result = .ok ()) (code : Text) :
    engine.requests (draw (engine.backend pdf) s (page s code)
      (launch (engine.backend pdf) s o).rest).rest .close = engine.requests o .close := by
  cases engine with
  | plain =>
      simp only [backend, requests]
      exact rest_close_of_performs (performs_launch pdf s) (performs_draw pdf s code)
        (close_notMem_all s code) o
  | chromium =>
      simp only [backend, requests]
      exact script_close_of_launched pdf s hlaunch code

/-- One environment is closed, and how that ends is up to its own calls. -/
theorem failedCloses_of_launched {o : Oracle}
    (hlaunch : (launch (engine.backend pdf) s o).result = .ok ()) (code : Text) {drawn : Run Bytes}
    (hdrawn : draw (engine.backend pdf) s (page s code) (launch (engine.backend pdf) s o).rest =
      drawn) :
    engine.failedCloses o (renderCode (engine.backend pdf) s code o).names =
      if failed ((engine.backend pdf).close drawn.rest).result then 1 else 0 := by
  have hcount : (renderCode (engine.backend pdf) s code o).names.count engine.closer = 1 := by
    rw [names_renderCode_of_launched code hlaunch, List.count_append, List.count_append,
      (avoids_closer_launch engine pdf s).count_eq_zero,
      (avoids_closer_draw engine pdf s code).count_eq_zero, (wraps_closeQuietly _).names,
      count_closer_close]
  rw [failedCloses, hcount, Oracle.failures_one, result_close, failed_result, ← hdrawn,
    requests_close_of_launched engine pdf hlaunch code]

theorem failedCloses_of_launch_error {o : Oracle} {e : Raised}
    (hlaunch : (launch (engine.backend pdf) s o).result = .error e) (code : Text) :
    engine.failedCloses o (renderCode (engine.backend pdf) s code o).names = 0 := by
  have hnames : (renderCode (engine.backend pdf) s code o).names =
      (launch (engine.backend pdf) s o).names := by
    rw [renderCode_eq]
    exact Act.names_bind_of_error hlaunch _
  rw [failedCloses, hnames, (avoids_closer_launch engine pdf s).count_eq_zero]
  rfl

end Engine

/-! ## The account -/

/-- What the log of a run accounts for. -/
structure LogAccount (engine : Engine) (pdf : Bytes) (s : Settings) (description : Option Text)
    (o : Oracle) (run : Run Document) : Prop where
  /-- A description that is refused is not logged. -/
  refused : ∀ e, accept description = .error e → run.logs = []
  /-- A failure is logged as one error, behind a launch with what it is about. -/
  failure : ∀ e cause, run.result = .error (.failure (.diagram e) cause) → e.isRender = true →
    ∃ record, run.logsAt .error = [record] ∧ run.logsAt .info = [] ∧
      ((launch (engine.backend pdf) s o).result = .ok () →
        record.extra = [("stage", stageField e), ("details", Log.Record.orNull e.details)])
  /-- A document is logged once, and last, with its size. -/
  document : ∀ document, run.result = .ok document →
    ∃ record, run.logsAt .info = [record] ∧ run.logs.getLast? = some record ∧
      record.extra = [("bytes", .ofNat document.size)] ∧ run.logsAt .error = []
  /-- There is a warning for each screenshot that failed and each closing that did. -/
  warnings : (run.logsAt .warning).length =
    o.failures engine.shot (run.names.count engine.shot) + engine.failedCloses o run.names

theorem warnings_renderCode (engine : Engine) (pdf : Bytes) (s : Settings) (code : Text)
    (o : Oracle) :
    ((renderCode (engine.backend pdf) s code o).logsAt .warning).length =
      o.failures engine.shot
        ((renderCode (engine.backend pdf) s code o).names.count engine.shot) +
      engine.failedCloses o (renderCode (engine.backend pdf) s code o).names := by
  have hquiet := engine.quiet pdf
  have hshots := engine.photographs pdf
  cases hlaunch : (launch (engine.backend pdf) s o).result with
  | error e =>
      rw [engine.failedCloses_of_launch_error pdf hlaunch code, Nat.add_zero]
      exact warned_of_launch_error hshots hquiet code hlaunch
  | ok _ =>
      rw [engine.failedCloses_of_launched pdf hlaunch code rfl]
      exact warned_of_launched hshots hquiet code hlaunch rfl

/-- What is refused is no failure of rendering. -/
theorem isRender_of_accept {description : Option Text} {e : DiagramError}
    (h : accept description = .error e) : e.isRender = false := by
  rw [eq_refusal_of_accept h]
  rfl

/-- However a render ends, with either engine, its log accounts for it: nothing of what is refused,
one error for a failure, one record of a document, and a warning for whatever is passed over. -/
theorem renderPdf_logs_account (engine : Engine) (pdf : Bytes) (s : Settings)
    (description : Option Text) (o : Oracle) :
    LogAccount engine pdf s description o (renderPdf (engine.backend pdf) s description o) := by
  have hquiet := engine.quiet pdf
  rw [renderPdf]
  cases haccept : accept description with
  | error e =>
      refine ⟨fun _ _ => rfl, fun e' cause hended hrender => ?_, fun _ hended => ?_, ?_⟩
      · have hrefused : e = e' :=
          Failure.diagram.inj (Raised.failure.inj (Except.error.inj hended)).1
        rw [← hrefused, isRender_of_accept haccept] at hrender
        cases hrender
      · cases hended
      · cases engine <;> rfl
  | ok code =>
      have haccepted : ∀ e, accept description ≠ .error e := by simp [haccept]
      exact {
        refused := fun e hrefused => absurd hrefused (haccepted e)
        failure := fun _ _ hended _ => logsAt_of_failure hquiet code hended
        document := fun _ hended => logsAt_of_document hquiet code hended
        warnings := warnings_renderCode engine pdf s code o }

end Render

end OutlineChart
