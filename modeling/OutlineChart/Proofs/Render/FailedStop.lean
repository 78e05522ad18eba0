import OutlineChart.Proofs.Render.Relayed

/-! # A driver that cannot be stopped

What goes wrong in stopping the driver is passed over when an environment is closed.  It is not when
a launch stops the driver for want of a browser: then the failure to stop is told, and what kept the
browser from coming up is lost.
-/

namespace OutlineChart

namespace Browser

/-- The same outcomes, but stopping the driver ends as given. -/
def Oracle.stopping (o : Oracle) (outcome : Outcome) : Oracle := fun name k =>
  if name = .stopDriver then outcome else o name k

theorem Outcome.thenCleaned_fail (work : Outcome) (f : Failure) :
    work.thenCleaned (.fail f) = .fail f := by
  cases work <;> rfl

theorem Outcome.thenCleaned_success (work : Outcome) : work.thenCleaned .success = work := by
  cases work <;> rfl

namespace Chromium

variable {o : Oracle}

/-- A request that never stops the driver ends as it did. -/
theorem script_stopping (first second : Outcome) {name : CallName}
    (h : .stopDriver ∉ relayed name) :
    script (o.stopping first) name = script (o.stopping second) name := by
  refine script_congr fun n hn => ?_
  have hother : n ≠ .stopDriver := fun heq => h (heq ▸ hn)
  funext k
  simp [Oracle.stopping, hother]

theorem script_stopping_close (outcome : Outcome) :
    script (o.stopping outcome) .close 0 = (o .closeBrowser 0).thenCleaned outcome := rfl

theorem script_stopping_launch_of_failed (hdriver : o .startDriver 0 = .success)
    (hbrowser : o .launchChromium 0 ≠ .success) (outcome : Outcome) :
    script (o.stopping outcome) .launch 0 = (o .launchChromium 0).thenCleaned outcome := by
  have hstarted : (o.stopping outcome) .startDriver 0 = .success := hdriver
  rw [script_launch_of_started hstarted]
  exact if_neg hbrowser

theorem script_stopping_launch (first second : Outcome)
    (h : o .startDriver 0 = .success → o .launchChromium 0 = .success) :
    script (o.stopping first) .launch 0 = script (o.stopping second) .launch 0 := by
  by_cases hdriver : o .startDriver 0 = .success
  · have hended : ∀ outcome, script (o.stopping outcome) .launch 0 = .success := by
      intro outcome
      have hstarted : (o.stopping outcome) .startDriver 0 = .success := hdriver
      rw [script_launch_of_started hstarted]
      exact if_pos (h hdriver)
    rw [hended, hended]
  · have hended : ∀ outcome, script (o.stopping outcome) .launch 0 = o .startDriver 0 := by
      intro outcome
      have hfailed : (o.stopping outcome) .startDriver 0 ≠ .success := hdriver
      exact script_launch_of_unstarted hfailed
    rw [hended, hended]

end Chromium

end Browser

namespace Render
open Browser Chromium

/-- The driver starts in time, but no browser comes of it. -/
def Browserless (s : Settings) (o : Oracle) : Prop :=
  Act.lapsed? s.launchTimeoutMs = none ∧ o .startDriver 0 = .success ∧
    o .launchChromium 0 ≠ .success

instance (s : Settings) (o : Oracle) : Decidable (Browserless s o) :=
  inferInstanceAs (Decidable (_ ∧ _ ∧ _))

variable {s : Settings} {o : Oracle}

theorem raised?_launch_of_lapsed {f : Failure} (h : Act.lapsed? s.launchTimeoutMs = some f)
    (o' : Oracle) : (Stage.launch s).raised? o = (Stage.launch s).raised? o' := by
  unfold Stage.raised? Stage.ending
  rw [Stage.lapsed?_launch, h]

theorem raised?_launch_congr {o' : Oracle} (h : o .launch 0 = o' .launch 0) :
    (Stage.launch s).raised? o = (Stage.launch s).raised? o' := by
  unfold Stage.raised? Stage.ending
  rw [Stage.name_launch, h]

theorem raised?_launch_of_fail {f : Failure} (hlapsed : Act.lapsed? s.launchTimeoutMs = none)
    (h : o .launch 0 = .fail f) :
    (Stage.launch s).raised? o = some (.diagramFrom f (launchFailure s f)) := by
  have hdeadline : (Stage.launch s).deadlineMs = some s.launchTimeoutMs := rfl
  unfold Stage.raised? Stage.ending
  rw [Stage.lapsed?_launch, hlapsed, hdeadline, Stage.name_launch, h]
  cases f <;> rfl

theorem raised?_launch_stopping (h : ¬ Browserless s o) (first second : Outcome) :
    (Stage.launch s).raised? (script (o.stopping first)) =
      (Stage.launch s).raised? (script (o.stopping second)) := by
  cases hlapsed : Act.lapsed? s.launchTimeoutMs with
  | some f => exact raised?_launch_of_lapsed hlapsed _
  | none =>
      refine raised?_launch_congr (script_stopping_launch first second fun hdriver => ?_)
      exact Decidable.byContradiction fun hbrowser => h ⟨hlapsed, hdriver, hbrowser⟩

theorem raised?_drawing_stopping (code : Text) (first second : Outcome) :
    (Stage.drawing s code).findSome? (Stage.raised? (script (o.stopping first))) =
      (Stage.drawing s code).findSome? (Stage.raised? (script (o.stopping second))) := by
  refine Stage.findSome?_raised?_congr fun st hst => script_stopping first second fun hstop => ?_
  have hpage := relayed_drawing s code (List.mem_flatMap.2 ⟨st, hst, hstop⟩)
  simp [pageNames] at hpage

/-- If the driver cannot be stopped, a render ends as if it could, unless no browser comes up: then
the failure to stop takes the place of whatever went wrong with the browser. -/
theorem renderPdf_of_failed_stop (hclose : forgive (o .closeBrowser 0).result = .ok ())
    (pdf : Bytes) (s : Settings) (description : Option Text) (f : Failure) :
    (renderPdf (.chromium pdf) s description (o.stopping (.fail f))).result =
      if (accept description).isOk ∧ Browserless s o then
        .error (.failure (.diagram (launchFailure s f)) (some f))
      else (renderPdf (.chromium pdf) s description (o.stopping .success)).result := by
  unfold renderPdf
  cases accept description with
  | error e => rfl
  | ok code =>
      show (renderCode (.chromium pdf) s code (o.stopping (.fail f))).result =
        if true ∧ Browserless s o then
          .error (.failure (.diagram (launchFailure s f)) (some f))
        else (renderCode (.chromium pdf) s code (o.stopping .success)).result
      rw [result_renderCode_chromium, result_renderCode_chromium, (renderCode_plain ..).2,
        (renderCode_plain ..).2]
      by_cases h : Browserless s o
      · obtain ⟨hlapsed, hdriver, hbrowser⟩ := h
        have hlaunch : script (o.stopping (.fail f)) .launch 0 = .fail f := by
          rw [script_stopping_launch_of_failed hdriver hbrowser, Outcome.thenCleaned_fail]
        rw [if_pos ⟨rfl, hlapsed, hdriver, hbrowser⟩, raised?_launch_of_fail hlapsed hlaunch]
        rfl
      · -- the drawing never stops the driver, and the closing passes its failure over
        have hfailed : forgive (script (o.stopping (.fail f)) .close 0).result = .ok () := by
          rw [script_stopping_close, Outcome.thenCleaned_fail]
          rfl
        have hstopped : forgive (script (o.stopping .success) .close 0).result = .ok () := by
          rw [script_stopping_close, Outcome.thenCleaned_success]
          exact hclose
        rw [if_neg fun hboth => h hboth.2, hfailed, hstopped,
          raised?_launch_stopping h (.fail f) .success,
          raised?_drawing_stopping code (.fail f) .success]

/-- A browser that cannot be closed. -/
def stuckBrowser : Oracle
  | .closeBrowser, _ => .fail (.driver "stuck")
  | _, _ => .success

theorem renderPdf_of_failed_stop_of_stuck_browser :
    forgive (stuckBrowser .closeBrowser 0).result = .ok () ∧
      (renderPdf (.chromium []) {} (some (Text.ofString "graph TD\n"))
          (stuckBrowser.stopping (.fail (.ordinary "OSError" "gone")))).result =
        .ok ⟨[], "process-diagram.pdf"⟩ := by
  have hresult := renderPdf_of_failed_stop (o := stuckBrowser) rfl [] {}
    (some (Text.ofString "graph TD\n")) (.ordinary "OSError" "gone")
  have hbrowser : ¬ Browserless {} stuckBrowser := fun h => h.2.2 rfl
  have hlaunch : (Stage.launch {}).raised? (script (stuckBrowser.stopping .success)) = none := by
    decide +kernel
  have hdraw : (Stage.drawing {} (Text.ofString "graph TD")).findSome?
      (Stage.raised? (script (stuckBrowser.stopping .success))) = none := by
    decide +kernel
  have hended : (renderCode (.chromium []) {} (Text.ofString "graph TD")
      (stuckBrowser.stopping .success)).result = .ok ⟨[], "process-diagram.pdf"⟩ := by
    rw [result_renderCode_chromium, (renderCode_plain ..).2, hlaunch, hdraw]
    rfl
  rw [if_neg fun h => hbrowser h.2] at hresult
  exact ⟨rfl, hresult.trans hended⟩

/-- The browser does not come up. -/
def noBrowser : Oracle
  | .launchChromium, _ => .fail (.driver "no browser")
  | _, _ => .success

/-- What is told of a browser that does not come up depends on how stopping the driver goes. -/
theorem failed_stop_hides_failed_launch :
    (renderPdf (.chromium []) {} (some (Text.ofString "graph TD\n"))
        (noBrowser.stopping .success)).result =
      .error (.failure (.diagram (.plain .launch "Could not launch rendering environment"
        (some "no browser"))) (some (.driver "no browser"))) ∧
    (renderPdf (.chromium []) {} (some (Text.ofString "graph TD\n"))
        (noBrowser.stopping (.fail (.ordinary "OSError" "gone")))).result =
      .error (.failure (.diagram (.plain .launch "Could not launch rendering environment"
        (some "gone"))) (some (.ordinary "OSError" "gone"))) := by
  have htime : Act.lapsed? ({} : Settings).launchTimeoutMs = none := by decide +kernel
  have htold : ∀ o f, script o .launch 0 = .fail f →
      (renderCode (.chromium []) {} (Text.ofString "graph TD") o).result =
        .error (.diagramFrom f (launchFailure {} f)) := by
    intro o f h
    rw [result_renderCode_chromium, (renderCode_plain ..).2, raised?_launch_of_fail htime h]
  exact ⟨htold _ (.driver "no browser") rfl, htold _ (.ordinary "OSError" "gone") rfl⟩

end Render

end OutlineChart
