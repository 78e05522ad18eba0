import OutlineChart.Proofs.Browser.Chromium

/-! # Requests relayed to the driver

A request that rendering makes becomes one or more calls of Chromium's driver.  Their outcomes put
together are the outcome of the request, so that a script of the driver's calls can be read as a
script of the requests.
-/

namespace OutlineChart

namespace Browser

variable {α : Type}

/-! ## Outcomes put together -/

namespace Outcome

/-- The outcome of work that is cleaned up after.  What goes wrong in cleaning up comes instead,
except that a cancellation does not call off a deadline that is due. -/
def thenCleaned : Outcome → Outcome → Outcome
  | work, .success => work
  | .hang, .cancel => .hang
  | _, cleaning => cleaning

/-- The outcome of a call whose own timeout is told as a timeout of the request. -/
def timed : Outcome → Outcome
  | .fail (.driverTimeout text) => .fail (.timeout text)
  | outcome => outcome

theorem result_thenCleaned (work cleaning : Outcome) :
    (work.thenCleaned cleaning).result =
      match work.result, cleaning.result with
      | .error earlier, .error later => .error (earlier.supersede later)
      | .ok (), .error later => .error later
      | ended, .ok () => ended := by
  cases work <;> cases cleaning <;> rfl

theorem thenCleaned_eq_hang_iff {work cleaning : Outcome} (hcancel : cleaning ≠ .cancel) :
    work.thenCleaned cleaning = .hang ↔
      cleaning = .hang ∨ (work = .hang ∧ cleaning = .success) := by
  cases work <;> cases cleaning <;> simp_all [thenCleaned]

theorem thenCleaned_ne_cancel {work cleaning : Outcome} (hwork : work ≠ .cancel)
    (hcleaning : cleaning ≠ .cancel) : work.thenCleaned cleaning ≠ .cancel := by
  cases work <;> cases cleaning <;> simp_all [thenCleaned]

theorem timed_eq_hang_iff {outcome : Outcome} : outcome.timed = .hang ↔ outcome = .hang := by
  cases outcome with
  | fail f => cases f <;> simp [timed]
  | success => simp [timed]
  | cancel => simp [timed]
  | hang => simp [timed]

theorem timed_ne_cancel {outcome : Outcome} (h : outcome ≠ .cancel) :
    outcome.timed ≠ .cancel := by
  cases outcome with
  | fail f => cases f <;> simp [timed]
  | success => simp [timed]
  | cancel => exact absurd rfl h
  | hang => simp [timed]

end Outcome

/-- The same end, whatever a failure was raised from. -/
def uncaused : Except Raised α → Except Raised α
  | .error (.failure f _) => .error (.failure f none)
  | ended => ended

theorem uncaused_result (outcome : Outcome) : uncaused outcome.result = outcome.result := by
  cases outcome <;> rfl

theorem map_unit (r : Except Raised Unit) : (r.map fun _ => ()) = r := by
  cases r <;> rfl

theorem uncaused_lapse (r : Except Raised α) : uncaused (Act.lapse r) = Act.lapse (uncaused r) := by
  cases r with
  | ok a => rfl
  | error e => cases e <;> rfl

theorem uncaused_map {β : Type} (r : Except Raised α) (f : α → β) :
    uncaused (r.map f) = (uncaused r).map f := by
  cases r with
  | ok a => rfl
  | error e => cases e <;> rfl

namespace Chromium

/-! ## The script of the requests -/

/-- The calls that a request may become. -/
def relayed : CallName → List CallName
  | .launch => [.startDriver, .launchChromium, .stopDriver]
  | .newPage => [.openPage]
  | .loadHtml => [.setContent]
  | .waitForDiagram => [.waitForFunction]
  | .screenshot => [.capturePage]
  | .exportPdf => [.printPage]
  | .close => [.closeBrowser, .stopDriver]
  | _ => []

/-- How the requests of one render end when the driver's calls end as scripted. -/
def script (o : Oracle) : Oracle := fun name _ =>
  match name with
  | .launch =>
      match o .startDriver 0, o .launchChromium 0 with
      | .success, .success => .success
      | .success, browser => browser.thenCleaned (o .stopDriver 0)
      | driver, _ => driver
  | .newPage => o .openPage 0
  | .loadHtml => (o .setContent 0).timed
  | .waitForDiagram => (o .waitForFunction 0).timed
  | .screenshot => (o .capturePage 0).timed
  | .exportPdf => o .printPage 0
  | .close => (o .closeBrowser 0).thenCleaned (o .stopDriver 0)
  | _ => .success

/-- Only the calls that a request may become have a say in its outcome. -/
theorem script_congr {o o' : Oracle} {name : CallName} (h : ∀ n ∈ relayed name, o n = o' n) :
    script o name = script o' name := by
  funext k
  cases name <;> simp only [relayed, List.forall_mem_cons] at h <;> simp [script, h]

variable {o : Oracle}

theorem script_launch_of_unstarted (h : o .startDriver 0 ≠ .success) :
    script o .launch 0 = o .startDriver 0 := by
  unfold script
  cases hends : o .startDriver 0 with
  | success => exact absurd hends h
  | fail f => rfl
  | cancel => rfl
  | hang => rfl

theorem script_launch_of_started (h : o .startDriver 0 = .success) :
    script o .launch 0 =
      if o .launchChromium 0 = .success then .success
      else (o .launchChromium 0).thenCleaned (o .stopDriver 0) := by
  unfold script
  rw [h]
  cases o .launchChromium 0 <;> rfl

/-! ## Cancelled and hanging requests -/

theorem script_ne_cancel (hcancel : ∀ name k, o name k ≠ .cancel) :
    ∀ name k, script o name k ≠ .cancel := by
  intro name k
  cases name with
  | launch =>
      by_cases hdriver : o .startDriver 0 = .success
      · have hended : script o .launch k = _ := script_launch_of_started hdriver
        rw [hended]
        split
        · simp
        · exact Outcome.thenCleaned_ne_cancel (hcancel _ _) (hcancel _ _)
      · have hended : script o .launch k = _ := script_launch_of_unstarted hdriver
        rw [hended]
        exact hcancel _ _
  | close => exact Outcome.thenCleaned_ne_cancel (hcancel _ _) (hcancel _ _)
  | newPage => exact hcancel _ _
  | loadHtml => exact Outcome.timed_ne_cancel (hcancel _ _)
  | waitForDiagram => exact Outcome.timed_ne_cancel (hcancel _ _)
  | screenshot => exact Outcome.timed_ne_cancel (hcancel _ _)
  | exportPdf => exact hcancel _ _
  | _ => simp [script]

theorem hangsOnlyAt_script {o : Oracle}
    (h : o.HangsOnlyAt [.startDriver, .launchChromium, .stopDriver, .printPage]) :
    (script o).HangsOnlyAt [.launch, .exportPdf, .close] := by
  intro name k hhang
  cases name with
  | launch => simp
  | exportPdf => simp
  | close => simp
  | newPage => exact absurd (h _ _ hhang) (by simp)
  | loadHtml => exact absurd (h _ _ (Outcome.timed_eq_hang_iff.1 hhang)) (by simp)
  | waitForDiagram => exact absurd (h _ _ (Outcome.timed_eq_hang_iff.1 hhang)) (by simp)
  | screenshot => exact absurd (h _ _ (Outcome.timed_eq_hang_iff.1 hhang)) (by simp)
  | _ => cases hhang

/-! ## Requests -/

variable (s : Settings)

theorem result_timed_call (c : Call) (o : Oracle) :
    uncaused (timed (.call c) o).result = (o c.name 0).timed.result := by
  unfold timed
  rw [Act.result_attempt_bind, Act.result_call]
  cases o c.name 0 with
  | success => rfl
  | fail f => cases f <;> rfl
  | cancel => rfl
  | hang => rfl

theorem result_exportPdf (pdf : Bytes) (options : PdfOptions) (o : Oracle) :
    (exportPdf pdf options o).result = (script o .exportPdf 0).result.map fun _ => pdf := by
  have hmade := congrArg Run.result (Act.bind_pure_apply (.call (.printPage options)) pdf o)
  rw [Act.result_call] at hmade
  exact hmade

theorem result_close (o : Oracle) :
    (Environment.opened.close o).result = (script o .close 0).result := by
  -- closing the browser uses up no outcome of the driver's
  have hkept : (Act.call .closeBrowser o).rest .stopDriver = o .stopDriver :=
    (Act.CallsOnly.call_self .closeBrowser).rest_of_notMem o (by simp [Call.name])
  have hstopped : (Act.call .stopDriver (Act.call .closeBrowser o).rest).result =
      (o .stopDriver 0).result := by
    rw [Act.result_call, Call.name, hkept]
  unfold Environment.close
  rw [Act.result_attempt_bind, Act.result_attempt_bind, hstopped, Act.result_call, Call.name]
  show _ = ((o .closeBrowser 0).thenCleaned (o .stopDriver 0)).result
  rw [Outcome.result_thenCleaned]
  cases (o .closeBrowser 0).result <;> cases (o .stopDriver 0).result <;> rfl

/-- A browser that was tried decides the launch; without one, stopping the driver does too. -/
theorem result_settle (browser : Outcome) (o : Oracle) :
    (settle s browser.result o).result =
      (if browser = .success then .success
        else browser.thenCleaned (o .stopDriver 0)).result.map fun _ => .opened := by
  by_cases hbrowser : browser = .success
  · rw [hbrowser]
    rfl
  · obtain ⟨failed, hfailed⟩ := Outcome.exists_error_of_ne_success hbrowser
    rw [if_neg hbrowser, Outcome.result_thenCleaned, hfailed]
    unfold settle
    rw [Act.result_attempt_bind, Act.result_call, Call.name]
    cases (o .stopDriver 0).result <;> rfl

theorem result_launch (o : Oracle) :
    (launch s o).result = (script o .launch 0).result.map fun _ => .opened := by
  have hstarted : (Act.call .startDriver o).result = (o .startDriver 0).result :=
    Act.result_call .startDriver o
  by_cases hdriver : o .startDriver 0 = .success
  · rw [hdriver] at hstarted
    -- neither starting the driver nor trying the browser uses up another's outcomes
    let chromium := Call.launchChromium s.browserHeadless s.browserArgs s.launchTimeoutMs
    have hkept : ∀ name, name ≠ .startDriver → (Act.call .startDriver o).rest name = o name :=
      fun name hname => (Act.CallsOnly.call_self .startDriver).rest_of_notMem o
        (by simp [Call.name, hname])
    have htried : (Act.call chromium (Act.call .startDriver o).rest).result =
        (o .launchChromium 0).result := by
      rw [Act.result_call, ← hkept .launchChromium (by simp)]
      rfl
    have hstop : (Act.call chromium (Act.call .startDriver o).rest).rest .stopDriver =
        o .stopDriver := by
      rw [(Act.CallsOnly.call_self chromium).rest_of_notMem _ (by simp [chromium, Call.name])]
      exact hkept .stopDriver (by simp)
    rw [launch_eq, Act.result_bind_of_ok hstarted, Act.result_attempt_bind, htried, result_settle,
      hstop, script_launch_of_started hdriver]
  · obtain ⟨e, he⟩ := Outcome.exists_error_of_ne_success hdriver
    rw [he] at hstarted
    rw [launch_eq, Act.result_bind_of_error hstarted, script_launch_of_unstarted hdriver, he]
    rfl

end Chromium

end Browser

end OutlineChart
