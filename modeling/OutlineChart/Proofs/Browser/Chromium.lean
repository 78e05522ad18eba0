import OutlineChart.Browser.Chromium
import OutlineChart.Proofs.Browser.Acts

/-! # What Chromium is asked for

The driver is started first and stopped last, by the launch itself if no browser comes of it and by
the closing otherwise; between the two there are only calls that concern the page.
-/

namespace OutlineChart

namespace Browser

namespace Chromium

variable (s : Settings) {o : Oracle}

/-! ## Pages -/

def pageNames : List CallName := [.openPage, .setContent, .waitForFunction, .capturePage, .printPage]

theorem wraps_timed (x : Act Unit) : (timed x).Wraps x := by
  refine ⟨_, rfl, fun ended => ?_⟩
  split
  · exact .raise _
  · exact .ofExcept _

theorem callsOnly_timed {names : List CallName} {x : Act Unit} (h : Act.CallsOnly names x) :
    Act.CallsOnly names (timed x) := (wraps_timed x).callsOnly h

/-! ## Closing -/

theorem names_close (o : Oracle) :
    (Environment.opened.close o).names = [.closeBrowser, .stopDriver] := by
  unfold Environment.close
  rw [Act.names_attempt_bind, Act.names_call]
  refine congrArg (CallName.closeBrowser :: ·) ?_
  refine (Act.Wraps.names ⟨_, rfl, fun driver => ?_⟩ _).trans (Act.names_call .stopDriver _)
  split
  · exact .raise _
  · exact .raise _
  · exact .ofExcept _

/-! ## Launching -/

/-- What is left of a launch when the browser was tried. -/
def settle (tried : Except Raised Unit) : Act Environment :=
  match tried with
  | .ok () => do
      Act.log (.browserLaunched s.browserArgs)
      pure .opened
  | .error failed => do
      match ← Act.attempt (.call .stopDriver) with
      | .ok () => Act.raise failed
      | .error later => Act.raise (failed.supersede later)

theorem settle_error (failed : Raised) (o : Oracle) :
    (∃ e, (settle s (.error failed) o).result = .error e) ∧
      (settle s (.error failed) o).names = [.stopDriver] := by
  unfold settle
  constructor
  · rw [Act.result_attempt_bind]
    cases (Act.call .stopDriver o).result with
    | ok _ => exact ⟨_, rfl⟩
    | error later => exact ⟨_, rfl⟩
  · refine (Act.Wraps.names ⟨_, rfl, fun stopped => ?_⟩ o).trans (Act.names_call .stopDriver o)
    split
    · exact .raise _
    · exact .raise _

theorem launch_eq :
    launch s = (Act.call .startDriver >>= fun _ => Act.attempt (Act.call
      (.launchChromium s.browserHeadless s.browserArgs s.launchTimeoutMs)) >>= settle s) := rfl

theorem launch_of_driver_failed (hdriver : o .startDriver 0 ≠ .success) :
    (∃ e, (launch s o).result = .error e) ∧ (launch s o).names = [.startDriver] := by
  obtain ⟨e, he⟩ := Outcome.exists_error_of_ne_success hdriver
  have hended : (Act.call .startDriver o).result = .error e := by rw [Act.result_call]; exact he
  rw [launch_eq, Act.names_bind_of_error hended, Act.names_call, Act.result_bind_of_error hended]
  exact ⟨⟨e, rfl⟩, rfl⟩

theorem launch_of_driver_started (hdriver : o .startDriver 0 = .success) :
    (o .launchChromium 0 = .success ∧ (launch s o).result = .ok .opened ∧
        (launch s o).names = [.startDriver, .launchChromium]) ∨
      (o .launchChromium 0 ≠ .success ∧ (∃ e, (launch s o).result = .error e) ∧
        (launch s o).names = [.startDriver, .launchChromium, .stopDriver]) := by
  have hended : (Act.call .startDriver o).result = .ok () := by
    rw [Act.result_call, Call.name, hdriver]
    rfl
  -- starting the driver uses up no outcome of the browser's
  have hkept : (Act.call .startDriver o).rest .launchChromium = o .launchChromium :=
    (Act.CallsOnly.call_self .startDriver).rest_of_notMem o (by simp [Call.name])
  have htried : (Act.call (.launchChromium s.browserHeadless s.browserArgs s.launchTimeoutMs)
      (Act.call .startDriver o).rest).result = (o .launchChromium 0).result := by
    rw [Act.result_call, Call.name, hkept]
  rw [launch_eq, Act.names_bind_of_ok hended, Act.names_call, Act.result_bind_of_ok hended,
    Act.names_attempt_bind, Act.names_call, Act.result_attempt_bind, htried]
  by_cases hbrowser : o .launchChromium 0 = .success
  · rw [hbrowser]
    exact .inl ⟨rfl, rfl, rfl⟩
  · obtain ⟨e, he⟩ := Outcome.exists_error_of_ne_success hbrowser
    rw [he]
    obtain ⟨hfailed, hnames⟩ := settle_error s e (Act.call (.launchChromium s.browserHeadless
      s.browserArgs s.launchTimeoutMs) (Act.call .startDriver o).rest).rest
    rw [hnames]
    exact .inr ⟨hbrowser, hfailed, rfl⟩

/-! ## Which calls an environment makes -/

def sessionNames : List CallName := [.startDriver, .launchChromium, .closeBrowser, .stopDriver]

theorem callsOnly_launch :
    Act.CallsOnly [.startDriver, .launchChromium, .stopDriver] (launch s) := by
  rw [launch_eq]
  refine .bind (.call (by simp [Call.name])) fun _ => ?_
  refine .bind (.attempt (.call (by simp [Call.name]))) fun tried => ?_
  unfold settle
  split
  · exact .bind (.log _) fun _ => .result _
  · refine .bind (.attempt (.call (by simp [Call.name]))) fun stopped => ?_
    split
    · exact .raise _
    · exact .raise _

theorem callsOnly_close : Act.CallsOnly [.closeBrowser, .stopDriver] Environment.opened.close := by
  unfold Environment.close
  refine .bind (.attempt (.call (by simp [Call.name]))) fun browser => ?_
  refine .bind (.attempt (.call (by simp [Call.name]))) fun driver => ?_
  split
  · exact .raise _
  · exact .raise _
  · exact .ofExcept _

end Chromium

end Browser

end OutlineChart
