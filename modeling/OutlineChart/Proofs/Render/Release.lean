import OutlineChart.Proofs.Browser.Chromium
import OutlineChart.Proofs.Render.Frame

/-! # Nothing stays running

With Chromium each driver that was started is stopped and each browser that was launched is closed,
exactly once and in that order of nesting, however a render ends; so the drivers and browsers of any
sequence of renders are all let go.
-/

namespace OutlineChart

namespace Browser

/-- How many of the next calls of a name succeed. -/
def Oracle.successes (o : Oracle) (name : CallName) (n : Nat) : Nat :=
  (List.range n).countP fun k => o name k = .success

theorem Oracle.successes_zero (o : Oracle) (name : CallName) : o.successes name 0 = 0 := rfl

theorem Oracle.successes_one (o : Oracle) (name : CallName) :
    o.successes name 1 = if o name 0 = .success then 1 else 0 := by
  by_cases h : o name 0 = .success <;> simp [successes, h]

/-- Successes among the first calls, and then among those that come after them. -/
theorem Oracle.successes_add (o : Oracle) (made : CallName → Nat) (name : CallName) (n : Nat) :
    o.successes name (made name + n) =
      o.successes name (made name) + (o.advance made).successes name n :=
  o.countP_range_add made name n fun outcome => outcome = .success

end Browser

namespace Render
open Browser Chromium

/-! ## One render -/

/-- The calls of a render, with the outcomes that say how far it gets. -/
inductive Lifecycle (o : Oracle) : List CallName → Prop
  | untouched : Lifecycle o []
  | unstarted : o .startDriver 0 ≠ .success → Lifecycle o [.startDriver]
  | unlaunched : o .startDriver 0 = .success → o .launchChromium 0 ≠ .success →
      Lifecycle o [.startDriver, .launchChromium, .stopDriver]
  | drawn {paged : List CallName} : o .startDriver 0 = .success → o .launchChromium 0 = .success →
      paged ⊆ pageNames →
      Lifecycle o ([.startDriver, .launchChromium] ++ paged ++ [.closeBrowser, .stopDriver])

/-- As many calls of one name as calls of another succeed. -/
def Paired (o : Oracle) (acquire release : CallName) (calls : List CallName) : Prop :=
  calls.count release = o.successes acquire (calls.count acquire)

structure Balanced (o : Oracle) (calls : List CallName) : Prop where
  driver : Paired o .startDriver .stopDriver calls
  browser : Paired o .launchChromium .closeBrowser calls

/-- There is at most one driver, which is stopped last, and at most one browser, which is closed
before that. -/
structure Releases (o : Oracle) (calls : List CallName) : Prop extends Balanced o calls where
  startDriver_le : calls.count .startDriver ≤ 1
  launchChromium_le : calls.count .launchChromium ≤ 1
  close_before_stop : .closeBrowser ∈ calls → [.closeBrowser, .stopDriver].Sublist calls
  stop_last : .stopDriver ∈ calls → calls.getLast? = some .stopDriver

theorem Lifecycle.releases {o : Oracle} {calls : List CallName} (h : Lifecycle o calls) :
    Releases o calls := by
  cases h with
  | untouched => refine ⟨⟨?_, ?_⟩, ?_, ?_, ?_, ?_⟩ <;> simp [Paired, o.successes_zero]
  | unstarted hdriver =>
      have hnever : o.successes .startDriver 1 = 0 := by rw [o.successes_one, if_neg hdriver]
      refine ⟨⟨?_, ?_⟩, ?_, ?_, ?_, ?_⟩ <;> simp [Paired, hnever, o.successes_zero]
  | unlaunched hdriver hbrowser =>
      have honce : o.successes .startDriver 1 = 1 := by rw [o.successes_one, if_pos hdriver]
      have hnever : o.successes .launchChromium 1 = 0 := by rw [o.successes_one, if_neg hbrowser]
      refine ⟨⟨?_, ?_⟩, ?_, ?_, ?_, ?_⟩ <;> simp [Paired, honce, hnever]
  | @drawn paged hdriver hbrowser hpaged =>
      -- what happens on the page is of none of the four names
      have honce : o.successes .startDriver 1 = 1 := by rw [o.successes_one, if_pos hdriver]
      have honce' : o.successes .launchChromium 1 = 1 := by rw [o.successes_one, if_pos hbrowser]
      have hother : ∀ name ∉ pageNames, paged.count name = 0 := fun name hname =>
        List.count_eq_zero.2 (mt (@hpaged name) hname)
      have hstart := hother .startDriver (by simp [pageNames])
      have hlaunch := hother .launchChromium (by simp [pageNames])
      have hclose := hother .closeBrowser (by simp [pageNames])
      have hstop := hother .stopDriver (by simp [pageNames])
      refine ⟨⟨?_, ?_⟩, ?_, ?_, ?_, ?_⟩
      · simp [Paired, hstart, hstop, honce]
      · simp [Paired, hlaunch, hclose, honce']
      · simp [hstart]
      · simp [hlaunch]
      · intro _
        exact List.sublist_append_right _ _
      · intro _
        rw [List.getLast?_append]
        rfl

theorem pagesOnly_chromium (pdf : Bytes) : PagesOnly pageNames (.chromium pdf) where
  newPage := .call (by simp [pageNames, Call.name])
  loadHtml html timeoutMs := callsOnly_timed (.call (by simp [pageNames, Call.name]))
  waitForDiagram timeoutMs := callsOnly_timed (.call (by simp [pageNames, Call.name]))
  screenshot path timeoutMs := callsOnly_timed (.call (by simp [pageNames, Call.name]))
  exportPdf options :=
    .bind (.call (by simp [pageNames, Call.name])) fun _ => .result pdf

/-- With time left, a launch makes Chromium's calls and ends as they do. -/
theorem launch_chromium_of_inTime {s : Settings} (hlapsed : Act.lapsed? s.launchTimeoutMs = none)
    (pdf : Bytes) (o : Oracle) :
    (launch (.chromium pdf) s o).names = (Chromium.launch s o).names ∧
      (launch (.chromium pdf) s o).result =
        retell (launchFailure s) (Act.lapse ((Chromium.launch s o).result.map fun _ => ())) := by
  have hback : (Backend.chromium pdf).launch s o = ⟨(Chromium.launch s o).result.map fun _ => (),
      (Chromium.launch s o).trace, (Chromium.launch s o).rest⟩ :=
    Act.bind_pure_apply (Chromium.launch s) () o
  rw [(wraps_launch _ s).names, result_launch, Act.within_of_inTime hlapsed, hback]
  exact ⟨rfl, rfl⟩

/-- A launch that succeeds leaves both running, and one that fails leaves neither. -/
theorem launch_chromium (pdf : Bytes) (s : Settings) (o : Oracle) :
    ((∃ e, (launch (.chromium pdf) s o).result = .error e) ∧
        Lifecycle o (launch (.chromium pdf) s o).names) ∨
      ((launch (.chromium pdf) s o).result = .ok () ∧
        o .startDriver 0 = .success ∧ o .launchChromium 0 = .success ∧
        (launch (.chromium pdf) s o).names = [.startDriver, .launchChromium]) := by
  cases hlapsed : Act.lapsed? s.launchTimeoutMs with
  | some f =>
      -- without time left not even the driver is started
      rw [(wraps_launch _ s).names, result_launch, Act.within_of_lapsed hlapsed]
      exact .inl ⟨⟨_, rfl⟩, .untouched⟩
  | none =>
      obtain ⟨hnames, hresult⟩ := launch_chromium_of_inTime hlapsed pdf o
      have hraised : ∀ {e}, (Chromium.launch s o).result = .error e →
          ∃ e', (launch (.chromium pdf) s o).result = .error e' := by
        intro e he
        obtain ⟨e', he'⟩ : ∃ e', Act.lapse (.error e : Except Raised Unit) = .error e' :=
          Act.lapse_error e
        rw [hresult, he, Except.map, he']
        exact retell_error _ e'
      rw [hnames]
      by_cases hdriver : o .startDriver 0 = .success
      · obtain ⟨hbrowser, hok, hmade⟩ | ⟨hbrowser, ⟨e, he⟩, hmade⟩ :=
          launch_of_driver_started s hdriver
        · rw [hresult, hok]
          exact .inr ⟨rfl, hdriver, hbrowser, hmade⟩
        · exact .inl ⟨hraised he, hmade ▸ .unlaunched hdriver hbrowser⟩
      · obtain ⟨⟨e, he⟩, hmade⟩ := launch_of_driver_failed s hdriver
        exact .inl ⟨hraised he, hmade ▸ .unstarted hdriver⟩

theorem renderCode_lifecycle (pdf : Bytes) (s : Settings) (code : Text) (o : Oracle) :
    Lifecycle o (renderCode (.chromium pdf) s code o).names := by
  obtain ⟨⟨e, he⟩, hnames⟩ | ⟨hok, hdriver, hbrowser, hnames⟩ := launch_chromium pdf s o
  · unfold Run.names
    rw [(renderCode_of_launch_error code he).2]
    exact hnames
  · have hdrawn := (callsOnly_draw s (pagesOnly_chromium pdf) (page s code)).names_subset
      (launch (.chromium pdf) s o).rest
    rw [names_renderCode_of_launched code hok, hnames, (wraps_closeQuietly _).names]
    have hclosed : ∀ o', ((Backend.chromium pdf).close o').names = [.closeBrowser, .stopDriver] :=
      names_close
    rw [hclosed]
    exact .drawn hdriver hbrowser hdrawn

theorem renderPdf_lifecycle (pdf : Bytes) (s : Settings) (description : Option Text) (o : Oracle) :
    Lifecycle o (renderPdf (.chromium pdf) s description o).names := by
  rw [renderPdf]
  cases accept description with
  | ok code => exact renderCode_lifecycle pdf s code o
  | error e => exact .untouched

theorem callsOnly_renderPdf_chromium (pdf : Bytes) (s : Settings) (description : Option Text) :
    Act.CallsOnly (sessionNames ++ pageNames) (renderPdf (.chromium pdf) s description) := by
  have hpages : PagesOnly (sessionNames ++ pageNames) (.chromium pdf) :=
    (pagesOnly_chromium pdf).mono (List.subset_append_right _ _)
  have hlaunch : Act.CallsOnly (sessionNames ++ pageNames) ((Backend.chromium pdf).launch s) :=
    .bind ((callsOnly_launch s).mono (by simp [sessionNames])) fun _ => .result ()
  have hclose : Act.CallsOnly (sessionNames ++ pageNames) (Backend.chromium pdf).close :=
    callsOnly_close.mono (by simp [sessionNames])
  exact callsOnly_renderPdf hpages hlaunch hclose description

/-! ## Many renders -/

theorem Paired.append {o : Oracle} {acquire release : CallName} {first second : List CallName}
    (hfirst : Paired o acquire release first)
    (hsecond : Paired (o.advance fun name => first.count name) acquire release second) :
    Paired o acquire release (first ++ second) := by
  unfold Paired at hfirst hsecond ⊢
  rw [List.count_append, List.count_append, hfirst, hsecond]
  exact (o.successes_add (fun name => first.count name) acquire _).symm

theorem Balanced.append {o : Oracle} {first second : List CallName} (hfirst : Balanced o first)
    (hsecond : Balanced (o.advance fun name => first.count name) second) :
    Balanced o (first ++ second) where
  driver := hfirst.driver.append hsecond.driver
  browser := hfirst.browser.append hsecond.browser

structure Job where
  pdf : Bytes
  settings : Settings
  description : Option Text

def Job.render (job : Job) : Act Document :=
  renderPdf (.chromium job.pdf) job.settings job.description

def namesOf (o : Oracle) (jobs : List Job) : List CallName :=
  (Act.runs o (jobs.map Job.render)).flatMap Run.names

theorem namesOf_cons (o : Oracle) (job : Job) (jobs : List Job) :
    namesOf o (job :: jobs) = (job.render o).names ++ namesOf (job.render o).rest jobs := rfl

theorem balanced_namesOf (jobs : List Job) (o : Oracle) : Balanced o (namesOf o jobs) := by
  induction jobs generalizing o with
  | nil => exact ⟨rfl, rfl⟩
  | cons job jobs ih =>
      have hfirst : Balanced o (job.render o).names :=
        (renderPdf_lifecycle job.pdf job.settings job.description o).releases.toBalanced
      have hrest : (job.render o).rest = o.advance fun name => (job.render o).names.count name :=
        (callsOnly_renderPdf_chromium job.pdf job.settings job.description).rest_eq o
      -- the later renders succeed and fail by the outcomes that the first one left
      rw [namesOf_cons]
      exact hfirst.append (hrest ▸ ih (job.render o).rest)

/-- Each render lets go of what it acquired, and so does any sequence of renders. -/
theorem renderPdf_leaves_nothing_running (o : Oracle) :
    (∀ pdf s description, Releases o (renderPdf (.chromium pdf) s description o).names) ∧
      ∀ jobs : List Job, Balanced o (namesOf o jobs) :=
  ⟨fun pdf s description => (renderPdf_lifecycle pdf s description o).releases,
    fun jobs => balanced_namesOf jobs o⟩

end Render

end OutlineChart
