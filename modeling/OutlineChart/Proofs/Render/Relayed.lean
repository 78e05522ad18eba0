import OutlineChart.Proofs.Browser.Relayed
import OutlineChart.Proofs.Render.Release
import OutlineChart.Proofs.Render.Stage

/-! # Rendering with Chromium

A render with Chromium goes through the stages of a render with the plain backend: each of its
requests ends as the plain call would that has the outcome put together from the driver's.  So both
renders end alike, whatever they call.
-/

namespace OutlineChart

namespace Render
open Browser Chromium

variable {α : Type}

/-! ## What a render does not look at -/

theorem retell_uncaused (tell : Failure → DiagramError) (r : Except Raised α) :
    retell tell (uncaused r) = retell tell r := by
  cases r with
  | ok a => rfl
  | error e => cases e <;> rfl

theorem forgive_uncaused (r : Except Raised Unit) : forgive (uncaused r) = forgive r := by
  cases r with
  | ok a => rfl
  | error e => cases e <;> rfl

/-! ## Requests and stages -/

/-- Makes the request of a stage, which ends as the stage does by the script of the requests. -/
structure Relays (st : Stage) (v : α) (x : Act α) : Prop where
  result : ∀ o, uncaused (x o).result = (st.ending (script o)).map fun _ => v
  callsOnly : Act.CallsOnly (relayed st.call.name) x

theorem relays_of_unbounded {st : Stage} {x : Act Unit} (h : st.deadlineMs = none)
    (hresult : ∀ o, uncaused (x o).result = (script o st.call.name 0).result)
    (honly : Act.CallsOnly (relayed st.call.name) x) : Relays st () x where
  result := by
    intro o
    rw [hresult, Stage.ending, Stage.lapsed?, h]
    exact (map_unit _).symm
  callsOnly := honly

theorem relays_of_bounded {st : Stage} {timeoutMs : Int} {v : α} {x : Act α}
    (h : st.deadlineMs = some timeoutMs)
    (hresult : ∀ o, (x o).result = (script o st.call.name 0).result.map fun _ => v)
    (honly : Act.CallsOnly (relayed st.call.name) x) : Relays st v (Act.within timeoutMs x) where
  result := by
    intro o
    rw [Stage.ending, Stage.lapsed?, h, Option.bind_some]
    cases hlapsed : Act.lapsed? timeoutMs with
    | some f =>
        rw [Act.within_of_lapsed hlapsed]
        rfl
    | none =>
        rw [Act.within_of_inTime hlapsed, hresult, uncaused_lapse, uncaused_map, uncaused_result,
          Act.lapse_map]
  callsOnly := honly.within timeoutMs

/-- Ends as the stages do by the script of the requests, and calls only what they may become. -/
structure Follows (sts : List Stage) (v : α) (x : Act α) : Prop where
  result : ∀ o, (x o).result = endOf v (sts.findSome? (Stage.raised? (script o)))
  callsOnly : Act.CallsOnly (sts.flatMap fun st => relayed st.call.name) x

theorem Relays.follows {st : Stage} {v : α} {x y : Act α} (hx : Relays st v x) (hy : y.Wraps x)
    {handle : Except Raised α → Except Raised α}
    (hresult : ∀ o, (y o).result = handle (x o).result)
    (hblind : ∀ r, handle (uncaused r) = handle r)
    (hhandle : ∀ o, handle ((st.ending o).map fun _ => v) = endOf v (st.raised? o)) :
    Follows [st] v y where
  result := by
    intro o
    rw [hresult, ← hblind, hx.result, hhandle, List.findSome?_cons]
    cases st.raised? (script o) <;> rfl
  callsOnly := by
    rw [List.flatMap_singleton]
    exact hy.callsOnly hx.callsOnly

theorem Follows.single {st : Stage} {v : α} {x : Act α} (h : Follows [st] v x) (o : Oracle) :
    (x o).result = endOf v (st.raised? (script o)) := by
  rw [h.result, Stage.findSome?_raised?_cons, List.findSome?_nil, Option.or_none]

/-- A request leaves the outcome of another one as it was, if they share no calls. -/
theorem Follows.script_rest {sts : List Stage} {v : α} {x : Act α} (h : Follows sts v x)
    {name : CallName}
    (hnew : ∀ n ∈ relayed name, n ∉ sts.flatMap fun st => relayed st.call.name) (o : Oracle) :
    script (x o).rest name = script o name :=
  script_congr fun n hn => h.callsOnly.rest_of_notMem o (hnew n hn)

theorem Follows.cons {st : Stage} {sts : List Stage} {v : α} {x : Act Unit} {f : Unit → Act α}
    (hx : Follows [st] () x) (hf : Follows sts v (f ()))
    (hnew : ∀ n ∈ sts.flatMap fun st' => relayed st'.call.name, n ∉ relayed st.call.name) :
    Follows (st :: sts) v (x >>= f) where
  result := by
    intro o
    have hrest : ∀ st' ∈ sts, script (x o).rest st'.call.name = script o st'.call.name := by
      intro st' hst'
      refine hx.script_rest (fun n hn => ?_) o
      rw [List.flatMap_singleton]
      exact hnew n (List.mem_flatMap.2 ⟨st', hst', hn⟩)
    have hlater := hf.result (x o).rest
    rw [Stage.findSome?_raised?_congr hrest] at hlater
    rw [Stage.findSome?_raised?_cons]
    exact result_bind_of_endOf (hx.single o) hlater
  callsOnly := by
    rw [List.flatMap_cons]
    refine .bind (hx.callsOnly.mono ?_) fun _ => hf.callsOnly.mono ?_
    · simp
    · simp

/-! ## The stages with Chromium -/

variable (pdf : Bytes) (s : Settings)

theorem follows_launch : Follows [Stage.launch s] () (launch (.chromium pdf) s) := by
  have hlaunch : ∀ o, ((Backend.chromium pdf).launch s o).result =
      (script o .launch 0).result.map fun _ => () := by
    intro o
    have hmade := congrArg Run.result (Act.bind_pure_apply (Chromium.launch s) () o)
    refine hmade.trans ?_
    rw [Chromium.result_launch]
    cases (script o .launch 0).result <;> rfl
  have hcalls : Act.CallsOnly (relayed .launch) ((Backend.chromium pdf).launch s) :=
    .bind (callsOnly_launch s) fun _ => .result ()
  have hrelays : Relays (Stage.launch s) ()
      (Act.within s.launchTimeoutMs ((Backend.chromium pdf).launch s)) :=
    relays_of_bounded rfl hlaunch hcalls
  refine hrelays.follows (wraps_launch _ s) (result_launch _ s) (retell_uncaused _)
    (retell_ending ?_ ())
  intro f
  cases f <;> rfl

theorem follows_orElse {st : Stage} {tell : Failure → DiagramError} {x : Act Unit}
    (h : st.deadlineMs = none) (htell : ∀ f, st.report? f = some (tell f))
    (hresult : ∀ o, uncaused (x o).result = (script o st.call.name 0).result)
    (honly : Act.CallsOnly (relayed st.call.name) x) : Follows [st] () (orElse tell x) :=
  (relays_of_unbounded h hresult honly).follows (wraps_orElse tell x) (result_orElse tell x)
    (retell_uncaused tell) (retell_ending htell ())

theorem follows_newPage :
    Follows [Stage.newPage] () (orElse pageFailure (Backend.chromium pdf).newPage) := by
  refine follows_orElse rfl (fun _ => rfl) (fun o => ?_) (.call_self .openPage)
  show uncaused (Act.call .openPage o).result = _
  rw [Act.result_call, uncaused_result]
  rfl

theorem follows_loadHtml (code : Text) :
    Follows [Stage.loadHtml s code] ()
      (orElse (stageFailure "content-load" s.contentTimeoutMs "Failed to load diagram page")
        ((Backend.chromium pdf).loadHtml (page s code) s.contentTimeoutMs)) :=
  follows_orElse rfl (fun f => by cases f <;> rfl) (result_timed_call _)
    (callsOnly_timed (.call_self (.setContent (page s code) s.contentTimeoutMs)))

theorem follows_waitForDiagram :
    Follows [Stage.waitForDiagram s] ()
      (orElse (stageFailure "render-completion" s.renderTimeoutMs "Diagram failed to render")
        ((Backend.chromium pdf).waitForDiagram s.renderTimeoutMs)) :=
  follows_orElse rfl (fun f => by cases f <;> rfl) (result_timed_call _)
    (callsOnly_timed (.call_self (.waitForFunction s.renderTimeoutMs)))

theorem follows_photograph (path : String) :
    Follows [Stage.screenshot s path] () (photograph (.chromium pdf) s path) := by
  have hrelays : Relays (Stage.screenshot s path) ()
      ((Backend.chromium pdf).screenshot path s.screenshotTimeoutMs) :=
    relays_of_unbounded rfl (result_timed_call _)
      (callsOnly_timed (.call_self (.capturePage path s.screenshotTimeoutMs)))
  exact hrelays.follows (wraps_photograph _ s path) (result_photograph _ s path) forgive_uncaused
    (forgive_ending fun _ => rfl)

theorem follows_exportWithin :
    Follows [Stage.exportPdf s] pdf (exportWithin (.chromium pdf) s) := by
  have hcalls : Act.CallsOnly (relayed .exportPdf) (Chromium.exportPdf pdf s.pdfOptions) :=
    .bind (.call_self (.printPage s.pdfOptions)) fun _ => .result pdf
  have hrelays : Relays (Stage.exportPdf s) pdf
      (Act.within s.exportTimeoutMs ((Backend.chromium pdf).exportPdf s.pdfOptions)) :=
    relays_of_bounded rfl (result_exportPdf pdf s.pdfOptions) hcalls
  exact hrelays.follows (wraps_orElse _ _) (result_orElse _ _) (retell_uncaused _)
    (retell_ending (fun _ => rfl) pdf)

theorem follows_draw (code : Text) :
    Follows (Stage.drawing s code) pdf (draw (.chromium pdf) s (page s code)) := by
  have hpage := follows_newPage pdf
  have hload := follows_loadHtml pdf s code
  have hwait := follows_waitForDiagram pdf s
  have hexport := follows_exportWithin pdf s
  have hpath : s.screenshotPath? = s.debugScreenshotPath.filter (· ≠ "") := rfl
  rw [draw_eq, Stage.drawing, hpath]
  -- no two stages of a drawing become the same call
  cases s.debugScreenshotPath.filter (· ≠ "") with
  | none =>
      exact hpage.cons (hload.cons (hwait.cons hexport (by simp [relayed])) (by simp [relayed]))
        (by simp [relayed])
  | some path =>
      have hphotograph := follows_photograph pdf s path
      exact hpage.cons (hload.cons (hwait.cons (hphotograph.cons hexport (by simp [relayed]))
        (by simp [relayed])) (by simp [relayed])) (by simp [relayed])

theorem relayed_drawing (code : Text) :
    ((Stage.drawing s code).flatMap fun st => relayed st.call.name) ⊆ pageNames := by
  unfold Stage.drawing
  cases s.debugScreenshotPath.filter (· ≠ "") <;> simp [relayed, pageNames]

/-! ## The whole -/

theorem rest_launch_of_ok {o : Oracle} (h : (launch (.chromium pdf) s o).result = .ok ())
    {name : CallName} (hstart : name ≠ .startDriver) (hbrowser : name ≠ .launchChromium) :
    (launch (.chromium pdf) s o).rest name = o name := by
  obtain ⟨⟨e, he⟩, -⟩ | ⟨-, -, -, hnames⟩ := launch_chromium pdf s o
  · rw [h] at he
    cases he
  · rw [(follows_launch pdf s).callsOnly.rest_eq, hnames]
    funext k
    simp [Oracle.advance, hstart.symm, hbrowser.symm]

/-- A launch leaves the outcomes of the calls that come after it. -/
theorem rest_launch_of_mem {o : Oracle} (h : (launch (.chromium pdf) s o).result = .ok ()) :
    ∀ name ∈ pageNames ++ relayed .close, (launch (.chromium pdf) s o).rest name = o name := by
  intro name hname
  refine rest_launch_of_ok pdf s h ?_ ?_
  · rintro rfl
    simp [pageNames, relayed] at hname
  · rintro rfl
    simp [pageNames, relayed] at hname

/-- Neither the launch nor the drawing has a say in how the closing ends. -/
theorem script_close_of_launched {o : Oracle} (h : (launch (.chromium pdf) s o).result = .ok ())
    (code : Text) :
    script (draw (.chromium pdf) s (page s code) (launch (.chromium pdf) s o).rest).rest .close =
      script o .close := by
  rw [(follows_draw pdf s code).script_rest ?_ _]
  · exact script_congr fun name hname =>
      rest_launch_of_mem pdf s h name (List.mem_append_right _ hname)
  · intro name hname hdrawing
    have hpage := relayed_drawing s code hdrawing
    simp only [relayed, List.mem_cons, List.not_mem_nil, or_false] at hname
    rcases hname with rfl | rfl <;> simp [pageNames] at hpage

theorem result_renderCode_chromium (code : Text) (o : Oracle) :
    (renderCode (.chromium pdf) s code o).result =
      (renderCode (.plain pdf) s code (script o)).result := by
  rw [(renderCode_plain pdf s code (script o)).2]
  have hlaunch := (follows_launch pdf s).single o
  cases hraised : (Stage.launch s).raised? (script o) with
  | some e =>
      rw [hraised] at hlaunch
      exact (renderCode_of_launch_error code hlaunch).1
  | none =>
      rw [hraised] at hlaunch
      obtain ⟨-, hended⟩ := renderCode_of_launched code hlaunch rfl rfl
      have hdraw := follows_draw pdf s code
      have hdrawn : ∀ st ∈ Stage.drawing s code,
          script (launch (.chromium pdf) s o).rest st.call.name = script o st.call.name := by
        intro st hst
        refine script_congr fun name hname => rest_launch_of_mem pdf s hlaunch name ?_
        exact List.mem_append_left _
          (relayed_drawing s code (List.mem_flatMap.2 ⟨st, hst, hname⟩))
      have hclosed := script_close_of_launched pdf s hlaunch code
      have hforgiven : (closeQuietly (.chromium pdf) (draw (.chromium pdf) s (page s code)
          (launch (.chromium pdf) s o).rest).rest).result = forgive (script o .close 0).result := by
        rw [result_closeQuietly, ← hclosed]
        exact congrArg forgive (result_close _)
      rw [hended, hforgiven, hdraw.result, Stage.findSome?_raised?_congr hdrawn]
      cases forgive (script o .close 0).result with
      | ok _ => cases (Stage.drawing s code).findSome? (Stage.raised? (script o)) <;> rfl
      | error e => rfl

/-- A render with Chromium ends as a render with the plain backend whose calls end as the driver's
calls put together do. -/
theorem renderPdf_chromium_ends_as_plain (pdf : Bytes) (s : Settings) (description : Option Text)
    (o : Oracle) :
    (renderPdf (.chromium pdf) s description o).result =
      (renderPdf (.plain pdf) s description (script o)).result := by
  unfold renderPdf
  cases accept description with
  | error e => rfl
  | ok code =>
      exact result_renderCode_chromium pdf s code o

end Render

end OutlineChart
