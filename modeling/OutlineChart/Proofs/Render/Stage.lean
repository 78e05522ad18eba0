import OutlineChart.Proofs.Render.Frame

/-! # Stages of a render

A render with the plain backend as a list of stages: each makes one call, within a deadline if it
has one, and says what callers are told of a failure.  A list of stages is gone through until one
of them ends the run; the calls and the end of a render are read off that list and the outcomes to
come.
-/

namespace OutlineChart

namespace Render
open Browser

structure Stage where
  call : Call
  /-- The milliseconds that rendering itself grants. -/
  deadlineMs : Option Int
  /-- What callers are told of a failure; nothing if it is passed over. -/
  report? : Failure → Option DiagramError

namespace Stage

/-! ## The stages -/

def launch (s : Settings) : Stage where
  call := .launch
  deadlineMs := some s.launchTimeoutMs
  report?
    | .timeout _ =>
        some (.plain .launch "Could not launch rendering environment"
          (some ("Launch timed out after " ++ toString s.launchTimeoutMs ++ " ms")))
    | f => some (.plain .launch "Could not launch rendering environment" (some f.text))

def newPage : Stage where
  call := .newPage
  deadlineMs := none
  report? f := some (.plain .launch "Could not open a page" (some f.text))

def loadHtml (s : Settings) (code : Text) : Stage where
  call := .loadHtml (page s code) s.contentTimeoutMs
  deadlineMs := none
  report?
    | .timeout text => some (.renderTimeout "content-load" s.contentTimeoutMs (some text))
    | f => some (.plain .render "Failed to load diagram page" (some f.text))

def waitForDiagram (s : Settings) : Stage where
  call := .waitForDiagram s.renderTimeoutMs
  deadlineMs := none
  report?
    | .timeout text => some (.renderTimeout "render-completion" s.renderTimeoutMs (some text))
    | f => some (.plain .render "Diagram failed to render" (some f.text))

def screenshot (s : Settings) (path : String) : Stage where
  call := .screenshot path s.screenshotTimeoutMs
  deadlineMs := none
  report? _ := none

def exportPdf (s : Settings) : Stage where
  call := .exportPdf s.pdfOptions
  deadlineMs := some s.exportTimeoutMs
  report? f :=
    some (.plain .exporting "PDF export failed" (some (if f.text = "" then f.name else f.text)))

@[simp] theorem name_launch (s : Settings) : (launch s).call.name = .launch := rfl

@[simp] theorem name_newPage : newPage.call.name = .newPage := rfl

@[simp] theorem name_loadHtml (s : Settings) (code : Text) :
    (loadHtml s code).call.name = .loadHtml := rfl

@[simp] theorem name_waitForDiagram (s : Settings) :
    (waitForDiagram s).call.name = .waitForDiagram := rfl

@[simp] theorem name_screenshot (s : Settings) (path : String) :
    (screenshot s path).call.name = .screenshot := rfl

@[simp] theorem name_exportPdf (s : Settings) : (exportPdf s).call.name = .exportPdf := rfl

/-! ## How a stage goes -/

/-- What the deadline fails with before the call is made. -/
def lapsed? (st : Stage) : Option Failure := st.deadlineMs.bind Act.lapsed?

theorem lapsed?_launch (s : Settings) :
    (launch s).lapsed? = Act.lapsed? s.launchTimeoutMs := by
  rw [lapsed?, launch, Option.bind_some]

theorem lapsed?_exportPdf (s : Settings) :
    (exportPdf s).lapsed? = Act.lapsed? s.exportTimeoutMs := by
  rw [lapsed?, exportPdf, Option.bind_some]

/-- How a stage ends when the next call of its name ends with the first outcome to come. -/
def ending (o : Oracle) (st : Stage) : Except Raised Unit :=
  match st.lapsed? with
  | some f => .error (.failure f none)
  | none =>
      match st.deadlineMs with
      | some _ => Act.lapse (o st.call.name 0).result
      | none => (o st.call.name 0).result

def entries (o : Oracle) (st : Stage) : List Entry :=
  if st.lapsed?.isSome then [] else st.call.entries (o st.call.name 0)

/-- What a stage raises out of the run, if it does not let it go on. -/
def raised? (o : Oracle) (st : Stage) : Option Raised :=
  match st.ending o with
  | .ok () => none
  | .error (.failure f _) => (st.report? f).map (.diagramFrom f)
  | .error e => some e

theorem raised?_of_success {o : Oracle} {st : Stage} (hlapsed : st.lapsed? = none)
    (h : o st.call.name 0 = .success) : st.raised? o = none := by
  unfold raised? ending
  rw [hlapsed, h]
  cases st.deadlineMs <;> rfl

/-- The stages up to the first one with a property, that one included. -/
def upTo (p : Stage → Bool) (sts : List Stage) : List Stage := sts.take (sts.findIdx p + 1)

theorem upTo_cons (p : Stage → Bool) (st : Stage) (sts : List Stage) :
    upTo p (st :: sts) = st :: if p st then [] else upTo p sts := by
  unfold upTo
  rw [List.findIdx_cons]
  cases p st <;> simp

theorem upTo_congr {p q : Stage → Bool} {sts : List Stage} (h : ∀ st ∈ sts, p st = q st) :
    upTo p sts = upTo q sts := by
  induction sts with
  | nil => rfl
  | cons st sts ih =>
      rw [upTo_cons, upTo_cons, h st List.mem_cons_self,
        ih fun st' hst' => h st' (List.mem_cons_of_mem _ hst')]

/-- The calls of a list of stages, the first one that ends the run being the last. -/
def entriesUntil (o : Oracle) (sts : List Stage) : List Entry :=
  (upTo (fun st => (st.raised? o).isSome) sts).flatMap (entries o)

theorem entriesUntil_cons (o : Oracle) (st : Stage) (sts : List Stage) :
    entriesUntil o (st :: sts) =
      match st.raised? o with
      | some _ => st.entries o
      | none => st.entries o ++ entriesUntil o sts := by
  unfold entriesUntil
  rw [upTo_cons]
  cases st.raised? o <;> simp

variable {o o' : Oracle}

theorem ending_congr {st : Stage} (h : o st.call.name = o' st.call.name) :
    st.ending o = st.ending o' := by
  unfold ending
  rw [h]

theorem raised?_congr {st : Stage} (h : o st.call.name = o' st.call.name) :
    st.raised? o = st.raised? o' := by
  unfold raised?
  rw [ending_congr h]

theorem entries_congr {st : Stage} (h : o st.call.name = o' st.call.name) :
    st.entries o = st.entries o' := by
  unfold entries
  rw [h]

theorem entriesUntil_congr {sts : List Stage}
    (h : ∀ st ∈ sts, o st.call.name = o' st.call.name) :
    entriesUntil o sts = entriesUntil o' sts := by
  induction sts with
  | nil => rfl
  | cons st sts ih =>
      have hst := h st List.mem_cons_self
      rw [entriesUntil_cons, entriesUntil_cons, raised?_congr hst, entries_congr hst,
        ih fun st' hst' => h st' (List.mem_cons_of_mem _ hst')]

theorem findSome?_congr {β : Type} {f g : Stage → Option β} {sts : List Stage}
    (h : ∀ st ∈ sts, f st = g st) : sts.findSome? f = sts.findSome? g := by
  induction sts with
  | nil => rfl
  | cons st sts ih =>
      rw [List.findSome?_cons, List.findSome?_cons, h st List.mem_cons_self,
        ih fun st' hst' => h st' (List.mem_cons_of_mem _ hst')]

theorem findSome?_raised?_congr {sts : List Stage}
    (h : ∀ st ∈ sts, o st.call.name = o' st.call.name) :
    sts.findSome? (raised? o) = sts.findSome? (raised? o') :=
  findSome?_congr fun st hst => raised?_congr (h st hst)

end Stage

/-! ## Acts that go through stages -/

variable {α : Type}

/-- A value, unless something is raised. -/
def endOf (v : α) : Option Raised → Except Raised α
  | some e => .error e
  | none => .ok v

theorem result_bind_of_endOf {x : Act Unit} {f : Unit → Act α} {o : Oracle} {v : α}
    {first later : Option Raised} (hx : (x o).result = endOf () first)
    (hf : (f () (x o).rest).result = endOf v later) :
    ((x >>= f) o).result = endOf v (first.or later) := by
  cases first with
  | some e => exact Act.result_bind_of_error hx f
  | none => exact (Act.result_bind_of_ok hx f).trans hf

theorem Stage.findSome?_raised?_cons (o : Oracle) (st : Stage) (sts : List Stage) :
    (st :: sts).findSome? (raised? o) = (st.raised? o).or (sts.findSome? (raised? o)) := by
  rw [List.findSome?_cons]
  cases st.raised? o <;> rfl

/-- Goes through the stages and then gives a value. -/
structure Performs (sts : List Stage) (v : α) (x : Act α) : Prop where
  calls : ∀ o, (x o).calls = Stage.entriesUntil o sts
  result : ∀ o, (x o).result = endOf v (sts.findSome? (Stage.raised? o))
  callsOnly : Act.CallsOnly (sts.map (·.call.name)) x

theorem Performs.single {st : Stage} {v : α} {x : Act α} (h : Performs [st] v x) (o : Oracle) :
    (x o).calls = st.entries o ∧ (x o).result = endOf v (st.raised? o) := by
  have hcalls := h.calls o
  have hresult := h.result o
  rw [Stage.entriesUntil_cons] at hcalls
  rw [List.findSome?_cons] at hresult
  cases hst : st.raised? o with
  | some e =>
      rw [hst] at hcalls hresult
      exact ⟨hcalls, hresult⟩
  | none =>
      rw [hst] at hcalls hresult
      exact ⟨hcalls.trans (List.append_nil _), hresult⟩

/-- The first call leaves the outcomes of all others to come as they were. -/
theorem Performs.rest_of_notMem {st : Stage} {sts : List Stage} {v : α} {x : Act α}
    (h : Performs [st] v x) (hnew : st.call.name ∉ sts.map (·.call.name)) {o : Oracle}
    {st' : Stage} (hst' : st' ∈ sts) : (x o).rest st'.call.name = o st'.call.name := by
  apply h.callsOnly.rest_of_notMem
  intro hmem
  rw [List.map_singleton, List.mem_singleton] at hmem
  exact hnew (hmem ▸ List.mem_map_of_mem hst')

theorem Performs.cons {st : Stage} {sts : List Stage} {v : α} {x : Act Unit} {f : Unit → Act α}
    (hx : Performs [st] () x) (hf : Performs sts v (f ()))
    (hnew : st.call.name ∉ sts.map (·.call.name)) : Performs (st :: sts) v (x >>= f) := by
  -- what the first stage raises ends the sequence; otherwise the others are judged by `o` as well
  have hrest : ∀ o, ∀ st' ∈ sts, (x o).rest st'.call.name = o st'.call.name :=
    fun o st' hst' => hx.rest_of_notMem hnew hst'
  constructor
  · intro o
    obtain ⟨hcalls, hresult⟩ := hx.single o
    rw [Stage.entriesUntil_cons]
    cases h : st.raised? o with
    | some e =>
        rw [h] at hresult
        rw [Act.calls_bind_of_error hresult, hcalls]
    | none =>
        rw [h] at hresult
        rw [Act.calls_bind_of_ok hresult, hcalls, hf.calls, Stage.entriesUntil_congr (hrest o)]
  · intro o
    have hlater := hf.result (x o).rest
    rw [Stage.findSome?_raised?_congr (hrest o)] at hlater
    rw [Stage.findSome?_raised?_cons]
    exact result_bind_of_endOf (hx.single o).2 hlater
  · refine .bind (hx.callsOnly.mono ?_) fun _ => hf.callsOnly.mono ?_
    · simp
    · simp

/-! ## Making the call of a stage -/

/-- Makes the call of a stage within its deadline and then gives a value. -/
structure MakesCall (st : Stage) (v : α) (x : Act α) : Prop where
  calls : ∀ o, (x o).calls = st.entries o
  result : ∀ o, (x o).result = (st.ending o).map fun _ => v
  callsOnly : Act.CallsOnly [st.call.name] x

theorem map_result_call (c : Call) (o : Oracle) :
    (Act.call c o).result = (o c.name 0).result.map fun _ => () := by
  rw [Act.result_call]
  cases (o c.name 0).result <;> rfl

theorem makesCall_of_unbounded {st : Stage} (h : st.deadlineMs = none) :
    MakesCall st () (Act.call st.call) where
  calls := by
    intro o
    rw [Act.calls_call, Stage.entries, Stage.lapsed?, h]
    rfl
  result := by
    intro o
    rw [map_result_call, Stage.ending, Stage.lapsed?, h]
    rfl
  callsOnly := .call_self st.call

theorem makesCall_of_bounded {st : Stage} {timeoutMs : Int} {v : α} {x : Act α}
    (h : st.deadlineMs = some timeoutMs)
    (hcalls : ∀ o, (x o).calls = st.call.entries (o st.call.name 0))
    (hresult : ∀ o, (x o).result = (o st.call.name 0).result.map fun _ => v)
    (honly : Act.CallsOnly [st.call.name] x) : MakesCall st v (Act.within timeoutMs x) where
  calls := by
    intro o
    rw [Stage.entries, Stage.lapsed?, h, Option.bind_some]
    cases hlapsed : Act.lapsed? timeoutMs with
    | some f =>
        rw [Act.within_of_lapsed hlapsed]
        rfl
    | none =>
        rw [Act.within_of_inTime hlapsed]
        exact hcalls o
  result := by
    intro o
    rw [Stage.ending, Stage.lapsed?, h, Option.bind_some]
    cases hlapsed : Act.lapsed? timeoutMs with
    | some f =>
        rw [Act.within_of_lapsed hlapsed]
        rfl
    | none =>
        rw [Act.within_of_inTime hlapsed, hresult, Act.lapse_map]
  callsOnly := honly.within timeoutMs

/-- Whoever handles the end of the call as the stage demands performs the stage. -/
theorem MakesCall.performs {st : Stage} {v : α} {x y : Act α} (hx : MakesCall st v x)
    (hy : y.Wraps x) {handle : Except Raised α → Except Raised α}
    (hresult : ∀ o, (y o).result = handle (x o).result)
    (hhandle : ∀ o, handle ((st.ending o).map fun _ => v) = endOf v (st.raised? o)) :
    Performs [st] v y where
  calls := by
    intro o
    rw [hy.calls, hx.calls, Stage.entriesUntil_cons]
    cases st.raised? o with
    | some e => rfl
    | none => exact (List.append_nil _).symm
  result := by
    intro o
    rw [hresult, hx.result, hhandle, List.findSome?_cons]
    cases st.raised? o <;> rfl
  callsOnly := hy.callsOnly hx.callsOnly

theorem retell_ending {st : Stage} {tell : Failure → DiagramError}
    (h : ∀ f, st.report? f = some (tell f)) (v : α) (o : Oracle) :
    retell tell ((st.ending o).map fun _ => v) = endOf v (st.raised? o) := by
  unfold Stage.raised?
  cases st.ending o with
  | ok _ => rfl
  | error e => cases e <;> simp [h, Except.map, retell, endOf]

theorem forgive_ending {st : Stage} (h : ∀ f, st.report? f = none) (o : Oracle) :
    forgive ((st.ending o).map fun _ => ()) = endOf () (st.raised? o) := by
  unfold Stage.raised?
  cases st.ending o with
  | ok _ => rfl
  | error e => cases e <;> simp [h, Except.map, forgive, endOf]

/-! ## The plain backend -/

variable (pdf : Bytes) (s : Settings)

theorem performs_launch : Performs [Stage.launch s] () (launch (.plain pdf) s) := by
  have hcall : MakesCall (Stage.launch s) () (Act.within s.launchTimeoutMs (Act.call Call.launch)) :=
    makesCall_of_bounded rfl (Act.calls_call Call.launch) (map_result_call Call.launch)
      (.call_self Call.launch)
  refine hcall.performs (wraps_launch _ s) (result_launch _ s) (retell_ending ?_ ())
  intro f
  cases f <;> rfl

theorem performs_orElse {st : Stage} {tell : Failure → DiagramError} (h : st.deadlineMs = none)
    (htell : ∀ f, st.report? f = some (tell f)) :
    Performs [st] () (orElse tell (Act.call st.call)) :=
  (makesCall_of_unbounded h).performs (wraps_orElse tell _) (result_orElse tell _)
    (retell_ending htell ())

theorem performs_photograph (path : String) :
    Performs [Stage.screenshot s path] () (photograph (.plain pdf) s path) :=
  (makesCall_of_unbounded rfl).performs (wraps_photograph _ s path) (result_photograph _ s path)
    (forgive_ending fun _ => rfl)

theorem performs_exportWithin :
    Performs [Stage.exportPdf s] pdf (exportWithin (.plain pdf) s) := by
  have hexport : ∀ o, (Backend.plain pdf).exportPdf s.pdfOptions o =
      ⟨(Act.call (.exportPdf s.pdfOptions) o).result.map fun _ => pdf,
        (Act.call (.exportPdf s.pdfOptions) o).trace, (Act.call (.exportPdf s.pdfOptions) o).rest⟩ :=
    Act.bind_pure_apply _ pdf
  have hcall : MakesCall (Stage.exportPdf s) pdf
      (Act.within s.exportTimeoutMs ((Backend.plain pdf).exportPdf s.pdfOptions)) := by
    refine makesCall_of_bounded rfl ?_ ?_ ?_
    · intro o
      rw [hexport]
      exact Act.calls_call (.exportPdf s.pdfOptions) o
    · intro o
      rw [hexport, Act.result_call]
      rfl
    · exact .bind (.call_self _) fun _ => .result pdf
  exact hcall.performs (wraps_orElse _ _) (result_orElse _ _) (retell_ending (fun _ => rfl) pdf)

namespace Stage

/-- The stages between the launch and the closing of an environment; the debug screenshot is taken
if its path is not empty. -/
def drawing (code : Text) : List Stage :=
  [newPage, loadHtml s code, waitForDiagram s] ++
    ((s.debugScreenshotPath.filter (· ≠ "")).map (screenshot s)).toList ++ [exportPdf s]

def all (code : Text) : List Stage := launch s :: drawing s code

end Stage

theorem performs_draw (code : Text) :
    Performs (Stage.drawing s code) pdf (draw (.plain pdf) s (page s code)) := by
  have hpage : Performs [Stage.newPage] () (orElse pageFailure (Backend.plain pdf).newPage) :=
    performs_orElse rfl fun _ => rfl
  have hload : Performs [Stage.loadHtml s code] ()
      (orElse (stageFailure "content-load" s.contentTimeoutMs "Failed to load diagram page")
        ((Backend.plain pdf).loadHtml (page s code) s.contentTimeoutMs)) :=
    performs_orElse rfl fun f => by cases f <;> rfl
  have hwait : Performs [Stage.waitForDiagram s] ()
      (orElse (stageFailure "render-completion" s.renderTimeoutMs "Diagram failed to render")
        ((Backend.plain pdf).waitForDiagram s.renderTimeoutMs)) :=
    performs_orElse rfl fun f => by cases f <;> rfl
  have hexport := performs_exportWithin pdf s
  have hpath : s.screenshotPath? = s.debugScreenshotPath.filter (· ≠ "") := rfl
  rw [draw_eq, Stage.drawing, hpath]
  cases s.debugScreenshotPath.filter (· ≠ "") with
  | none => exact hpage.cons (hload.cons (hwait.cons hexport (by simp)) (by simp)) (by simp)
  | some path =>
      have hphotograph := performs_photograph pdf s path
      exact hpage.cons (hload.cons (hwait.cons (hphotograph.cons hexport (by simp)) (by simp))
        (by simp)) (by simp)

theorem Stage.forall_mem_all {s : Settings} {code : Text} {P : Stage → Prop}
    (hlaunch : P (launch s)) (hpage : P newPage) (hload : P (loadHtml s code))
    (hwait : P (waitForDiagram s)) (hshot : ∀ path, P (screenshot s path))
    (hexport : P (exportPdf s)) : ∀ st ∈ all s code, P st := by
  intro st hst
  simp only [all, drawing, List.mem_cons, List.mem_append, Option.mem_toList,
    Option.map_eq_some_iff, List.not_mem_nil, or_false] at hst
  obtain rfl | ((rfl | rfl | rfl) | ⟨path, -, rfl⟩) | rfl := hst
  · exact hlaunch
  · exact hpage
  · exact hload
  · exact hwait
  · exact hshot path
  · exact hexport

theorem close_notMem_all (code : Text) :
    CallName.close ∉ (Stage.all s code).map (·.call.name) := by
  unfold Stage.all Stage.drawing
  cases s.debugScreenshotPath.filter (· ≠ "") <;> simp

theorem launch_notMem_drawing (code : Text) :
    CallName.launch ∉ (Stage.drawing s code).map (·.call.name) := by
  unfold Stage.drawing
  cases s.debugScreenshotPath.filter (· ≠ "") <;> simp

/-- Neither the launch nor the drawing has a say in how the closing ends. -/
theorem rest_close_of_performs {b : Backend} {s : Settings} {code : Text} {st : Stage}
    {sts : List Stage} {pdf : Bytes} (hlaunch : Performs [st] () (launch b s))
    (hdraw : Performs sts pdf (draw b s (page s code)))
    (hlast : CallName.close ∉ (st :: sts).map (·.call.name)) (o : Oracle) :
    (draw b s (page s code) (launch b s o).rest).rest .close = o .close := by
  rw [List.map_cons, List.mem_cons, not_or] at hlast
  rw [hdraw.callsOnly.rest_of_notMem _ hlast.2]
  exact hlaunch.callsOnly.rest_of_notMem o (by simpa using hlast.1)

/-- An environment that was launched is closed after all stages. -/
theorem renderCode_of_performs {b : Backend} {s : Settings} {code : Text} {st : Stage}
    {sts : List Stage} {pdf : Bytes} (hlaunch : Performs [st] () (launch b s))
    (hdraw : Performs sts pdf (draw b s (page s code))) (hclose : b.close = Act.call .close)
    (hnew : st.call.name ∉ sts.map (·.call.name))
    (hlast : CallName.close ∉ (st :: sts).map (·.call.name)) (o : Oracle) :
    (renderCode b s code o).calls = Stage.entriesUntil o (st :: sts) ++
        (if (st.raised? o).isSome then [] else Call.close.entries (o .close 0)) ∧
      (renderCode b s code o).result =
        match st.raised? o, forgive (o .close 0).result with
        | some e, _ => .error e
        | none, .error e => .error e
        | none, .ok () => endOf ⟨pdf, s.pdfFilename⟩ (sts.findSome? (Stage.raised? o)) := by
  obtain ⟨hcalls, hresult⟩ := hlaunch.single o
  rw [Stage.entriesUntil_cons]
  cases hst : st.raised? o with
  | some e =>
      rw [hst] at hresult
      obtain ⟨hended, hmade⟩ := renderCode_of_launch_error code hresult
      exact ⟨by rw [hmade, hcalls]; simp, hended⟩
  | none =>
      rw [hst] at hresult
      obtain ⟨hmade, hended⟩ := renderCode_of_launched code hresult rfl rfl
      -- neither the drawing nor the closing sees the launch, nor the closing the drawing
      have hkept : ∀ st' ∈ sts, (launch b s o).rest st'.call.name = o st'.call.name :=
        fun st' hst' => hlaunch.rest_of_notMem hnew hst'
      have hkept' := rest_close_of_performs hlaunch hdraw hlast o
      have hclosed : (closeQuietly b (draw b s (page s code) (launch b s o).rest).rest).calls =
          Call.close.entries (o .close 0) := by
        rw [(wraps_closeQuietly b).calls, hclose, Act.calls_call]
        exact congrArg (fun outcomes => Call.close.entries (outcomes 0)) hkept'
      have hforgiven : (closeQuietly b (draw b s (page s code) (launch b s o).rest).rest).result =
          forgive (o .close 0).result := by
        rw [result_closeQuietly, hclose, Act.result_call]
        exact congrArg (fun outcomes => forgive (outcomes 0).result) hkept'
      constructor
      · rw [hmade, hcalls, hdraw.calls, Stage.entriesUntil_congr hkept, hclosed]
        rfl
      · rw [hended, hforgiven, hdraw.result, Stage.findSome?_raised?_congr hkept]
        cases forgive (o .close 0).result with
        | ok _ => cases sts.findSome? (Stage.raised? o) <;> rfl
        | error e => rfl

theorem renderCode_plain (code : Text) (o : Oracle) :
    (renderCode (.plain pdf) s code o).calls = Stage.entriesUntil o (Stage.all s code) ++
        (if ((Stage.launch s).raised? o).isSome then [] else Call.close.entries (o .close 0)) ∧
      (renderCode (.plain pdf) s code o).result =
        match (Stage.launch s).raised? o, forgive (o .close 0).result with
        | some e, _ => .error e
        | none, .error e => .error e
        | none, .ok () =>
            endOf ⟨pdf, s.pdfFilename⟩ ((Stage.drawing s code).findSome? (Stage.raised? o)) :=
  renderCode_of_performs (performs_launch pdf s) (performs_draw pdf s code) rfl
    (launch_notMem_drawing s code) (close_notMem_all s code) o

theorem result_renderCode_plain {o : Oracle} (hclose : forgive (o .close 0).result = .ok ())
    (pdf : Bytes) (s : Settings) (code : Text) :
    (renderCode (.plain pdf) s code o).result =
      endOf ⟨pdf, s.pdfFilename⟩ ((Stage.all s code).findSome? (Stage.raised? o)) := by
  rw [(renderCode_plain pdf s code o).2, hclose, Stage.all, Stage.findSome?_raised?_cons]
  cases (Stage.launch s).raised? o <;> rfl

end Render

end OutlineChart
