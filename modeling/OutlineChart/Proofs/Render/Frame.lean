import OutlineChart.Proofs.Browser.Acts
import OutlineChart.Render.Pdf

/-! # The frame of a render

What rendering adds to the work of a backend, whatever the backend does: failures are told anew,
those of photographing and closing are passed over, and an environment that was launched is closed
after everything else, so that only a cancelled closing hides how the drawing ended.
-/

namespace OutlineChart

/-- An error of one of the kinds that renders tell; all of them are the server's fault. -/
def DiagramError.OfRender (e : DiagramError) : Prop :=
  e.kind ∈ [Kind.render, .launch, .exporting, .timeout]

theorem DiagramError.OfRender.isRender {e : DiagramError} (h : e.OfRender) : e.isRender = true := by
  have hall : ∀ kind ∈ [Kind.render, .launch, .exporting, .timeout], kind.isRender = true := by
    decide
  exact hall e.kind h

theorem DiagramError.OfRender.status {e : DiagramError} (h : e.OfRender) : e.status = 500 := by
  have hall : ∀ kind ∈ [Kind.render, .launch, .exporting, .timeout], kind.status = 500 := by
    decide
  exact hall e.kind h

namespace Render
open Browser

theorem ofRender_pageFailure (f : Failure) : (pageFailure f).OfRender := by
  simp [pageFailure, DiagramError.OfRender, DiagramError.kind]

theorem ofRender_exportFailure (f : Failure) : (exportFailure f).OfRender := by
  simp [exportFailure, DiagramError.OfRender, DiagramError.kind]

/-! ## Descriptions -/

def refusal : DiagramError := .plain .invalidFormat "Invalid Mermaid code format" none

theorem eq_refusal_of_accept {description : Option Text} {e : DiagramError}
    (h : accept description = .error e) : e = refusal := by
  unfold accept at h
  dsimp only at h
  split at h
  · cases h
  · cases h
    rfl

section

variable {description : Option Text} (b : Backend) (s : Settings)

/-- Of an accepted description, what is left without the whitespace around it is rendered. -/
theorem renderPdf_of_directive (h : Mermaid.directive <+: (description.getD []).strip) :
    renderPdf b s description = renderCode b s (description.getD []).strip := by
  have haccept : accept description = .ok (description.getD []).strip :=
    if_pos (List.isPrefixOf_iff_prefix.2 h)
  rw [renderPdf, haccept]

theorem renderPdf_of_no_directive (h : ¬ Mermaid.directive <+: (description.getD []).strip) :
    renderPdf b s description = Act.raise (.diagram refusal) := by
  have haccept : accept description = .error refusal :=
    if_neg (mt List.isPrefixOf_iff_prefix.1 h)
  rw [renderPdf, haccept]

end

variable {α : Type} (b : Backend) (s : Settings)

/-! ## Failures told and passed over -/

/-- The same end, but a failure is told as the diagram error that it amounts to. -/
def retell (tell : Failure → DiagramError) : Except Raised α → Except Raised α
  | .error (.failure f _) => .error (.diagramFrom f (tell f))
  | ended => ended

theorem retell_error (tell : Failure → DiagramError) (e : Raised) :
    ∃ e', retell tell (.error e : Except Raised α) = .error e' := by
  cases e with
  | failure f cause => exact ⟨_, rfl⟩
  | cancelled => exact ⟨_, rfl⟩
  | expired => exact ⟨_, rfl⟩

theorem wraps_orElse (tell : Failure → DiagramError) (x : Act α) : (orElse tell x).Wraps x := by
  refine ⟨_, rfl, fun r => ?_⟩
  split
  · exact .raise _
  · exact .ofExcept _

theorem result_orElse (tell : Failure → DiagramError) (x : Act α) (o : Oracle) :
    (orElse tell x o).result = retell tell (x o).result := by
  unfold orElse
  rw [Act.attempt_bind_apply]
  cases (x o).result with
  | ok a => rfl
  | error e => cases e <;> rfl

/-- The same end without failures. -/
def forgive : Except Raised Unit → Except Raised Unit
  | .error (.failure ..) => .ok ()
  | ended => ended

theorem wraps_photograph (path : String) :
    (photograph b s path).Wraps (b.screenshot path s.screenshotTimeoutMs) := by
  refine ⟨_, rfl, fun r => ?_⟩
  split
  · exact .log _
  · exact .ofExcept _

theorem result_photograph (path : String) (o : Oracle) :
    (photograph b s path o).result = forgive (b.screenshot path s.screenshotTimeoutMs o).result := by
  unfold photograph
  rw [Act.attempt_bind_apply]
  cases (b.screenshot path s.screenshotTimeoutMs o).result with
  | ok a => rfl
  | error e => cases e <;> rfl

theorem wraps_closeQuietly : (closeQuietly b).Wraps b.close := by
  refine ⟨_, rfl, fun r => ?_⟩
  split
  · exact .log _
  · exact .ofExcept _

theorem result_closeQuietly (o : Oracle) :
    (closeQuietly b o).result = forgive (b.close o).result := by
  unfold closeQuietly
  rw [Act.attempt_bind_apply]
  cases (b.close o).result with
  | ok a => rfl
  | error e => cases e <;> rfl

def launchFailure : Failure → DiagramError
  | .timeout _ =>
      .plain .launch launchMessage
        (some ("Launch timed out after " ++ toString s.launchTimeoutMs ++ " ms"))
  | f => .plain .launch launchMessage (some f.text)

theorem wraps_launch : (launch b s).Wraps (Act.within s.launchTimeoutMs (b.launch s)) := by
  refine ⟨_, rfl, fun r => ?_⟩
  split
  · exact .bind (.log _) fun _ => .raise _
  · exact .bind (.log _) fun _ => .raise _
  · exact .ofExcept _

theorem result_launch (o : Oracle) :
    (launch b s o).result =
      retell (launchFailure s) (Act.within s.launchTimeoutMs (b.launch s) o).result := by
  unfold launch
  rw [Act.attempt_bind_apply]
  cases (Act.within s.launchTimeoutMs (b.launch s) o).result with
  | ok a => rfl
  | error e =>
      cases e with
      | failure f cause => cases f <;> rfl
      | cancelled => rfl
      | expired => rfl

/-! ## The whole -/

/-- The last stage of a drawing, within its deadline. -/
def exportWithin : Act Bytes :=
  orElse exportFailure (Act.within s.exportTimeoutMs (b.exportPdf s.pdfOptions))

theorem draw_eq (html : Text) :
    draw b s html = (orElse pageFailure b.newPage >>= fun _ =>
      orElse (stageFailure "content-load" s.contentTimeoutMs "Failed to load diagram page")
        (b.loadHtml html s.contentTimeoutMs) >>= fun _ =>
      orElse (stageFailure "render-completion" s.renderTimeoutMs "Diagram failed to render")
        (b.waitForDiagram s.renderTimeoutMs) >>= fun _ =>
      match s.screenshotPath? with
      | some path => photograph b s path >>= fun _ => exportWithin b s
      | none => exportWithin b s) := by
  unfold draw exportWithin
  cases s.screenshotPath? <;> rfl

/-- What is left to do when the environment is closed. -/
def finish (ended : Except Raised Bytes) : Act Document := do
  let content ← Act.ofExcept ended
  let document : Document := ⟨content, s.pdfFilename⟩
  Act.log (.documentRendered document.size)
  pure document

theorem renderCode_eq (code : Text) :
    renderCode b s code = (launch b s >>= fun _ => Act.attempt (draw b s (page s code)) >>=
      fun ended => logEnd ended >>= fun _ => closeQuietly b >>= fun _ => finish s ended) := rfl

variable {b s}

theorem logEnd_apply (ended : Except Raised Bytes) (o : Oracle) :
    ∃ trace, logEnd ended o = ⟨.ok (), trace, o⟩ := by
  unfold logEnd
  split
  · exact ⟨_, rfl⟩
  · exact ⟨_, rfl⟩

theorem logEnd_silent (ended : Except Raised Bytes) : Act.CallsOnly [] (logEnd ended) := by
  unfold logEnd
  split
  · exact .log _
  · exact .result ()

theorem finish_silent (ended : Except Raised Bytes) : Act.CallsOnly [] (finish s ended) :=
  .bind (.ofExcept _) fun _ => .bind (.log _) fun _ => .result _

theorem result_finish (ended : Except Raised Bytes) (o : Oracle) :
    (finish s ended o).result = ended.map fun content => ⟨content, s.pdfFilename⟩ := by
  cases ended <;> rfl

theorem renderCode_of_launch_error (code : Text) {o : Oracle} {e : Raised}
    (h : (launch b s o).result = .error e) :
    (renderCode b s code o).result = .error e ∧
      (renderCode b s code o).calls = (launch b s o).calls := by
  rw [renderCode_eq]
  exact ⟨Act.result_bind_of_error h _, Act.calls_bind_of_error h _⟩

/-- An environment that was launched is closed last, and the drawing's end is the render's unless
closing is cancelled. -/
theorem renderCode_of_launched (code : Text) {o : Oracle} {drawn : Run Bytes} {closed : Run Unit}
    (h : (launch b s o).result = .ok ())
    (hdrawn : draw b s (page s code) (launch b s o).rest = drawn)
    (hclosed : closeQuietly b drawn.rest = closed) :
    (renderCode b s code o).calls = (launch b s o).calls ++ drawn.calls ++ closed.calls ∧
      (renderCode b s code o).result =
        match closed.result with
        | .ok () => drawn.result.map fun content => ⟨content, s.pdfFilename⟩
        | .error e => .error e := by
  -- trying the drawing and logging its end raise nothing, so the closing is always reached
  obtain ⟨trace, hlog⟩ := logEnd_apply drawn.result drawn.rest
  have htried : Act.attempt (draw b s (page s code)) (launch b s o).rest =
      ⟨.ok drawn.result, drawn.trace, drawn.rest⟩ := by
    rw [Act.attempt_apply, hdrawn]
  have hended := congrArg Run.result htried
  have hend := congrArg Run.result hlog
  rw [renderCode_eq]
  constructor
  · rw [Act.calls_bind_of_ok h, Act.calls_bind_of_ok hended, htried, Act.calls_bind_of_ok hend,
      (logEnd_silent _).calls_eq_nil, hlog, Act.calls_bind_silent _ fun _ => finish_silent _, hclosed, List.nil_append,
      List.append_assoc]
    rfl
  · rw [Act.result_bind_of_ok h, Act.result_bind_of_ok hended, htried, Act.result_bind_of_ok hend,
      hlog]
    cases hresult : closed.result with
    | ok _ =>
        rw [Act.result_bind_of_ok (hclosed ▸ hresult), result_finish]
    | error e => rw [Act.result_bind_of_error (hclosed ▸ hresult)]

theorem names_renderCode_of_launched (code : Text) {o : Oracle}
    (h : (launch b s o).result = .ok ()) :
    (renderCode b s code o).names = (launch b s o).names ++
      (draw b s (page s code) (launch b s o).rest).names ++
      (closeQuietly b (draw b s (page s code) (launch b s o).rest).rest).names := by
  obtain ⟨hcalls, -⟩ := renderCode_of_launched code h rfl rfl
  unfold Run.names
  rw [hcalls, List.filterMap_append, List.filterMap_append]

/-! ## Which calls a render makes -/

/-- What a backend does with a page is put together from calls with certain names. -/
structure PagesOnly (names : List CallName) (b : Backend) : Prop where
  newPage : Act.CallsOnly names b.newPage
  loadHtml : ∀ html timeoutMs, Act.CallsOnly names (b.loadHtml html timeoutMs)
  waitForDiagram : ∀ timeoutMs, Act.CallsOnly names (b.waitForDiagram timeoutMs)
  screenshot : ∀ path timeoutMs, Act.CallsOnly names (b.screenshot path timeoutMs)
  exportPdf : ∀ options, Act.CallsOnly names (b.exportPdf options)

variable {names : List CallName}

theorem PagesOnly.mono {names' : List CallName} (h : PagesOnly names b) (hsub : names ⊆ names') :
    PagesOnly names' b where
  newPage := h.newPage.mono hsub
  loadHtml html timeoutMs := (h.loadHtml html timeoutMs).mono hsub
  waitForDiagram timeoutMs := (h.waitForDiagram timeoutMs).mono hsub
  screenshot path timeoutMs := (h.screenshot path timeoutMs).mono hsub
  exportPdf options := (h.exportPdf options).mono hsub

theorem callsOnly_draw (s : Settings) (h : PagesOnly names b) (html : Text) :
    Act.CallsOnly names (draw b s html) := by
  have hexport : Act.CallsOnly names (exportWithin b s) :=
    (wraps_orElse _ _).callsOnly ((h.exportPdf _).within _)
  rw [draw_eq]
  refine .bind ((wraps_orElse _ _).callsOnly h.newPage) fun _ => ?_
  refine .bind ((wraps_orElse _ _).callsOnly (h.loadHtml _ _)) fun _ => ?_
  refine .bind ((wraps_orElse _ _).callsOnly (h.waitForDiagram _)) fun _ => ?_
  split
  · exact .bind ((wraps_photograph _ _ _).callsOnly (h.screenshot _ _)) fun _ => hexport
  · exact hexport

theorem callsOnly_renderPdf (hpages : PagesOnly names b) (hlaunch : Act.CallsOnly names (b.launch s))
    (hclose : Act.CallsOnly names b.close) (description : Option Text) :
    Act.CallsOnly names (renderPdf b s description) := by
  unfold renderPdf
  split
  · rw [renderCode_eq]
    refine .bind ((wraps_launch _ _).callsOnly (hlaunch.within _)) fun _ => ?_
    refine .bind (.attempt (callsOnly_draw s hpages _)) fun ended => ?_
    refine .bind ((logEnd_silent ended).mono (List.nil_subset _)) fun _ => ?_
    refine .bind ((wraps_closeQuietly _).callsOnly hclose) fun _ => ?_
    exact (finish_silent ended).mono (List.nil_subset _)
  · exact .raise _

end Render

end OutlineChart
