import OutlineChart.Proofs.Browser.Logs
import OutlineChart.Proofs.Render.Frame

/-! # What renders log

What rendering adds to the log of a backend that is quiet itself: one record of a launch that fails,
of a drawing that fails and of a document, and a warning for each failure that is passed over.
-/

namespace OutlineChart

namespace Render
open Browser

variable {α : Type} {b : Backend} {s : Settings} {o : Oracle}

/-! ## Parts of a render -/

theorem logsOnly_orElse (tell : Failure → DiagramError) {levels : List Log.Level} {x : Act α}
    (h : x.LogsOnly levels) : (orElse tell x).LogsOnly levels := by
  refine h.attempt.bind fun ended => ?_
  split
  · exact .raise _
  · exact .ofExcept _

theorem logsOnly_photograph (h : b.Quiet) (path : String) :
    (photograph b s path).LogsOnly [.debug, .warning] := by
  refine ((h.screenshot _ _).mono (by simp)).attempt.bind fun ended => ?_
  split
  · exact .log (by simp [Log.Record.level])
  · exact .ofExcept _

theorem logsOnly_exportWithin (h : b.Quiet) : (exportWithin b s).LogsOnly [.debug] :=
  logsOnly_orElse _ ((h.exportPdf _).within _)

theorem logsOnly_draw (h : b.Quiet) (html : Text) :
    (draw b s html).LogsOnly [.debug, .warning] := by
  have hdebug : [Log.Level.debug] ⊆ [.debug, .warning] := by simp
  rw [draw_eq]
  refine ((logsOnly_orElse _ h.newPage).mono hdebug).bind fun _ => ?_
  refine ((logsOnly_orElse _ (h.loadHtml _ _)).mono hdebug).bind fun _ => ?_
  refine ((logsOnly_orElse _ (h.waitForDiagram _)).mono hdebug).bind fun _ => ?_
  split
  · exact (logsOnly_photograph h _).bind fun _ => (logsOnly_exportWithin h).mono hdebug
  · exact (logsOnly_exportWithin h).mono hdebug

def launchRecords (s : Settings) : Except Raised Unit → List Log.Record
  | .error (.failure (.timeout _) _) => [.launchTimedOut s.launchTimeoutMs]
  | .error (.failure ..) => [.launchFailed]
  | _ => []

theorem logs_launch (b : Backend) (s : Settings) (o : Oracle) :
    (launch b s o).logs = (Act.within s.launchTimeoutMs (b.launch s) o).logs ++
      launchRecords s (Act.within s.launchTimeoutMs (b.launch s) o).result := by
  unfold launch
  rw [Act.logs_attempt_bind]
  generalize Act.within s.launchTimeoutMs (b.launch s) o = run
  refine congrArg (run.logs ++ ·) ?_
  cases run.result with
  | ok a => rfl
  | error e =>
      cases e with
      | failure f cause => cases f <;> rfl
      | cancelled => rfl
      | expired => rfl

theorem failed_retell (tell : Failure → DiagramError) (r : Except Raised α) :
    failed (retell tell r) = failed r := by
  cases r with
  | ok a => rfl
  | error e => cases e <;> rfl

/-- A launch that fails is logged as an error, once, and how it ends is not logged otherwise. -/
theorem logsAt_launch (h : b.Quiet) (s : Settings) (o : Oracle) :
    ((launch b s o).logsAt .error).length = (if failed (launch b s o).result then 1 else 0) ∧
      (launch b s o).logsAt .info = [] ∧ (launch b s o).logsAt .warning = [] := by
  have hquiet := (h.launch s).within s.launchTimeoutMs
  have hlogs := logs_launch b s o
  rw [hquiet.logsAt_eq_filter hlogs (by simp), hquiet.logsAt_eq_filter hlogs (by simp),
    hquiet.logsAt_eq_filter hlogs (by simp), result_launch, failed_retell]
  generalize (Act.within s.launchTimeoutMs (b.launch s) o).result = r
  cases r with
  | ok a => exact ⟨rfl, rfl, rfl⟩
  | error e =>
      cases e with
      | failure f cause => cases f <;> exact ⟨rfl, rfl, rfl⟩
      | cancelled => exact ⟨rfl, rfl, rfl⟩
      | expired => exact ⟨rfl, rfl, rfl⟩

/-! ## The whole -/

def endRecords : Except Raised Bytes → List Log.Record
  | .error (.failure (.diagram e) _) => [.renderFailed e]
  | _ => []

/-- What is logged of a document; it is given when the closing was not cancelled. -/
def documentRecords : Except Raised Unit → Except Raised Bytes → List Log.Record
  | .ok (), .ok content => [.documentRendered content.length]
  | _, _ => []

theorem logs_renderCode_of_launched (code : Text) {drawn : Run Bytes} {closed : Run Unit}
    (h : (launch b s o).result = .ok ())
    (hdrawn : draw b s (page s code) (launch b s o).rest = drawn)
    (hclosed : closeQuietly b drawn.rest = closed) :
    (renderCode b s code o).logs = (launch b s o).logs ++ (drawn.logs ++ (endRecords drawn.result ++
      (closed.logs ++ documentRecords closed.result drawn.result))) := by
  have hend : logEnd drawn.result drawn.rest =
      ⟨.ok (), (endRecords drawn.result).map .logged, drawn.rest⟩ := by
    cases drawn.result with
    | ok content => rfl
    | error e =>
        cases e with
        | failure f cause => cases f <;> rfl
        | cancelled => rfl
        | expired => rfl
  have hlogged : (logEnd drawn.result drawn.rest).logs = endRecords drawn.result := by
    rw [hend]
    unfold Run.logs
    rw [List.filterMap_map]
    exact List.filterMap_some
  rw [renderCode_eq, Act.logs_bind_of_ok h, Act.logs_attempt_bind, hdrawn,
    Act.logs_bind_of_ok (congrArg Run.result hend), hlogged, hend]
  cases hresult : closed.result with
  | ok _ =>
      have hfinish : (finish s drawn.result closed.rest).logs =
          documentRecords (.ok ()) drawn.result := by
        cases drawn.result <;> rfl
      rw [Act.logs_bind_of_ok (hclosed ▸ hresult), hclosed, hfinish]
  | error e =>
      have hnone : documentRecords (.error e) drawn.result = [] := rfl
      rw [Act.logs_bind_of_error (hclosed ▸ hresult), hclosed, hnone, List.append_nil]

theorem logsAt_renderCode_of_launched (code : Text) {drawn : Run Bytes} {closed : Run Unit}
    (h : (launch b s o).result = .ok ())
    (hdrawn : draw b s (page s code) (launch b s o).rest = drawn)
    (hclosed : closeQuietly b drawn.rest = closed) (level : Log.Level) :
    (renderCode b s code o).logsAt level = (launch b s o).logsAt level ++ (drawn.logsAt level ++
      ((endRecords drawn.result).filter (·.level = level) ++ (closed.logsAt level ++
        (documentRecords closed.result drawn.result).filter (·.level = level)))) := by
  unfold Run.logsAt
  simp only [logs_renderCode_of_launched code h hdrawn hclosed, List.filter_append]

/-! ## Warnings -/

/-- What is logged of a closing. -/
theorem logsAt_closeQuietly (h : b.Quiet) (o : Oracle) :
    (closeQuietly b o).logsAt .error = [] ∧ (closeQuietly b o).logsAt .info = [] ∧
      ((closeQuietly b o).logsAt .warning).length = if failed (b.close o).result then 1 else 0 := by
  have hlogs : (closeQuietly b o).logs = (b.close o).logs ++ _ :=
    Act.logs_passOver b.close .closeFailed o
  rw [h.close.logsAt_eq_filter hlogs (by simp), h.close.logsAt_eq_filter hlogs (by simp),
    h.close.logsAt_eq_filter hlogs (by simp)]
  cases failed (b.close o).result <;> exact ⟨rfl, rfl, rfl⟩

/-- Screenshots are taken by one call of a name, and nothing else makes such a call. -/
structure Photographs (shot : CallName) (b : Backend) : Prop where
  launch : ∀ s, Act.Avoids shot (b.launch s)
  newPage : Act.Avoids shot b.newPage
  loadHtml : ∀ html timeoutMs, Act.Avoids shot (b.loadHtml html timeoutMs)
  waitForDiagram : ∀ timeoutMs, Act.Avoids shot (b.waitForDiagram timeoutMs)
  exportPdf : ∀ options, Act.Avoids shot (b.exportPdf options)
  close : Act.Avoids shot b.close
  screenshot_callsOnly : ∀ path timeoutMs, Act.CallsOnly [shot] (b.screenshot path timeoutMs)
  screenshot_names : ∀ path timeoutMs o, (b.screenshot path timeoutMs o).names = [shot]
  screenshot_failed : ∀ path timeoutMs o,
    failed (b.screenshot path timeoutMs o).result = (o shot 0).isFailure

section Warnings
variable {shot : CallName}

theorem Photographs.warnsOf_photograph (h : Photographs shot b) (hquiet : b.Quiet) (path : String) :
    (photograph b s path).WarnsOf shot where
  spends := ((wraps_photograph b s path).callsOnly (h.screenshot_callsOnly _ _)).spends
  warned := by
    intro o
    have hlogs : (photograph b s path o).logs =
        (b.screenshot path s.screenshotTimeoutMs o).logs ++ _ :=
      Act.logs_passOver _ (.screenshotFailed path) o
    have hnames : (photograph b s path o).names.count shot = 1 := by
      rw [(wraps_photograph b s path).names, h.screenshot_names, List.count_singleton_self]
    rw [(hquiet.screenshot _ _).logsAt_eq_filter hlogs (by simp), hnames, o.failures_one,
      ← h.screenshot_failed path s.screenshotTimeoutMs]
    cases failed (b.screenshot path s.screenshotTimeoutMs o).result <;> rfl

theorem Photographs.warnsOf_draw (h : Photographs shot b) (hquiet : b.Quiet) (html : Text) :
    (draw b s html).WarnsOf shot := by
  have hmute : ∀ {β : Type} {x : Act β} (tell : Failure → DiagramError), x.Avoids shot →
      x.LogsOnly [.debug] → (orElse tell x).WarnsOf shot := fun tell havoids hlogs =>
    .of_avoids (havoids.wraps (wraps_orElse tell _)) (logsOnly_orElse tell hlogs) (by simp)
  have hexport : (exportWithin b s).WarnsOf shot :=
    hmute _ ((h.exportPdf _).within _) ((hquiet.exportPdf _).within _)
  rw [draw_eq]
  refine (hmute _ h.newPage hquiet.newPage).bind fun _ => ?_
  refine (hmute _ (h.loadHtml _ _) (hquiet.loadHtml _ _)).bind fun _ => ?_
  refine (hmute _ (h.waitForDiagram _) (hquiet.waitForDiagram _)).bind fun _ => ?_
  split
  · exact (h.warnsOf_photograph hquiet _).bind fun _ => hexport
  · exact hexport

theorem avoids_launch (h : Photographs shot b) (s : Settings) : (launch b s).Avoids shot :=
  ((h.launch s).within _).wraps (wraps_launch b s)

/-- A launch that fails leaves nothing to warn of. -/
theorem warned_of_launch_error (h : Photographs shot b) (hquiet : b.Quiet) (code : Text)
    {e : Raised} (hlaunch : (launch b s o).result = .error e) :
    ((renderCode b s code o).logsAt .warning).length =
      o.failures shot ((renderCode b s code o).names.count shot) := by
  have hnames : (renderCode b s code o).names = (launch b s o).names := by
    rw [renderCode_eq]
    exact Act.names_bind_of_error hlaunch _
  have hlogs : (renderCode b s code o).logsAt .warning = [] := by
    rw [renderCode_eq, Act.logsAt_bind_of_error hlaunch, (logsAt_launch hquiet s o).2.2]
  rw [hnames, (avoids_launch h s).count_eq_zero, hlogs]
  rfl

/-- Behind a launch there is a warning for each screenshot that failed, and one for a closing that
did. -/
theorem warned_of_launched (h : Photographs shot b) (hquiet : b.Quiet) (code : Text)
    (hlaunch : (launch b s o).result = .ok ()) {drawn : Run Bytes}
    (hdrawn : draw b s (page s code) (launch b s o).rest = drawn) :
    ((renderCode b s code o).logsAt .warning).length =
      o.failures shot ((renderCode b s code o).names.count shot) +
        if failed (b.close drawn.rest).result then 1 else 0 := by
  have hwarned : (drawn.logsAt .warning).length = o.failures shot (drawn.names.count shot) := by
    rw [← hdrawn, (h.warnsOf_draw hquiet (page s code)).warned]
    exact Oracle.failures_congr ((avoids_launch h s).rest_eq o) _
  have hcount : (renderCode b s code o).names.count shot = drawn.names.count shot := by
    rw [names_renderCode_of_launched code hlaunch, hdrawn, List.count_append, List.count_append,
      (avoids_launch h s).count_eq_zero, (h.close.wraps (wraps_closeQuietly b)).count_eq_zero,
      Nat.zero_add, Nat.add_zero]
  have hend : (endRecords drawn.result).filter (·.level = .warning) = [] := by
    unfold endRecords
    split <;> rfl
  have hdocument : ∀ closed : Except Raised Unit,
      (documentRecords closed drawn.result).filter (·.level = .warning) = [] := by
    intro closed
    unfold documentRecords
    split <;> rfl
  rw [logsAt_renderCode_of_launched code hlaunch hdrawn rfl, (logsAt_launch hquiet s o).2.2, hend,
    hdocument, hcount, ← hwarned, ← (logsAt_closeQuietly hquiet drawn.rest).2.2]
  simp

end Warnings

/-! ## Errors and documents -/

/-- The stage that an error is about, null if no stage ran out of time. -/
def stageField : DiagramError → Json.Value
  | .renderTimeout stage _ _ => .string stage
  | .plain .. => .null

/-- A render that was not cancelled ends as its drawing. -/
theorem result_of_launched (code : Text) {drawn : Run Bytes} {closed : Run Unit}
    (hlaunch : (launch b s o).result = .ok ())
    (hdrawn : draw b s (page s code) (launch b s o).rest = drawn)
    (hclosed : closeQuietly b drawn.rest = closed)
    (h : ∀ e, (renderCode b s code o).result = .error e → ∃ f cause, e = .failure f cause) :
    closed.result = .ok () ∧ (renderCode b s code o).result =
      drawn.result.map fun content => ⟨content, s.pdfFilename⟩ := by
  obtain ⟨-, hended⟩ := renderCode_of_launched code hlaunch hdrawn hclosed
  cases hresult : closed.result with
  | ok _ =>
      rw [hresult] at hended
      exact ⟨rfl, hended⟩
  | error e =>
      -- a closing that fails is passed over, so only a cancelled one could end the render
      rw [hresult] at hended
      obtain ⟨f, cause, rfl⟩ := h e hended
      rw [← hclosed, result_closeQuietly] at hresult
      unfold forgive at hresult
      split at hresult
      · cases hresult
      · next hnone => exact absurd hresult (hnone f cause)

/-- Behind a launch, errors are told of the drawing only, and documents when all is closed. -/
theorem logsAt_of_launched (hquiet : b.Quiet) (code : Text) {drawn : Run Bytes} {closed : Run Unit}
    (hlaunch : (launch b s o).result = .ok ())
    (hdrawn : draw b s (page s code) (launch b s o).rest = drawn)
    (hclosed : closeQuietly b drawn.rest = closed) :
    (renderCode b s code o).logsAt .error = endRecords drawn.result ∧
      (renderCode b s code o).logsAt .info = documentRecords closed.result drawn.result := by
  obtain ⟨herror, hinfo, -⟩ := logsAt_launch hquiet s o
  rw [hlaunch] at herror
  have hnone : (launch b s o).logsAt .error = [] := List.length_eq_zero_iff.1 herror
  obtain ⟨hcloseError, hcloseInfo, -⟩ := logsAt_closeQuietly hquiet drawn.rest
  have hdraw : ∀ level, level ∉ [Log.Level.debug, .warning] → drawn.logsAt level = [] := by
    intro level hlevel
    rw [← hdrawn]
    exact (logsOnly_draw hquiet (page s code)).logsAt_eq_nil hlevel _
  rw [hclosed] at hcloseError hcloseInfo
  rw [logsAt_renderCode_of_launched code hlaunch hdrawn hclosed, hnone, hdraw .error (by simp),
    hcloseError, logsAt_renderCode_of_launched code hlaunch hdrawn hclosed, hinfo,
    hdraw .info (by simp), hcloseInfo]
  constructor
  · unfold endRecords documentRecords
    split <;> split <;> rfl
  · unfold endRecords documentRecords
    split <;> split <;> rfl

/-- A render that fails logs one error, and no document. -/
theorem logsAt_of_failure (hquiet : b.Quiet) (code : Text) {e : DiagramError}
    {cause : Option Failure}
    (h : (renderCode b s code o).result = .error (.failure (.diagram e) cause)) :
    ∃ record, (renderCode b s code o).logsAt .error = [record] ∧
      (renderCode b s code o).logsAt .info = [] ∧
      ((launch b s o).result = .ok () →
        record.extra = [("stage", stageField e), ("details", Log.Record.orNull e.details)]) := by
  cases hlaunch : (launch b s o).result with
  | error raised =>
      obtain ⟨herror, hinfo, -⟩ := logsAt_launch hquiet s o
      have hraised := (renderCode_of_launch_error code hlaunch).1
      obtain rfl : raised = .failure (.diagram e) cause := Except.error.inj (hraised.symm.trans h)
      rw [hlaunch] at herror
      obtain ⟨record, hrecord⟩ := List.length_eq_one_iff.1 (herror : _ = 1)
      rw [renderCode_eq, Act.logsAt_bind_of_error hlaunch, Act.logsAt_bind_of_error hlaunch]
      exact ⟨record, hrecord, hinfo, fun hok => nomatch hok⟩
  | ok _ =>
      have hfailure : ∀ raised, (renderCode b s code o).result = .error raised →
          ∃ f cause, raised = .failure f cause := by
        intro raised hraised
        exact ⟨_, _, Except.error.inj (hraised.symm.trans h)⟩
      obtain ⟨-, hended⟩ := result_of_launched code hlaunch rfl rfl hfailure
      obtain ⟨herror, hinfo⟩ := logsAt_of_launched hquiet code hlaunch rfl rfl
      rw [hended] at h
      have hdrawn : (draw b s (page s code) (launch b s o).rest).result =
          .error (.failure (.diagram e) cause) := by
        cases hresult : (draw b s (page s code) (launch b s o).rest).result with
        | ok content => rw [hresult] at h; cases h
        | error raised => rw [hresult] at h; exact congrArg Except.error (Except.error.inj h)
      rw [herror, hinfo, hdrawn]
      refine ⟨.renderFailed e, rfl, ?_, fun _ => ?_⟩
      · unfold documentRecords
        split
        · next hok => cases hok
        · rfl
      · cases e <;> rfl

/-- A render that gives a document logs it, once and last, and no error. -/
theorem logsAt_of_document (hquiet : b.Quiet) (code : Text) {document : Document}
    (h : (renderCode b s code o).result = .ok document) :
    ∃ record, (renderCode b s code o).logsAt .info = [record] ∧
      (renderCode b s code o).logs.getLast? = some record ∧
      record.extra = [("bytes", .ofNat document.size)] ∧
      (renderCode b s code o).logsAt .error = [] := by
  cases hlaunch : (launch b s o).result with
  | error raised =>
      rw [(renderCode_of_launch_error code hlaunch).1] at h
      cases h
  | ok _ =>
      have hfailure : ∀ raised, (renderCode b s code o).result = .error raised →
          ∃ f cause, raised = .failure f cause := by
        intro raised hraised
        rw [h] at hraised
        cases hraised
      obtain ⟨hclosed, hended⟩ := result_of_launched code hlaunch rfl rfl hfailure
      obtain ⟨herror, hinfo⟩ := logsAt_of_launched hquiet code hlaunch rfl rfl
      have hlogs := logs_renderCode_of_launched code hlaunch rfl rfl
      rw [hended] at h
      cases hresult : (draw b s (page s code) (launch b s o).rest).result with
      | error raised => rw [hresult] at h; cases h
      | ok content =>
          rw [hresult] at h herror hinfo hlogs
          rw [hclosed] at hinfo hlogs
          obtain rfl := Except.ok.inj h
          refine ⟨.documentRendered content.length, hinfo, ?_, rfl, herror⟩
          rw [hlogs, documentRecords]
          simp [List.getLast?_append]

end Render

end OutlineChart
