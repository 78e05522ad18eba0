import OutlineChart.Proofs.Render.Protocol
import OutlineChart.Proofs.Render.Untroubled

/-! # What is passed over

A screenshot that cannot be taken and an environment that cannot be closed are passed over with a
warning.  So two renders for which everything else goes the same end in the same way, make the same
calls, and log the same except for warnings.
-/

namespace OutlineChart

namespace Browser

variable {α β : Type} {names : List CallName}

/-! ## Runs without their warnings -/

/-- Everything in a trace counts except warnings. -/
def Entry.counts : Entry → Bool
  | logged record => record.level ≠ .warning
  | _ => true

/-- The trace of a run without the warnings in it. -/
def Run.unwarned (run : Run α) : List Entry := run.trace.filter Entry.counts

theorem Run.calls_eq_filter_unwarned (run : Run α) :
    run.calls = run.unwarned.filter fun entry => entry.name?.isSome := by
  rw [calls_eq, unwarned, List.filter_filter]
  congr 1
  funext entry
  cases entry <;> simp [Entry.name?, Entry.counts]

theorem Call.entries_of_ne_hang {c : Call} {outcome : Outcome} (h : outcome ≠ .hang) :
    c.entries outcome = [.called c] := by
  rw [entries, if_neg h]

/-! ## Outcomes that differ in a few calls -/

/-- Calls of these names succeed or fail on either side; all others have the same outcomes. -/
structure Oracle.Matches (names : List CallName) (o o' : Oracle) : Prop where
  same : ∀ name, name ∉ names → o name = o' name
  left : ∀ name ∈ names, ∀ k, o name k ≠ .cancel ∧ o name k ≠ .hang
  right : ∀ name ∈ names, ∀ k, o' name k ≠ .cancel ∧ o' name k ≠ .hang

theorem Oracle.Matches.advance {o o' : Oracle} (h : o.Matches names o') (made : CallName → Nat) :
    (o.advance made).Matches names (o'.advance made) where
  same name hname := by
    funext k
    exact congrFun (h.same name hname) (k + made name)
  left name hname k := h.left name hname (k + made name)
  right name hname k := h.right name hname (k + made name)

/-- Two runs that end in the same way and do the same, warnings apart. -/
structure Run.Alike (names : List CallName) (run run' : Run α) : Prop where
  result : run.result = run'.result
  unwarned : run.unwarned = run'.unwarned
  rest : run.rest.Matches names run'.rest

namespace Act

/-- How calls of these names go makes no difference to an act, as long as they succeed or fail. -/
def Steady (names : List CallName) (x : Act α) : Prop :=
  ∀ ⦃o o' : Oracle⦄, o.Matches names o' → (x o).Alike names (x o')

namespace Steady

variable {x : Act α}

theorem attempt (hx : Steady names x) : Steady names (Act.attempt x) := by
  intro o o' h
  have hrun := hx h
  exact ⟨congrArg Except.ok hrun.result, hrun.unwarned, hrun.rest⟩

theorem bind {f : α → Act β} (hx : Steady names x) (hf : ∀ a, Steady names (f a)) :
    Steady names (x >>= f) := by
  intro o o' h
  have hfirst := hx h
  cases hended : (x o).result with
  | ok a =>
      have hended' : (x o').result = .ok a := hfirst.result.symm.trans hended
      have hsecond := hf a hfirst.rest
      rw [bind_apply_of_ok hended, bind_apply_of_ok hended']
      refine ⟨hsecond.result, ?_, hsecond.rest⟩
      have hfilter := hfirst.unwarned
      have hfilter' := hsecond.unwarned
      unfold Run.unwarned at hfilter hfilter' ⊢
      rw [List.filter_append, List.filter_append, hfilter, hfilter']
  | error e =>
      have hended' : (x o').result = .error e := hfirst.result.symm.trans hended
      rw [bind_apply_of_error hended, bind_apply_of_error hended']
      exact ⟨rfl, hfirst.unwarned, hfirst.rest⟩

/-- An act that makes no call of these names. -/
theorem of_callsOnly {made : List CallName} (h : CallsOnly made x)
    (hmade : ∀ name ∈ made, name ∉ names) : Steady names x := by
  induction h with
  | result a => exact fun _ _ h => ⟨rfl, rfl, h⟩
  | raise e => exact fun _ _ h => ⟨rfl, rfl, h⟩
  | log record => exact fun _ _ h => ⟨rfl, rfl, h⟩
  | @call c hc =>
      intro o o' h
      rw [call_apply, call_apply, h.same c.name (hmade c.name hc)]
      exact ⟨rfl, rfl, h.advance _⟩
  | attempt _ ih => exact ih.attempt
  | bind _ _ ihx ihf => exact ihx.bind ihf

/-- A call whose failure is no more than a warning. -/
theorem passOver {c : Call} {record : Log.Record} (hc : c.name ∈ names)
    (hwarning : record.level = .warning) :
    Steady names (Act.attempt (call c) >>= fun
      | .error (.failure ..) => log record
      | ended => ofExcept ended) := by
  have hside : ∀ {o : Oracle}, o c.name 0 ≠ .cancel ∧ o c.name 0 ≠ .hang →
      ∃ trace, ((Act.attempt (call c) >>= fun
          | .error (.failure ..) => log record
          | ended => ofExcept ended : Act Unit) o) = ⟨.ok (), trace, o.afterCall c.name⟩ ∧
        trace.filter Entry.counts = [.called c] := by
    intro o ho
    rw [attempt_bind_apply, call_apply, Call.entries_of_ne_hang ho.2]
    cases houtcome : o c.name 0 with
    | success => exact ⟨_, rfl, by simp [ofExcept_apply, Entry.counts, Outcome.result]⟩
    | fail f =>
        have hwarned : [Entry.called c, .logged record].filter Entry.counts = [.called c] := by
          simp [List.filter_cons, Entry.counts, hwarning]
        exact ⟨_, rfl, hwarned⟩
    | cancel => exact absurd houtcome ho.1
    | hang => exact absurd houtcome ho.2
  intro o o' h
  obtain ⟨trace, hrun, htrace⟩ := hside (h.left c.name hc 0)
  obtain ⟨trace', hrun', htrace'⟩ := hside (h.right c.name hc 0)
  rw [hrun, hrun']
  exact ⟨rfl, htrace.trans htrace'.symm, h.advance _⟩

end Steady

end Act

end Browser

namespace Render
open Browser

def passedOver : List CallName := [.screenshot, .close]

variable (pdf : Bytes) (s : Settings)

theorem steady_photograph (path : String) :
    Act.Steady passedOver (photograph (.plain pdf) s path) :=
  .passOver (by simp [Call.name, passedOver]) rfl

theorem steady_closeQuietly : Act.Steady passedOver (closeQuietly (.plain pdf)) :=
  .passOver (by simp [Call.name, passedOver]) rfl

theorem steady_launch : Act.Steady passedOver (launch (.plain pdf) s) := by
  have hcalls : Act.CallsOnly [.launch] (launch (.plain pdf) s) :=
    (wraps_launch _ s).callsOnly (.within _ (.call_self .launch))
  exact .of_callsOnly hcalls (by decide)

theorem steady_orElse {α : Type} {name : CallName} {x : Act α} (tell : Failure → DiagramError)
    (h : Act.CallsOnly [name] x) (hname : name ∉ passedOver) :
    Act.Steady passedOver (orElse tell x) :=
  .of_callsOnly ((wraps_orElse tell x).callsOnly h) (by simpa using hname)

theorem steady_draw (html : Text) : Act.Steady passedOver (draw (.plain pdf) s html) := by
  have hmandatory : ∀ name ∈ [CallName.newPage, .loadHtml, .waitForDiagram, .exportPdf],
      name ∉ passedOver := by decide
  have hexport : Act.Steady passedOver (exportWithin (.plain pdf) s) := by
    apply steady_orElse exportFailure
    · exact .within _ (.bind (.call_self _) fun _ => .result _)
    · exact hmandatory _ (by simp [Call.name])
  rw [draw_eq]
  refine .bind (steady_orElse _ (.call_self _) (hmandatory _ (by simp [Call.name]))) fun _ => ?_
  refine .bind (steady_orElse _ (.call_self _) (hmandatory _ (by simp [Call.name]))) fun _ => ?_
  refine .bind (steady_orElse _ (.call_self _) (hmandatory _ (by simp [Call.name]))) fun _ => ?_
  split
  · exact .bind (steady_photograph pdf s _) fun _ => hexport
  · exact hexport

/-- The environment is closed whichever way the drawing ended, and that changes nothing of it. -/
theorem steady_renderPdf (description : Option Text) :
    Act.Steady passedOver (renderPdf (.plain pdf) s description) := by
  have hsilent : ∀ {α : Type} {x : Act α}, Act.CallsOnly [] x → Act.Steady passedOver x :=
    fun h => .of_callsOnly h (by simp)
  unfold renderPdf
  split
  · rw [renderCode_eq]
    refine .bind (steady_launch pdf s) fun _ => ?_
    refine .bind (steady_draw pdf s _).attempt fun ended => ?_
    refine .bind (hsilent (logEnd_silent ended)) fun _ => ?_
    exact .bind (steady_closeQuietly pdf) fun _ => hsilent (finish_silent ended)
  · exact hsilent (.raise _)

variable {o o' : Oracle}

/-- Whether the screenshot and the closing succeed or fail, and with what, makes no difference to
how a render ends, to its calls, or to anything in its log but warnings. -/
theorem renderPdf_passes_over_failures
    (hsame : ∀ name, name ∉ passedOver → o name = o' name)
    (hleft : ∀ name ∈ passedOver, ∀ k, o name k ≠ .cancel ∧ o name k ≠ .hang)
    (hright : ∀ name ∈ passedOver, ∀ k, o' name k ≠ .cancel ∧ o' name k ≠ .hang)
    (description : Option Text) :
    (renderPdf (.plain pdf) s description o).result =
        (renderPdf (.plain pdf) s description o').result ∧
      (renderPdf (.plain pdf) s description o).calls =
        (renderPdf (.plain pdf) s description o').calls ∧
      (renderPdf (.plain pdf) s description o).trace.filter Entry.counts =
        (renderPdf (.plain pdf) s description o').trace.filter Entry.counts := by
  have halike := steady_renderPdf pdf s description ⟨hsame, hleft, hright⟩
  refine ⟨halike.result, ?_, halike.unwarned⟩
  rw [Run.calls_eq_filter_unwarned, halike.unwarned, Run.calls_eq_filter_unwarned]

/-- No page can be photographed and no environment closed. -/
def unmanageable : Oracle
  | .screenshot, _ => .fail (.timeout "")
  | .close, _ => .fail (.driver "gone")
  | _, _ => .success

theorem renderPdf_passes_over_failures_of_unmanageable :
    (∀ name, name ∉ passedOver → Oracle.calm name = unmanageable name) ∧
      (∀ name ∈ passedOver, ∀ k, unmanageable name k ≠ .cancel ∧ unmanageable name k ≠ .hang) ∧
      (renderPdf (.plain [7]) photographing (some Mermaid.directive) unmanageable).result =
        .ok ⟨[7], "process-diagram.pdf"⟩ ∧
      (renderPdf (.plain [7]) photographing (some Mermaid.directive) unmanageable).logs =
        [.screenshotFailed "page.png", .closeFailed, .documentRendered 1] := by
  have hsame : ∀ name, name ∉ passedOver → Oracle.calm name = unmanageable name := by
    intro name hname
    funext k
    cases name <;> simp [passedOver, Oracle.calm, unmanageable] at hname ⊢
  have hcalm : ∀ name ∈ passedOver, ∀ k,
      Oracle.calm name k ≠ .cancel ∧ Oracle.calm name k ≠ .hang := by
    simp [Oracle.calm]
  have hfailing : ∀ name ∈ passedOver, ∀ k,
      unmanageable name k ≠ .cancel ∧ unmanageable name k ≠ .hang := by
    simp [passedOver, unmanageable]
  have hresult := (renderPdf_passes_over_failures [7] photographing hsame hcalm hfailing
    (some Mermaid.directive)).1
  have hrendered : (renderPdf (.plain [7]) photographing (some Mermaid.directive) .calm).result =
      .ok ⟨[7], "process-diagram.pdf"⟩ := by
    have haccept : accept (some Mermaid.directive) = .ok Mermaid.directive := rfl
    have htimely : photographing.Timely := ⟨by decide +kernel, by decide +kernel⟩
    rw [renderPdf, haccept]
    exact result_renderCode_plain_of_untroubled htimely (fun _ => rfl) [7] Mermaid.directive
  refine ⟨hsame, hfailing, hresult.symm.trans hrendered, ?_⟩
  decide +kernel

/-- Only failures are passed over: a closing that is cancelled, or that never ends, takes the place
of whatever the drawing came to. -/
theorem renderPdf_of_interrupted_close {description : Option Text} {code : Text} {e : Raised}
    (haccept : accept description = .ok code) (hlaunch : (Stage.launch s).raised? o = none)
    (hclose : forgive (o .close 0).result = .error e) :
    (renderPdf (.plain pdf) s description o).result = .error e := by
  have hended := (renderCode_plain pdf s code o).2
  rw [hlaunch, hclose] at hended
  rw [renderPdf, haccept]
  exact hended

end Render

end OutlineChart
