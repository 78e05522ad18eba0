import OutlineChart.Proofs.Render.Stage

/-! # The order of calls

A render with the plain backend makes the calls of its stages in their order, the last one being
that of the first stage that fails, and closes the environment after all of them exactly if it was
launched.
-/

namespace OutlineChart

namespace Render
open Browser

namespace Stage

/-- A stage cannot begin, or its call does not succeed; an ordinary error of the screenshot does not
count. -/
def fails (o : Oracle) (st : Stage) : Bool :=
  st.lapsed?.isSome ||
    match o st.call.name 0 with
    | .success => false
    | .fail _ => st.call.name ≠ .screenshot
    | .cancel => true
    | .hang => true

/-- The calls of all stages, cut off after the first one that fails. -/
def protocol (o : Oracle) (sts : List Stage) : List Entry :=
  (upTo (fails o) sts).flatMap (entries o)

variable {o : Oracle}

theorem isSome_raised?_of_reporting {st : Stage} (hreport : ∀ f, (st.report? f).isSome)
    (hname : st.call.name ≠ .screenshot) : (st.raised? o).isSome = st.fails o := by
  unfold raised? ending fails
  cases st.lapsed? with
  | some f => simp [hreport]
  | none =>
      cases st.deadlineMs <;> cases o st.call.name 0 <;>
        simp [Outcome.result, Act.lapse, hreport, hname]

theorem isSome_raised?_screenshot (s : Settings) (path : String) :
    ((screenshot s path).raised? o).isSome = (screenshot s path).fails o := by
  unfold raised? ending fails
  rw [show (screenshot s path).lapsed? = none from rfl,
    show (screenshot s path).deadlineMs = none from rfl, name_screenshot]
  cases o .screenshot 0 <;> simp [Outcome.result, screenshot]

theorem isSome_raised?_of_mem (s : Settings) (code : Text) :
    ∀ st ∈ all s code, (st.raised? o).isSome = st.fails o := by
  refine forall_mem_all ?_ ?_ ?_ ?_ (isSome_raised?_screenshot s) ?_
  · exact isSome_raised?_of_reporting (fun f => by cases f <;> rfl) (by simp)
  · exact isSome_raised?_of_reporting (fun _ => rfl) (by simp)
  · exact isSome_raised?_of_reporting (fun f => by cases f <;> rfl) (by simp)
  · exact isSome_raised?_of_reporting (fun f => by cases f <;> rfl) (by simp)
  · exact isSome_raised?_of_reporting (fun _ => rfl) (by simp)

theorem entriesUntil_eq_protocol {sts : List Stage}
    (h : ∀ st ∈ sts, (st.raised? o).isSome = st.fails o) : entriesUntil o sts = protocol o sts := by
  unfold entriesUntil protocol
  rw [upTo_congr h]

theorem name?_of_mem_protocol {sts : List Stage} {entry : Entry} (h : entry ∈ protocol o sts) :
    ∃ st ∈ sts, entry.name? = some st.call.name := by
  obtain ⟨st, hst, hentry⟩ := List.mem_flatMap.1 h
  refine ⟨st, List.mem_of_mem_take hst, ?_⟩
  unfold entries at hentry
  split at hentry
  · exact absurd hentry List.not_mem_nil
  · exact Call.name?_of_mem_entries hentry

theorem close_notMem_protocol (s : Settings) (code : Text) :
    .called .close ∉ protocol o (all s code) := by
  intro h
  obtain ⟨st, hst, hname⟩ := name?_of_mem_protocol h
  exact close_notMem_all s code (List.mem_map.2 ⟨st, hst, (Option.some.inj hname).symm⟩)

end Stage

/-- What is refused makes no call.  Otherwise the stages go on up to the first that fails, and then
the environment is closed if it was launched; nothing else closes it. -/
theorem renderPdf_follows_protocol {o : Oracle} (hhangs : o.HangsOnlyAt [.launch, .exportPdf])
    (pdf : Bytes) (s : Settings) (description : Option Text) :
    (renderPdf (.plain pdf) s description o).calls =
        (match accept description with
        | .error _ => []
        | .ok code => Stage.protocol o (Stage.all s code) ++
            if (Stage.launch s).fails o then [] else [.called .close]) ∧
      ∀ code, .called .close ∉ Stage.protocol o (Stage.all s code) := by
  refine ⟨?_, Stage.close_notMem_protocol s⟩
  rw [renderPdf]
  cases accept description with
  | error e => rfl
  | ok code =>
      have hlaunch : Stage.launch s ∈ Stage.all s code := List.mem_cons_self
      -- nothing bounds the closing, but it does not hang
      have hclose : Call.close.entries (o .close 0) = [.called .close] := by
        have hends : o .close 0 ≠ .hang := fun h => by simpa using hhangs _ _ h
        rw [Call.entries, if_neg hends]
      show (renderCode (.plain pdf) s code o).calls = _
      rw [(renderCode_plain pdf s code o).1, hclose, Stage.isSome_raised?_of_mem s code _ hlaunch,
        Stage.entriesUntil_eq_protocol (Stage.isSome_raised?_of_mem s code)]

def photographing : Settings where
  debugScreenshotPath := some "page.png"

/-- No page can be photographed, and no export ever ends. -/
def stuckExport : Oracle
  | .screenshot, _ => .fail (.timeout "")
  | .exportPdf, _ => .hang
  | _, _ => .success

theorem renderPdf_follows_protocol_to_stuck_export :
    stuckExport.HangsOnlyAt [.launch, .exportPdf] ∧
      (renderPdf (.plain []) photographing (some (Text.ofString "graph TD\n"))
          stuckExport).calls.filterMap Entry.name? =
        [.launch, .newPage, .loadHtml, .waitForDiagram, .screenshot, .exportPdf, .exportPdf,
          .close] := by
  have hhangs : stuckExport.HangsOnlyAt [.launch, .exportPdf] := by
    intro name k h
    cases name <;> simp [stuckExport] at h ⊢
  have hcode : accept (some (Text.ofString "graph TD\n")) = .ok (Text.ofString "graph TD") := rfl
  have hcalls := (renderPdf_follows_protocol hhangs [] photographing
    (some (Text.ofString "graph TD\n"))).1
  rw [hcode] at hcalls
  refine ⟨hhangs, ?_⟩
  rw [hcalls]
  decide +kernel

end Render

end OutlineChart
