import OutlineChart.Proofs.Render.Relayed

/-! # Untroubled renders

When both deadlines leave time and every call succeeds, an accepted description becomes a document.
-/

namespace OutlineChart

open Browser

/-- The next call of each name succeeds. -/
def Browser.Oracle.Untroubled (o : Oracle) : Prop := ∀ name, o name 0 = .success

/-- What rendering itself bounds has some time, and no more than can be counted in seconds. -/
structure Settings.Timely (s : Settings) : Prop where
  launching : 0 < s.launchTimeoutMs ∧ s.launchTimeoutMs.natAbs < Act.overflowMs
  exporting : 0 < s.exportTimeoutMs ∧ s.exportTimeoutMs.natAbs < Act.overflowMs

theorem Browser.Chromium.script_untroubled {o : Oracle} (h : o.Untroubled) :
    (script o).Untroubled := by
  intro name
  cases name <;> simp [script, h _, Outcome.timed, Outcome.thenCleaned]

namespace Render

variable {s : Settings} {o : Oracle}

theorem lapsed?_of_mem_all (hs : s.Timely) (code : Text) :
    ∀ st ∈ Stage.all s code, st.lapsed? = none := by
  refine Stage.forall_mem_all ?_ rfl rfl rfl (fun _ => rfl) ?_
  · rw [Stage.lapsed?_launch]
    exact Act.lapsed?_eq_none_iff.2 hs.launching
  · rw [Stage.lapsed?_exportPdf]
    exact Act.lapsed?_eq_none_iff.2 hs.exporting

theorem result_renderCode_plain_of_untroubled (hs : s.Timely) (ho : o.Untroubled) (pdf : Bytes)
    (code : Text) : (renderCode (.plain pdf) s code o).result = .ok ⟨pdf, s.pdfFilename⟩ := by
  have hnone : (Stage.all s code).findSome? (Stage.raised? o) = none :=
    List.findSome?_eq_none_iff.2 fun st hst =>
      Stage.raised?_of_success (lapsed?_of_mem_all hs code st hst) (ho _)
  have hclose : forgive (o .close 0).result = .ok () := by rw [ho .close]; rfl
  rw [result_renderCode_plain hclose, hnone]
  rfl

theorem result_renderCode_chromium_of_untroubled (hs : s.Timely) (ho : o.Untroubled) (pdf : Bytes)
    (code : Text) : (renderCode (.chromium pdf) s code o).result = .ok ⟨pdf, s.pdfFilename⟩ := by
  rw [result_renderCode_chromium]
  exact result_renderCode_plain_of_untroubled hs (Chromium.script_untroubled ho) pdf code

end Render

end OutlineChart
