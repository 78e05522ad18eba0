import OutlineChart.Proofs.Render.Told
import OutlineChart.Proofs.Service.Pipeline

/-! # Rendering as a service

Between a description that is received and the render of it stands only a record of what was
received: the service ends as the render does, makes its calls, and leaves the same outcomes to
come.  Neither of the two sees the whitespace around a description.
-/

namespace OutlineChart

open Browser Render

namespace Service

variable {b : Backend} {s : Settings} {description description' : Option Text}

/-- The run of the render, with one record in front of it. -/
theorem generatePdf_apply (b : Backend) (s : Settings) (description : Option Text) (o : Oracle) :
    generatePdf b s description o =
      ⟨(renderPdf b s description o).result,
        .logged (.codeReceived (description.getD []).strip) :: (renderPdf b s description o).trace,
        (renderPdf b s description o).rest⟩ := by
  rw [generatePdf_eq, Act.bind_apply_of_ok rfl]
  rfl

/-- What is refused is recorded all the same. -/
theorem generatePdf_of_refused {e : DiagramError} (h : accept description = .error e) (o : Oracle) :
    generatePdf b s description o =
      ⟨.error (.diagram e), [.logged (.codeReceived (description.getD []).strip)], o⟩ := by
  rw [generatePdf_apply, renderPdf, h]
  rfl

theorem generatePdf_congr (h : (description.getD []).strip = (description'.getD []).strip) :
    generatePdf b s description = generatePdf b s description' := by
  rw [generatePdf_eq, generatePdf_eq, renderPdf_congr h, h]

/-- Rendering as a service is rendering, behind one record of the description without the whitespace
around it; a description that is refused has that record too.  Whitespace that is put around a
description makes no difference to a run, with the service or without it: not to its end, not to its
calls and what they load, and not to its log. -/
theorem generatePdf_transparent (b : Backend) (s : Settings) (description : Option Text)
    (o : Oracle) :
    ∃ stripped, Text.IsTrim CodePoint.isBlank (description.getD []) stripped ∧
      (generatePdf b s description o).result = (renderPdf b s description o).result ∧
      (generatePdf b s description o).calls = (renderPdf b s description o).calls ∧
      (generatePdf b s description o).rest = (renderPdf b s description o).rest ∧
      (generatePdf b s description o).logs =
        .codeReceived stripped :: (renderPdf b s description o).logs ∧
      (Log.Record.codeReceived stripped).level = .info ∧
      (Log.Record.codeReceived stripped).message =
        Text.ofString "Received Mermaid code: " ++ stripped ∧
      (∀ e, accept description = .error e →
        generatePdf b s description o =
          ⟨.error (.diagram e), [.logged (.codeReceived stripped)], o⟩) ∧
      ∀ front back : Text, front.isBlank = true → back.isBlank = true →
        let spaced := some (front ++ description.getD [] ++ back)
        generatePdf b s spaced o = generatePdf b s description o ∧
          renderPdf b s spaced o = renderPdf b s description o := by
  refine ⟨(description.getD []).strip, Text.isTrim_trim _ _, ?_, ?_, ?_, ?_, rfl, rfl, ?_, ?_⟩
  · rw [generatePdf_apply]
  · rw [generatePdf_apply]
    rfl
  · rw [generatePdf_apply]
  · rw [generatePdf_apply]
    rfl
  · intro e h
    exact generatePdf_of_refused h o
  · intro front back hfront hback spaced
    have hstrip : (spaced.getD []).strip = (description.getD []).strip :=
      Text.trim_around hfront hback (description.getD [])
    rw [generatePdf_congr hstrip, renderPdf_congr hstrip]
    exact ⟨rfl, rfl⟩

/-- No page can be opened. -/
def unopened : Oracle
  | .openPage, _ => .fail (.driver "gone")
  | _, _ => .success

/-- A description with a line feed and an em space before it and a next-line control and a space
behind it, and no description at all. -/
theorem generatePdf_transparent_of_unopened :
    let code := Text.ofString "graph TD"
    let front := Text.ofString "\n\u2003"
    let back := Text.ofString "\u0085 "
    let run := generatePdf (.chromium [7]) {} (some (front ++ code ++ back)) unopened
    let e := pageFailure (.driver "gone")
    front.isBlank = true ∧ back.isBlank = true ∧ accept none = .error refusal ∧
      run.result = .error (.diagramFrom (.driver "gone") e) ∧
      run.logs = [.codeReceived code, .browserLaunched ({} : Settings).browserArgs, .renderFailed e] ∧
      generatePdf (.chromium [7]) {} none unopened =
        ⟨.error (.diagram refusal), [.logged (.codeReceived [])], unopened⟩ := by
  intro code front back run e
  have hfront : front.isBlank = true := by decide
  have hback : back.isBlank = true := by decide
  have hrefused : accept none = .error refusal := rfl
  obtain ⟨stripped, htrim, hresult, -, -, hlogs, -, -, -, haround⟩ :=
    generatePdf_transparent (.chromium [7]) {} (some code) unopened
  obtain ⟨nothing, htrim', -, -, -, -, -, -, hnone, -⟩ :=
    generatePdf_transparent (.chromium [7]) {} none unopened
  have hrun : run = generatePdf (.chromium [7]) {} (some code) unopened :=
    (haround front back hfront hback).1
  have hcode : stripped = code := (Text.isTrim_iff.1 htrim).trans (by decide)
  have hempty : nothing = [] := Text.isTrim_iff.1 htrim'
  refine ⟨hfront, hback, hrefused, ?_, ?_, ?_⟩
  · rw [hrun, hresult]
    decide +kernel
  · rw [hrun, hlogs, hcode]
    decide +kernel
  · rw [hnone _ hrefused, hempty]

end Service

end OutlineChart
