import OutlineChart.Proofs.Outline.Stripped
import OutlineChart.Proofs.Render.LoadedPage
import OutlineChart.Proofs.Render.Template
import OutlineChart.Proofs.Render.Untroubled
import OutlineChart.Proofs.Service.Blank

/-! # From an outline to the page

What is generated from an outline is accepted for rendering, and so is anything else that begins as
a top-down graph.  It reaches the page without the whitespace around it and otherwise as it is: what
stands before it and behind it on the page does not depend on it.
-/

namespace OutlineChart

open Browser CodePoint

namespace Render

theorem accept_eq_ok_iff {description : Option Text} {code : Text} :
    accept description = .ok code ↔
      code = (description.getD []).strip ∧ Mermaid.directive.isPrefixOf code = true := by
  unfold accept
  dsimp only
  split
  · next hprefix =>
      constructor
      · intro h
        cases h
        exact ⟨rfl, hprefix⟩
      · rintro ⟨rfl, -⟩
        rfl
  · next hprefix =>
      constructor
      · intro h
        cases h
      · rintro ⟨rfl, h⟩
        exact absurd h hprefix

/-- Only what is left without the whitespace around it counts. -/
theorem renderPdf_congr {b : Backend} {s : Settings} {description description' : Option Text}
    (h : (description.getD []).strip = (description'.getD []).strip) :
    renderPdf b s description = renderPdf b s description' := by
  unfold renderPdf accept
  rw [h]

theorem accept_toMermaid (t : Text) :
    ∃ code, Outline.toMermaid t = code ++ [newline] ∧
      accept (some (Outline.toMermaid t)) = .ok code := by
  obtain ⟨rest, htext, hfirm⟩ := Outline.toMermaid_eq_concat t
  refine ⟨Mermaid.directive ++ rest, htext, accept_eq_ok_iff.2 ⟨?_, by simp⟩⟩
  rw [Option.getD_some, htext, hfirm.strip_concat]

theorem page_inj {s : Settings} {code code' : Text} : page s code = page s code' ↔ code = code' := by
  unfold page
  rw [List.append_cancel_right_eq, List.append_cancel_left_eq]

end Render

namespace Service
open Render

variable {b : Backend} {s : Settings} {o : Oracle}

theorem toMermaid_of_generateDiagram {outline : Option Text} {m : Text}
    (h : (generateDiagram outline o).result = .ok m) : m = Outline.toMermaid (outline.getD []) := by
  rw [generateDiagram_apply] at h
  dsimp only at h
  split at h
  · cases h
  · cases h
    rfl

/-- Stripping twice does no more than stripping once. -/
theorem generatePdf_eq (b : Backend) (s : Settings) (description : Option Text) :
    generatePdf b s description =
      (Act.log (.codeReceived (description.getD []).strip) >>= fun _ =>
        renderPdf b s description) := by
  have hstrip : ((some (description.getD []).strip).getD []).strip = (description.getD []).strip :=
    Text.trim_trim CodePoint.isBlank (description.getD [])
  unfold generatePdf
  dsimp only
  rw [renderPdf_congr hstrip]

theorem generatePdf_of_accept {description : Option Text} {code : Text}
    (h : accept description = .ok code) :
    generatePdf b s description =
      (Act.log (.codeReceived (description.getD []).strip) >>= fun _ => renderCode b s code) := by
  rw [generatePdf_eq, renderPdf, h]

/-- The page, and no other, is loaded for a description unless something fails before that, and
when nothing fails the description becomes a document. -/
structure Draws (pdf : Bytes) (b : Backend) (s : Settings) (description : Option Text)
    (html : Text) : Prop where
  loads : (generatePdf b s description).Loads html
  document : s.Timely → ∀ ⦃o : Oracle⦄, o.Untroubled →
    (generatePdf b s description o).result = .ok ⟨pdf, s.pdfFilename⟩ ∧
      (generatePdf b s description o).pages = [html]

theorem draws_of_accept {pdf : Bytes} (hb : b ∈ [Backend.plain pdf, Backend.chromium pdf])
    (s : Settings) {description : Option Text} {code : Text} (h : accept description = .ok code) :
    Draws pdf b s description (page s code) := by
  rw [List.mem_cons, List.mem_singleton] at hb
  have hasked : b.LoadsAsked := by
    rcases hb with rfl | rfl
    · exact Backend.plain_loadsAsked pdf
    · exact Backend.chromium_loadsAsked pdf
  have hloads : (generatePdf b s description).Loads (page s code) := by
    rw [generatePdf_of_accept h]
    exact .bind_left (fun _ => rfl) fun _ => loads_renderCode hasked s code
  refine ⟨hloads, fun hs o ho => ?_⟩
  have hresult : (generatePdf b s description o).result = .ok ⟨pdf, s.pdfFilename⟩ := by
    rw [generatePdf_of_accept h, Act.result_bind_of_ok rfl]
    rcases hb with rfl | rfl
    · exact result_renderCode_plain_of_untroubled hs ho pdf code
    · exact result_renderCode_chromium_of_untroubled hs ho pdf code
  exact ⟨hresult, hloads.pages_of_ok hresult⟩

/-- What is generated is accepted but for its last line feed and becomes a document.  Whatever is
accepted stands on the page as it is but for the whitespace around it, the page being its template
with the address of the script and that text filled in, so pages tell accepted texts apart. -/
theorem accepted_text_reaches_page {pdf : Bytes} {b : Backend}
    (hb : b ∈ [Backend.plain pdf, Backend.chromium pdf]) (s : Settings) :
    (∀ outline m o, (generateDiagram outline o).result = .ok m →
      ∃ code, m = code ++ [newline] ∧ accept (some m) = .ok code ∧
        Draws pdf b s (some m) (page s code)) ∧
    (∀ description code, accept description = .ok code →
      code = (description.getD []).strip ∧ Draws pdf b s description (page s code)) ∧
    (∀ code, page s code = pageBefore s.mermaidScriptUrl ++ code ++ pageAfter ∧
      filledPage s.mermaidScriptUrl code = some (page s code)) ∧
    (∃ head middle tail : Text, ∀ url code, filledPage url code = some (head ++
      Text.ofString "<script src=\"" ++ Text.ofString url ++ Text.ofString "\"></script>" ++
      middle ++
      Text.ofString "<div class=\"mermaid\">" ++ code ++ Text.ofString "</div>" ++ tail)) ∧
    ∀ first second code code', accept first = .ok code → accept second = .ok code' →
      ∀ o o', ∀ html ∈ (generatePdf b s first o).pages,
        ∀ html' ∈ (generatePdf b s second o').pages,
          html = html' ↔ (first.getD []).strip = (second.getD []).strip := by
  refine ⟨?_, ?_, fun code => ⟨rfl, filledPage_eq s code⟩, filledPage_layout, ?_⟩
  · intro outline m o h
    obtain ⟨code, htext, haccept⟩ := accept_toMermaid (outline.getD [])
    rw [toMermaid_of_generateDiagram h]
    exact ⟨code, htext, haccept, draws_of_accept hb s haccept⟩
  · intro description code h
    exact ⟨(accept_eq_ok_iff.1 h).1, draws_of_accept hb s h⟩
  · intro first second code code' h h' o o' html hhtml html' hhtml'
    rw [(draws_of_accept hb s h).loads.eq_of_mem hhtml,
      (draws_of_accept hb s h').loads.eq_of_mem hhtml', page_inj, (accept_eq_ok_iff.1 h).1,
      (accept_eq_ok_iff.1 h').1]

/-- A text that looks like the template of the page, with whitespace around it. -/
def braced : Text := Text.ofString "\n graph TD \x7bmermaid_code\x7d\x7d \n"

theorem accepted_text_reaches_page_of_braced :
    let m := Text.ofString "graph TD\nstep0[\"a\"]\nsub1[\"b\"]\nstep0 --> sub1\n"
    let b := Backend.chromium [7]
    b ∈ [Backend.plain [7], Backend.chromium [7]] ∧ Settings.Timely {} ∧ Oracle.calm.Untroubled ∧
      (generateDiagram (some (Text.ofString "1. a\n- b")) .calm).result = .ok m ∧
      (generatePdf b {} (some m) .calm).result = .ok ⟨[7], "process-diagram.pdf"⟩ ∧
      (generatePdf b {} (some m) .calm).pages = [page {} m.dropLast] ∧
      (generatePdf b {} (some braced) .calm).pages =
        [page {} (Text.ofString "graph TD \x7bmermaid_code\x7d\x7d")] ∧
      page {} (Text.ofString "graph TD \x7bmermaid_code\x7d\x7d") ≠ page {} m.dropLast := by
  intro m b
  have hb : b ∈ [Backend.plain [7], Backend.chromium [7]] := by simp [b]
  have hs : Settings.Timely {} := ⟨by decide +kernel, by decide +kernel⟩
  have ho : Oracle.calm.Untroubled := fun _ => rfl
  have hm : (generateDiagram (some (Text.ofString "1. a\n- b")) .calm).result = .ok m := rfl
  have hbraced : accept (some braced) =
      .ok (Text.ofString "graph TD \x7bmermaid_code\x7d\x7d") := rfl
  obtain ⟨hgenerated, haccepted, -, -, hapart⟩ := accepted_text_reaches_page hb {}
  obtain ⟨code, hcode, haccept, hdraws⟩ := hgenerated _ _ _ hm
  obtain ⟨hresult, hpages⟩ := hdraws.document hs ho
  obtain ⟨-, hpages'⟩ := (haccepted _ _ hbraced).2.document hs ho
  have hlast : code = m.dropLast := by rw [hcode, List.dropLast_concat]
  rw [hlast] at hpages
  have hloaded : page {} m.dropLast ∈ (generatePdf b {} (some m) .calm).pages := by
    rw [hpages]
    exact List.mem_singleton_self _
  have hloaded' : page {} (Text.ofString "graph TD \x7bmermaid_code\x7d\x7d") ∈
      (generatePdf b {} (some braced) .calm).pages := by
    rw [hpages']
    exact List.mem_singleton_self _
  refine ⟨hb, hs, ho, hm, hresult, hpages, hpages', fun heq => ?_⟩
  have hstrip := (hapart _ _ _ _ hbraced haccept .calm .calm _ hloaded' _ hloaded).1 heq
  exact absurd hstrip (by decide)

end Service

end OutlineChart
