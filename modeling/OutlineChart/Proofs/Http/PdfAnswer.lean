import OutlineChart.Proofs.Http.Posted
import OutlineChart.Proofs.Render.Engine
import OutlineChart.Proofs.Service.Pipeline

/-! # Answers to requests for a document

A request to render whose body is read is answered in one of four ways, each with a status of its
own: its body is over the limit, its text is no diagram, the document is sent, or the stage that
failed is told.  Neither of the first two touches the browser.  The last one alone can come to
nothing: a surrogate may stand alone in what is to be told.
-/

namespace OutlineChart

open Browser Render

namespace Http

/-! ## The service -/

variable {b : Backend} {s : Settings} {r : Request} {o : Oracle} {t : Text}

theorem generatePdf_standard :
    (Services.standard b s).generatePdf (some t) =
      (Act.log (.codeReceived t.strip) >>= fun _ => renderPdf b s (some t)) :=
  Service.generatePdf_eq b s (some t)

theorem result_generatePdf_standard :
    ((Services.standard b s).generatePdf (some t) o).result = (renderPdf b s (some t) o).result := by
  rw [generatePdf_standard, Act.result_bind_of_ok rfl]
  rfl

theorem calls_pdf_standard :
    (pdf (.standard b s) t o).calls = (renderPdf b s (some t) o).calls := by
  rw [(wraps_pdf _ t).calls, generatePdf_standard, Act.calls_bind_of_ok rfl]
  rfl

theorem pdf_of_document {document : Document}
    (h : (renderPdf b s (some t) o).result = .ok document) :
    (pdf (.standard b s) t o).result = .ok (pdfReply document) := by
  unfold pdf
  rw [Act.result_attempt_bind, result_generatePdf_standard, h]
  rfl

theorem pdf_of_diagramError {e : DiagramError} {cause : Option Failure}
    (h : (renderPdf b s (some t) o).result = .error (.failure (.diagram e) cause)) :
    (pdf (.standard b s) t o).result = .ok (pdfError e) := by
  unfold pdf
  rw [Act.result_attempt_bind, result_generatePdf_standard, h]
  rfl

/-! ## Answers -/

def attachment (pdf : Bytes) (filename : String) : Response :=
  .ofHeaders 200 (documentHeaders ⟨pdf, filename⟩) "application/pdf" pdf

/-- How a request to render is answered, origins apart. -/
inductive Answered (render : Option Text → Run Document) (pdf : Bytes) (filename : String)
    (run : Run Reply) : Body.Reading → Response → Prop
  | overLimit {reading : Body.Reading} {response : Response} : reading.text? = none →
      run.trace = [] → response.status = 413 → Answered render pdf filename run reading response
  | refused {t : Text} {e : Raised} {response : Response} : ¬ Mermaid.directive <+: t.strip →
      (render (some t)).result = .error e → run.calls = [] → response.status = 400 →
      Utf8.encode? (Response.jsonObject [("error", "Invalid Mermaid code format")]) =
        some response.body → Answered render pdf filename run (.text t) response
  | rendered {t : Text} : Mermaid.directive <+: t.strip →
      (render (some t)).result = .ok ⟨pdf, filename⟩ →
      Answered render pdf filename run (.text t) (attachment pdf filename)
  | failed {t : Text} {f : Failure} {e : DiagramError} {response : Response} :
      Mermaid.directive <+: t.strip → (render (some t)).result = .error (.diagramFrom f e) →
      e.isRender = true → response.status = 500 →
      Utf8.encode? (Response.jsonObject
        [("error", "PDF generation failed"), ("details", e.told)]) = some response.body →
      Answered render pdf filename run (.text t) response

/-- A stage of a render failed, and a surrogate stands alone in what is to be told of it. -/
inductive Unsendable (render : Option Text → Run Document) : Body.Reading → Prop
  | intro {t : Text} {f : Failure} {e : DiagramError} : Mermaid.directive <+: t.strip →
      (render (some t)).result = .error (.diagramFrom f e) → e.isRender = true → e.told.HasHalf →
      Unsendable render (.text t)

/-- What is replied to a request to render: an answer, unless a failure cannot be told. -/
inductive PdfReplied (render : Option Text → Run Document) (pdf : Bytes) (filename : String)
    (run : Run Reply) (reading : Body.Reading) : Reply → Prop
  | answered {response : Response} : Answered render pdf filename run reading response →
      PdfReplied render pdf filename run reading (.ok response)
  | unsendable : Unsendable render reading →
      PdfReplied render pdf filename run reading (.error .encoding)

theorem replied_of_ofRender {render : Option Text → Run Document} {run : Run Reply} {f : Failure}
    {e : DiagramError} (hdirective : Mermaid.directive <+: t.strip)
    (hended : (render (some t)).result = .error (.diagramFrom f e)) (he : e.OfRender)
    (pdf : Bytes) (filename : String) :
    PdfReplied render pdf filename run (.text t) (pdfError e) := by
  have hsends := Reply.sends_json e.status
    [("error", "PDF generation failed"), ("details", e.told)] []
  have hreply : pdfError e =
      .json e.status [("error", "PDF generation failed"), ("details", e.told)] := by
    rw [pdfError, if_pos he.isRender, e.report_eq_told]
    rfl
  rw [hreply]
  generalize Reply.json e.status [("error", "PDF generation failed"), ("details", e.told)] = reply
    at hsends
  cases hsends with
  | sent hstatus hbody =>
      exact .answered (.failed hdirective hended he.isRender (hstatus.trans he.status) hbody)
  | unsent hhalf => exact .unsendable (.intro hdirective hended he.isRender (by simpa using hhalf))

theorem pdf_replied_of_directive {engine : Engine} (hcancel : ∀ name k, o name k ≠ .cancel)
    (hhangs : engine.HangsInTime o) (hlatin : isLatin1 s.pdfFilename = true) (content : Bytes)
    (h : Mermaid.directive <+: t.strip) :
    ∃ reply, (pdf (.standard (engine.backend content) s) t o).result = .ok reply ∧
      PdfReplied (fun code => renderPdf (engine.backend content) s code o) content s.pdfFilename
        (pdf (.standard (engine.backend content) s) t o) (.text t) reply := by
  have hended := Engine.drawn_renderCode hcancel hhangs content s t.strip
  have hrender : renderPdf (engine.backend content) s (some t) =
      renderCode (engine.backend content) s t.strip := renderPdf_of_directive _ s h
  rw [← hrender] at hended
  cases hresult : (renderPdf (engine.backend content) s (some t) o).result with
  | ok document =>
      rw [hresult] at hended
      cases hended
      refine ⟨_, ?_, .answered (.rendered h hresult)⟩
      rw [pdf_of_document hresult, pdfReply, if_pos hlatin]
      rfl
  | error raised =>
      rw [hresult] at hended
      cases hended with
      | failed he =>
          exact ⟨_, pdf_of_diagramError hresult,
            replied_of_ofRender h hresult he content s.pdfFilename⟩

theorem pdf_replied_of_no_directive (b : Backend) (s : Settings) (o : Oracle) (content : Bytes)
    (h : ¬ Mermaid.directive <+: t.strip) :
    ∃ reply, (pdf (.standard b s) t o).result = .ok reply ∧
      PdfReplied (fun code => renderPdf b s code o) content s.pdfFilename
        (pdf (.standard b s) t o) (.text t) reply := by
  have hrender : renderPdf b s (some t) = Act.raise (.diagram refusal) :=
    renderPdf_of_no_directive b s h
  have hresult : (renderPdf b s (some t) o).result = .error (.diagram refusal) := by
    rw [hrender]
    rfl
  obtain ⟨response, hreply, hstatus, hbody⟩ :=
    Reply.exists_ofError 400 "Invalid Mermaid code format"
  refine ⟨_, (pdf_of_diagramError hresult).trans (congrArg Except.ok hreply),
    .answered (.refused h hresult ?_ hstatus hbody)⟩
  rw [calls_pdf_standard, hrender]
  rfl

/-! ## Statuses -/

/-- A response holds a document, its type, its length once, and its name. -/
structure SendsDocument (pdf : Bytes) (filename : String) (response : Response) : Prop where
  body : response.body = pdf
  contentType : response.headers.values "content-type" = ["application/pdf"]
  contentLength : response.headers.values "content-length" = [toString pdf.length]
  contentDisposition : response.headers.values "content-disposition" =
    ["attachment; filename=\"" ++ filename ++ "\""]

theorem sendsDocument_attachment (pdf : Bytes) (filename : String) (s : Settings) (r : Request) :
    SendsDocument pdf filename ((attachment pdf filename).adding (Cors.headers s r)) := by
  -- the document tells its length, so nothing else does
  have hlower : "Content-Length".toLower = "content-length" ∧
      "content-length".toLower = "content-length" ∧
      "content-type".toLower = "content-type" ∧
      "Content-Disposition".toLower = "content-disposition" ∧
      "content-disposition".toLower = "content-disposition" := by decide +kernel
  refine ⟨rfl, ?_, ?_, ?_⟩
  all_goals
    rw [Cors.values_adding _ s r (by decide) (by decide)]
    simp [attachment, documentHeaders, Document.size, Response.ofHeaders, Headers.values,
      Headers.value?, hlower]

/-- What the status of the response to a request to render says, and what comes with it. -/
structure PdfAnswer (render : Option Text → Run Document) (pdf : Bytes) (filename : String)
    (reading : Body.Reading) (run : Run Reply) (response : Response) : Prop
    extends Screened (fun t => ¬ Mermaid.directive <+: t.strip)
      (fun t => ∃ document, (render (some t)).result = .ok document)
      "Invalid Mermaid code format" reading response where
  result : run.result = .ok (.ok response)
  of_tooLarge : response.status = 413 → run.trace = []
  calls_of_refused : response.status = 400 → run.calls = []
  of_accepted : response.status = 200 → SendsDocument pdf filename response
  of_failed : response.status ≠ 413 → response.status ≠ 400 → response.status ≠ 200 →
    response.status = 500 ∧ ∃ t f e, reading.text? = some t ∧
      (render (some t)).result = .error (.diagramFrom f e) ∧ e.isRender = true ∧
      Utf8.encode? (Response.jsonObject
        [("error", "PDF generation failed"), ("details", e.told)]) = some response.body

variable {render : Option Text → Run Document} {content : Bytes} {filename : String}
  {run run' : Run Reply} {reading : Body.Reading} {response : Response}

theorem Answered.screened (h : Answered render content filename run reading response) :
    Screened (fun t => ¬ Mermaid.directive <+: t.strip)
      (fun t => ∃ document, (render (some t)).result = .ok document)
      "Invalid Mermaid code format" reading response := by
  cases h with
  | overLimit hnone _ hstatus => exact .of_overLimit hnone hstatus
  | refused hdirective hraised _ hstatus hbody =>
      exact .of_refused_text hstatus hbody hdirective (by simp [hraised])
  | rendered hdirective hended =>
      exact .of_accepted_text rfl (not_not_intro hdirective) ⟨_, hended⟩
  | failed hdirective hended _ hstatus =>
      exact .of_failed_text hstatus (not_not_intro hdirective) (by simp [hended])

theorem Answered.pdfAnswer (h : Answered render content filename run reading response)
    (s : Settings) (r : Request) (htrace : run'.trace = run.trace)
    (hresult : run'.result = .ok (.ok (response.adding (Cors.headers s r)))) :
    PdfAnswer render content filename reading run' (response.adding (Cors.headers s r)) where
  toScreened := h.screened.adding _
  result := hresult
  of_tooLarge hstatus := by
    replace hstatus : response.status = 413 := hstatus
    cases h with
    | overLimit _ hquiet => exact htrace.trans hquiet
    | refused _ _ _ hother => omega
    | rendered => cases hstatus
    | failed _ _ _ hother => omega
  calls_of_refused hstatus := by
    replace hstatus : response.status = 400 := hstatus
    cases h with
    | overLimit _ _ hother => omega
    | refused _ _ hquiet =>
        rw [Run.calls, htrace]
        exact hquiet
    | rendered => cases hstatus
    | failed _ _ _ hother => omega
  of_accepted hstatus := by
    replace hstatus : response.status = 200 := hstatus
    cases h with
    | overLimit _ _ hother => omega
    | refused _ _ _ hother => omega
    | rendered => exact sendsDocument_attachment content filename s r
    | failed _ _ _ hother => omega
  of_failed hreceived hrefused hrendered := by
    cases h with
    | overLimit _ _ hstatus => exact absurd hstatus hreceived
    | refused _ _ _ hstatus => exact absurd hstatus hrefused
    | rendered => exact absurd rfl hrendered
    | failed _ hended he hstatus hbody => exact ⟨hstatus, _, _, _, rfl, hended, he, hbody⟩

/-- A failed stage is answered with what is told of its error. -/
theorem PdfAnswer.of_failed_render {f : Failure} {e : DiagramError}
    (h : PdfAnswer render content filename (.text t) run response)
    (hdirective : Mermaid.directive <+: t.strip)
    (hended : (render (some t)).result = .error (.diagramFrom f e)) :
    response.status = 500 ∧ Utf8.encode? (Response.jsonObject
      [("error", "PDF generation failed"), ("details", e.told)]) = some response.body := by
  have hreceived : response.status ≠ 413 := by simp [h.tooLarge_iff, Body.Reading.text?]
  have haccepted : response.status ≠ 400 := by
    rw [Ne, h.refused_iff]
    rintro ⟨t, ht, hno⟩
    cases ht
    exact hno hdirective
  have hunsent : response.status ≠ 200 := by
    rw [Ne, h.accepted_iff]
    rintro ⟨t, ht, document, hdone⟩
    cases ht
    rw [hended] at hdone
    cases hdone
  obtain ⟨hstatus, t, f, e, ht, hended', -, hsent⟩ := h.of_failed hreceived haccepted hunsent
  cases ht
  rw [hended] at hended'
  cases hended'
  exact ⟨hstatus, hsent⟩

/-- With a length that can be read and a name that can be sent, a request to render is answered with
the status of the first thing that stands in its way, or with the document if nothing does.  What is
not answered is a document in JSON that nests too deep, and a failure that cannot be told. -/
theorem pdf_request_answered {engine : Engine} (hmethod : r.method = "POST")
    (hfound : Route.ofPath? r.path = some .pdf) (hlength : r.headers.LengthReadable)
    (hlatin : isLatin1 s.pdfFilename = true) (hcancel : ∀ name k, o name k ≠ .cancel)
    (hhangs : engine.HangsInTime o) (content : Bytes) :
    let run := handle (.standard (engine.backend content) s) s r o
    let render := fun code => renderPdf (engine.backend content) s code o
    (∃ nest, r.Overnested s.maxBodyBytes nest ∧
      run = ⟨.ok (.error (.unread (.nesting nest))), [], o⟩) ∨
    ∃ reading, r.read s.maxBodyBytes = .ok reading ∧
      (Unsendable render reading ∧ run.result = .ok (.error .encoding) ∨
        ∃ response, PdfAnswer render content s.pdfFilename reading run response) := by
  intro run render
  obtain ⟨nest, hnest, hread⟩ | ⟨reading, hread⟩ := r.read_cases hlength s.maxBodyBytes
  · exact .inl ⟨nest, hnest, handle_of_unread hmethod hfound (by decide) hread _ o⟩
  have hroute : route (.standard (engine.backend content) s) s r =
      onText s r (pdf (.standard (engine.backend content) s)) := by
    rw [route_of_posted hmethod hfound (by decide), if_neg (by decide)]
  obtain ⟨reply, hreply, hreplied⟩ : ∃ reply,
      (route (.standard (engine.backend content) s) s r o).result = .ok reply ∧
      PdfReplied render content s.pdfFilename
        (route (.standard (engine.backend content) s) s r o) reading reply := by
    obtain ⟨large, hlarge, hstatus⟩ := exists_tooLarge
    rw [hroute, onText, hread, hlarge]
    cases reading with
    | declaredTooLarge => exact ⟨.ok large, rfl, .answered (.overLimit rfl rfl hstatus)⟩
    | tooLarge => exact ⟨.ok large, rfl, .answered (.overLimit rfl rfl hstatus)⟩
    | text t =>
        by_cases hdirective : Mermaid.directive <+: t.strip
        · exact pdf_replied_of_directive hcancel hhangs hlatin content hdirective
        · exact pdf_replied_of_no_directive _ s o content hdirective
  have hresult := handle_of_posted hmethod hreply
  refine .inr ⟨reading, hread, ?_⟩
  cases hreplied with
  | unsendable hunsendable => exact .inl ⟨hunsendable, hresult⟩
  | answered hanswered =>
      have htrace : run.trace = (route (.standard (engine.backend content) s) s r o).trace := by
        simp only [run, handle_of_post _ s o hmethod]
      exact .inr ⟨_, hanswered.pdfAnswer s r htrace hresult⟩

/-- A page that is never printed. -/
def unprinted : Oracle
  | .printPage, _ => .hang
  | _, _ => .success

theorem pdf_request_answered_of_unprinted :
    Route.ofPath? rendering.path = some .pdf ∧ rendering.headers.LengthReadable ∧
      isLatin1 ({} : Settings).pdfFilename = true ∧ (∀ name k, unprinted name k ≠ .cancel) ∧
      Engine.chromium.HangsInTime unprinted ∧
      ∃ response, (handle (.standard (.chromium [7]) {}) {} rendering unprinted).result =
          .ok (.ok response) ∧ response.status = 500 ∧
        response.body = Utf8.encode ("\x7b\"error\":\"PDF generation failed\"," ++
          "\"details\":\"PDF export failed: TimeoutError\"\x7d").toList := by
  have hfound : Route.ofPath? rendering.path = some .pdf := by decide +kernel
  have hlength : rendering.headers.LengthReadable := .of_undeclared (by decide +kernel)
  have hlatin : isLatin1 ({} : Settings).pdfFilename = true := by decide +kernel
  have hcancel : ∀ name k, unprinted name k ≠ .cancel := by
    intro name k
    cases name <;> simp [unprinted]
  have hhangs : Engine.chromium.HangsInTime unprinted := by
    refine ⟨fun name k h => ?_, fun h => absurd h (by simp [unprinted])⟩
    cases name <;> simp [unprinted] at h ⊢
  have hbody : rendering.read ({} : Settings).maxBodyBytes = .ok (.text Mermaid.directive) := by
    decide +kernel
  have hrender : (renderPdf (Engine.chromium.backend [7]) {} (some Mermaid.directive)
      unprinted).result = .error (.diagramFrom (.timeout "")
        (.plain .exporting "PDF export failed" (some "TimeoutError"))) := by decide +kernel
  obtain ⟨nest, hnest, -⟩ | ⟨reading, hread, hanswer⟩ :=
    pdf_request_answered rfl hfound hlength hlatin hcancel hhangs [7]
  · rw [(Request.read_eq_nesting_iff hlength).2 hnest] at hbody
    cases hbody
  obtain rfl : reading = .text Mermaid.directive := Except.ok.inj (hread.symm.trans hbody)
  obtain ⟨⟨-, hended, -, hhalf⟩, -⟩ | ⟨response, hanswer⟩ := hanswer
  · rw [hrender] at hended
    cases hended
    rw [← Text.toChars?_eq_none_iff] at hhalf
    exact absurd hhalf (by decide)
  obtain ⟨hstatus, hsent⟩ := hanswer.of_failed_render (List.prefix_refl _) hrender
  refine ⟨hfound, hlength, hlatin, hcancel, hhangs, response, hanswer.result, hstatus, ?_⟩
  have hobject : Response.jsonObject [("error", "PDF generation failed"), ("details",
      (DiagramError.plain .exporting "PDF export failed" (some "TimeoutError")).told)] =
        Text.ofString ("\x7b\"error\":\"PDF generation failed\"," ++
          "\"details\":\"PDF export failed: TimeoutError\"\x7d") := by decide +kernel
  rw [hobject, Text.ofString, Utf8.encode?_ofChars] at hsent
  exact (Option.some.inj hsent).symm

/-- More brackets than there is room for are not told to be no diagram. -/
theorem brackets_not_refused :
    Route.ofPath? (bracketed "/generate-pdf").path = some .pdf ∧
      (bracketed "/generate-pdf").headers.LengthReadable ∧
      isLatin1 ({} : Settings).pdfFilename = true ∧
      (handle (.standard (.plain []) {}) {} (bracketed "/generate-pdf") .calm).result =
        .ok (.error (.unread (.nesting .array))) := by
  have hfound : Route.ofPath? (bracketed "/generate-pdf").path = some .pdf := by decide +kernel
  have hlength : (bracketed "/generate-pdf").headers.LengthReadable :=
    .of_undeclared (by decide +kernel)
  have hread := (Request.read_eq_nesting_iff hlength).2 (overnested_bracketed "/generate-pdf")
  exact ⟨hfound, hlength, by decide +kernel,
    congrArg Run.result (handle_of_unread rfl hfound (by decide) hread _ _)⟩

end Http

end OutlineChart
