import OutlineChart.Proofs.Http.Posted
import OutlineChart.Proofs.Outline.NoInjection
import OutlineChart.Proofs.Service.Blank

/-! # Answers to requests for a diagram

A request to compile whose body is read is answered in one of three ways, each with a status of its
own: its body is over the limit, its text is blank, or its diagram is sent.  None of them touches the
browser, and nothing can go wrong in any of them: a diagram is ASCII, even if its text cannot be
encoded.
-/

namespace OutlineChart

open Browser

namespace Http

/-! ## The service -/

variable {b : Backend} {s : Settings} {r : Request} {o : Oracle} {t : Text}

theorem diagram_of_blank (hblank : t.isBlank = true) : diagram (.standard b s) t o =
    ⟨.ok (.ofError 400 "Empty input received" none), [], o⟩ := by
  have hended : (Services.standard b s).generateDiagram (some t) o =
      ⟨.error (.diagram Service.emptyInput), [], o⟩ := by
    show Service.generateDiagram (some t) o = _
    rw [Service.generateDiagram_apply, Option.getD_some, if_pos hblank]
  unfold diagram
  rw [Act.attempt_bind_apply, hended]
  rfl

theorem diagram_of_not_blank {cs : List Char} (hblank : t.isBlank = false)
    (hcs : Outline.toMermaid t = Text.ofChars cs) :
    diagram (.standard b s) t o = ⟨.ok (.ok (.plain 200 cs)), [], o⟩ := by
  have hended : (Services.standard b s).generateDiagram (some t) o =
      ⟨.ok (Text.ofChars cs), [], o⟩ := by
    show Service.generateDiagram (some t) o = _
    rw [Service.generateDiagram_apply, Option.getD_some, hblank, if_neg Bool.false_ne_true, hcs]
  unfold diagram
  rw [Act.attempt_bind_apply, hended]
  show (⟨.ok (Reply.plain 200 (Text.ofChars cs)), [], o⟩ : Run Reply) = _
  rw [Reply.plain, Reply.text, Utf8.encode?_ofChars]
  rfl

/-! ## Answers -/

/-- How a request to compile is answered, origins apart. -/
inductive DiagramAnswered : Body.Reading → Response → Prop
  | overLimit {reading : Body.Reading} {response : Response} : reading.text? = none →
      response.status = 413 → DiagramAnswered reading response
  | refused {t : Text} {response : Response} : t.isBlank = true → response.status = 400 →
      Utf8.encode? (Response.jsonObject [("error", "Empty input received")]) =
        some response.body → DiagramAnswered (.text t) response
  | compiled {t : Text} {cs : List Char} : t.isBlank = false →
      Outline.toMermaid t = Text.ofChars cs → (∀ c ∈ cs, c.toNat < 0x80) →
      DiagramAnswered (.text t) (.plain 200 cs)

theorem route_diagram_answered {reading : Body.Reading} (hmethod : r.method = "POST")
    (hfound : Route.ofPath? r.path = some .diagram) (hread : r.read s.maxBodyBytes = .ok reading) :
    ∃ response, route (.standard b s) s r o = ⟨.ok (.ok response), [], o⟩ ∧
      DiagramAnswered reading response := by
  obtain ⟨large, hlarge, hstatus⟩ := exists_tooLarge
  rw [route_of_posted hmethod hfound (by decide), if_pos rfl, onText, hread, hlarge]
  cases reading with
  | declaredTooLarge => exact ⟨large, rfl, .overLimit rfl hstatus⟩
  | tooLarge => exact ⟨large, rfl, .overLimit rfl hstatus⟩
  | text t =>
      cases hblank : t.isBlank with
      | true =>
          obtain ⟨response, hreply, hstatus, hbody⟩ :=
            Reply.exists_ofError 400 "Empty input received"
          exact ⟨response, (diagram_of_blank hblank).trans (by rw [hreply]),
            .refused hblank hstatus hbody⟩
      | false =>
          obtain ⟨cs, hcs, hascii⟩ := Outline.exists_toMermaid_eq t
          exact ⟨_, diagram_of_not_blank hblank hcs, .compiled hblank hcs hascii⟩

/-! ## Statuses -/

/-- What the status of the response to a request to compile says, and what comes with it. -/
structure DiagramAnswer (reading : Body.Reading) (run : Run Reply) (response : Response) : Prop
    extends Screened (fun t => ∀ c ∈ t, c.isBlank = true) (fun t => ∃ c ∈ t, c.isBlank = false)
      "Empty input received" reading response where
  result : run.result = .ok (.ok response)
  /-- No call is made and nothing is logged. -/
  trace : run.trace = []
  status : response.status ∈ [413, 400, 200]
  of_accepted : response.status = 200 → ∃ t cs, reading.text? = some t ∧
    Outline.toMermaid t = Text.ofChars cs ∧ (∀ c ∈ cs, c.toNat < 0x80) ∧
    response.body = Utf8.encode cs ∧
    response.headers.values "content-type" = ["text/plain; charset=utf-8"]

theorem values_contentType_plain (cs : List Char) (s : Settings) (r : Request) :
    ((Response.plain 200 cs).adding (Cors.headers s r)).headers.values "content-type" =
      ["text/plain; charset=utf-8"] := by
  have hlower : "content-length".toLower = "content-length" ∧
      "content-type".toLower = "content-type" := by decide +kernel
  rw [Cors.values_adding _ s r (by decide) (by decide)]
  simp [Response.plain, Response.ofHeaders, Response.isBodiless, Headers.values, Headers.value?,
    hlower]

theorem DiagramAnswered.screened {reading : Body.Reading} {response : Response}
    (h : DiagramAnswered reading response) :
    Screened (fun t => ∀ c ∈ t, c.isBlank = true) (fun t => ∃ c ∈ t, c.isBlank = false)
      "Empty input received" reading response := by
  cases h with
  | overLimit hnone hstatus => exact .of_overLimit hnone hstatus
  | refused hblank hstatus hbody =>
      have hall := List.all_eq_true.1 hblank
      exact .of_refused_text hstatus hbody hall (by simpa using hall)
  | compiled hblank =>
      have hkept := List.all_eq_false.1 hblank
      exact .of_accepted_text rfl (by simpa using hkept) (by simpa using hkept)

theorem DiagramAnswered.diagramAnswer {reading : Body.Reading} {response : Response}
    {run : Run Reply} (h : DiagramAnswered reading response) (s : Settings) (r : Request)
    (hresult : run.result = .ok (.ok (response.adding (Cors.headers s r))))
    (htrace : run.trace = []) :
    DiagramAnswer reading run (response.adding (Cors.headers s r)) where
  toScreened := h.screened.adding _
  result := hresult
  trace := htrace
  status := by
    show response.status ∈ [413, 400, 200]
    cases h with
    | overLimit _ hstatus => simp [hstatus]
    | refused _ hstatus => simp [hstatus]
    | compiled => simp [Response.plain, Response.ofHeaders]
  of_accepted hstatus := by
    replace hstatus : response.status = 200 := hstatus
    cases h with
    | overLimit _ hother => omega
    | refused _ hother => omega
    | compiled _ hcs hascii =>
        exact ⟨_, _, rfl, hcs, hascii, rfl, values_contentType_plain _ s r⟩

/-- With a length that can be read, a request to compile is answered with the status of the first
thing that stands in its way, or with the diagram if nothing does, whatever its text holds and
whatever the browser would do.  What is not answered is a document in JSON that nests too deep. -/
theorem diagram_request_answered (hmethod : r.method = "POST")
    (hfound : Route.ofPath? r.path = some .diagram) (hlength : r.headers.LengthReadable)
    (b : Backend) (s : Settings) (o : Oracle) :
    (∃ nest, r.Overnested s.maxBodyBytes nest ∧
      handle (.standard b s) s r o = ⟨.ok (.error (.unread (.nesting nest))), [], o⟩) ∨
    ∃ reading response, r.read s.maxBodyBytes = .ok reading ∧
      DiagramAnswer reading (handle (.standard b s) s r o) response := by
  obtain ⟨nest, hnest, hread⟩ | ⟨reading, hread⟩ := r.read_cases hlength s.maxBodyBytes
  · exact .inl ⟨nest, hnest, handle_of_unread hmethod hfound (by decide) hread _ o⟩
  · obtain ⟨response, hroute, hanswered⟩ :=
      route_diagram_answered (b := b) (o := o) hmethod hfound hread
    refine .inr ⟨reading, _, hread, hanswered.diagramAnswer s r ?_ ?_⟩
    · exact handle_of_posted hmethod (congrArg Run.result hroute)
    · rw [handle_of_post (.standard b s) s o hmethod, hroute]

/-- An outline in JSON, with half of a surrogate pair in it. -/
def halved : Request where
  server := "test"
  method := "POST"
  target := "/generate-diagram"
  headers := [("content-type", "application/json")]
  body := Utf8.encode "\"1. a\\ud800\"".toList
  room := 900

theorem diagram_request_answered_of_halved :
    Route.ofPath? halved.path = some .diagram ∧ halved.headers.LengthReadable ∧
      halved.read ({} : Settings).maxBodyBytes =
        .ok (.text (Text.ofString "1. a" ++ [.half 0])) ∧
      ∃ response, (handle (.standard (.chromium []) {}) {} halved .calm).result =
          .ok (.ok response) ∧ response.status = 200 ∧
        response.body = Utf8.encode "graph TD\nstep0[\"a\"]\n".toList := by
  have hfound : Route.ofPath? halved.path = some .diagram := by decide +kernel
  have hlength : halved.headers.LengthReadable := .of_undeclared (by decide +kernel)
  have hbody : halved.read ({} : Settings).maxBodyBytes =
      .ok (.text (Text.ofString "1. a" ++ [.half 0])) := by decide +kernel
  obtain ⟨nest, hnest, -⟩ | ⟨reading, response, hread, hanswer⟩ :=
    diagram_request_answered rfl hfound hlength (.chromium []) {} .calm
  · exact absurd hnest.room_lt_openings (by decide +kernel)
  obtain rfl : reading = .text _ := Except.ok.inj (hread.symm.trans hbody)
  have hstatus : response.status = 200 :=
    hanswer.accepted_iff.2 ⟨_, rfl, .char '1', by decide, by decide⟩
  obtain ⟨t, cs, ht, hcs, -, hsent, -⟩ := hanswer.of_accepted hstatus
  cases ht
  refine ⟨hfound, hlength, hbody, response, hanswer.result, hstatus, ?_⟩
  have hmermaid : Outline.toMermaid (Text.ofString "1. a" ++ [.half 0]) =
      Text.ofChars "graph TD\nstep0[\"a\"]\n".toList := by decide +kernel
  have hchars : some cs = some "graph TD\nstep0[\"a\"]\n".toList := by
    rw [← Text.toChars?_ofChars, ← hcs, hmermaid, Text.toChars?_ofChars]
  rw [hsent, Option.some.inj hchars]

/-- More brackets than there is room for are not answered. -/
theorem brackets_not_compiled :
    Route.ofPath? (bracketed "/generate-diagram").path = some .diagram ∧
      (bracketed "/generate-diagram").headers.LengthReadable ∧
      (handle (.standard (.plain []) {}) {} (bracketed "/generate-diagram") .calm).result =
        .ok (.error (.unread (.nesting .array))) := by
  have hfound : Route.ofPath? (bracketed "/generate-diagram").path = some .diagram := by
    decide +kernel
  have hlength : (bracketed "/generate-diagram").headers.LengthReadable :=
    .of_undeclared (by decide +kernel)
  have hread := (Request.read_eq_nesting_iff hlength).2 (overnested_bracketed "/generate-diagram")
  exact ⟨hfound, hlength,
    congrArg Run.result (handle_of_unread rfl hfound (by decide) hread _ _)⟩

end Http

end OutlineChart
