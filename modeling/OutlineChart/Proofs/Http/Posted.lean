import OutlineChart.Http.App
import OutlineChart.Proofs.Browser.Acts
import OutlineChart.Proofs.Http.ReadBody

/-! # Requests to the services

What becomes of a request to compile or to render is decided by what its body is read as and by what
the service then replies.  A reply in JSON is sent unless a surrogate stands alone in one of its
texts.
-/

namespace OutlineChart

open Browser

/-- What is told of a failed render: the message, and behind a colon the details if there are any. -/
def DiagramError.told (e : DiagramError) : Text :=
  if e.details.getD [] = [] then e.message else e.message ++ ": " ++ e.details.getD []

theorem DiagramError.report_eq_told (e : DiagramError) : e.report = e.told := by
  unfold report told remark?
  cases e.details with
  | none => rfl
  | some details => by_cases h : details = [] <;> simp [h, Option.filter]

/-! ## Surrogates in JSON -/

theorem Json.hasHalf_quote {t : Text} : (Json.quote t).HasHalf ↔ t.HasHalf := by
  have hescape : ∀ c unit, CodePoint.half unit ∈ Json.escape c ↔ CodePoint.half unit = c := by
    intro c unit
    cases c with
    | char c => simp [Json.escape, Text.ofChars]
    | half unit' => simp [Json.escape]
  simp [Json.quote, Text.HasHalf, hescape]

theorem Text.hasHalf_intercalate {separator : Text} (h : ¬ separator.HasHalf) (ts : List Text) :
    HasHalf (separator.intercalate ts) ↔ ∃ t ∈ ts, t.HasHalf := by
  induction ts with
  | nil => simp [List.intercalate]
  | cons t ts ih =>
      cases ts with
      | nil => simp [List.intercalate]
      | cons t' ts => simp [List.intercalate_cons_cons, hasHalf_append, h, ih]

namespace Http

/-- An object has the surrogates of its values. -/
theorem Response.hasHalf_jsonObject {fields : List (String × Text)} :
    (jsonObject fields).HasHalf ↔ ∃ field ∈ fields, field.2.HasHalf := by
  have hmark : ∀ c t, Text.HasHalf (.char c :: t) ↔ Text.HasHalf t := by
    intro c t
    simp [Text.HasHalf]
  have hcomma : ¬ Text.HasHalf [.char ','] := by simp [hmark]
  unfold jsonObject
  dsimp only
  rw [List.cons_append, hmark, Text.hasHalf_append, Text.hasHalf_intercalate hcomma, hmark]
  simp [Text.hasHalf_append, Json.hasHalf_quote, hmark]

/-! ## Replies -/

namespace Reply

variable {status : Nat} {fields : List (String × Text)} {reply : Reply}

/-- An object of texts is sent with a status, unless a surrogate stands alone in one of them. -/
inductive Sends (status : Nat) (fields : List (String × Text)) : Reply → Prop
  | sent {response : Response} : response.status = status →
      Utf8.encode? (Response.jsonObject fields) = some response.body →
      Sends status fields (.ok response)
  | unsent : (∃ field ∈ fields, field.2.HasHalf) → Sends status fields (.error .encoding)

theorem sends_json (status : Nat) (fields : List (String × Text)) (own : Headers) :
    (json status fields own).Sends status fields := by
  unfold json text
  cases hbody : Utf8.encode? (Response.jsonObject fields) with
  | some body => exact .sent rfl hbody
  | none => exact .unsent (Response.hasHalf_jsonObject.1 (Utf8.encode?_eq_none_iff.1 hbody))

theorem Sends.adding (h : reply.Sends status fields) (hs : Headers) :
    (reply.adding hs).Sends status fields := by
  cases h with
  | sent hstatus hbody => exact .sent hstatus hbody
  | unsent hhalf => exact .unsent hhalf

theorem Sends.exists_of_intact (h : reply.Sends status fields)
    (hintact : ∀ field ∈ fields, ¬ field.2.HasHalf) :
    ∃ response, reply = .ok response ∧ response.status = status ∧
      Utf8.encode? (Response.jsonObject fields) = some response.body := by
  cases h with
  | sent hstatus hbody => exact ⟨_, rfl, hstatus, hbody⟩
  | unsent hhalf =>
      obtain ⟨field, hfield, hhalf⟩ := hhalf
      exact absurd hhalf (hintact field hfield)

theorem Sends.eq_error_of_half (h : reply.Sends status fields) {field : String × Text}
    (hfield : field ∈ fields) (hhalf : field.2.HasHalf) : reply = .error .encoding := by
  cases h with
  | sent _ hbody =>
      have hnone := Utf8.encode?_eq_none_iff.2 (Response.hasHalf_jsonObject.2 ⟨field, hfield, hhalf⟩)
      rw [hnone] at hbody
      cases hbody
  | unsent => rfl

/-- An error that is told in a string is sent. -/
theorem exists_ofError (status : Nat) (message : String) :
    ∃ response, Reply.ofError status message none = .ok response ∧ response.status = status ∧
      Utf8.encode? (Response.jsonObject [("error", message)]) = some response.body :=
  (sends_json status [("error", message)] []).exists_of_intact (by simp)

end Reply

theorem exists_tooLarge : ∃ response, tooLarge = .ok response ∧ response.status = 413 := by
  obtain ⟨response, hreply, hstatus, -⟩ := Reply.exists_ofError 413 "Request body too large"
  exact ⟨response, hreply, hstatus⟩

/-! ## Services -/

variable {services : Services} {s : Settings} {r : Request} {o : Oracle} {found : Route}

theorem wraps_diagram (services : Services) (t : Text) :
    (diagram services t).Wraps (services.generateDiagram (some t)) := by
  refine ⟨_, rfl, fun ended => ?_⟩
  split
  · exact .result _
  · exact .result _
  · exact .bind (.log _) fun _ => .result _
  · exact .raise _

theorem wraps_pdf (services : Services) (t : Text) :
    (pdf services t).Wraps (services.generatePdf (some t)) := by
  refine ⟨_, rfl, fun ended => ?_⟩
  split
  · exact .result _
  · exact .result _
  · exact .bind (.log _) fun _ => .result _
  · exact .raise _

/-! ## Services that are made to fail -/

/-- Fails with a given failure; without one, does the work. -/
def faulty {α : Type} (fault : Option Failure) (work : Act α) : Act α :=
  match fault with
  | some f => Act.raise (.failure f none)
  | none => work

structure Faults where
  compiler : Option Failure := none
  diagram : Option Failure := none
  pdf : Option Failure := none

def Faults.service (faults : Faults) : Route → Option Failure
  | .health => none
  | .diagram => faults.diagram
  | .pdf => faults.pdf

def Services.faulty (b : Backend) (s : Settings) (faults : Faults) : Services where
  generateDiagram outline := Http.faulty faults.diagram <|
    Service.generateDiagramWith (fun t => Http.faulty faults.compiler (Service.compile t)) outline
  generatePdf code := Http.faulty faults.pdf (Service.generatePdf b s code)

/-! ## Failures of the services -/

variable {t : Text} {f : Failure}

/-- What is told of a failure of the diagram service. -/
inductive DiagramFailureTold : Failure → Nat → List (String × Text) → Prop
  | diagram (e : DiagramError) : DiagramFailureTold (.diagram e) e.status [("error", e.message)]
  | other {f : Failure} : (∀ e, f ≠ .diagram e) →
      DiagramFailureTold f 500 [("error", "Diagram error: " ++ f.text)]

theorem diagram_of_failed {cause : Option Failure}
    (h : (services.generateDiagram (some t) o).result = .error (.failure f cause)) :
    ∃ status fields, DiagramFailureTold f status fields ∧
      (diagram services t o).result = .ok (.json status fields) := by
  unfold diagram
  rw [Act.result_attempt_bind, h]
  cases f with
  | diagram e => exact ⟨_, _, .diagram e, rfl⟩
  | _ => exact ⟨_, _, .other (by simp), rfl⟩

/-- What is told of a failure of the PDF service. -/
inductive PdfFailureTold : Failure → Nat → List (String × Text) → Prop
  | render {e : DiagramError} : e.isRender = true →
      PdfFailureTold (.diagram e) e.status
        [("error", "PDF generation failed"), ("details", e.told)]
  | diagram {e : DiagramError} : e.isRender = false →
      PdfFailureTold (.diagram e) e.status
        (("error", e.message) :: (e.details.map fun details => ("details", details)).toList)
  | other {f : Failure} : (∀ e, f ≠ .diagram e) →
      PdfFailureTold f 500 [("error", "PDF generation failed"), ("details", f.text)]

theorem pdfError_told (e : DiagramError) :
    ∃ status fields, PdfFailureTold (.diagram e) status fields ∧
      pdfError e = .json status fields := by
  unfold pdfError
  cases hrender : e.isRender with
  | true =>
      rw [if_pos rfl, e.report_eq_told]
      exact ⟨_, _, .render hrender, rfl⟩
  | false =>
      rw [if_neg Bool.false_ne_true]
      exact ⟨_, _, .diagram hrender, rfl⟩

theorem pdf_of_failed {cause : Option Failure}
    (h : (services.generatePdf (some t) o).result = .error (.failure f cause)) :
    ∃ status fields, PdfFailureTold f status fields ∧
      (pdf services t o).result = .ok (.json status fields) := by
  unfold pdf
  rw [Act.result_attempt_bind, h]
  cases f with
  | diagram e =>
      obtain ⟨status, fields, htold, hreply⟩ := pdfError_told e
      refine ⟨status, fields, htold, ?_⟩
      rw [← hreply]
      rfl
  | _ => exact ⟨_, _, .other (by simp), rfl⟩

/-! ## Routes -/

theorem route_of_posted (hmethod : r.method = "POST") (hfound : Route.ofPath? r.path = some found)
    (hservice : found ≠ .health) : route services s r =
      onText s r (if found = .diagram then diagram services else pdf services) := by
  unfold route
  rw [hfound]
  cases found with
  | health => exact absurd rfl hservice
  | diagram => simp [Route.method, hmethod]
  | pdf => simp [Route.method, hmethod]

theorem handle_of_post (services : Services) (s : Settings) (o : Oracle)
    (hmethod : r.method = "POST") :
    handle services s r o =
      ⟨(route services s r o).result.map fun reply => reply.adding (Cors.headers s r),
        (route services s r o).trace, (route services s r o).rest⟩ := by
  have hpreflight : Cors.preflight? r = none := by
    unfold Cors.preflight?
    rw [if_neg (by simp [hmethod])]
  unfold handle
  rw [hpreflight]
  exact Act.bind_pure_map_apply _ _ o

theorem handle_of_posted {reply : Reply} (hmethod : r.method = "POST")
    (h : (route services s r o).result = .ok reply) :
    (handle services s r o).result = .ok (reply.adding (Cors.headers s r)) := by
  rw [handle_of_post services s o hmethod, h]
  rfl

/-- What leaves a body unread leaves its request without an answer, before anything is done. -/
theorem handle_of_unread (hmethod : r.method = "POST")
    (hfound : Route.ofPath? r.path = some found) (hservice : found ≠ .health)
    {obstacle : Body.Obstacle} (h : r.read s.maxBodyBytes = .error obstacle)
    (services : Services) (o : Oracle) :
    handle services s r o = ⟨.ok (.error (.unread obstacle)), [], o⟩ := by
  rw [handle_of_post services s o hmethod, route_of_posted hmethod hfound hservice, onText, h]
  rfl

/-! ## Requests within the limit -/

variable {content : Bytes} {cs spelled : List Char}

/-- A request that posts bytes within the limit, and declares no length that is over it or cannot be
read. -/
structure Request.Posts (r : Request) (s : Settings) (found : Route) (content : Bytes) : Prop where
  method : r.method = "POST"
  route : Route.ofPath? r.path = some found
  body : r.body = content
  within : content.length ≤ s.maxBodyBytes
  readable : r.headers.LengthReadable
  notOver : ¬ r.headers.DeclaresOver s.maxBodyBytes

/-- Without a declared length, there is none to stand in the way. -/
theorem Request.Posts.of_undeclared (hmethod : r.method = "POST")
    (hroute : Route.ofPath? r.path = some found) (hwithin : r.body.length ≤ s.maxBodyBytes)
    (hnone : r.headers.value? "content-length" = none) : r.Posts s found r.body where
  method := hmethod
  route := hroute
  body := rfl
  within := hwithin
  readable := .of_undeclared hnone
  notOver := Headers.not_declaresOver_of_undeclared hnone _

theorem Request.Posts.read_of_interpret (h : r.Posts s found (Utf8.encode cs)) {t : Text}
    (ht : Body.interpret r.room r.headers cs = .ok t) : r.read s.maxBodyBytes = .ok (.text t) := by
  rw [Request.read, Body.read_of_not_declaresOver h.readable h.notOver, h.body,
    if_neg (Int.not_lt.2 h.within), Utf8.decode_encode, ht]

theorem Request.Posts.read_json (h : r.Posts s found (Utf8.encode spelled))
    (hjson : r.headers.DeclaresJson) (hspelled : Json.StringDocument spelled (Text.ofChars cs)) :
    r.read s.maxBodyBytes = .ok (.text (Text.ofChars cs)) :=
  h.read_of_interpret (Body.PassedOn.unwrapped hjson hspelled).interpret_eq

theorem Request.Posts.read_plain (h : r.Posts s found (Utf8.encode cs))
    (hplain : ¬ r.headers.DeclaresJson) :
    r.read s.maxBodyBytes = .ok (.text (Text.ofChars cs)) :=
  h.read_of_interpret (if_neg (hplain ∘ Body.isJson_iff.1))

/-- A body within the limit is a text, unless there is no room for it. -/
theorem Request.Posts.read_cases (h : r.Posts s found content) :
    (∃ nest, r.Overnested s.maxBodyBytes nest ∧ r.read s.maxBodyBytes = .error (.nesting nest)) ∨
      ∃ t, r.read s.maxBodyBytes = .ok (.text t) := by
  obtain hnest | ⟨reading, hread⟩ := Request.read_cases h.readable s.maxBodyBytes
  · exact .inl hnest
  · have hreads := (Body.readsAs_iff h.readable).2 hread
    have hwithin : ¬ s.maxBodyBytes < r.body.length := by
      rw [h.body]
      exact Int.not_lt.2 h.within
    cases hreads with
    | declaredTooLarge hover => exact absurd hover h.notOver
    | tooLarge _ hlarge => exact absurd hlarge hwithin
    | text => exact .inr ⟨_, hread⟩

/-- A text to be rendered, sent without a length. -/
def rendering : Request where
  server := "test"
  method := "POST"
  target := "/generate-pdf"
  headers := [("content-type", "text/plain")]
  body := Utf8.encode "graph TD".toList
  room := 900

def outlined (contentType : String) (cs : List Char) : Request where
  server := "test"
  method := "POST"
  target := "/generate-diagram"
  headers := [("content-type", contentType)]
  body := Utf8.encode cs
  room := 900

/-! ## Statuses -/

/-- What a status says about a request of which some texts are refused with a message and some are
accepted. -/
structure Screened (refuses accepts : Text → Prop) (message : Text) (reading : Body.Reading)
    (response : Response) : Prop where
  tooLarge_iff : response.status = 413 ↔ reading.text? = none
  refused_iff : response.status = 400 ↔ ∃ t, reading.text? = some t ∧ refuses t
  of_refused : response.status = 400 →
    Utf8.encode? (Response.jsonObject [("error", message)]) = some response.body
  accepted_iff : response.status = 200 ↔ ∃ t, reading.text? = some t ∧ accepts t

namespace Screened

variable {refuses accepts : Text → Prop} {message : Text} {reading : Body.Reading}
  {response : Response} {t : Text}

theorem of_overLimit (hnone : reading.text? = none) (hstatus : response.status = 413) :
    Screened refuses accepts message reading response where
  tooLarge_iff := iff_of_true hstatus hnone
  refused_iff := iff_of_false (by omega) (by simp [hnone])
  of_refused h := absurd h (by omega)
  accepted_iff := iff_of_false (by omega) (by simp [hnone])

/-- A status and a body say the same with further headers. -/
theorem adding (h : Screened refuses accepts message reading response) (hs : Headers) :
    Screened refuses accepts message reading (response.adding hs) := { h with }

theorem of_text (hreceived : response.status ≠ 413) (hrefused : response.status = 400 ↔ refuses t)
    (hbody : response.status = 400 →
      Utf8.encode? (Response.jsonObject [("error", message)]) = some response.body)
    (haccepted : response.status = 200 ↔ accepts t) :
    Screened refuses accepts message (.text t) response where
  tooLarge_iff := iff_of_false hreceived (by simp [Body.Reading.text?])
  refused_iff := by simpa [Body.Reading.text?] using hrefused
  of_refused := hbody
  accepted_iff := by simpa [Body.Reading.text?] using haccepted

theorem of_refused_text (hstatus : response.status = 400)
    (hbody : Utf8.encode? (Response.jsonObject [("error", message)]) = some response.body)
    (hrefuses : refuses t) (haccepts : ¬ accepts t) :
    Screened refuses accepts message (.text t) response :=
  of_text (by omega) (iff_of_true hstatus hrefuses) (fun _ => hbody)
    (iff_of_false (by omega) haccepts)

theorem of_accepted_text (hstatus : response.status = 200) (hrefuses : ¬ refuses t)
    (haccepts : accepts t) : Screened refuses accepts message (.text t) response :=
  of_text (by omega) (iff_of_false (by omega) hrefuses) (fun h => absurd h (by omega))
    (iff_of_true hstatus haccepts)

theorem of_failed_text (hstatus : response.status = 500) (hrefuses : ¬ refuses t)
    (haccepts : ¬ accepts t) : Screened refuses accepts message (.text t) response :=
  of_text (by omega) (iff_of_false (by omega) hrefuses) (fun h => absurd h (by omega))
    (iff_of_false (by omega) haccepts)

end Screened

end Http

end OutlineChart
