import OutlineChart.Proofs.Http.Posted
import OutlineChart.Proofs.Outline.NoInjection
import OutlineChart.Proofs.Render.Ordinary

/-! # Which requests are answered

Whatever fails in a service is answered with a status of its own.  Four things are not: a declared
length of digits that cannot be read as a number, a document in JSON that nests too deep, a document
whose name cannot be written into a header, and a failure that is told with a surrogate alone in it.
-/

namespace OutlineChart

open Browser

namespace Http
open Failure Render

variable {b : Backend} {s : Settings} {r : Request} {o : Oracle} {found : Route} {spoilt : Prop}

/-! ## What services fail with -/

theorem settles_faulty {α : Type} {R F : Failure → Prop} {P : α → Prop} {fault : Option Failure}
    (hfault : ∀ f ∈ fault, F f) {work : Act α} (h : work.Settles R P F) :
    (faulty fault work).Settles R P F := by
  cases fault with
  | some f => exact .failure none (hfault f rfl)
  | none => exact h

variable {faults : Faults}

/-- What may fail behind a route: its service, and what the service works with. -/
inductive MayFail (faults : Faults) (o : Oracle) : Route → Failure → Prop
  | service {found : Route} {f : Failure} : f ∈ faults.service found → MayFail faults o found f
  | compiler {f : Failure} : f ∈ faults.compiler → MayFail faults o .diagram f
  | call {name : CallName} {k : Nat} {f : Failure} : o name k = .fail f → MayFail faults o .pdf f

/-- Something that may fail may be told with a surrogate alone in it. -/
def Spoilt (faults : Faults) (found : Route) (o : Oracle) : Prop :=
  ∃ f, MayFail faults o found f ∧ ¬ f.Intact

theorem MayFail.excused {f : Failure} (h : MayFail faults o found f) :
    f.Excused (Spoilt faults found o) := by
  by_cases hintact : f.Intact
  · exact .inl hintact
  · exact .inr ⟨f, h, hintact⟩

theorem settles_faulty_generateDiagram (hcompiler : ∀ f ∈ faults.compiler, f.Excused spoilt)
    (R : Failure → Prop) (b : Backend) (s : Settings) (outline : Option Text) :
    ((Services.faulty b s faults).generateDiagram outline).Settles R
      (fun mermaid => ∃ cs, mermaid = Text.ofChars cs)
      fun f => f ∈ faults.service .diagram ∨ Told spoilt f := by
  have hcompile : ∀ t, (Service.compile t).Settles R
      (fun mermaid => ∃ cs, mermaid = Text.ofChars cs) (Excused spoilt) := by
    intro t
    obtain ⟨cs, hcs, -⟩ := Outline.exists_toMermaid_eq t
    exact .result ⟨cs, hcs⟩
  have hservice := Service.settles_generateDiagramWith
    (fun t => settles_faulty hcompiler (hcompile t)) outline
  exact settles_faulty (fun _ => .inl) (hservice.imp_failure fun _ => .inr)

theorem settles_faulty_generatePdf (hb : b.Settles (Excused spoilt)) (s : Settings)
    (faults : Faults) (code : Option Text) :
    ((Services.faulty b s faults).generatePdf code).Settles (Excused spoilt)
      (fun document => document.filename = s.pdfFilename)
      fun f => f ∈ faults.service .pdf ∨ Told spoilt f :=
  settles_faulty (fun _ => .inl) ((Service.settles_generatePdf hb s code).imp_failure fun _ => .inr)

/-! ## Answers -/

def answerStatuses : List Nat := [200, 400, 413, 500]

/-- What becomes of a request whose body is read. -/
inductive Replied (s : Settings) (found : Route) (faults : Faults) (o : Oracle) : Reply → Prop
  | answered {response : Response} : (response.status ∈ answerStatuses ∨
      ∃ e, faults.service found = some (.diagram e) ∧ response.status = e.status) →
      Replied s found faults o (.ok response)
  | unnamed : found = .pdf → isLatin1 s.pdfFilename = false →
      Replied s found faults o (.error .encoding)
  | spoilt : Spoilt faults found o → Replied s found faults o (.error .encoding)

theorem replied_tooLarge : Replied s found faults o tooLarge := by
  obtain ⟨response, hreply, hstatus⟩ := exists_tooLarge
  rw [hreply]
  exact .answered (.inl (by simp [hstatus, answerStatuses]))

/-- A failure is told with its own status or that of the server, and with texts of its own. -/
theorem replied_of_failed {f : Failure}
    (hf : f ∈ faults.service found ∨ Told (Spoilt faults found o) f) {status : Nat}
    (hstatus : (∃ e, f = .diagram e ∧ status = e.status) ∨ status = 500)
    {fields : List (String × Text)} (hfields : f.Intact → ∀ field ∈ fields, ¬ field.2.HasHalf) :
    Replied s found faults o (.json status fields) := by
  have hsends := Reply.sends_json status fields []
  generalize Reply.json status fields = reply at hsends
  cases hsends with
  | @sent response hresponse _ =>
      refine .answered ?_
      rw [hresponse]
      rcases hstatus with ⟨e, rfl, rfl⟩ | rfl
      · rcases hf with hfault | ⟨e', he, htold, -⟩
        · exact .inr ⟨e, hfault, rfl⟩
        · cases he
          rcases htold with h | h <;> simp [h, answerStatuses]
      · exact .inl (by simp [answerStatuses])
  | unsent hhalf =>
      obtain ⟨field, hfield, hhalf⟩ := hhalf
      have hexcused : f.Excused (Spoilt faults found o) := by
        rcases hf with hfault | ⟨-, -, -, hexcused⟩
        · exact (MayFail.service hfault).excused
        · exact hexcused
      rcases hexcused with hintact | hspoilt
      · exact absurd hhalf (hfields hintact field hfield)
      · exact .spoilt hspoilt

theorem DiagramFailureTold.status {f : Failure} {status : Nat} {fields : List (String × Text)}
    (h : DiagramFailureTold f status fields) :
    (∃ e, f = .diagram e ∧ status = e.status) ∨ status = 500 := by
  cases h with
  | diagram e => exact .inl ⟨e, rfl, rfl⟩
  | other => exact .inr rfl

theorem DiagramFailureTold.intact {f : Failure} {status : Nat} {fields : List (String × Text)}
    (h : DiagramFailureTold f status fields) (hf : f.Intact) :
    ∀ field ∈ fields, ¬ field.2.HasHalf := by
  cases h with
  | diagram e => simpa using (intact_diagram_iff.1 hf).1
  | other => simpa [Text.hasHalf_append] using hf.text

theorem PdfFailureTold.status {f : Failure} {status : Nat} {fields : List (String × Text)}
    (h : PdfFailureTold f status fields) :
    (∃ e, f = .diagram e ∧ status = e.status) ∨ status = 500 := by
  cases h with
  | render => exact .inl ⟨_, rfl, rfl⟩
  | diagram => exact .inl ⟨_, rfl, rfl⟩
  | other => exact .inr rfl

theorem PdfFailureTold.intact {f : Failure} {status : Nat} {fields : List (String × Text)}
    (h : PdfFailureTold f status fields) (hf : f.Intact) :
    ∀ field ∈ fields, ¬ field.2.HasHalf := by
  cases h with
  | @render e =>
      have hreport := hf.report
      rw [e.report_eq_told] at hreport
      simpa using hreport
  | @diagram e =>
      obtain ⟨hmessage, hdetails⟩ := intact_diagram_iff.1 hf
      intro field hfield
      rcases List.mem_cons.1 hfield with rfl | hfield
      · exact hmessage
      · obtain ⟨details, hmem, rfl⟩ := Option.map_eq_some_iff.1 (Option.mem_toList.1 hfield)
        exact hdetails details hmem
  | other => simpa using hf.text

theorem diagram_replies (ho : o.Ordinary) (b : Backend) (s : Settings) (faults : Faults)
    (t : Text) : ∃ reply, (diagram (.faulty b s faults) t o).result = .ok reply ∧
      Replied s .diagram faults o reply := by
  have hfails : o.FailsWith fun _ => True := ho.failsWith fun _ _ _ _ => trivial
  obtain ⟨hended, -⟩ := settles_faulty_generateDiagram
    (fun f hf => (MayFail.compiler hf).excused) _ b s (some t) hfails
  generalize hresult : ((Services.faulty b s faults).generateDiagram (some t) o).result = ended
    at hended
  cases hended with
  | ok hchars =>
      obtain ⟨cs, rfl⟩ := hchars
      refine ⟨.plain 200 (Text.ofChars cs), ?_, ?_⟩
      · unfold diagram
        rw [Act.result_attempt_bind, hresult]
        rfl
      · rw [Reply.plain, Reply.text, Utf8.encode?_ofChars]
        exact .answered (.inl (by simp [answerStatuses, Response.ofHeaders]))
  | failure cause hf =>
      obtain ⟨status, fields, htold, hreply⟩ := diagram_of_failed hresult
      exact ⟨_, hreply, replied_of_failed hf htold.status htold.intact⟩

theorem pdf_replies (ho : o.Ordinary) (hb : b.Settles (Excused (Spoilt faults .pdf o)))
    (s : Settings) (t : Text) : ∃ reply, (pdf (.faulty b s faults) t o).result = .ok reply ∧
      Replied s .pdf faults o reply := by
  have hfails : o.FailsWith (Excused (Spoilt faults .pdf o)) :=
    ho.failsWith fun _ _ _ hfail => (MayFail.call hfail).excused
  obtain ⟨hended, -⟩ := settles_faulty_generatePdf hb s faults (some t) hfails
  generalize hresult : ((Services.faulty b s faults).generatePdf (some t) o).result = ended
    at hended
  cases hended with
  | @ok document hname =>
      refine ⟨pdfReply document, ?_, ?_⟩
      · unfold pdf
        rw [Act.result_attempt_bind, hresult]
        rfl
      · rw [pdfReply, hname]
        split
        · exact .answered (.inl (by simp [answerStatuses, Response.ofHeaders]))
        · next hlatin => exact .unnamed rfl (Bool.not_eq_true _ ▸ hlatin)
  | failure cause hf =>
      obtain ⟨status, fields, htold, hreply⟩ := pdf_of_failed hresult
      exact ⟨_, hreply, replied_of_failed hf htold.status htold.intact⟩

/-! ## Requests -/

inductive Accounted (s : Settings) (r : Request) (found : Route) (faults : Faults) (o : Oracle) :
    Reply → Prop
  | read {reply : Reply} : r.headers.LengthReadable →
      (∀ nest, ¬ r.Overnested s.maxBodyBytes nest) → Replied s found faults o reply →
      Accounted s r found faults o reply
  | unreadable {e : Body.LengthError} : Body.declared? r.headers = .error e →
      Accounted s r found faults o (.error (.unread (.length e)))
  | overnested {nest : Json.Nest} : r.headers.LengthReadable → r.Overnested s.maxBodyBytes nest →
      Accounted s r found faults o (.error (.unread (.nesting nest)))

theorem Replied.adding {reply : Reply} (h : Replied s found faults o reply) (hs : Headers) :
    Replied s found faults o (reply.adding hs) := by
  cases h with
  | answered hstatus => exact .answered hstatus
  | unnamed hfound hlatin => exact .unnamed hfound hlatin
  | spoilt h => exact .spoilt h

/-- What is replied to the text of a body is all that its route replies. -/
theorem onText_replies {answer : Text → Act Reply} {reading : Body.Reading}
    (hread : r.read s.maxBodyBytes = .ok reading)
    (h : ∀ t, ∃ reply, (answer t o).result = .ok reply ∧ Replied s found faults o reply) :
    ∃ reply, (onText s r answer o).result = .ok reply ∧ Replied s found faults o reply := by
  rw [onText, hread]
  cases reading with
  | declaredTooLarge => exact ⟨_, rfl, replied_tooLarge⟩
  | tooLarge => exact ⟨_, rfl, replied_tooLarge⟩
  | text t => exact h t

/-- Whatever calls and services fail with, a request to compile or to render is answered with a
status of the services' own, or of an error that its service is made to fail with.  Only a declared
length that cannot be read as a number, a document in JSON that nests too deep, the name of a
document that is not Latin-1, and a surrogate alone in what a failure is told with leave it without
an answer. -/
theorem handle_accounts_for_posted {r : Request} {found : Route} (hmethod : r.method = "POST")
    (hfound : Route.ofPath? r.path = some found) (hservice : found ≠ .health) (ho : o.Ordinary)
    (content : Bytes) (hb : b = .plain content ∨ b = .chromium content) (s : Settings)
    (faults : Faults) :
    ∃ reply, (handle (.faulty b s faults) s r o).result = .ok reply ∧
      Accounted s r found faults o reply := by
  have hsettles : ∀ spoilt, b.Settles (Excused spoilt) := by
    intro spoilt
    rcases hb with rfl | rfl
    · exact Backend.plain_settles _ content
    · exact Backend.chromium_settles (lapsing_excused spoilt) content
  cases hread : r.read s.maxBodyBytes with
  | error obstacle =>
      have hcrash := handle_of_unread hmethod hfound hservice hread (.faulty b s faults) o
      refine ⟨_, congrArg Run.result hcrash, ?_⟩
      cases obstacle with
      | length e => exact .unreadable (Body.read_eq_length_iff.1 hread)
      | nesting nest =>
          have hlength := Request.lengthReadable_of_read hread (by simp)
          exact .overnested hlength ((Request.read_eq_nesting_iff hlength).1 hread)
  | ok reading =>
      have hlength := Request.lengthReadable_of_read hread (by simp)
      have hroom : ∀ nest, ¬ r.Overnested s.maxBodyBytes nest := by
        intro nest hnest
        rw [(Request.read_eq_nesting_iff hlength).2 hnest] at hread
        cases hread
      obtain ⟨reply, hreply, hreplied⟩ : ∃ reply,
          (route (.faulty b s faults) s r o).result = .ok reply ∧
            Replied s found faults o reply := by
        rw [route_of_posted hmethod hfound hservice]
        cases found with
        | health => exact absurd rfl hservice
        | diagram => exact onText_replies hread (diagram_replies ho b s faults)
        | pdf => exact onText_replies hread (pdf_replies ho (hsettles _) s)
      exact ⟨_, handle_of_posted hmethod hreply, .read hlength hroom (hreplied.adding _)⟩

/-- A page that cannot be photographed in a browser that cannot be closed. -/
def stubborn : Oracle
  | .capturePage, _ => .fail (.driverTimeout "no picture")
  | .closeBrowser, _ => .fail (.driver "stuck")
  | _, _ => .success

theorem not_spoilt_stubborn : ¬ Spoilt {} .pdf stubborn := by
  rintro ⟨f, hf, hspoilt⟩
  cases hf with
  | service hfault => cases hfault
  | @call name k _ hfail =>
      refine hspoilt ?_
      cases name <;> cases hfail <;> simp [intact_iff_of_ne_diagram, text]

theorem handle_accounts_for_posted_of_stubborn :
    (∀ name k, stubborn name k ≠ .cancel ∧ stubborn name k ≠ .hang) ∧
      ∃ response, (handle (.faulty (.chromium []) {} {}) {} rendering stubborn).result =
        .ok (.ok response) ∧ response.status ∈ [200, 400, 413, 500] := by
  have ho : stubborn.Ordinary := by
    intro name k
    cases name <;> simp [stubborn]
  have hfound : Route.ofPath? rendering.path = some .pdf := by decide +kernel
  have hundeclared : rendering.headers.value? "content-length" = none := by decide +kernel
  obtain ⟨declared, hdeclared⟩ :=
    Body.lengthReadable_iff.1 (Headers.LengthReadable.of_undeclared hundeclared)
  have hplain : ¬ rendering.headers.DeclaresJson := by decide +kernel
  have hlatin : isLatin1 ({} : Settings).pdfFilename = true := by decide +kernel
  obtain ⟨reply, hresult, haccounted⟩ := handle_accounts_for_posted (b := .chromium []) rfl hfound
    (by decide) ho [] (.inr rfl) {} {}
  refine ⟨ho, ?_⟩
  cases haccounted with
  | unreadable hunread =>
      rw [hdeclared] at hunread
      cases hunread
  | overnested _ hnest => exact absurd hnest.json hplain
  | read _ _ hreplied =>
      cases hreplied with
      | unnamed _ hforeign =>
          rw [hlatin] at hforeign
          cases hforeign
      | spoilt hspoilt => exact absurd hspoilt not_spoilt_stubborn
      | @answered response hstatus =>
          rcases hstatus with hstatus | ⟨e, hfault, -⟩
          · exact ⟨response, hresult, hstatus⟩
          · cases hfault

/-- An outline sent with a length in superscript. -/
def superscript : Request where
  server := "test"
  method := "POST"
  target := "/generate-diagram"
  headers := [("content-length", "¹")]
  body := Utf8.encode "1. a".toList
  room := 900

/-- Such a request is not answered, though nothing fails. -/
theorem superscript_unanswered :
    (handle (.standard (.plain []) {}) {} superscript .calm).result =
      .ok (.error (.unread (.length (.notDecimal "¹")))) := by
  have hfound : Route.ofPath? superscript.path = some .diagram := by decide +kernel
  have hvalue : superscript.headers.value? "content-length" = some "¹" := by decide +kernel
  have hlength : Body.declared? superscript.headers = .error (.notDecimal "¹") := by
    unfold Body.declared?
    rw [hvalue]
    rfl
  have hread : superscript.read ({} : Settings).maxBodyBytes =
      .error (.length (.notDecimal "¹")) := Body.read_eq_length_iff.2 hlength
  exact congrArg Run.result (handle_of_unread rfl hfound (by decide) hread _ _)

end Http

end OutlineChart
