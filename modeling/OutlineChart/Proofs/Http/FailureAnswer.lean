import OutlineChart.Proofs.Http.Posted

/-! # Answers to failures

Whatever a service fails with, and wherever the failure comes from, the answer follows from the
failure alone.  The compiler's are told as the service's own, whatever they were; the services' are
told apart by kind: diagram errors with their status, those of a render under one headline, and
anything else as an error of the server.
-/

namespace OutlineChart

open Browser

def Browser.Act.FailsWith {α : Type} (x : Act α) (o : Oracle) (f : Failure) : Prop :=
  ∃ cause, (x o).result = .error (.failure f cause)

namespace Service

variable {compile : Text → Act Text} {t : Text} {f : Failure} {o : Oracle}

/-- Blank text does not reach the compiler. -/
theorem generateDiagramWith_of_blank (h : t.isBlank = true) (compile : Text → Act Text)
    (o : Oracle) :
    generateDiagramWith compile (some t) o = ⟨.error (.diagram emptyInput), [], o⟩ := by
  unfold generateDiagramWith
  rw [Option.getD_some, if_pos h]
  rfl

/-- Whatever the compiler fails with is told as an error of the service. -/
theorem generateDiagramWith_of_failed (hblank : t.isBlank = false) {cause : Option Failure}
    (h : (compile t o).result = .error (.failure f cause)) :
    generateDiagramWith compile (some t) o =
      ⟨.error (.diagramFrom f (compilationError f)),
        (compile t o).trace ++ [.logged .compilationFailed], (compile t o).rest⟩ := by
  unfold generateDiagramWith
  rw [Option.getD_some, hblank, if_neg Bool.false_ne_true, Act.attempt_bind_apply, h]
  rfl

end Service

namespace Http

variable {services : Services} {s : Settings} {found : Route} {r : Request} {o : Oracle}
  {content : Bytes} {t : Text} {f : Failure}

/-- A request is answered with a status and an object of texts, unless these cannot be sent. -/
def AnsweredWith (run : Run Reply) (status : Nat) (fields : List (String × Text)) : Prop :=
  ∃ reply, run.result = .ok reply ∧ reply.Sends status fields

/-- What is told of the text of a request is told of the request. -/
theorem answeredWith_of_posts (h : r.Posts s found content) (hservice : found ≠ .health)
    (hread : r.read s.maxBodyBytes = .ok (.text t)) {status : Nat}
    {fields : List (String × Text)}
    (htext : ((if found = .diagram then diagram services else pdf services) t o).result =
      .ok (.json status fields)) :
    AnsweredWith (handle services s r o) status fields := by
  have hroute : (route services s r o).result = .ok (.json status fields) := by
    rw [route_of_posted h.method h.route hservice, onText, hread]
    exact htext
  exact ⟨_, handle_of_posted h.method hroute, (Reply.sends_json status fields []).adding _⟩

theorem answered_of_failed_diagram (h : r.Posts s .diagram content)
    (hread : r.read s.maxBodyBytes = .ok (.text t))
    (hfails : (services.generateDiagram (some t)).FailsWith o f) :
    ∃ status fields, DiagramFailureTold f status fields ∧
      AnsweredWith (handle services s r o) status fields := by
  obtain ⟨cause, hresult⟩ := hfails
  obtain ⟨status, fields, htold, hdiagram⟩ := diagram_of_failed hresult
  exact ⟨status, fields, htold, answeredWith_of_posts h (by decide) hread hdiagram⟩

theorem answered_of_failed_pdf (h : r.Posts s .pdf content)
    (hread : r.read s.maxBodyBytes = .ok (.text t))
    (hfails : (services.generatePdf (some t)).FailsWith o f) :
    ∃ status fields, PdfFailureTold f status fields ∧
      AnsweredWith (handle services s r o) status fields := by
  obtain ⟨cause, hresult⟩ := hfails
  obtain ⟨status, fields, htold, hpdf⟩ := pdf_of_failed hresult
  exact ⟨status, fields, htold, answeredWith_of_posts h (by decide) hread hpdf⟩

/-- A diagram error of the diagram service is told with its status and its message. -/
theorem answered_of_diagramError (h : r.Posts s .diagram content)
    (hread : r.read s.maxBodyBytes = .ok (.text t)) {e : DiagramError}
    (hfails : (services.generateDiagram (some t)).FailsWith o (.diagram e)) :
    AnsweredWith (handle services s r o) e.status [("error", e.message)] := by
  obtain ⟨status, fields, htold, hanswer⟩ := answered_of_failed_diagram h hread hfails
  cases htold with
  | diagram => exact hanswer
  | other hforeign => exact absurd rfl (hforeign e)

/-! ## Failures of the compiler -/

/-- How the service ends on a text that the compiler fails on, and how a request for it is answered
by what runs. -/
structure CompilerFailureTold (compile : Text → Act Text) (t : Text) (f : Failure) (o : Oracle)
    (run : Run Reply) : Prop where
  result : (Service.generateDiagramWith compile (some t) o).result =
    .error (.failure (.diagram (.plain .internal ("Diagram error: " ++ f.text) (some f.text)))
      (some f))
  /-- One error is logged, behind whatever the compiler logs. -/
  logs : ∃ record : Log.Record, record.level = .error ∧
    (Service.generateDiagramWith compile (some t) o).logs = (compile t o).logs ++ [record]
  answer : AnsweredWith run 500 [("error", "Diagram error: " ++ f.text)]

/-- The wrapped failure is a diagram error like any other, so the service's answer is known. -/
theorem compilerFailureTold_of_posts (h : r.Posts s .diagram content)
    (hread : r.read s.maxBodyBytes = .ok (.text t))
    (hblank : t.isBlank = false) (compile : Text → Act Text)
    (generatePdf : Option Text → Act Render.Document) (hfails : (compile t).FailsWith o f) :
    CompilerFailureTold compile t f o
      (handle ⟨Service.generateDiagramWith compile, generatePdf⟩ s r o) := by
  obtain ⟨cause, hresult⟩ := hfails
  have hended := Service.generateDiagramWith_of_failed hblank hresult
  have hwrapped : (Service.generateDiagramWith compile (some t)).FailsWith o
      (.diagram (Service.compilationError f)) := ⟨some f, congrArg Run.result hended⟩
  have hanswer : AnsweredWith (handle ⟨Service.generateDiagramWith compile, generatePdf⟩ s r o)
      (Service.compilationError f).status [("error", (Service.compilationError f).message)] :=
    answered_of_diagramError h hread hwrapped
  exact {
    result := congrArg Run.result hended
    logs := by
      refine ⟨.compilationFailed, rfl, ?_⟩
      rw [hended, Run.logs, List.filterMap_append]
      rfl
    answer := hanswer }

/-- What is made of a failure on the text of a request. -/
structure FailureTold (s : Settings) (r : Request) (found : Route) (t : Text) (f : Failure)
    (o : Oracle) : Prop where
  of_compiler : found = .diagram → t.isBlank = false → ∀ compile generatePdf,
    (compile t).FailsWith o f → CompilerFailureTold compile t f o
      (handle ⟨Service.generateDiagramWith compile, generatePdf⟩ s r o)
  /-- Blank text does not even reach the compiler. -/
  of_blank : found = .diagram → t.isBlank = true → ∀ compile generatePdf,
    Service.generateDiagramWith compile (some t) o =
        ⟨.error (.diagram Service.emptyInput), [], o⟩ ∧
      AnsweredWith (handle ⟨Service.generateDiagramWith compile, generatePdf⟩ s r o) 400
        [("error", "Empty input received")]
  of_diagram : found = .diagram → ∀ services : Services,
    (services.generateDiagram (some t)).FailsWith o f → ∃ status fields,
      DiagramFailureTold f status fields ∧ AnsweredWith (handle services s r o) status fields
  of_pdf : found = .pdf → ∀ services : Services,
    (services.generatePdf (some t)).FailsWith o f → ∃ status fields,
      PdfFailureTold f status fields ∧ AnsweredWith (handle services s r o) status fields

theorem failureTold_of_posts (h : r.Posts s found content)
    (hread : r.read s.maxBodyBytes = .ok (.text t)) (f : Failure) (o : Oracle) :
    FailureTold s r found t f o where
  of_compiler := by
    rintro rfl hblank compile generatePdf hfails
    exact compilerFailureTold_of_posts h hread hblank compile generatePdf hfails
  of_blank := by
    rintro rfl hblank compile generatePdf
    have hended := Service.generateDiagramWith_of_blank hblank compile o
    have hrefused : (Service.generateDiagramWith compile (some t)).FailsWith o
        (.diagram Service.emptyInput) := ⟨none, congrArg Run.result hended⟩
    have hanswer : AnsweredWith (handle ⟨Service.generateDiagramWith compile, generatePdf⟩ s r o)
        Service.emptyInput.status [("error", Service.emptyInput.message)] :=
      answered_of_diagramError h hread hrefused
    exact ⟨hended, hanswer⟩
  of_diagram := by
    rintro rfl services hfails
    exact answered_of_failed_diagram h hread hfails
  of_pdf := by
    rintro rfl services hfails
    exact answered_of_failed_pdf h hread hfails

/-- Within the limit a request has a text, unless it is a document in JSON that nests too deep.  If
the compiler fails on the text, the failure is logged as an error, and the service and the answer
tell it as one of the server, whatever its kind.  If a service fails itself, its failure alone
decides the answer.  No answer is sent that has a surrogate alone in its texts. -/
theorem failures_answered_uniformly (h : r.Posts s found content) (f : Failure) (o : Oracle) :
    (∃ nest, r.Overnested s.maxBodyBytes nest ∧ (found ≠ .health → ∀ services,
      handle services s r o = ⟨.ok (.error (.unread (.nesting nest))), [], o⟩)) ∨
    ∃ t, r.read s.maxBodyBytes = .ok (.text t) ∧ FailureTold s r found t f o := by
  obtain ⟨nest, hnest, hread⟩ | ⟨t, hread⟩ := h.read_cases
  · refine .inl ⟨nest, hnest, fun hservice services => ?_⟩
    exact handle_of_unread h.method h.route hservice hread services o
  · exact .inr ⟨t, hread, failureTold_of_posts h hread f o⟩

/-- A failure that would be the client's fault, with details that say nothing. -/
def misplaced : DiagramError := .plain .invalidFormat "\"odd\"" (some [])

theorem posts_outlined : (outlined "text/plain" "1. a".toList).Posts {} .diagram
    (Utf8.encode "1. a".toList) :=
  .of_undeclared rfl (by decide +kernel) (by decide +kernel) (by decide +kernel)

theorem read_outlined : (outlined "text/plain" "1. a".toList).read ({} : Settings).maxBodyBytes =
    .ok (.text "1. a") := posts_outlined.read_plain (by decide +kernel)

theorem failures_answered_uniformly_of_misplaced :
    let r := outlined "text/plain" "1. a".toList
    r.Posts {} .diagram (Utf8.encode "1. a".toList) ∧
      r.read ({} : Settings).maxBodyBytes = .ok (.text "1. a") ∧
      (Text.ofString "1. a").isBlank = false ∧
      AnsweredWith (handle (.faulty (.plain []) {} { compiler := some (.diagram misplaced) }) {} r
        .calm) 500 [("error", "Diagram error: \"odd\"")] ∧
      AnsweredWith (handle (.faulty (.plain []) {} { diagram := some (.diagram misplaced) }) {} r
        .calm) 400 [("error", "\"odd\"")] := by
  intro r
  have hblank : (Text.ofString "1. a").isBlank = false := by decide
  obtain ⟨nest, hnest, -⟩ | ⟨t, hread, htold⟩ :=
    failures_answered_uniformly posts_outlined (.diagram misplaced) .calm
  · exact absurd hnest.json (by decide +kernel)
  obtain rfl : t = "1. a" := by
    have heq := hread.symm.trans read_outlined
    cases heq
    rfl
  have hcompiled := htold.of_compiler rfl hblank
    (fun t => faulty (some (.diagram misplaced)) (Service.compile t))
    (Service.generatePdf (.plain []) {}) ⟨none, rfl⟩
  obtain ⟨status, fields, hdiagram, hanswer⟩ := htold.of_diagram rfl
    (.faulty (.plain []) {} { diagram := some (.diagram misplaced) }) ⟨none, rfl⟩
  refine ⟨posts_outlined, read_outlined, hblank, hcompiled.answer, ?_⟩
  cases hdiagram with
  | diagram => exact hanswer
  | other hforeign => exact absurd rfl (hforeign misplaced)

/-- A failure of the compiler that is not answered: a surrogate stands alone in its text. -/
theorem surrogate_untold :
    let r := outlined "text/plain" "1. a".toList
    let faults : Faults := { compiler := some (.ordinary "ValueError" [.half 0]) }
    r.Posts {} .diagram (Utf8.encode "1. a".toList) ∧
      r.read ({} : Settings).maxBodyBytes = .ok (.text "1. a") ∧
      (Text.ofString "1. a").isBlank = false ∧
      (handle (.faulty (.plain []) {} faults) {} r .calm).result = .ok (.error .encoding) := by
  intro r faults
  have hblank : (Text.ofString "1. a").isBlank = false := by decide
  have hfails : (faulty faults.compiler (Service.compile "1. a")).FailsWith .calm
      (.ordinary "ValueError" [.half 0]) := ⟨none, rfl⟩
  obtain ⟨-, -, reply, hresult, hsends⟩ := compilerFailureTold_of_posts posts_outlined read_outlined
    hblank (fun t => faulty faults.compiler (Service.compile t)) (Service.generatePdf (.plain []) {})
    hfails
  have hhalf : Text.HasHalf (Text.ofString "Diagram error: " ++ [.half 0]) := ⟨0, by simp⟩
  rw [hsends.eq_error_of_half (List.mem_singleton_self _) hhalf] at hresult
  exact ⟨posts_outlined, read_outlined, hblank, hresult⟩

end Http

end OutlineChart
