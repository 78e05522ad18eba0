import OutlineChart.Proofs.Command.Ends
import OutlineChart.Proofs.Http.DiagramAnswer
import OutlineChart.Proofs.Outline.LineEnds

/-! # Diagrams on the command line

A text is compiled to the same diagram, or refused with the same message, whether it is given on the
command line, stands in a file or is posted.  A file is the only one of the three whose line ends are
rewritten, which an outline does not show where carriage returns stand in front of line feeds only.
-/

namespace OutlineChart

open Browser

/-- Nothing in a diagram steers a terminal. -/
theorem Outline.introducer_notMem {t : Text} {cs : List Char} (h : toMermaid t = Text.ofChars cs) :
    ControlSequence.introducer ∉ cs := by
  intro hmem
  have hchar : CodePoint.char ControlSequence.introducer ∈ toMermaid t := by
    rw [h]
    exact List.mem_map_of_mem hmem
  rcases mem_toMermaid hchar with hlabel | hmark
  · exact absurd hlabel (by decide)
  · exact absurd hmark (by decide)

namespace Command

variable {b : Backend} {s : Settings} {footprint : Footprint} {files : Files} {o : Oracle} {t : Text}
  {cs : List Char}

/-! ## Arguments -/

theorem hasPaths_iff {given : Given} :
    given.hasPaths = true ↔
      ∀ key ∈ [Key.file, Key.output], '\x00' ∉ ((given.value? key).getD "").toList := by
  simp [Given.hasPaths]

/-- Reads the command line of one option. -/
theorem ofArguments?_generate {key : Key} {argument value : String}
    (htoken : Token.ofString Verb.generate.keys argument = .option key none)
    (hpaths : (⟨[(key, value)], []⟩ : Given).hasPaths = true) :
    ofArguments? ["generate", argument, value] =
      Verb.generate.command? ⟨[(key, value)], []⟩ := by
  have hverb : Verb.ofString? "generate" = some .generate := by decide
  have hgiven : Given.ofArguments? Verb.generate.keys [argument, value] =
      some ⟨[(key, value)], []⟩ := by
    simp only [Given.ofArguments?, htoken, Option.map_some]
  unfold ofArguments?
  split
  · next heq => simp at heq
  · simp only [ofVerb?, hverb, ofOptions?, hgiven, List.isEmpty_nil, hpaths, Bool.and_self, if_true]

theorem ofArguments?_text (cs : List Char) :
    ofArguments? ["generate", "--text", String.ofList cs] =
      some (.generate (.text (Text.ofChars cs)) none) := by
  have hchars : Text.ofString (String.ofList cs) = Text.ofChars cs := by
    rw [Text.ofString, String.toList_ofList]
  let given : Given := ⟨[(.text, String.ofList cs)], []⟩
  have hpaths : given.hasPaths = true := by
    have hnone : given.value? .file = none ∧ given.value? .output = none := ⟨rfl, rfl⟩
    simp [hasPaths_iff, hnone]
  rw [ofArguments?_generate (by decide +kernel) hpaths, ← hchars]
  rfl

/-- A path with a null character in it cannot be given. -/
theorem ofArguments?_file {path : String} (h : '\x00' ∉ path.toList) :
    ofArguments? ["generate", "--file", path] =
      some (.generate (.file (.ofString path)) none) := by
  let given : Given := ⟨[(.file, path)], []⟩
  have hpaths : given.hasPaths = true := by
    have hvalues : given.value? .file = some path ∧ given.value? .output = none := ⟨rfl, rfl⟩
    simp [hasPaths_iff, hvalues, h]
  rw [ofArguments?_generate (by decide +kernel) hpaths]
  rfl

/-! ## Compiling -/

/-- How the compiling of a text ends if its diagram is to be printed. -/
inductive Compiled (t : Text) : Ending → Prop
  | refused : t.isBlank = true → Compiled t (.failed "Empty input received\n")
  | printed {cs : List Char} : t.isBlank = false → Outline.toMermaid t = Text.ofChars cs →
      Compiled t (.finished (String.ofList cs))

theorem exists_compiled {source : Source}
    (hinput : (generate source none).input files.read = .ok t) (b : Backend) (s : Settings)
    (footprint : Footprint) (o : Oracle) :
    ∃ report, ((generate source none).run b s footprint files o).result = .ok report ∧
      Compiled t report.ending ∧ report.files = files := by
  have hthreshold : (generate source none).threshold s = .ok Log.defaultThreshold := rfl
  rw [run_of_read hthreshold hinput, work_generate]
  refine ⟨_, rfl, ?_⟩
  cases hblank : t.isBlank with
  | true =>
      have htold : told "Empty input received\n" = "Empty input received\n" := by decide +kernel
      refine ⟨?_, rfl⟩
      show Compiled t (.failed (told "Empty input received\n"))
      rw [htold]
      exact .refused hblank
  | false =>
      obtain ⟨cs, hcs, -⟩ := Outline.exists_toMermaid_eq t
      have hdiagram : diagram none (Outline.toMermaid t) = .ok { output := String.ofList cs } := by
        rw [hcs]
        unfold diagram
        rw [Text.toChars?_ofChars]
      rw [if_neg Bool.false_ne_true, hdiagram]
      refine ⟨?_, rfl⟩
      show Compiled t (.finished (printed (String.ofList cs)))
      rw [printed_of_notMem (Outline.introducer_notMem hcs)]
      exact .printed hblank hcs

/-! ## Both ways -/

/-- A command that prints a diagram and a response that sends one say the same. -/
structure Agrees (files : Files) (report : Report) (response : Http.Response) : Prop where
  status : response.status = 200 ∧ report.ending.status = 0 ∨
    response.status = 400 ∧ report.ending.status = 1
  of_compiled : response.status = 200 → report.ending.complaint = "" ∧
    response.body = Utf8.encode report.ending.output.toList
  of_refused : response.status = 400 → report.ending.output = "" ∧ ∃ message : String,
    report.ending.complaint = message ++ "\n" ∧
      Utf8.encode? (Http.Response.jsonObject [("error", message)]) = some response.body
  /-- Printing changes no file. -/
  files_eq : report.files = files

/-- Two texts that are blank alike and compiled alike are told alike. -/
theorem Compiled.agrees {t t' : Text} {report : Report} {response : Http.Response}
    (h : Compiled t report.ending) (h' : Http.DiagramAnswered (.text t') response)
    (hblank : t.isBlank = t'.isBlank) (hmermaid : Outline.toMermaid t = Outline.toMermaid t')
    (hfiles : report.files = files) (hs : Http.Headers) :
    Agrees files report (response.adding hs) := by
  -- the two refuse the same texts, so only the cases in which they do the same are left
  generalize hending : report.ending = ending at h
  cases h with
  | refused hrefused =>
      cases h' with
      | overLimit hnone => cases hnone
      | compiled hkept =>
          rw [hblank, hkept] at hrefused
          cases hrefused
      | refused _ hstatus hbody =>
          exact {
            status := Or.inr ⟨hstatus, by rw [hending]; rfl⟩
            of_compiled := fun h => absurd (hstatus.symm.trans h) (by decide)
            of_refused := fun _ => by
              rw [hending]
              exact ⟨rfl, "Empty input received", rfl, hbody⟩
            files_eq := hfiles }
  | @printed cs hkept hcs =>
      cases h' with
      | overLimit hnone => cases hnone
      | refused hrefused =>
          rw [hblank, hrefused] at hkept
          cases hkept
      | @compiled _ cs' _ hcs' =>
          have hstatus : ((Http.Response.plain 200 cs').adding hs).status = 200 := rfl
          obtain rfl : cs = cs' := by
            have hchars := congrArg Text.toChars? (hcs.symm.trans (hmermaid.trans hcs'))
            rw [Text.toChars?_ofChars, Text.toChars?_ofChars] at hchars
            exact Option.some.inj hchars
          exact {
            status := Or.inl ⟨hstatus, by rw [hending]; rfl⟩
            of_compiled := fun _ => by
              rw [hending]
              refine ⟨rfl, ?_⟩
              show Utf8.encode cs = Utf8.encode (String.ofList cs).toList
              rw [String.toList_ofList]
            of_refused := fun h => absurd (hstatus.symm.trans h) (by decide)
            files_eq := hfiles }

/-- A text given on the command line is printed as the diagram that answers a request with it, or
refused with the same message.  So is a text that stands in a file, unless a carriage return stands
alone in it. -/
theorem diagram_agrees_with_answer {r : Http.Request}
    (h : r.Posts s .diagram (Utf8.encode cs)) (hplain : ¬ r.headers.DeclaresJson)
    (b b' : Backend) (s' : Settings) (footprint : Footprint) (files : Files) (o o' : Oracle) :
    ∃ response, (Http.handle (.standard b s) s r o).result = .ok (.ok response) ∧
      (∃ report,
        (runArguments b' s' footprint files ["generate", "--text", String.ofList cs] o').result =
            .ok report ∧
          Agrees files report response) ∧
      ∀ path : String, '\x00' ∉ path.toList →
        files.read (.ofString path) = .ok (Utf8.encode cs) → Newline.Paired cs →
        ∃ report,
          (runArguments b' s' footprint files ["generate", "--file", path] o').result =
              .ok report ∧
            Agrees files report response := by
  have hread := h.read_plain hplain
  obtain ⟨response, hroute, hanswered⟩ :=
    Http.route_diagram_answered (b := b) (o := o) h.method h.route hread
  have hhandle := Http.handle_of_posted h.method (congrArg Run.result hroute)
  refine ⟨_, hhandle, ?_, ?_⟩
  · have hinput : (generate (.text (Text.ofChars cs)) none).input files.read =
        .ok (Text.ofChars cs) := rfl
    obtain ⟨report, hrun, hcompiled, hfiles⟩ := exists_compiled hinput b' s' footprint o'
    refine ⟨report, ?_, hcompiled.agrees hanswered rfl rfl hfiles _⟩
    rw [runArguments, ofArguments?_text]
    exact hrun
  · intro path hpath hfile hpaired
    obtain ⟨report, hrun, hcompiled, hfiles⟩ :=
      exists_compiled (input_of_file rfl hfile) b' s' footprint o'
    refine ⟨report, ?_, hcompiled.agrees hanswered (Newline.isBlank_unify cs)
      (Outline.toMermaid_unify hpaired) hfiles _⟩
    rw [runArguments, ofArguments?_file hpath]
    exact hrun

/-- A blank line that ends in a carriage return and a line feed, and a step. -/
def returned : List Char := "\r\n1. a".toList

theorem diagram_agrees_with_answer_of_returned :
    let r := Http.outlined "text/plain" returned
    let files : Files := { contents := [(["m"], Utf8.encode returned)] }
    r.Posts {} .diagram (Utf8.encode returned) ∧ ¬ r.headers.DeclaresJson ∧
      '\x00' ∉ "m".toList ∧ files.read (.ofString "m") = .ok (Utf8.encode returned) ∧
      Newline.Paired returned ∧
      (runArguments (.plain []) {} (fun _ => id) files ["generate", "--file", "m"] .calm).result =
        .ok { ending := .finished "graph TD\nstep0[\"a\"]\n", files } ∧
      ∃ response,
        (Http.handle (.standard (.chromium []) {}) {} r .calm).result = .ok (.ok response) ∧
        response.status = 200 ∧
        response.body = Utf8.encode "graph TD\nstep0[\"a\"]\n".toList := by
  intro r files
  have hposts : r.Posts {} .diagram (Utf8.encode returned) :=
    .of_undeclared rfl (by decide +kernel) (by decide +kernel) (by decide +kernel)
  have hplain : ¬ r.headers.DeclaresJson := by decide +kernel
  have hpath : '\x00' ∉ "m".toList := by decide +kernel
  have hfile : files.read (.ofString "m") = .ok (Utf8.encode returned) := by decide +kernel
  have hpaired : Newline.Paired returned := (Newline.paired_of_notMem (by decide)).cons_return
  have hprinted : (runArguments (.plain []) {} (fun _ => id) files ["generate", "--file", "m"]
      .calm).result = .ok { ending := .finished "graph TD\nstep0[\"a\"]\n", files } := by
    have hinput : (generate (.file (.ofString "m")) none).input files.read =
        .ok (Text.ofChars (Newline.unify returned)) := input_of_file rfl hfile
    have hthreshold : (generate (.file (.ofString "m")) none).threshold {} =
        .ok Log.defaultThreshold := rfl
    rw [runArguments, ofArguments?_file hpath]
    show (run (.plain []) {} (fun _ => id) files (generate (.file (.ofString "m")) none)
      .calm).result = _
    rw [run_of_read hthreshold hinput, work_generate]
    decide +kernel
  obtain ⟨response, hresult, -, hfromFile⟩ :=
    diagram_agrees_with_answer hposts hplain (.chromium []) (.plain []) {} (fun _ => id) files .calm
      .calm
  obtain ⟨report, hrun, hagrees⟩ := hfromFile "m" hpath hfile hpaired
  cases Except.ok.inj (hprinted.symm.trans hrun)
  have hstatus : response.status = 200 := by
    rcases hagrees.status with ⟨hstatus, -⟩ | ⟨-, hfailed⟩
    · exact hstatus
    · cases hfailed
  exact ⟨hposts, hplain, hpath, hfile, hpaired, hprinted, response, hresult, hstatus,
    (hagrees.of_compiled hstatus).2⟩

end Command

end OutlineChart
