import OutlineChart.Proofs.Browser.Ordinary
import OutlineChart.Proofs.Render.Frame
import OutlineChart.Service

/-! # Services in ordinary circumstances

With a browser whose calls succeed or fail, both services end in a result or in a diagram error.  A
document that comes of it bears the configured name; an error has a surrogate alone in its texts only
if what it tells of has.
-/

namespace OutlineChart

open Browser

/-! ## Texts of failures -/

namespace Failure

/-- What may be told of a failure. -/
def texts : Failure → List Text
  | diagram e => e.message :: e.details.toList
  | f => [f.text]

/-- No surrogate stands alone in what may be told. -/
def Intact (f : Failure) : Prop := ∀ t ∈ f.texts, ¬ t.HasHalf

theorem intact_diagram_iff {e : DiagramError} :
    (diagram e).Intact ↔ ¬ e.message.HasHalf ∧ ∀ details ∈ e.details, ¬ details.HasHalf := by
  simp [Intact, texts]

theorem intact_iff_of_ne_diagram {f : Failure} (h : ∀ e, f ≠ .diagram e) :
    f.Intact ↔ ¬ f.text.HasHalf := by
  cases f with
  | diagram e => exact absurd rfl (h e)
  | _ => simp [Intact, texts]

theorem Intact.text {f : Failure} (h : f.Intact) : ¬ f.text.HasHalf := by
  cases f with
  | diagram e => exact (intact_diagram_iff.1 h).1
  | _ => exact (intact_iff_of_ne_diagram (by simp)).1 h

theorem Intact.report {e : DiagramError} (h : (diagram e).Intact) : ¬ e.report.HasHalf := by
  obtain ⟨hmessage, hdetails⟩ := intact_diagram_iff.1 h
  unfold DiagramError.report
  cases hremark : e.remark? with
  | none => exact hmessage
  | some remark =>
      have hremark' : remark ∈ e.details := (Option.filter_eq_some_iff.1 hremark).1
      simp [Text.hasHalf_append, hmessage, hdetails remark hremark']

/-- Unless something is spoilt, the failure is intact. -/
def Excused (spoilt : Prop) (f : Failure) : Prop := f.Intact ∨ spoilt

variable {spoilt : Prop} {f : Failure}

theorem Excused.text (h : f.Excused spoilt) : ¬ f.text.HasHalf ∨ spoilt := h.imp_left Intact.text

theorem lapsing_excused (spoilt : Prop) : Lapsing (Excused spoilt) where
  timeout := .inl ((intact_iff_of_ne_diagram (by simp)).2 Text.not_hasHalf_nil)
  overflow := .inl ((intact_iff_of_ne_diagram (by simp)).2 (Text.not_hasHalf_ofString _))
  ofDriver _ h := h

end Failure

namespace Render
open Failure

variable {α : Type} {P : α → Prop} {b : Backend} {spoilt : Prop}

/-- A diagram error of a status of the errors' own, that is intact unless something is spoilt. -/
def Told (spoilt : Prop) (f : Failure) : Prop :=
  ∃ e, f = .diagram e ∧ (e.status = 400 ∨ e.status = 500) ∧ f.Excused spoilt

theorem told_plain {kind : DiagramError.Kind} (hkind : kind.status = 400 ∨ kind.status = 500)
    {message : Text} (hmessage : ¬ message.HasHalf) {details : Text}
    (hdetails : ¬ details.HasHalf ∨ spoilt) :
    Told spoilt (.diagram (.plain kind message (some details))) := by
  refine ⟨_, rfl, hkind, hdetails.imp_left fun hdetails => intact_diagram_iff.2 ⟨hmessage, ?_⟩⟩
  rintro _ ⟨⟩
  exact hdetails

theorem told_pageFailure {f : Failure} (h : f.Excused spoilt) :
    Told spoilt (.diagram (pageFailure f)) := told_plain (.inr rfl) (by simp) h.text

theorem told_stageFailure {stage : Text} (hstage : ¬ stage.HasHalf) (timeoutMs : Int)
    {message : Text} (hmessage : ¬ message.HasHalf) {f : Failure} (h : f.Excused spoilt) :
    Told spoilt (.diagram (stageFailure stage timeoutMs message f)) := by
  cases f with
  | timeout text =>
      refine ⟨_, rfl, .inr rfl, h.text.imp_left fun htext => intact_diagram_iff.2 ⟨?_, ?_⟩⟩
      · simp [stageFailure, DiagramError.message, Text.hasHalf_append, hstage]
      · rintro _ ⟨⟩
        exact htext
  | _ => exact told_plain (.inr rfl) hmessage h.text

theorem told_exportFailure {f : Failure} (h : f.Excused spoilt) :
    Told spoilt (.diagram (exportFailure f)) := by
  refine told_plain (.inr rfl) (by simp) (h.text.imp_left fun htext => ?_)
  unfold textOrName
  split
  · exact Text.not_hasHalf_ofString f.name
  · exact htext

theorem settles_orElse {tell : Failure → DiagramError}
    (htell : ∀ f, f.Excused spoilt → Told spoilt (.diagram (tell f))) {x : Act α}
    (hx : x.Settles (Excused spoilt) P) :
    (orElse tell x).Settles (Excused spoilt) P (Told spoilt) := by
  refine .attempt_bind hx fun r hr => ?_
  cases hr with
  | ok ha => exact .result ha
  | failure cause hf => exact .failure _ (htell _ hf)

theorem settles_launch (h : b.Settles (Excused spoilt)) (s : Settings) :
    (launch b s).Settles (Excused spoilt) (fun _ => True) (Told spoilt) := by
  have hmessage : ¬ launchMessage.HasHalf := Text.not_hasHalf_ofString _
  refine .attempt_bind (.within (lapsing_excused spoilt) s.launchTimeoutMs (h.launch s))
    fun r hr => ?_
  cases hr with
  | ok _ => exact .result trivial
  | @failure f cause hf =>
      cases f with
      | timeout text =>
          refine .bind (.log _) fun _ _ => .failure _ (told_plain (.inr rfl) hmessage (.inl ?_))
          simp [Text.hasHalf_append]
      | _ => exact .bind (.log _) fun _ _ => .failure _ (told_plain (.inr rfl) hmessage hf.text)

theorem settles_photograph {F : Failure → Prop} (h : b.Settles (Excused spoilt)) (s : Settings)
    (path : String) : (photograph b s path).Settles (Excused spoilt) (fun _ => True) F := by
  refine .attempt_bind (h.screenshot path s.screenshotTimeoutMs) fun r hr => ?_
  cases hr with
  | ok _ => exact .result trivial
  | failure cause hf => exact .log _

theorem settles_closeQuietly {F : Failure → Prop} (h : b.Settles (Excused spoilt)) :
    (closeQuietly b).Settles (Excused spoilt) (fun _ => True) F := by
  refine .attempt_bind h.close fun r hr => ?_
  cases hr with
  | ok _ => exact .result trivial
  | failure cause hf => exact .log _

theorem settles_draw (h : b.Settles (Excused spoilt)) (s : Settings) (html : Text) :
    (draw b s html).Settles (Excused spoilt) (fun _ => True) (Told spoilt) := by
  have hexport : (exportWithin b s).Settles (Excused spoilt) (fun _ => True) (Told spoilt) :=
    settles_orElse (fun _ => told_exportFailure)
      (.within (lapsing_excused spoilt) s.exportTimeoutMs (h.exportPdf s.pdfOptions))
  rw [draw_eq]
  refine .bind (settles_orElse (fun _ => told_pageFailure) h.newPage) fun _ _ => ?_
  refine .bind (settles_orElse (fun _ => told_stageFailure (by simp) _ (by simp))
    (h.loadHtml _ _)) fun _ _ => ?_
  refine .bind (settles_orElse (fun _ => told_stageFailure (by simp) _ (by simp))
    (h.waitForDiagram _)) fun _ _ => ?_
  split
  · exact .bind (settles_photograph h s _) fun _ _ => hexport
  · exact hexport

theorem settles_logEnd {R F : Failure → Prop} (ended : Except Raised Bytes) :
    (logEnd ended).Settles R (fun _ => True) F := by
  unfold logEnd
  split
  · exact .log _
  · exact .result trivial

theorem settles_finish {R F : Failure → Prop} (s : Settings) {ended : Except Raised Bytes}
    (h : Settled (fun _ => True) F ended) :
    (finish s ended).Settles R (fun document => document.filename = s.pdfFilename) F :=
  .bind (.ofExcept h) fun _ _ => .bind (.log _) fun _ _ => .result rfl

theorem settles_renderPdf (h : b.Settles (Excused spoilt)) (s : Settings)
    (description : Option Text) :
    (renderPdf b s description).Settles (Excused spoilt)
      (fun document => document.filename = s.pdfFilename) (Told spoilt) := by
  unfold renderPdf
  split
  · rw [renderCode_eq]
    refine .bind (settles_launch h s) fun _ _ => ?_
    refine .attempt_bind (settles_draw h s _) fun ended hended => ?_
    refine .bind (settles_logEnd ended) fun _ _ => ?_
    exact .bind (settles_closeQuietly h) fun _ _ => settles_finish s hended
  · next e hrefused =>
      refine .failure none ⟨e, rfl, ?_⟩
      unfold accept at hrefused
      dsimp only at hrefused
      split at hrefused
      · cases hrefused
      · cases hrefused
        refine ⟨.inl rfl, .inl (intact_diagram_iff.2 ⟨Text.not_hasHalf_ofString _, ?_⟩)⟩
        rintro _ ⟨⟩

end Render

namespace Service
open Failure Render

variable {spoilt : Prop}

theorem settles_generatePdf {b : Backend} (h : b.Settles (Excused spoilt)) (s : Settings)
    (code : Option Text) :
    (generatePdf b s code).Settles (Excused spoilt)
      (fun document => document.filename = s.pdfFilename) (Told spoilt) :=
  .bind (.log _) fun _ _ => Render.settles_renderPdf h s _

theorem told_emptyInput : Told spoilt (.diagram emptyInput) := by
  refine ⟨_, rfl, .inl rfl, .inl (intact_diagram_iff.2 ⟨Text.not_hasHalf_ofString _, ?_⟩)⟩
  rintro _ ⟨⟩

theorem told_compilationError {f : Failure} (h : f.Excused spoilt) :
    Told spoilt (.diagram (compilationError f)) := by
  refine ⟨_, rfl, .inr rfl, h.text.imp_left fun htext => intact_diagram_iff.2 ⟨?_, ?_⟩⟩
  · simp [compilationError, DiagramError.message, Text.hasHalf_append, htext]
  · rintro _ ⟨⟩
    exact htext

theorem settles_generateDiagramWith {compile : Text → Act Text} {R : Failure → Prop}
    {P : Text → Prop} (h : ∀ t, (compile t).Settles R P (Excused spoilt)) (outline : Option Text) :
    (generateDiagramWith compile outline).Settles R P (Told spoilt) := by
  unfold generateDiagramWith
  dsimp only
  split
  · exact .failure none told_emptyInput
  · refine .attempt_bind (h _) fun r hr => ?_
    cases hr with
    | ok ha => exact .result ha
    | failure cause hf =>
        exact .bind (.log _) fun _ _ => .failure _ (told_compilationError hf)

end Service

end OutlineChart
