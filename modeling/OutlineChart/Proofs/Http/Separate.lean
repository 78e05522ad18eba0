import OutlineChart.Proofs.Http.Posted
import OutlineChart.Proofs.Render.Engine
import Mathlib.Data.List.Zip

/-! # Runs that share nothing

Renders that follow each other, and requests that do, have only the outcomes to come in common.  Each
of them uses up those of the calls that it makes, so it ends as it would alone with the outcomes that
those before it have left; and where the outcomes never change, the order makes no difference.
-/

namespace OutlineChart

namespace Browser

/-! ## Sequences of acts -/

/-- Each call name has one outcome for good. -/
def Oracle.IsConstant (o : Oracle) : Prop := ∀ name j k, o name j = o name k

theorem Oracle.IsConstant.advance_eq {o : Oracle} (h : o.IsConstant) (made : CallName → Nat) :
    o.advance made = o := by
  funext name k
  exact h name _ _

namespace Act

variable {α : Type}

variable {ι : Type} {alone : ι → Act α}

theorem getElem?_runs_map (h : ∀ item, (alone item).Spends) (o : Oracle) (items : List ι) (i : Nat) :
    (runs o (items.map alone))[i]? = items[i]?.map fun item => alone item (o.advance fun name =>
      (((runs o (items.map alone)).take i).flatMap Run.names).count name) := by
  induction items generalizing o i with
  | nil => rfl
  | cons first items ih =>
      cases i with
      | zero => rfl
      | succ i =>
          -- what the first one left is advanced further by those between it and this one
          have hrest := ih (alone first o).rest i
          simp only [List.map_cons, runs, List.getElem?_cons_succ, List.take_succ_cons,
            List.flatMap_cons, List.count_append]
          rw [hrest]
          congr 1
          funext item
          rw [← Oracle.advance_advance, ← h first o]

theorem runs_map_of_isConstant (h : ∀ item, (alone item).Spends) {o : Oracle} (ho : o.IsConstant)
    (items : List ι) : runs o (items.map alone) = items.map fun item => alone item o := by
  induction items with
  | nil => rfl
  | cons first items ih =>
      have hleft : (alone first o).rest = o := (h first o).trans (ho.advance_eq _)
      rw [List.map_cons, runs, hleft, ih, List.map_cons]

end Act

/-- What is run together ends, one by one, as what is run alone. -/
structure Separate {ι α : Type} (together : Oracle → List ι → List (Run α)) (alone : ι → Act α) :
    Prop where
  /-- The calls made before it are all that a run knows of those before it. -/
  getElem? : ∀ (o : Oracle) (items : List ι) (i : Nat), (together o items)[i]? =
    items[i]?.map fun item => alone item (o.advance fun name =>
      (((together o items).take i).flatMap Run.names).count name)
  /-- Each item keeps its run when the items change places. -/
  perm : ∀ o : Oracle, o.IsConstant → ∀ items items' : List ι, items.Perm items' →
    (items.zip (together o items)).Perm (items'.zip (together o items'))

theorem Separate.of_spends {ι α : Type} {alone : ι → Act α} (h : ∀ item, (alone item).Spends) :
    Separate (fun o items => Act.runs o (items.map alone)) alone where
  getElem? := Act.getElem?_runs_map h
  perm := by
    intro o ho items items' hperm
    have hpairs : ∀ items : List ι, items.zip (Act.runs o (items.map alone)) =
        items.map fun item => (item, alone item o) := by
      intro items
      rw [Act.runs_map_of_isConstant h ho, List.map_prod_left_eq_zip]
    rw [hpairs, hpairs]
    exact hperm.map _

end Browser

/-! ## Renders -/

namespace Service
open Browser Render

theorem callsOnly_generatePdf (engine : Engine) (pdf : Bytes) (s : Settings) (code : Option Text) :
    Act.CallsOnly engine.names (generatePdf (engine.backend pdf) s code) :=
  .bind (.log _) fun _ => engine.callsOnly_renderPdf pdf s _

theorem callsOnly_generateDiagramWith {names : List CallName} {compile : Text → Act Text}
    (h : ∀ t, Act.CallsOnly names (compile t)) (outline : Option Text) :
    Act.CallsOnly names (generateDiagramWith compile outline) := by
  unfold generateDiagramWith
  dsimp only
  split
  · exact .raise _
  · refine .bind (.attempt (h _)) fun ended => ?_
    split
    · exact .bind (.log _) fun _ => .raise _
    · exact .ofExcept _

end Service

namespace Render
open Browser

/-- A render to be made with an engine, directly or through the service. -/
inductive Errand where
  | direct (engine : Engine) (job : Job)
  | served (engine : Engine) (job : Job)

def Errand.work : Errand → Act Document
  | direct engine job => renderPdf (engine.backend job.pdf) job.settings job.description
  | served engine job => Service.generatePdf (engine.backend job.pdf) job.settings job.description

theorem Errand.spends_work (errand : Errand) : errand.work.Spends := by
  cases errand with
  | direct engine job => exact (engine.callsOnly_renderPdf _ _ _).spends
  | served engine job => exact (Service.callsOnly_generatePdf engine _ _ _).spends

end Render

/-! ## Requests -/

namespace Http
open Browser Render

variable {names : List CallName} {services : Services} {s : Settings}

theorem callsOnly_faulty {α : Type} (fault : Option Failure) {work : Act α}
    (h : Act.CallsOnly names work) : Act.CallsOnly names (faulty fault work) := by
  cases fault with
  | some f => exact .raise _
  | none => exact h

/-- The services make certain calls only. -/
structure Services.CallsOnly (names : List CallName) (services : Services) : Prop where
  generateDiagram : ∀ outline, Act.CallsOnly names (services.generateDiagram outline)
  generatePdf : ∀ code, Act.CallsOnly names (services.generatePdf code)

theorem Services.callsOnly_faulty (engine : Engine) (pdf : Bytes) (s : Settings) (faults : Faults) :
    (Services.faulty (engine.backend pdf) s faults).CallsOnly engine.names where
  generateDiagram outline := Http.callsOnly_faulty _ <|
    Service.callsOnly_generateDiagramWith (fun _ => Http.callsOnly_faulty _ (.result _)) outline
  generatePdf code := Http.callsOnly_faulty _ (Service.callsOnly_generatePdf engine pdf s code)

theorem callsOnly_onText {r : Request} {answer : Text → Act Reply}
    (h : ∀ t, Act.CallsOnly names (answer t)) : Act.CallsOnly names (onText s r answer) := by
  unfold onText
  split
  · exact h _
  · exact .result _
  · exact .result _

theorem callsOnly_route (h : services.CallsOnly names) (r : Request) :
    Act.CallsOnly names (route services s r) := by
  unfold route
  split
  · split
    · exact .result _
    · split
      · exact .result _
      · exact callsOnly_onText fun t => (wraps_diagram services t).callsOnly (h.generateDiagram _)
      · exact callsOnly_onText fun t => (wraps_pdf services t).callsOnly (h.generatePdf _)
  · dsimp only
    split
    · exact .result _
    · exact .result _

theorem callsOnly_handle (h : services.CallsOnly names) (r : Request) :
    Act.CallsOnly names (handle services s r) := by
  unfold handle
  split
  · exact .result _
  · exact .bind (callsOnly_route h r) fun _ => .result _

/-- Renders with either engine share nothing, and neither do the requests to one application,
whatever becomes of those before them. -/
theorem runs_separate :
    Separate (fun o errands => Act.runs o (errands.map Errand.work)) Errand.work ∧
      ∀ (engine : Engine) (pdf : Bytes) (s : Settings) (faults : Faults),
        Separate (runs (.faulty (engine.backend pdf) s faults) s)
          (handle (.faulty (engine.backend pdf) s faults) s) := by
  refine ⟨.of_spends Errand.spends_work, ?_⟩
  intro engine pdf s faults
  refine .of_spends fun r => ?_
  exact (callsOnly_handle (Services.callsOnly_faulty engine pdf s faults) r).spends

end Http

end OutlineChart
