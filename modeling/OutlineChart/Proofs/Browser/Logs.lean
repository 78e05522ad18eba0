import OutlineChart.Proofs.Browser.Relayed

/-! # What acts log

The log of an act is put together like its calls.  A backend logs nothing but for debugging, so what
else a render logs is up to those who handle the ends of its requests.
-/

namespace OutlineChart

namespace Browser

variable {α β : Type}

/-! ## Failed calls -/

def Outcome.isFailure : Outcome → Bool
  | fail _ => true
  | _ => false

theorem Outcome.isFailure_timed (outcome : Outcome) :
    outcome.timed.isFailure = outcome.isFailure := by
  cases outcome with
  | fail f => cases f <;> rfl
  | _ => rfl

namespace Oracle

/-- How many of the next calls of a name fail. -/
def failures (o : Oracle) (name : CallName) (n : Nat) : Nat :=
  (List.range n).countP fun k => (o name k).isFailure

theorem failures_one (o : Oracle) (name : CallName) :
    o.failures name 1 = if (o name 0).isFailure then 1 else 0 := by
  cases h : (o name 0).isFailure <;> simp [failures, h]

theorem failures_congr {o o' : Oracle} {name : CallName} (h : o name = o' name) (n : Nat) :
    o.failures name n = o'.failures name n := by
  unfold failures
  rw [h]

/-- Failures among the first calls, and then among those that come after them. -/
theorem failures_add (o : Oracle) (made : CallName → Nat) (name : CallName) (n : Nat) :
    o.failures name (made name + n) =
      o.failures name (made name) + (o.advance made).failures name n :=
  o.countP_range_add made name n Outcome.isFailure

end Oracle

/-- Ended in a failure, which is not the same as being cancelled. -/
def failed : Except Raised α → Bool
  | .error (.failure ..) => true
  | _ => false

theorem failed_result (outcome : Outcome) : failed outcome.result = outcome.isFailure := by
  cases outcome <;> rfl

theorem failed_uncaused (r : Except Raised α) : failed (uncaused r) = failed r := by
  cases r with
  | ok a => rfl
  | error e => cases e <;> rfl

/-! ## Logs -/

def Run.logsAt (run : Run α) (level : Log.Level) : List Log.Record :=
  run.logs.filter (·.level = level)

namespace Act

theorem logs_bind_of_ok {x : Act α} {o : Oracle} {a : α} (h : (x o).result = .ok a)
    (f : α → Act β) : ((x >>= f) o).logs = (x o).logs ++ (f a (x o).rest).logs := by
  rw [bind_apply_of_ok h]
  exact List.filterMap_append

theorem logs_bind_of_error {x : Act α} {o : Oracle} {e : Raised} (h : (x o).result = .error e)
    (f : α → Act β) : ((x >>= f) o).logs = (x o).logs := by
  rw [bind_apply_of_error h]
  rfl

theorem logs_attempt_bind (x : Act α) (f : Except Raised α → Act β) (o : Oracle) :
    ((attempt x >>= f) o).logs = (x o).logs ++ (f (x o).result (x o).rest).logs := by
  rw [attempt_bind_apply]
  exact List.filterMap_append

theorem logsAt_bind_of_ok {x : Act α} {o : Oracle} {a : α} (h : (x o).result = .ok a)
    (f : α → Act β) (level : Log.Level) :
    ((x >>= f) o).logsAt level = (x o).logsAt level ++ (f a (x o).rest).logsAt level := by
  unfold Run.logsAt
  rw [logs_bind_of_ok h, List.filter_append]

theorem logsAt_bind_of_error {x : Act α} {o : Oracle} {e : Raised} (h : (x o).result = .error e)
    (f : α → Act β) (level : Log.Level) : ((x >>= f) o).logsAt level = (x o).logsAt level := by
  unfold Run.logsAt
  rw [logs_bind_of_error h]

theorem logs_call (c : Call) (o : Oracle) : (call c o).logs = [] := by
  rw [call_apply, Call.entries]
  cases o c.name 0 <;> rfl

theorem logs_ofExcept (r : Except Raised α) (o : Oracle) : (ofExcept r o).logs = [] := by
  rw [ofExcept_apply]
  rfl

/-! ## Acts that log at certain levels only -/

/-- Everything that is logged is of one of these levels. -/
def LogsOnly (levels : List Log.Level) (x : Act α) : Prop :=
  ∀ o, ∀ record ∈ (x o).logs, record.level ∈ levels

namespace LogsOnly

variable {levels : List Log.Level} {x : Act α}

theorem mono {levels' : List Log.Level} (h : LogsOnly levels x) (hsub : levels ⊆ levels') :
    LogsOnly levels' x := fun o record hrecord => hsub (h o record hrecord)

theorem of_logs_eq_nil (h : ∀ o, (x o).logs = []) : LogsOnly levels x := by
  intro o record hrecord
  rw [h o] at hrecord
  exact absurd hrecord List.not_mem_nil

theorem result (a : α) : LogsOnly levels (Act.result a) := of_logs_eq_nil fun _ => rfl

theorem raise (e : Raised) : LogsOnly levels (Act.raise e : Act α) := of_logs_eq_nil fun _ => rfl

theorem ofExcept (r : Except Raised α) : LogsOnly levels (Act.ofExcept r) :=
  of_logs_eq_nil (logs_ofExcept r)

theorem call (c : Call) : LogsOnly levels (Act.call c) := of_logs_eq_nil (logs_call c)

theorem log {record : Log.Record} (h : record.level ∈ levels) :
    LogsOnly levels (Act.log record) := by
  intro o record' hrecord
  rw [List.mem_singleton.1 hrecord]
  exact h

theorem attempt (h : LogsOnly levels x) : LogsOnly levels (Act.attempt x) := h

theorem bind {f : α → Act β} (hx : LogsOnly levels x) (hf : ∀ a, LogsOnly levels (f a)) :
    LogsOnly levels (x >>= f) := by
  intro o record hrecord
  cases h : (x o).result with
  | ok a =>
      rw [logs_bind_of_ok h] at hrecord
      rcases List.mem_append.1 hrecord with hfirst | hsecond
      · exact hx o record hfirst
      · exact hf a _ record hsecond
  | error e =>
      rw [logs_bind_of_error h] at hrecord
      exact hx o record hrecord

theorem within (h : LogsOnly levels x) (timeoutMs : Int) :
    LogsOnly levels (Act.within timeoutMs x) := by
  unfold Act.within
  split
  · exact raise _
  · split
    · exact raise _
    · refine h.attempt.bind fun ended => ?_
      split
      · exact raise _
      · exact ofExcept _

theorem logsAt_eq_nil (h : LogsOnly levels x) {level : Log.Level} (hlevel : level ∉ levels)
    (o : Oracle) : (x o).logsAt level = [] := by
  refine List.filter_eq_nil_iff.2 fun record hrecord heq => ?_
  rw [decide_eq_true_eq] at heq
  exact hlevel (heq ▸ h o record hrecord)

/-- Of other levels there is only what is logged besides. -/
theorem logsAt_eq_filter (h : LogsOnly levels x) {o : Oracle} {run : Run β}
    {records : List Log.Record} (hlogs : run.logs = (x o).logs ++ records) {level : Log.Level}
    (hlevel : level ∉ levels) : run.logsAt level = records.filter (·.level = level) := by
  have hnone := h.logsAt_eq_nil hlevel o
  unfold Run.logsAt at hnone ⊢
  rw [hlogs, List.filter_append, hnone, List.nil_append]

end LogsOnly

/-- Passing over a failure logs it, behind what the act has logged itself. -/
theorem logs_passOver (x : Act Unit) (record : Log.Record) (o : Oracle) :
    ((attempt x >>= fun
      | .error (.failure ..) => log record
      | ended => Act.ofExcept ended) o).logs =
        (x o).logs ++ if failed (x o).result then [record] else [] := by
  rw [logs_attempt_bind]
  congr 1
  cases (x o).result with
  | ok a => rfl
  | error e => cases e <;> rfl

/-! ## Acts that warn of failed calls -/

def Avoids (name : CallName) (x : Act α) : Prop := ∃ names, name ∉ names ∧ CallsOnly names x

namespace Avoids

variable {name : CallName} {x : Act α}

theorem wraps {y : Act β} (h : Avoids name x) (hy : y.Wraps x) : Avoids name y := by
  obtain ⟨names, hname, hx⟩ := h
  exact ⟨names, hname, hy.callsOnly hx⟩

theorem within (h : Avoids name x) (timeoutMs : Int) : Avoids name (Act.within timeoutMs x) := by
  obtain ⟨names, hname, hx⟩ := h
  exact ⟨names, hname, hx.within timeoutMs⟩

theorem spends (h : Avoids name x) : x.Spends := by
  obtain ⟨names, -, hx⟩ := h
  exact hx.spends

theorem count_eq_zero (h : Avoids name x) (o : Oracle) : (x o).names.count name = 0 := by
  obtain ⟨names, hname, hx⟩ := h
  exact List.count_eq_zero.2 fun hmem => hname (hx.names_subset o hmem)

theorem rest_eq (h : Avoids name x) (o : Oracle) : (x o).rest name = o name := by
  obtain ⟨names, hname, hx⟩ := h
  exact hx.rest_of_notMem o hname

end Avoids

/-- As many warnings as calls of one name have failed. -/
structure WarnsOf (name : CallName) (x : Act α) : Prop where
  spends : x.Spends
  warned : ∀ o, ((x o).logsAt .warning).length = o.failures name ((x o).names.count name)

namespace WarnsOf

variable {name : CallName} {x : Act α}

/-- What neither makes such a call nor warns. -/
theorem of_avoids (h : Avoids name x) {levels : List Log.Level} (hlogs : LogsOnly levels x)
    (hlevel : .warning ∉ levels) : WarnsOf name x where
  spends := h.spends
  warned := by
    intro o
    rw [hlogs.logsAt_eq_nil hlevel, h.count_eq_zero]
    rfl

theorem bind {f : α → Act β} (hx : WarnsOf name x) (hf : ∀ a, WarnsOf name (f a)) :
    WarnsOf name (x >>= f) where
  spends := hx.spends.bind fun a => (hf a).spends
  warned := by
    intro o
    cases h : (x o).result with
    | ok a =>
        -- the calls of the second part fail by what the first one has left
        have hfailed := o.failures_add (fun n => (x o).names.count n) name
        rw [logsAt_bind_of_ok h, names_bind_of_ok h, List.length_append, List.count_append,
          hx.warned, (hf a).warned, hfailed, hx.spends]
    | error e =>
        rw [logsAt_bind_of_error h, names_bind_of_error h]
        exact hx.warned o

end WarnsOf

end Act

/-! ## Backends -/

/-- Nothing is logged but for debugging. -/
structure Backend.Quiet (b : Backend) : Prop where
  launch : ∀ s, (b.launch s).LogsOnly [.debug]
  newPage : b.newPage.LogsOnly [.debug]
  loadHtml : ∀ html timeoutMs, (b.loadHtml html timeoutMs).LogsOnly [.debug]
  waitForDiagram : ∀ timeoutMs, (b.waitForDiagram timeoutMs).LogsOnly [.debug]
  screenshot : ∀ path timeoutMs, (b.screenshot path timeoutMs).LogsOnly [.debug]
  exportPdf : ∀ options, (b.exportPdf options).LogsOnly [.debug]
  close : b.close.LogsOnly [.debug]

theorem Backend.quiet_plain (pdf : Bytes) : (Backend.plain pdf).Quiet where
  launch _ := .call _
  newPage := .call _
  loadHtml _ _ := .call _
  waitForDiagram _ := .call _
  screenshot _ _ := .call _
  exportPdf _ := (Act.LogsOnly.call _).bind fun _ => .result pdf
  close := .call _

namespace Chromium

theorem logsOnly_timed {levels : List Log.Level} {x : Act Unit} (h : x.LogsOnly levels) :
    (timed x).LogsOnly levels := by
  refine h.attempt.bind fun ended => ?_
  split
  · exact .raise _
  · exact .ofExcept _

theorem logsOnly_launch (s : Settings) : (launch s).LogsOnly [.debug] := by
  rw [launch_eq]
  refine (Act.LogsOnly.call _).bind fun _ => ?_
  refine (Act.LogsOnly.call _).attempt.bind fun tried => ?_
  unfold settle
  split
  · exact (Act.LogsOnly.log (by simp [Log.Record.level])).bind fun _ => .result _
  · refine (Act.LogsOnly.call _).attempt.bind fun stopped => ?_
    split
    · exact .raise _
    · exact .raise _

theorem logsOnly_close : Environment.opened.close.LogsOnly [.debug] := by
  unfold Environment.close
  refine (Act.LogsOnly.call _).attempt.bind fun browser => ?_
  refine (Act.LogsOnly.call _).attempt.bind fun driver => ?_
  split
  · exact .raise _
  · exact .raise _
  · exact .ofExcept _

end Chromium

theorem Backend.quiet_chromium (pdf : Bytes) : (Backend.chromium pdf).Quiet where
  launch s := (Chromium.logsOnly_launch s).bind fun _ => .result ()
  newPage := .call _
  loadHtml _ _ := Chromium.logsOnly_timed (.call _)
  waitForDiagram _ := Chromium.logsOnly_timed (.call _)
  screenshot _ _ := Chromium.logsOnly_timed (.call _)
  exportPdf _ := (Act.LogsOnly.call _).bind fun _ => .result pdf
  close := Chromium.logsOnly_close

end Browser

end OutlineChart
