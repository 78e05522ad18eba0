import OutlineChart.Browser.Call
import OutlineChart.Log

/-! # Acts

An act is a piece of work with a browser: given the outcomes to come it ends in a result or is
raised out of, leaves a trace of calls and log records, and uses up some of the outcomes.  Trying
an act makes its end a value, so that cleaning up needs nothing else.
-/

namespace OutlineChart

namespace Browser

inductive Entry where
  | called (call : Call)
  /-- A call that hung was cancelled. -/
  | cancelled (name : CallName)
  | logged (record : Log.Record)
  deriving DecidableEq, Repr

structure Run (α : Type) where
  result : Except Raised α
  trace : List Entry
  rest : Oracle

def Act (α : Type) := Oracle → Run α

namespace Act

variable {α β : Type}

def result (a : α) : Act α := fun o => ⟨.ok a, [], o⟩

def raise (e : Raised) : Act α := fun o => ⟨.error e, [], o⟩

def andThen (x : Act α) (f : α → Act β) : Act β := fun o =>
  let first := x o
  match first.result with
  | .ok a =>
      let second := f a first.rest
      ⟨second.result, first.trace ++ second.trace, second.rest⟩
  | .error e => ⟨.error e, first.trace, first.rest⟩

instance : Monad Act where
  pure := result
  bind := andThen

def ofExcept : Except Raised α → Act α
  | .ok a => result a
  | .error e => raise e

/-- The same work, with its end as a value. -/
def attempt (x : Act α) : Act (Except Raised α) := fun o =>
  let run := x o
  ⟨.ok run.result, run.trace, run.rest⟩

/-- The same work, with its end and its trace as values. -/
def observe (x : Act α) : Act (Except Raised α × List Entry) := fun o =>
  let run := x o
  ⟨.ok (run.result, run.trace), run.trace, run.rest⟩

def log (record : Log.Record) : Act Unit := fun o => ⟨.ok (), [.logged record], o⟩

/-- Makes a call; what hangs ends only when a deadline cancels it. -/
def call (c : Call) : Act Unit := fun o =>
  let rest := o.afterCall c.name
  match o c.name 0 with
  | .success => ⟨.ok (), [.called c], rest⟩
  | .fail f => ⟨.error (.failure f none), [.called c], rest⟩
  | .cancel => ⟨.error .cancelled, [.called c], rest⟩
  | .hang => ⟨.error .expired, [.called c, .cancelled c.name], rest⟩

/-! ## Deadlines -/

/-- The least number of milliseconds that is too many to be counted in seconds, a binary fraction
of 53 bits: a thousand times the point half way from the greatest such fraction to `2 ^ 1024`. -/
def overflowMs : Nat := 1000 * (Nat.pow 2 1024 - Nat.pow 2 970)

/-- Bounds an act: without time left it does not begin, and when it has hung it times out. -/
def within (timeoutMs : Int) (x : Act α) : Act α :=
  if overflowMs ≤ timeoutMs.natAbs then raise (.failure .overflow none)
  else if timeoutMs ≤ 0 then raise (.failure (.timeout "") none)
  else do
    match ← attempt x with
    | .error .expired => raise (.failure (.timeout "") none)
    | ended => ofExcept ended

/-! ## Runs of acts -/

def runs (o : Oracle) : List (Act α) → List (Run α)
  | [] => []
  | x :: xs => x o :: runs (x o).rest xs

@[simp] theorem pure_apply (a : α) (o : Oracle) : (pure a : Act α) o = ⟨.ok a, [], o⟩ := rfl

@[simp] theorem raise_apply (e : Raised) (o : Oracle) :
    (raise e : Act α) o = ⟨.error e, [], o⟩ := rfl

@[simp] theorem attempt_apply (x : Act α) (o : Oracle) :
    attempt x o = ⟨.ok (x o).result, (x o).trace, (x o).rest⟩ := rfl

@[simp] theorem observe_apply (x : Act α) (o : Oracle) :
    observe x o = ⟨.ok ((x o).result, (x o).trace), (x o).trace, (x o).rest⟩ := rfl

@[simp] theorem log_apply (record : Log.Record) (o : Oracle) :
    log record o = ⟨.ok (), [.logged record], o⟩ := rfl

theorem bind_apply_of_ok {x : Act α} {o : Oracle} {a : α} (h : (x o).result = .ok a)
    (f : α → Act β) :
    (x >>= f) o =
      ⟨(f a (x o).rest).result, (x o).trace ++ (f a (x o).rest).trace, (f a (x o).rest).rest⟩ := by
  show andThen x f o = _
  simp [andThen, h]

theorem bind_apply_of_error {x : Act α} {o : Oracle} {e : Raised} (h : (x o).result = .error e)
    (f : α → Act β) : (x >>= f) o = ⟨.error e, (x o).trace, (x o).rest⟩ := by
  show andThen x f o = _
  simp [andThen, h]

end Act

namespace Run

variable {α : Type}

/-- The calls of a run, and the cancellations of those that hung. -/
def calls (run : Run α) : List Entry :=
  run.trace.filter fun
    | .logged _ => false
    | _ => true

def logs (run : Run α) : List Log.Record :=
  run.trace.filterMap fun
    | .logged record => some record
    | _ => none

end Run

end Browser

end OutlineChart
