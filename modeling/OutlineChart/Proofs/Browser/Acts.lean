import OutlineChart.Browser.Act

/-! # The calculus of acts

Running an act, step by step: what a call and a deadline come to, how the calls of a sequence are
put together, and that an act uses up exactly the outcomes of the calls that it makes.
-/

namespace OutlineChart

namespace Browser

/-! ## Entries of a trace -/

namespace Entry

/-- The call that an entry is about. -/
def name? : Entry → Option CallName
  | called c => some c.name
  | cancelled name => some name
  | logged _ => none

/-- The call that an entry says was made. -/
def made? : Entry → Option CallName
  | called c => some c.name
  | _ => none

end Entry

namespace Run

variable {α : Type}

theorem calls_eq (run : Run α) : run.calls = run.trace.filter fun entry => entry.name?.isSome := by
  unfold calls
  congr 1
  funext entry
  cases entry <;> rfl

def names (run : Run α) : List CallName := run.calls.filterMap Entry.made?

end Run

/-- What is counted of the first outcomes of a name, and then of those that come after them. -/
theorem Oracle.countP_range_add (o : Oracle) (made : CallName → Nat) (name : CallName) (n : Nat)
    (p : Outcome → Bool) :
    (List.range (made name + n)).countP (fun k => p (o name k)) =
      (List.range (made name)).countP (fun k => p (o name k)) +
        (List.range n).countP fun k => p (o.advance made name k) := by
  rw [List.range_add, List.countP_append, List.countP_map]
  congr 2
  funext k
  show p (o name (made name + k)) = p (o name (k + made name))
  rw [Nat.add_comm]

/-- Only calls of these names ever hang. -/
def Oracle.HangsOnlyAt (names : List CallName) (o : Oracle) : Prop :=
  ∀ name k, o name k = .hang → name ∈ names

/-- How a call ends that nothing bounds. -/
def Outcome.result : Outcome → Except Raised Unit
  | success => .ok ()
  | fail f => .error (.failure f none)
  | cancel => .error .cancelled
  | hang => .error .expired

theorem Outcome.exists_error_of_ne_success {outcome : Outcome} (h : outcome ≠ .success) :
    ∃ e, outcome.result = .error e := by
  cases outcome with
  | success => exact absurd rfl h
  | fail f => exact ⟨_, rfl⟩
  | cancel => exact ⟨_, rfl⟩
  | hang => exact ⟨_, rfl⟩

def Call.entries (c : Call) (outcome : Outcome) : List Entry :=
  .called c :: if outcome = .hang then [.cancelled c.name] else []

theorem Call.name?_of_mem_entries {c : Call} {outcome : Outcome} {entry : Entry}
    (h : entry ∈ c.entries outcome) : entry.name? = some c.name := by
  unfold entries at h
  rcases List.mem_cons.1 h with rfl | h
  · rfl
  · split at h
    · rw [List.mem_singleton.1 h]
      rfl
    · exact absurd h List.not_mem_nil

namespace Act

variable {α β : Type}

/-! ## Single steps -/

theorem call_apply (c : Call) (o : Oracle) :
    call c o = ⟨(o c.name 0).result, c.entries (o c.name 0), o.afterCall c.name⟩ := by
  unfold call Call.entries
  cases o c.name 0 <;> rfl

theorem ofExcept_apply (r : Except Raised α) (o : Oracle) : ofExcept r o = ⟨r, [], o⟩ := by
  cases r <;> rfl

theorem attempt_bind_apply (x : Act α) (f : Except Raised α → Act β) (o : Oracle) :
    (attempt x >>= f) o =
      let ended := f (x o).result (x o).rest
      ⟨ended.result, (x o).trace ++ ended.trace, ended.rest⟩ := rfl

/-- Making something of a result makes no difference to anything else. -/
theorem bind_pure_map_apply (x : Act α) (f : α → β) (o : Oracle) :
    (x >>= fun a => pure (f a)) o = ⟨(x o).result.map f, (x o).trace, (x o).rest⟩ := by
  cases h : (x o).result with
  | ok a =>
      rw [bind_apply_of_ok h]
      simp [Except.map]
  | error e =>
      rw [bind_apply_of_error h]
      rfl

theorem bind_pure_apply (x : Act α) (b : β) (o : Oracle) :
    (x >>= fun _ => pure b) o = ⟨(x o).result.map fun _ => b, (x o).trace, (x o).rest⟩ :=
  bind_pure_map_apply x (fun _ => b) o

/-! ## Deadlines -/

/-- What a deadline fails with before anything has begun. -/
def lapsed? (timeoutMs : Int) : Option Failure :=
  if overflowMs ≤ timeoutMs.natAbs then some .overflow
  else if timeoutMs ≤ 0 then some (.timeout "")
  else none

theorem lapsed?_eq_none_iff {timeoutMs : Int} :
    lapsed? timeoutMs = none ↔ 0 < timeoutMs ∧ timeoutMs.natAbs < overflowMs := by
  unfold lapsed?
  split
  · simp only [reduceCtorEq, false_iff]
    omega
  · split
    · simp only [reduceCtorEq, false_iff]
      omega
    · simp only [true_iff]
      omega

/-- What a deadline makes of the end of work that has begun. -/
def lapse : Except Raised α → Except Raised α
  | .error .expired => .error (.failure (.timeout "") none)
  | ended => ended

theorem lapse_map (r : Except Raised α) (f : α → β) : lapse (r.map f) = (lapse r).map f := by
  cases r with
  | ok a => rfl
  | error e => cases e <;> rfl

theorem lapse_error (e : Raised) : ∃ e', lapse (.error e : Except Raised α) = .error e' := by
  cases e with
  | failure f cause => exact ⟨_, rfl⟩
  | cancelled => exact ⟨_, rfl⟩
  | expired => exact ⟨_, rfl⟩

theorem within_of_lapsed {timeoutMs : Int} {f : Failure} (h : lapsed? timeoutMs = some f)
    (x : Act α) (o : Oracle) : within timeoutMs x o = ⟨.error (.failure f none), [], o⟩ := by
  unfold lapsed? at h
  unfold within
  split at h
  · next hover =>
      cases h
      rw [if_pos hover, raise_apply]
  · next hover =>
      rw [if_neg hover]
      split at h
      · next hpast =>
          cases h
          rw [if_pos hpast, raise_apply]
      · cases h

theorem within_of_inTime {timeoutMs : Int} (h : lapsed? timeoutMs = none) (x : Act α) (o : Oracle) :
    within timeoutMs x o = ⟨lapse (x o).result, (x o).trace, (x o).rest⟩ := by
  unfold lapsed? at h
  unfold within
  split at h
  · cases h
  · next hover =>
      split at h
      · cases h
      · next hpast =>
          rw [if_neg hover, if_neg hpast, attempt_bind_apply]
          cases (x o).result with
          | ok a => simp [ofExcept_apply, lapse]
          | error e => cases e <;> simp [ofExcept_apply, lapse]

/-! ## Sequences -/

theorem calls_bind_of_ok {x : Act α} {o : Oracle} {a : α} (h : (x o).result = .ok a)
    (f : α → Act β) : ((x >>= f) o).calls = (x o).calls ++ (f a (x o).rest).calls := by
  rw [bind_apply_of_ok h]
  simp only [Run.calls_eq, List.filter_append]

theorem calls_bind_of_error {x : Act α} {o : Oracle} {e : Raised} (h : (x o).result = .error e)
    (f : α → Act β) : ((x >>= f) o).calls = (x o).calls := by
  rw [bind_apply_of_error h]
  rfl

theorem result_bind_of_ok {x : Act α} {o : Oracle} {a : α} (h : (x o).result = .ok a)
    (f : α → Act β) : ((x >>= f) o).result = (f a (x o).rest).result := by
  rw [bind_apply_of_ok h]

theorem result_bind_of_error {x : Act α} {o : Oracle} {e : Raised} (h : (x o).result = .error e)
    (f : α → Act β) : ((x >>= f) o).result = .error e := by
  rw [bind_apply_of_error h]

theorem names_bind_of_ok {x : Act α} {o : Oracle} {a : α} (h : (x o).result = .ok a)
    (f : α → Act β) : ((x >>= f) o).names = (x o).names ++ (f a (x o).rest).names := by
  unfold Run.names
  rw [calls_bind_of_ok h, List.filterMap_append]

theorem names_bind_of_error {x : Act α} {o : Oracle} {e : Raised} (h : (x o).result = .error e)
    (f : α → Act β) : ((x >>= f) o).names = (x o).names := by
  unfold Run.names
  rw [calls_bind_of_error h]

theorem names_attempt_bind (x : Act α) (f : Except Raised α → Act β) (o : Oracle) :
    ((attempt x >>= f) o).names = (x o).names ++ (f (x o).result (x o).rest).names := by
  have hended : (attempt x o).result = .ok (x o).result := rfl
  rw [names_bind_of_ok hended]
  rfl

theorem result_attempt_bind (x : Act α) (f : Except Raised α → Act β) (o : Oracle) :
    ((attempt x >>= f) o).result = (f (x o).result (x o).rest).result := rfl

theorem result_call (c : Call) (o : Oracle) : (call c o).result = (o c.name 0).result := by
  rw [call_apply]

theorem calls_call (c : Call) (o : Oracle) : (call c o).calls = c.entries (o c.name 0) := by
  rw [call_apply, Call.entries]
  cases o c.name 0 <;> rfl

theorem names_call (c : Call) (o : Oracle) : (call c o).names = [c.name] := by
  rw [call_apply, Call.entries]
  cases o c.name 0 <;> rfl

/-- The outcomes that are used up are those of the calls that are made. -/
def Spends (x : Act α) : Prop := ∀ o, (x o).rest = o.advance fun name => (x o).names.count name

/-- A sequence advances by the calls of both its parts. -/
theorem Spends.bind {x : Act α} {f : α → Act β} (hx : x.Spends) (hf : ∀ a, (f a).Spends) :
    (x >>= f).Spends := by
  intro o
  cases h : (x o).result with
  | ok a =>
      rw [names_bind_of_ok h, bind_apply_of_ok h]
      simp only [List.count_append]
      rw [hf a, hx o, Oracle.advance_advance]
  | error e =>
      rw [names_bind_of_error h, bind_apply_of_error h]
      exact hx o

/-! ## Acts that make certain calls only -/

/-- An act is put together from calls with certain names. -/
inductive CallsOnly (names : List CallName) : {α : Type} → Act α → Prop
  | result {α : Type} (a : α) : CallsOnly names (result a)
  | raise {α : Type} (e : Raised) : CallsOnly names (raise e : Act α)
  | log (record : Log.Record) : CallsOnly names (log record)
  | call {c : Call} : c.name ∈ names → CallsOnly names (call c)
  | attempt {α : Type} {x : Act α} : CallsOnly names x → CallsOnly names (attempt x)
  | bind {α β : Type} {x : Act α} {f : α → Act β} : CallsOnly names x →
      (∀ a, CallsOnly names (f a)) → CallsOnly names (x >>= f)

namespace CallsOnly

variable {names : List CallName} {x : Act α}

theorem call_self (c : Call) : CallsOnly [c.name] (Act.call c) := .call (List.mem_singleton_self _)

theorem mono {names' : List CallName} (h : CallsOnly names x) (hsub : names ⊆ names') :
    CallsOnly names' x := by
  induction h with
  | result a => exact .result a
  | raise e => exact .raise e
  | log record => exact .log record
  | call hc => exact .call (hsub hc)
  | attempt _ ih => exact .attempt ih
  | bind _ _ ihx ihf => exact .bind ihx ihf

theorem ofExcept (r : Except Raised α) : CallsOnly names (Act.ofExcept r) := by
  cases r with
  | ok a => exact .result a
  | error e => exact .raise e

theorem within (timeoutMs : Int) (h : CallsOnly names x) :
    CallsOnly names (Act.within timeoutMs x) := by
  unfold Act.within
  split
  · exact .raise _
  · split
    · exact .raise _
    · refine .bind (.attempt h) fun ended => ?_
      split
      · exact .raise _
      · exact ofExcept _

theorem name_mem (h : CallsOnly names x) (o : Oracle) :
    ∀ entry ∈ (x o).trace, ∀ name ∈ entry.name?, name ∈ names := by
  induction h generalizing o with
  | result a => simp [Act.result]
  | raise e => simp [Act.raise]
  | log record =>
      intro entry hentry name hname
      rw [log_apply, List.mem_singleton] at hentry
      subst hentry
      cases hname
  | @call c hc =>
      intro entry hentry name hname
      rw [call_apply] at hentry
      rw [Call.name?_of_mem_entries hentry] at hname
      exact Option.some.inj hname ▸ hc
  | attempt _ ih => exact ih o
  | @bind α β x f _ _ ihx ihf =>
      cases hx : (x o).result with
      | ok a =>
          rw [bind_apply_of_ok hx]
          intro entry hentry
          rcases List.mem_append.1 hentry with hentry | hentry
          · exact ihx o entry hentry
          · exact ihf a _ entry hentry
      | error e =>
          rw [bind_apply_of_error hx]
          exact ihx o

/-- What an act leaves are the outcomes that the calls it made have not used. -/
theorem rest_eq (h : CallsOnly names x) (o : Oracle) :
    (x o).rest = o.advance fun name => (x o).names.count name := by
  induction h generalizing o with
  | result a => rfl
  | raise e => rfl
  | log record => rfl
  | @call c hc =>
      have hcount : (fun name => [c.name].count name) =
          fun other => if other = c.name then 1 else 0 := by
        funext other
        rw [List.count_singleton]
        by_cases hother : other = c.name
        · simp [hother]
        · simp [hother, Ne.symm hother]
      rw [names_call, hcount, call_apply]
      rfl
  | attempt _ ih => exact ih o
  | bind _ _ ihx ihf => exact Spends.bind ihx ihf o

theorem spends (h : CallsOnly names x) : x.Spends := h.rest_eq

theorem names_subset (h : CallsOnly names x) (o : Oracle) : (x o).names ⊆ names := by
  intro name hmem
  obtain ⟨entry, hentry, hmade⟩ := List.mem_filterMap.1 hmem
  have hname : name ∈ entry.name? := by
    cases entry with
    | called c => exact hmade
    | cancelled name => cases hmade
    | logged record => cases hmade
  exact h.name_mem o entry (List.mem_filter.1 hentry).1 name hname

theorem rest_of_notMem (h : CallsOnly names x) (o : Oracle) {name : CallName}
    (hname : name ∉ names) : (x o).rest name = o name := by
  rw [h.rest_eq]
  funext k
  rw [Oracle.advance, List.count_eq_zero.2 fun hmem => hname (h.names_subset o hmem), Nat.add_zero]

theorem calls_eq_nil (h : CallsOnly [] x) (o : Oracle) : (x o).calls = [] := by
  rw [Run.calls_eq, List.filter_eq_nil_iff]
  intro entry hentry hsome
  obtain ⟨name, hname⟩ := Option.isSome_iff_exists.1 hsome
  exact List.not_mem_nil (h.name_mem o entry hentry name hname)

end CallsOnly

/-- What makes no calls can be left out of the calls of a sequence. -/
theorem calls_bind_silent (x : Act α) {f : α → Act β} (hf : ∀ a, CallsOnly [] (f a)) (o : Oracle) :
    ((x >>= f) o).calls = (x o).calls := by
  cases h : (x o).result with
  | ok a => rw [calls_bind_of_ok h, (hf a).calls_eq_nil, List.append_nil]
  | error e => exact calls_bind_of_error h f

/-! ## Handling the end of an act -/

/-- An act runs another one to its end, and makes no calls after that. -/
def Wraps (y : Act β) (x : Act α) : Prop :=
  ∃ handle : Except Raised α → Act β, y = (attempt x >>= handle) ∧ ∀ r, CallsOnly [] (handle r)

namespace Wraps

variable {x : Act α} {y : Act β}

theorem calls (h : Wraps y x) (o : Oracle) : (y o).calls = (x o).calls := by
  obtain ⟨handle, rfl, hsilent⟩ := h
  exact calls_bind_silent (attempt x) hsilent o

theorem names (h : Wraps y x) (o : Oracle) : (y o).names = (x o).names :=
  congrArg (List.filterMap Entry.made?) (h.calls o)

theorem callsOnly (h : Wraps y x) {names : List CallName} (hx : CallsOnly names x) :
    CallsOnly names y := by
  obtain ⟨handle, rfl, hsilent⟩ := h
  exact .bind (.attempt hx) fun r => (hsilent r).mono (List.nil_subset _)

end Wraps

end Act

end Browser

end OutlineChart
