import OutlineChart.Browser.Desk
import OutlineChart.Proofs.Browser.Chromium

/-! # The lifetimes of environments

Steps are made one after the other with one environment and one page at hand.  Environments and
pages are numbered from one in the order in which they come, so that the calls of a whole run can be
told apart by the environment they are made to: each environment is let go once, by the first step
that closes it, and is of no use after that.
-/

namespace OutlineChart

namespace Browser

namespace Chromium

/-! ## Histories -/

/-- A desk, and how many environments and pages have come to it.  The last of each is at hand. -/
structure Bench where
  desk : Desk := {}
  launched : Nat := 0
  opened : Nat := 0
  deriving DecidableEq, Repr

def Bench.after (bench : Bench) (step : Step) (result : Except Raised Reply) : Bench where
  desk := bench.desk.after step result
  launched := match step, result with
    | .launch, .ok _ => bench.launched + 1
    | _, _ => bench.launched
  opened := match step, result with
    | .newPage, .ok .done => bench.opened + 1
    | _, _ => bench.opened

/-- A step that is about to be made. -/
structure Moment where
  bench : Bench
  oracle : Oracle
  step : Step

variable (s : Settings) (pdf : Bytes)

namespace Moment

def run (m : Moment) : Run Reply := m.bench.desk.perform s pdf m.step m.oracle

def next (m : Moment) : Bench := m.bench.after m.step (m.run s pdf).result

/-- A step fails if it raises, or if there is nothing to make it with. -/
def Fails (m : Moment) : Prop :=
  (m.run s pdf).result ≠ .ok .done ∧ ∀ content, (m.run s pdf).result ≠ .ok (.exported content)

/-- The number of the environment that a step is about, or zero if there is none.  A launch is about
the environment that comes of it. -/
def subject (m : Moment) : Nat :=
  if m.step = .launch ∧ (m.next s pdf).launched = m.bench.launched then 0
  else (m.next s pdf).launched

end Moment

def history : Bench → Oracle → List Step → List Moment
  | _, _, [] => []
  | bench, o, step :: steps =>
      let now : Moment := ⟨bench, o, step⟩
      now :: history (now.next s pdf) (now.run s pdf).rest steps

def closedIn (past : List Moment) (n : Nat) : Bool :=
  past.any fun m => m.step = .close && m.bench.launched = n

/-- The calls of the steps that are about an environment. -/
def namesOn (past : List Moment) (n : Nat) : List CallName :=
  (past.filter fun m => m.subject s pdf = n).flatMap fun m => (m.run s pdf).names

variable {s : Settings} {pdf : Bytes} {past : List Moment} {m : Moment} {o : Oracle}

theorem map_run_history (bench : Bench) (o : Oracle) (steps : List Step) :
    (history s pdf bench o steps).map (Moment.run s pdf) =
      Desk.runs s pdf bench.desk o steps := by
  induction steps generalizing bench o with
  | nil => rfl
  | cons step steps ih =>
      rw [history, List.map_cons, ih]
      rfl

theorem closedIn_concat (past : List Moment) (m : Moment) (n : Nat) :
    closedIn (past ++ [m]) n = (closedIn past n || (m.step = .close && m.bench.launched = n)) := by
  simp [closedIn]

theorem namesOn_concat (past : List Moment) (m : Moment) (n : Nat) :
    namesOn s pdf (past ++ [m]) n =
      namesOn s pdf past n ++ if m.subject s pdf = n then (m.run s pdf).names else [] := by
  unfold namesOn
  by_cases h : m.subject s pdf = n <;> simp [h]

/-! ## Steps -/

theorem names_reply (x : Act Unit) (o : Oracle) : (Desk.reply x o).names = (x o).names :=
  congrArg (List.filterMap Entry.made?) (Act.calls_bind_silent x (fun _ => .result _) o)

theorem Desk.callsOnly_reply {names : List CallName} {x : Act Unit} (h : Act.CallsOnly names x) :
    Act.CallsOnly names (Desk.reply x) := .bind h fun _ => .result _

theorem Desk.callsOnly_onPage {names : List CallName} {work : Act Reply} (desk : Desk)
    (h : Act.CallsOnly names work) : Act.CallsOnly names (desk.onPage work) := by
  unfold Desk.onPage
  split
  · exact h
  · exact .result _

/-- A step that neither launches nor closes makes calls that concern a page. -/
theorem Desk.callsOnly_perform (desk : Desk) {step : Step} (hlaunch : step ≠ .launch)
    (hclose : step ≠ .close) : Act.CallsOnly pageNames (desk.perform s pdf step) := by
  have hcall : ∀ {c : Call}, c.name ∈ pageNames → Act.CallsOnly pageNames (Act.call c) := .call
  have htimed : ∀ {c : Call}, c.name ∈ pageNames →
      Act.CallsOnly pageNames (desk.onPage (reply (timed (Act.call c)))) :=
    fun hc => callsOnly_onPage desk (callsOnly_reply (callsOnly_timed (hcall hc)))
  cases step with
  | launch => exact absurd rfl hlaunch
  | newPage =>
      unfold Desk.perform
      cases desk.environment with
      | none => exact .result _
      | some environment =>
          apply callsOnly_reply
          cases environment with
          | opened => exact hcall (by simp [Call.name, pageNames])
          | closed => exact .raise _
  | loadHtml html timeoutMs => exact htimed (by simp [Call.name, pageNames])
  | wait timeoutMs => exact htimed (by simp [Call.name, pageNames])
  | screenshot path timeoutMs => exact htimed (by simp [Call.name, pageNames])
  | exportPdf options =>
      apply callsOnly_onPage
      apply Act.CallsOnly.bind
      · exact .bind (hcall (by simp [Call.name, pageNames])) fun _ => .result _
      · exact fun _ => .result _
  | close => exact absurd rfl hclose

/-- A launch succeeds or raises; a driver that it has started is stopped only if it raises. -/
theorem Moment.launch_cases (s : Settings) (pdf : Bytes) (hstep : m.step = .launch) :
    ((m.run s pdf).result = .ok .done ∧ (m.run s pdf).names = [.startDriver, .launchChromium]) ∨
      (∃ e, (m.run s pdf).result = .error e) ∧ CallName.closeBrowser ∉ (m.run s pdf).names ∧
        (m.oracle .startDriver 0 = .success → (m.run s pdf).names.count .stopDriver = 1) := by
  have hrun : m.run s pdf =
      ⟨(launch s m.oracle).result.map fun _ => Reply.done, (launch s m.oracle).trace,
        (launch s m.oracle).rest⟩ := by
    unfold Moment.run
    rw [hstep]
    exact Act.bind_pure_apply (launch s) Reply.done m.oracle
  have hnames : (m.run s pdf).names = (launch s m.oracle).names := by
    rw [hrun]
    rfl
  rw [hnames, hrun]
  by_cases hdriver : m.oracle .startDriver 0 = .success
  · rcases launch_of_driver_started s hdriver with ⟨-, hended, hcalls⟩ | ⟨-, ⟨e, hended⟩, hcalls⟩
    · rw [hended, hcalls]
      exact .inl ⟨rfl, rfl⟩
    · rw [hended, hcalls]
      exact .inr ⟨⟨e, rfl⟩, by decide, fun _ => by decide⟩
  · obtain ⟨⟨e, hended⟩, hcalls⟩ := launch_of_driver_failed s hdriver
    rw [hended, hcalls]
    exact .inr ⟨⟨e, rfl⟩, by decide, fun h => absurd h hdriver⟩

theorem Moment.launched_next (hstep : m.step ≠ .launch) :
    (m.next s pdf).launched = m.bench.launched := by
  unfold Moment.next Bench.after
  cases hcase : m.step with
  | launch => exact absurd hcase hstep
  | _ => rfl

theorem Moment.subject_eq (hstep : m.step ≠ .launch) : m.subject s pdf = m.bench.launched := by
  rw [Moment.subject, if_neg fun h => hstep h.1, launched_next hstep]

theorem Moment.run_close_of_none (hstep : m.step = .close)
    (henvironment : m.bench.desk.environment = none) :
    m.run s pdf = ⟨.ok .noEnvironment, [], m.oracle⟩ := by
  unfold Moment.run Desk.perform
  rw [hstep, henvironment]
  rfl

/-- Closing a closed environment again does nothing. -/
theorem Moment.run_close_of_closed (hstep : m.step = .close)
    (henvironment : m.bench.desk.environment = some .closed) :
    m.run s pdf = ⟨.ok .done, [], m.oracle⟩ := by
  unfold Moment.run Desk.perform
  rw [hstep, henvironment]
  rfl

/-- Both handles of an open environment are let go, whatever comes of the first. -/
theorem Moment.names_close_of_opened (hstep : m.step = .close)
    (henvironment : m.bench.desk.environment = some .opened) :
    (m.run s pdf).names = [.closeBrowser, .stopDriver] := by
  unfold Moment.run Desk.perform
  rw [hstep, henvironment]
  exact (names_reply _ m.oracle).trans (names_close m.oracle)

/-- A closed environment opens no page. -/
theorem Moment.run_newPage_of_closed (hstep : m.step = .newPage)
    (henvironment : m.bench.desk.environment = some .closed) :
    m.run s pdf =
      ⟨.error (.failure (.ordinary "RuntimeError" "Browser already closed") none), [], m.oracle⟩ := by
  unfold Moment.run Desk.perform
  rw [hstep, henvironment]
  rfl

/-- Closing changes the environment alone, whatever comes of it. -/
theorem Moment.next_close (hstep : m.step = .close) :
    m.next s pdf = { m.bench with
      desk := { m.bench.desk with
        environment := m.bench.desk.environment.map fun _ => .closed } } := by
  rw [Moment.next, hstep]
  rfl

/-- A step on a page is the only other one that may change anything, and not the environment. -/
theorem Moment.environment_next (hlaunch : m.step ≠ .launch) (hclose : m.step ≠ .close) :
    (m.next s pdf).desk.environment = m.bench.desk.environment := by
  unfold Moment.next Bench.after Desk.after
  dsimp only
  split
  · next hstep _ => exact absurd hstep hlaunch
  · rfl
  · next hstep => exact absurd hstep hclose
  · rfl

theorem Bench.after_newPage_of_ne {bench : Bench} {result : Except Raised Reply}
    (h : result ≠ .ok .done) : bench.after .newPage result = bench := by
  cases result with
  | error e => rfl
  | ok reply =>
      cases reply with
      | done => exact absurd rfl h
      | _ => rfl

/-- A step that fails leaves everything as it was, closing apart. -/
theorem Moment.Fails.next_eq (h : m.Fails s pdf) (hclose : m.step ≠ .close) :
    m.next s pdf = m.bench := by
  unfold Moment.next
  cases hstep : m.step with
  | launch =>
      rcases Moment.launch_cases s pdf hstep with ⟨hended, -⟩ | ⟨⟨e, hended⟩, -⟩
      · exact absurd hended h.1
      · rw [hended]
        rfl
  | newPage => exact Bench.after_newPage_of_ne h.1
  | close => exact absurd hstep hclose
  | _ => rfl

def releasing : List CallName := [.closeBrowser, .stopDriver]

theorem Moment.releasing_notMem_names (hlaunch : m.step ≠ .launch) (hclose : m.step ≠ .close) :
    ∀ name ∈ releasing, name ∉ (m.run s pdf).names := by
  intro name hname hmem
  have hpage : name ∈ pageNames :=
    (m.bench.desk.callsOnly_perform hlaunch hclose).names_subset m.oracle hmem
  have hneither : ∀ name ∈ releasing, name ∉ pageNames := by decide
  exact hneither name hname hpage

/-! ## What a history keeps -/

/-- What is at hand after a history, and what it has let go. -/
structure Kept (s : Settings) (pdf : Bytes) (past : List Moment) (bench : Bench) : Prop where
  launched_le : ∀ m ∈ past, m.bench.launched ≤ bench.launched
  environment : bench.desk.environment =
    if bench.launched = 0 then none
    else some (if closedIn past bench.launched then .closed else .opened)
  released : ∀ n, ∀ name ∈ releasing,
    (namesOn s pdf past (n + 1)).count name = if closedIn past (n + 1) then 1 else 0

namespace Kept

theorem start (s : Settings) (pdf : Bytes) : Kept s pdf [] {} where
  launched_le := by simp
  environment := rfl
  released := by simp [namesOn, closedIn]

/-- With as many environments as before, those of the past are no more than there are. -/
theorem launched_le_concat {bench : Bench} (h : Kept s pdf past m.bench)
    (hle : m.bench.launched ≤ bench.launched) :
    ∀ m' ∈ past ++ [m], m'.bench.launched ≤ bench.launched := by
  intro m' hm'
  rcases List.mem_append.1 hm' with hm' | hm'
  · exact Nat.le_trans (h.launched_le m' hm') hle
  · rw [List.mem_singleton.1 hm']
    exact hle

/-- A step that releases nothing and closes nothing. -/
theorem released_concat (h : Kept s pdf past m.bench) (hstep : m.step ≠ .close)
    (hnone : ∀ n, m.subject s pdf = n + 1 → ∀ name ∈ releasing,
      name ∉ (m.run s pdf).names) :
    ∀ n, ∀ name ∈ releasing,
      (namesOn s pdf (past ++ [m]) (n + 1)).count name =
        if closedIn (past ++ [m]) (n + 1) then 1 else 0 := by
  intro n name hname
  have hclosed : closedIn (past ++ [m]) (n + 1) = closedIn past (n + 1) := by
    simp [closedIn_concat, hstep]
  rw [namesOn_concat, List.count_append, h.released n name hname, hclosed]
  by_cases hsubject : m.subject s pdf = n + 1
  · rw [if_pos hsubject, List.count_eq_zero.2 (hnone n hsubject name hname), Nat.add_zero]
  · rw [if_neg hsubject, List.count_nil, Nat.add_zero]

theorem next_launch (h : Kept s pdf past m.bench) (hstep : m.step = .launch) :
    Kept s pdf (past ++ [m]) (m.next s pdf) := by
  have hclose : m.step ≠ .close := by simp [hstep]
  rcases Moment.launch_cases s pdf hstep with ⟨hended, hnames⟩ | ⟨⟨e, hended⟩, -, -⟩
  · have hnext : m.next s pdf =
        { m.bench with
          desk := { m.bench.desk with environment := some .opened }
          launched := m.bench.launched + 1 } := by
      rw [Moment.next, hstep, hended]
      rfl
    -- the number of the new environment is greater than all before it
    have hfresh : closedIn (past ++ [m]) (m.bench.launched + 1) = false := by
      rw [closedIn, List.any_eq_false]
      intro m' hm' hthis
      have hle := h.launched_le_concat (Nat.le_refl _) m' hm'
      simp only [Bool.and_eq_true, decide_eq_true_eq] at hthis
      omega
    constructor
    · rw [hnext]
      exact h.launched_le_concat (Nat.le_succ _)
    · rw [hnext]
      simp [hfresh]
    · apply h.released_concat hclose
      intro n _
      rw [hnames]
      decide
  · have hfails : m.Fails s pdf := by simp [Moment.Fails, hended]
    have hnext : m.next s pdf = m.bench := hfails.next_eq hclose
    constructor
    · rw [hnext]
      exact h.launched_le_concat (Nat.le_refl _)
    · rw [hnext, h.environment]
      simp [closedIn_concat, hstep]
    · apply h.released_concat hclose
      intro n hsubject
      rw [Moment.subject, if_pos ⟨hstep, congrArg Bench.launched hnext⟩] at hsubject
      omega

theorem environment_eq (h : Kept s pdf past m.bench) (hlaunched : 0 < m.bench.launched) :
    m.bench.desk.environment =
      some (if closedIn past m.bench.launched then .closed else .opened) := by
  rw [h.environment, if_neg (Nat.ne_of_gt hlaunched)]

theorem next_close (h : Kept s pdf past m.bench) (hstep : m.step = .close) :
    Kept s pdf (past ++ [m]) (m.next s pdf) := by
  have hne : m.step ≠ .launch := by simp [hstep]
  have hlaunched : (m.next s pdf).launched = m.bench.launched := Moment.launched_next hne
  have hclosed : ∀ n, closedIn (past ++ [m]) n =
      (closedIn past n || decide (m.bench.launched = n)) := by
    intro n
    simp [closedIn_concat, hstep]
  constructor
  · exact h.launched_le_concat (Nat.le_of_eq hlaunched.symm)
  · rw [hlaunched, hclosed, Moment.next_close hstep, h.environment]
    by_cases hzero : m.bench.launched = 0
    · simp [hzero]
    · simp [hzero]
  · intro n name hname
    rw [namesOn_concat, List.count_append, h.released n name hname, hclosed,
      Moment.subject_eq hne]
    by_cases hthis : m.bench.launched = n + 1
    · have henvironment := h.environment_eq (by omega)
      rw [hthis] at henvironment
      rw [if_pos hthis]
      cases hpast : closedIn past (n + 1) with
      | true =>
          rw [hpast] at henvironment
          rw [Moment.run_close_of_closed hstep henvironment]
          simp [Run.names, Run.calls]
      | false =>
          rw [hpast] at henvironment
          have honce : ∀ name ∈ releasing, [CallName.closeBrowser, .stopDriver].count name = 1 := by
            decide
          rw [Moment.names_close_of_opened hstep henvironment, honce name hname]
          simp [hthis]
    · simp [hthis]

theorem next_page (h : Kept s pdf past m.bench) (hlaunch : m.step ≠ .launch)
    (hclose : m.step ≠ .close) : Kept s pdf (past ++ [m]) (m.next s pdf) := by
  have hlaunched : (m.next s pdf).launched = m.bench.launched := Moment.launched_next hlaunch
  constructor
  · exact h.launched_le_concat (Nat.le_of_eq hlaunched.symm)
  · rw [Moment.environment_next hlaunch hclose, h.environment, hlaunched]
    simp [closedIn_concat, hclose]
  · exact h.released_concat hclose fun _ _ => Moment.releasing_notMem_names hlaunch hclose

/-- Whatever step is made, what is at hand is kept account of. -/
theorem next (h : Kept s pdf past m.bench) : Kept s pdf (past ++ [m]) (m.next s pdf) := by
  by_cases hlaunch : m.step = .launch
  · exact h.next_launch hlaunch
  · by_cases hclose : m.step = .close
    · exact h.next_close hclose
    · exact h.next_page hlaunch hclose

/-- So it is before each step of a history, and after the last. -/
theorem history {bench : Bench} (h : Kept s pdf past bench) (o : Oracle) (steps : List Step) :
    (∀ before m after, history s pdf bench o steps = before ++ m :: after →
        Kept s pdf (past ++ before) m.bench) ∧
      ∃ last, Kept s pdf (past ++ history s pdf bench o steps) last := by
  induction steps generalizing past bench o with
  | nil =>
      constructor
      · intro before m after hsplit
        cases before <;> cases hsplit
      · exact ⟨bench, by rwa [Chromium.history, List.append_nil]⟩
  | cons step steps ih =>
      have hnext : Kept s pdf (past ++ [⟨bench, o, step⟩]) (Moment.next s pdf ⟨bench, o, step⟩) :=
        next h
      obtain ⟨hsplits, last, hlast⟩ := ih hnext (Moment.run s pdf ⟨bench, o, step⟩).rest
      constructor
      · intro before m after hsplit
        cases before with
        | nil =>
            cases hsplit
            rwa [List.append_nil]
        | cons first before =>
            obtain ⟨rfl, hrest⟩ := List.cons.inj hsplit
            rw [List.append_cons]
            exact hsplits before m after hrest
      · exact ⟨last, by rwa [Chromium.history, List.append_cons]⟩

end Kept

/-! ## Lifetimes -/

/-- What is sure of a step, given the steps before it. -/
structure Orderly (s : Settings) (pdf : Bytes) (past : List Moment) (m : Moment) : Prop where
  firstClose : m.step = .close → 0 < m.bench.launched → closedIn past m.bench.launched = false →
    (m.run s pdf).names = [.closeBrowser, .stopDriver]
  laterClose : m.step = .close → 0 < m.bench.launched → closedIn past m.bench.launched = true →
    (m.run s pdf).result = .ok .done ∧ (m.run s pdf).trace = []
  laterPage : m.step = .newPage → 0 < m.bench.launched → closedIn past m.bench.launched = true →
    (m.run s pdf).result =
        .error (.failure (.ordinary "RuntimeError" "Browser already closed") none) ∧
      (m.run s pdf).trace = []
  /-- Nothing is let go but an environment at hand, and the driver of a launch that fails. -/
  releases : ∀ name ∈ releasing, name ∈ (m.run s pdf).names →
    (m.step = .close ∧ 0 < m.bench.launched) ∨
      (m.step = .launch ∧ m.Fails s pdf ∧ name = .stopDriver)
  failedLaunch : m.step = .launch → m.Fails s pdf →
    m.next s pdf = m.bench ∧
      (m.oracle .startDriver 0 = .success → (m.run s pdf).names.count .stopDriver = 1)
  failedStep : m.Fails s pdf →
    (m.next s pdf).opened = m.bench.opened ∧
      (m.next s pdf).desk.hasPage = m.bench.desk.hasPage

theorem Kept.cause_of_releasing (h : Kept s pdf past m.bench) {name : CallName}
    (hname : name ∈ releasing) (hmem : name ∈ (m.run s pdf).names) :
    (m.step = .close ∧ 0 < m.bench.launched) ∨
      (m.step = .launch ∧ m.Fails s pdf ∧ name = .stopDriver) := by
  by_cases hlaunch : m.step = .launch
  · rcases Moment.launch_cases s pdf hlaunch with ⟨-, hnames⟩ | ⟨⟨e, hended⟩, hbrowser, -⟩
    · rw [hnames] at hmem
      have hneither : ∀ name ∈ releasing, name ∉ [CallName.startDriver, .launchChromium] := by
        decide
      exact absurd hmem (hneither name hname)
    · refine .inr ⟨hlaunch, by simp [Moment.Fails, hended], ?_⟩
      rcases List.mem_cons.1 hname with rfl | hname
      · exact absurd hmem hbrowser
      · exact List.mem_singleton.1 hname
  · by_cases hclose : m.step = .close
    · refine .inl ⟨hclose, Nat.pos_of_ne_zero fun hzero => ?_⟩
      have hnone : m.bench.desk.environment = none := by
        rw [h.environment, if_pos hzero]
      rw [Moment.run_close_of_none hclose hnone] at hmem
      exact absurd hmem List.not_mem_nil
    · exact absurd hmem (Moment.releasing_notMem_names hlaunch hclose name hname)

theorem Kept.orderly (h : Kept s pdf past m.bench) : Orderly s pdf past m where
  firstClose hstep hlaunched hopen := by
    have henvironment := h.environment_eq hlaunched
    rw [hopen] at henvironment
    exact Moment.names_close_of_opened hstep henvironment
  laterClose hstep hlaunched hclosed := by
    have henvironment := h.environment_eq hlaunched
    rw [hclosed] at henvironment
    rw [Moment.run_close_of_closed hstep henvironment]
    exact ⟨rfl, rfl⟩
  laterPage hstep hlaunched hclosed := by
    have henvironment := h.environment_eq hlaunched
    rw [hclosed] at henvironment
    rw [Moment.run_newPage_of_closed hstep henvironment]
    exact ⟨rfl, rfl⟩
  releases _ hname hmem := h.cause_of_releasing hname hmem
  failedLaunch hstep hfails := by
    refine ⟨hfails.next_eq (by simp [hstep]), fun hstarted => ?_⟩
    rcases Moment.launch_cases s pdf hstep with ⟨hended, -⟩ | ⟨-, -, hstopped⟩
    · exact absurd hended hfails.1
    · exact hstopped hstarted
  failedStep hfails := by
    by_cases hclose : m.step = .close
    · rw [Moment.next_close hclose]
      exact ⟨rfl, rfl⟩
    · rw [hfails.next_eq hclose]
      exact ⟨rfl, rfl⟩

/-- In whatever order steps are made, and whatever comes of them, an environment is let go once if
it is closed and never otherwise, by the first step that closes it.  After that it opens no page. -/
theorem environments_let_go_once (s : Settings) (pdf : Bytes) (o : Oracle) (steps : List Step) :
    (history s pdf {} o steps).map (Moment.run s pdf) = Desk.runs s pdf {} o steps ∧
      (∀ n, ∀ name ∈ releasing,
        (namesOn s pdf (history s pdf {} o steps) (n + 1)).count name =
          if closedIn (history s pdf {} o steps) (n + 1) then 1 else 0) ∧
      ∀ before m after, history s pdf {} o steps = before ++ m :: after →
        Orderly s pdf before m := by
  obtain ⟨hsplits, last, hlast⟩ := (Kept.start s pdf).history o steps
  refine ⟨map_run_history {} o steps, hlast.released, ?_⟩
  intro before m after hsplit
  exact (hsplits before m after hsplit).orderly

/-- A browser that cannot be closed is closed once all the same. -/
example :
    (Desk.runs {} [] {} (fun name _ => if name = .closeBrowser then .fail (.driver "stuck")
        else .success) [.launch, .newPage, .close, .close, .newPage]).map Run.names =
      [[.startDriver, .launchChromium], [.openPage], [.closeBrowser, .stopDriver], [], []] := by
  decide +kernel

end Chromium

end Browser

end OutlineChart
