import OutlineChart.Proofs.Browser.Chromium

/-! # Acts in ordinary circumstances

When no call is cancelled and none hangs, work ends in a result or in a failure, and leaves outcomes
of the same kind to the work after it.  What the calls fail with is kept track of by a property of
failures that deadlines respect.
-/

namespace OutlineChart

namespace Browser

variable {α β : Type} {R : Failure → Prop}

/-- Every call succeeds or fails. -/
def Oracle.Ordinary (o : Oracle) : Prop := ∀ name k, o name k ≠ .cancel ∧ o name k ≠ .hang

/-- Every call succeeds, or fails with what has the property. -/
def Oracle.FailsWith (o : Oracle) (R : Failure → Prop) : Prop :=
  ∀ name k, o name k = .success ∨ ∃ f, o name k = .fail f ∧ R f

theorem Oracle.FailsWith.advance {o : Oracle} (h : o.FailsWith R) (made : CallName → Nat) :
    (o.advance made).FailsWith R := fun name k => h name (k + made name)

theorem Oracle.Ordinary.failsWith {o : Oracle} (h : o.Ordinary)
    (hR : ∀ name k f, o name k = .fail f → R f) : o.FailsWith R := by
  intro name k
  obtain ⟨hcancel, hhang⟩ := h name k
  cases houtcome : o name k with
  | success => exact .inl rfl
  | fail f => exact .inr ⟨f, rfl, hR name k f houtcome⟩
  | cancel => exact absurd houtcome hcancel
  | hang => exact absurd houtcome hhang

/-- What a deadline fails with has the property, and a timeout of the driver's keeps it. -/
structure Lapsing (R : Failure → Prop) : Prop where
  timeout : R (.timeout "")
  overflow : R .overflow
  ofDriver : ∀ ⦃text⦄, R (.driverTimeout text) → R (.timeout text)

theorem Lapsing.lapsed (h : Lapsing R) {timeoutMs : Int} {f : Failure}
    (hlapsed : Act.lapsed? timeoutMs = some f) : R f := by
  unfold Act.lapsed? at hlapsed
  split at hlapsed
  · cases hlapsed
    exact h.overflow
  · split at hlapsed
    · cases hlapsed
      exact h.timeout
    · cases hlapsed

/-- A result with one property, or a failure with another. -/
inductive Settled (P : α → Prop) (F : Failure → Prop) : Except Raised α → Prop
  | ok {a : α} : P a → Settled P F (.ok a)
  | failure {f : Failure} (cause : Option Failure) : F f → Settled P F (.error (.failure f cause))

namespace Act

/-- From outcomes that fail with `R` only, ends in a result or in a failure with these properties,
and leaves such outcomes. -/
def Settles (R : Failure → Prop) (x : Act α) (P : α → Prop := fun _ => True)
    (F : Failure → Prop := R) : Prop :=
  ∀ ⦃o : Oracle⦄, o.FailsWith R → Settled P F (x o).result ∧ (x o).rest.FailsWith R

namespace Settles

variable {P : α → Prop} {Q : β → Prop} {F G : Failure → Prop}

theorem result {a : α} (h : P a) : (Act.result a).Settles R P F := fun _ ho => ⟨.ok h, ho⟩

theorem failure {f : Failure} (cause : Option Failure) (h : F f) :
    (raise (.failure f cause) : Act α).Settles R P F := fun _ ho => ⟨.failure cause h, ho⟩

theorem log (record : Log.Record) : (Act.log record).Settles R (fun _ => True) F :=
  fun _ ho => ⟨.ok trivial, ho⟩

theorem imp_failure {x : Act α} (h : x.Settles R P F) (hF : ∀ f, F f → G f) :
    x.Settles R P G := by
  intro o ho
  obtain ⟨hended, hrest⟩ := h ho
  refine ⟨?_, hrest⟩
  generalize (x o).result = r at hended
  cases hended with
  | ok ha => exact .ok ha
  | failure cause hf => exact .failure cause (hF _ hf)

theorem call (c : Call) : (Act.call c).Settles R := by
  intro o ho
  rw [call_apply]
  refine ⟨?_, ho.advance _⟩
  rcases ho c.name 0 with houtcome | ⟨f, houtcome, hf⟩
  · rw [houtcome]
    exact .ok trivial
  · rw [houtcome]
    exact .failure none hf

theorem ofExcept {r : Except Raised α} (h : Settled P F r) : (Act.ofExcept r).Settles R P F := by
  cases h with
  | ok ha => exact .result ha
  | failure cause hf => exact .failure cause hf

theorem bind {x : Act α} {f : α → Act β} (hx : x.Settles R P F)
    (hf : ∀ a, P a → (f a).Settles R Q F) : (x >>= f).Settles R Q F := by
  intro o ho
  obtain ⟨hended, hrest⟩ := hx ho
  -- what `x` leaves fails with `R` only again, so the rest of the work may rely on it
  generalize hresult : (x o).result = r at hended
  cases hended with
  | ok ha =>
      rw [bind_apply_of_ok hresult]
      exact hf _ ha hrest
  | failure cause hfailure =>
      rw [bind_apply_of_error hresult]
      exact ⟨.failure cause hfailure, hrest⟩

theorem attempt_bind {x : Act α} {f : Except Raised α → Act β} (hx : x.Settles R P F)
    (hf : ∀ r, Settled P F r → (f r).Settles R Q G) : (attempt x >>= f).Settles R Q G := by
  intro o ho
  obtain ⟨hended, hrest⟩ := hx ho
  rw [attempt_bind_apply]
  exact hf _ hended hrest

theorem within (hR : Lapsing R) (timeoutMs : Int) {x : Act α} (hx : x.Settles R P) :
    (Act.within timeoutMs x).Settles R P := by
  intro o ho
  obtain ⟨hended, hrest⟩ := hx ho
  cases hlapsed : lapsed? timeoutMs with
  | some f =>
      rw [within_of_lapsed hlapsed]
      exact ⟨.failure none (hR.lapsed hlapsed), ho⟩
  | none =>
      rw [within_of_inTime hlapsed]
      refine ⟨?_, hrest⟩
      generalize (x o).result = r at hended
      cases hended with
      | ok ha => exact .ok ha
      | failure cause hf => exact .failure cause hf

end Settles

end Act

/-! ## Backends -/

/-- Everything that rendering asks for ends in a result or a failure with the property. -/
structure Backend.Settles (R : Failure → Prop) (b : Backend) : Prop where
  launch : ∀ s, (b.launch s).Settles R
  newPage : b.newPage.Settles R
  loadHtml : ∀ html timeoutMs, (b.loadHtml html timeoutMs).Settles R
  waitForDiagram : ∀ timeoutMs, (b.waitForDiagram timeoutMs).Settles R
  screenshot : ∀ path timeoutMs, (b.screenshot path timeoutMs).Settles R
  exportPdf : ∀ options, (b.exportPdf options).Settles R
  close : b.close.Settles R

theorem Backend.plain_settles (R : Failure → Prop) (pdf : Bytes) :
    (Backend.plain pdf).Settles R where
  launch _ := .call .launch
  newPage := .call .newPage
  loadHtml _ _ := .call _
  waitForDiagram _ := .call _
  screenshot _ _ := .call _
  exportPdf _ := .bind (.call _) fun _ _ => .result trivial
  close := .call .close

namespace Chromium

theorem settles_timed (hR : Lapsing R) {x : Act Unit} (hx : x.Settles R) :
    (timed x).Settles R := by
  refine .attempt_bind hx fun r hr => ?_
  cases hr with
  | ok _ => exact .result trivial
  | @failure f cause hf =>
      cases f with
      | driverTimeout text => exact .failure _ (hR.ofDriver hf)
      | _ => exact .failure cause hf

theorem settles_settle (s : Settings) {tried : Except Raised Unit}
    (h : Settled (fun _ => True) R tried) : (settle s tried).Settles R := by
  cases h with
  | ok _ => exact .bind (.log _) fun _ _ => .result trivial
  | failure cause hf =>
      refine .attempt_bind (.call .stopDriver) fun r hr => ?_
      cases hr with
      | ok _ => exact .failure cause hf
      | failure cause' hf' => exact .failure cause' hf'

theorem settles_launch (s : Settings) : (launch s).Settles R := by
  rw [launch_eq]
  refine .bind (.call .startDriver) fun _ _ => ?_
  exact .attempt_bind (.call _) fun _ => settles_settle s

theorem settles_close : Environment.opened.close.Settles R := by
  refine .attempt_bind (.call .closeBrowser) fun browser hbrowser => ?_
  refine .attempt_bind (.call .stopDriver) fun driver hdriver => ?_
  cases hdriver with
  | ok _ =>
      cases hbrowser with
      | ok _ => exact .result trivial
      | failure cause hf => exact .failure cause hf
  | failure cause hf =>
      cases hbrowser with
      | ok _ => exact .failure cause hf
      | failure cause' hf' => exact .failure cause hf

end Chromium

theorem Backend.chromium_settles (hR : Lapsing R) (pdf : Bytes) :
    (Backend.chromium pdf).Settles R where
  launch s := .bind (Chromium.settles_launch s) fun _ _ => .result trivial
  newPage := .call .openPage
  loadHtml _ _ := Chromium.settles_timed hR (.call _)
  waitForDiagram _ := Chromium.settles_timed hR (.call _)
  screenshot _ _ := Chromium.settles_timed hR (.call _)
  exportPdf _ := .bind (.call _) fun _ _ => .result trivial
  close := Chromium.settles_close

end Browser

end OutlineChart
