import OutlineChart.Proofs.Browser.Chromium
import OutlineChart.Proofs.Render.Frame
import OutlineChart.Proofs.Text.Trim
import OutlineChart.Service

/-! # The page that is loaded

A render hands one page to the browser, or it ends in failure before it comes to that; whatever else
it does, no other page is loaded.
-/

namespace OutlineChart

namespace Browser

variable {α β : Type}

/-- The page that an entry says was to be loaded. -/
def Entry.page? : Entry → Option Text
  | called (.loadHtml html _) => some html
  | called (.setContent html _) => some html
  | _ => none

def Run.pages (run : Run α) : List Text := run.calls.filterMap Entry.page?

namespace Act

theorem pages_bind_of_ok {x : Act α} {o : Oracle} {a : α} (h : (x o).result = .ok a)
    (f : α → Act β) : ((x >>= f) o).pages = (x o).pages ++ (f a (x o).rest).pages := by
  unfold Run.pages
  rw [calls_bind_of_ok h, List.filterMap_append]

theorem pages_bind_of_error {x : Act α} {o : Oracle} {e : Raised} (h : (x o).result = .error e)
    (f : α → Act β) : ((x >>= f) o).pages = (x o).pages := by
  unfold Run.pages
  rw [calls_bind_of_error h]

theorem Wraps.pages {x : Act α} {y : Act β} (h : Wraps y x) (o : Oracle) :
    (y o).pages = (x o).pages :=
  congrArg (List.filterMap Entry.page?) (h.calls o)

def Pageless (x : Act α) : Prop := ∀ o, (x o).pages = []

theorem CallsOnly.pageless {names : List CallName} {x : Act α} (h : CallsOnly names x)
    (hload : .loadHtml ∉ names) (hset : .setContent ∉ names) : x.Pageless := by
  intro o
  refine List.filterMap_eq_nil_iff.2 fun entry hentry => ?_
  have hname := h.name_mem o entry (List.mem_filter.1 hentry).1
  cases entry with
  | called c =>
      cases c with
      | loadHtml html timeoutMs => exact absurd (hname _ rfl) hload
      | setContent html timeoutMs => exact absurd (hname _ rfl) hset
      | _ => rfl
  | cancelled name => rfl
  | logged record => rfl

theorem Pageless.within {x : Act α} (h : x.Pageless) (timeoutMs : Int) :
    (Act.within timeoutMs x).Pageless := by
  intro o
  cases hlapsed : lapsed? timeoutMs with
  | some f =>
      rw [within_of_lapsed hlapsed]
      rfl
  | none =>
      rw [within_of_inTime hlapsed]
      exact h o

theorem Pageless.bind {x : Act α} {f : α → Act β} (hx : x.Pageless) (hf : ∀ a, (f a).Pageless) :
    (x >>= f).Pageless := by
  intro o
  cases h : (x o).result with
  | ok a => rw [pages_bind_of_ok h, hx o, hf a, List.append_nil]
  | error e => rw [pages_bind_of_error h, hx o]

theorem Wraps.pageless {x : Act α} {y : Act β} (h : Wraps y x) (hx : x.Pageless) : y.Pageless :=
  fun o => (h.pages o).trans (hx o)

/-- Loads the page and no other, or loads nothing and raises. -/
def Loads (html : Text) (x : Act α) : Prop :=
  ∀ o, (x o).pages = [html] ∨ ((x o).pages = [] ∧ ∃ e, (x o).result = .error e)

namespace Loads

variable {html : Text} {x : Act α} {f : α → Act β}

theorem bind_left (hx : x.Pageless) (hf : ∀ a, (f a).Loads html) : (x >>= f).Loads html := by
  intro o
  cases h : (x o).result with
  | ok a =>
      rw [pages_bind_of_ok h, result_bind_of_ok h, hx o, List.nil_append]
      exact hf a (x o).rest
  | error e =>
      rw [pages_bind_of_error h, result_bind_of_error h]
      exact .inr ⟨hx o, e, rfl⟩

theorem bind_right (hx : x.Loads html) (hf : ∀ a, (f a).Pageless) : (x >>= f).Loads html := by
  intro o
  cases h : (x o).result with
  | ok a =>
      rw [pages_bind_of_ok h, hf a, List.append_nil]
      rcases hx o with hpages | ⟨-, e, he⟩
      · exact .inl hpages
      · rw [h] at he
        cases he
  | error e =>
      rw [pages_bind_of_error h, result_bind_of_error h]
      exact (hx o).imp_right fun hnone => ⟨hnone.1, e, rfl⟩

theorem pages_of_ok (hx : x.Loads html) {o : Oracle} {a : α} (h : (x o).result = .ok a) :
    (x o).pages = [html] := by
  rcases hx o with hpages | ⟨-, e, he⟩
  · exact hpages
  · rw [h] at he
    cases he

theorem eq_of_mem (hx : x.Loads html) {o : Oracle} {html' : Text} (h : html' ∈ (x o).pages) :
    html' = html := by
  rcases hx o with hpages | ⟨hpages, -⟩
  · rw [hpages] at h
    exact List.mem_singleton.1 h
  · rw [hpages] at h
    cases h

end Loads

end Act

/-! ## Backends -/

/-- Only a request to load a page loads one. -/
structure Backend.LoadsAsked (b : Backend) : Prop where
  launch : ∀ s, (b.launch s).Pageless
  newPage : b.newPage.Pageless
  loadHtml : ∀ html timeoutMs o, (b.loadHtml html timeoutMs o).pages = [html]
  waitForDiagram : ∀ timeoutMs, (b.waitForDiagram timeoutMs).Pageless
  screenshot : ∀ path timeoutMs, (b.screenshot path timeoutMs).Pageless
  exportPdf : ∀ options, (b.exportPdf options).Pageless
  close : b.close.Pageless

theorem pages_call (c : Call) (o : Oracle) :
    (Act.call c o).pages = (Entry.page? (.called c)).toList := by
  have hended : (if o c.name 0 = .hang then [Entry.cancelled c.name] else []).filterMap
      Entry.page? = [] := by
    split <;> rfl
  unfold Run.pages
  rw [Act.calls_call, Call.entries, List.filterMap_cons, hended]
  cases Entry.page? (.called c) <;> rfl

theorem Backend.plain_loadsAsked (pdf : Bytes) : (Backend.plain pdf).LoadsAsked where
  launch _ := pages_call _
  newPage := pages_call _
  loadHtml _ _ := pages_call _
  waitForDiagram _ := pages_call _
  screenshot _ _ := pages_call _
  exportPdf _ := Act.Pageless.bind (pages_call _) fun _ _ => rfl
  close := pages_call _

namespace Chromium

theorem pages_timed_call (c : Call) (o : Oracle) :
    (timed (.call c) o).pages = (Entry.page? (.called c)).toList :=
  ((wraps_timed _).pages o).trans (pages_call c o)

end Chromium

theorem Backend.chromium_loadsAsked (pdf : Bytes) : (Backend.chromium pdf).LoadsAsked where
  launch s :=
    ((Chromium.callsOnly_launch s).pageless (by simp) (by simp)).bind fun _ _ => rfl
  newPage := pages_call _
  loadHtml _ _ := Chromium.pages_timed_call _
  waitForDiagram _ := Chromium.pages_timed_call _
  screenshot _ _ := Chromium.pages_timed_call _
  exportPdf _ := Act.Pageless.bind (pages_call _) fun _ _ => rfl
  close := Chromium.callsOnly_close.pageless (by simp) (by simp)

end Browser

namespace Render
open Browser

variable {b : Backend}

/-! ## Renders -/

theorem loads_orElse {α : Type} (tell : Failure → DiagramError) {html : Text} {x : Act α}
    (hx : x.Loads html) : (orElse tell x).Loads html := by
  intro o
  rw [(wraps_orElse tell x).pages, result_orElse]
  refine (hx o).imp_right fun hnone => ⟨hnone.1, ?_⟩
  obtain ⟨-, e, he⟩ := hnone
  rw [he]
  exact retell_error tell e

theorem loads_draw (h : b.LoadsAsked) (s : Settings) (html : Text) :
    (draw b s html).Loads html := by
  have hexport : (exportWithin b s).Pageless :=
    (wraps_orElse _ _).pageless ((h.exportPdf s.pdfOptions).within s.exportTimeoutMs)
  have hload : (b.loadHtml html s.contentTimeoutMs).Loads html :=
    fun o => .inl (h.loadHtml html s.contentTimeoutMs o)
  rw [draw_eq]
  -- opening a page may fail, and then nothing is loaded; all that follows the loading loads nothing
  refine .bind_left ((wraps_orElse _ _).pageless h.newPage) fun _ => ?_
  refine .bind_right (loads_orElse _ hload) fun _ => ?_
  refine .bind ((wraps_orElse _ _).pageless (h.waitForDiagram _)) fun _ => ?_
  split
  · exact .bind ((wraps_photograph b s _).pageless (h.screenshot _ _)) fun _ => hexport
  · exact hexport

theorem loads_renderCode (h : b.LoadsAsked) (s : Settings) (code : Text) :
    (renderCode b s code).Loads (page s code) := by
  intro o
  have hlaunch : (launch b s o).pages = [] :=
    (wraps_launch b s).pageless ((h.launch s).within s.launchTimeoutMs) o
  cases hlaunched : (launch b s o).result with
  | error e =>
      obtain ⟨hended, hcalls⟩ := renderCode_of_launch_error code hlaunched
      have hpages := congrArg (List.filterMap Entry.page?) hcalls
      exact .inr ⟨hpages.trans hlaunch, e, hended⟩
  | ok _ =>
      obtain ⟨hcalls, hended⟩ := renderCode_of_launched code hlaunched rfl rfl
      have hdraw := loads_draw h s (page s code) (launch b s o).rest
      generalize draw b s (page s code) (launch b s o).rest = drawn at hcalls hended hdraw
      have hclose : (closeQuietly b drawn.rest).pages = [] :=
        (wraps_closeQuietly b).pageless h.close drawn.rest
      have hpages : (renderCode b s code o).pages = drawn.pages := by
        calc (renderCode b s code o).pages
          _ = (launch b s o).pages ++ drawn.pages ++ (closeQuietly b drawn.rest).pages := by
              unfold Run.pages
              rw [hcalls, List.filterMap_append, List.filterMap_append]
          _ = drawn.pages := by rw [hlaunch, hclose, List.nil_append, List.append_nil]
      rw [hpages, hended]
      refine hdraw.imp_right fun hnone => ⟨hnone.1, ?_⟩
      -- a drawing that raised ends the render, whether or not closing is cancelled
      obtain ⟨-, e, he⟩ := hnone
      rw [he]
      split
      · exact ⟨e, rfl⟩
      · exact ⟨_, rfl⟩

end Render

end OutlineChart
