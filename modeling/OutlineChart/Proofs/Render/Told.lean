import OutlineChart.Proofs.Render.Frame

/-! # What renders tell

Whatever a backend raises, diagram errors included, a render tells anew as an error of rendering.  So
the only other diagram error that comes out of a render is that the description is refused.
-/

namespace OutlineChart

namespace Browser

variable {α β : Type}

/-- If it ends in a diagram error, that is an error of rendering. -/
def TellsRender (r : Except Raised α) : Prop :=
  ∀ ⦃e cause⦄, r = .error (.failure (.diagram e) cause) → e.OfRender

theorem TellsRender.error {e : Raised} (h : TellsRender (.error e : Except Raised α)) :
    TellsRender (.error e : Except Raised β) := by
  intro e' cause heq
  cases heq
  exact h rfl

end Browser

namespace Render
open Browser

variable {α : Type} {b : Backend} {s : Settings} {o : Oracle}

end Render

end OutlineChart
