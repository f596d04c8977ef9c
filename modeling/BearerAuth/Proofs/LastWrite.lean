import Mathlib.Data.List.Induction

/-!
# The last write decides

A field that each step of a fold either writes, whatever it finds there, or leaves alone has in the
end what the last step that writes it has written.
-/

namespace BearerAuth

theorem get_foldl {σ τ β : Type*} {step : σ → τ → σ} (get : σ → β) {write? : τ → Option β}
    (h : ∀ s x, get (step s x) = (write? x).getD (get s)) (xs : List τ) (s : σ) :
    get (xs.foldl step s) = (xs.filterMap write?).getLast?.getD (get s) := by
  induction xs using List.reverseRecOn with
  | nil => rfl
  | append_singleton xs x ih =>
    rw [List.foldl_append, List.foldl_cons, List.foldl_nil, h, ih, List.filterMap_append]
    rcases hx : write? x with _ | b <;> simp [hx]

end BearerAuth
