import Mathlib.Data.List.Induction
import StorageGateway.Lifecycle.Activity

/-!
# Runs of an activity

What holds along a run is proved from one step of it. The history of a run keeps every event
together with the activity that it met, so that statements about what happened earlier need no
record inside the activity itself.
-/

namespace StorageGateway.Lifecycle.Activity

variable {ω κ : Type} (P : Provisioner ω κ)

/-- The events of a run, each with the activity that it met. -/
def history (activity : Activity κ) : List Event → ω → List (Activity κ × Event)
  | [], _ => []
  | event :: events, world =>
    (activity, event) ::
      history (activity.step P event world).1 events (activity.step P event world).2

theorem run_append (s : Activity κ) (events more : List Event) (w : ω) :
    s.run P (events ++ more) w = (s.run P events w).1.run P more (s.run P events w).2 := by
  induction events generalizing s w with
  | nil => rfl
  | cons event events ih => exact ih _ _

theorem history_append (s : Activity κ) (events more : List Event) (w : ω) :
    s.history P (events ++ more) w =
      s.history P events w ++ (s.run P events w).1.history P more (s.run P events w).2 := by
  induction events generalizing s w with
  | nil => rfl
  | cons event events ih => exact congrArg _ (ih _ _)

/-- A property of history, activity and world holds after every run when it holds before the first
event and every step keeps it. -/
theorem run_induction {motive : List (Activity κ × Event) → Activity κ → ω → Prop}
    {s : Activity κ} {w : ω} (start : motive [] s w)
    (step : ∀ past (s : Activity κ) w event, motive past s w →
      motive (past ++ [(s, event)]) (s.step P event w).1 (s.step P event w).2)
    (events : List Event) :
    motive (s.history P events w) (s.run P events w).1 (s.run P events w).2 := by
  -- Along the reversed list, so that the last event is split off and the history grows at its end.
  induction events using List.reverseRecOn with
  | nil => exact start
  | append_singleton events event ih =>
    rw [run_append, history_append]
    exact step _ _ _ event ih

end StorageGateway.Lifecycle.Activity
