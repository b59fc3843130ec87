import Mathlib.Init

-- Machines that take one event after the other and may refuse an event.
namespace Trace
variable {S E : Type}

def run (step : S → E → Option S) : S → List E → Option S
  | s,[] => some s
  | s,e :: rest => (step s e).bind fun s' => run step s' rest

-- Each step that the events make, from the state it meets to the state it leaves.
def Along (step : S → E → Option S) (P : S → E → S → Prop) : S → List E → Prop
  | _,[] => True
  | s,e :: rest => ∀ s', step s e = some s' → P s e s' ∧ Along step P s' rest

variable {step : S → E → Option S} {P Q : S → E → S → Prop} {inv : S → Prop}

-- A condition on steps that keeps the invariant, and under the invariant says the
-- same of one step as the property, says the same of all runs.
theorem along_iff (once : ∀ s e s', inv s → step s e = some s' → (P s e s' ↔ Q s e s') ∧ (Q s e s' → inv s'))
    (holds : inv s) (events : List E) : Along step P s events ↔ Along step Q s events := by
  induction events generalizing s with
  | nil => exact Iff.rfl
  | cons e rest ih =>
    refine forall_congr' fun s' => forall_congr' fun taken => ?_
    obtain ⟨same,keeps⟩ := once s e s' holds taken
    constructor
    · intro both
      have met := same.mp both.1
      exact ⟨met,(ih (keeps met)).mp both.2⟩
    · intro both
      exact ⟨same.mpr both.1,(ih (keeps both.1)).mpr both.2⟩

end Trace
