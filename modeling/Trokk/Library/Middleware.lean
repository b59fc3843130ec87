import Mathlib.Data.List.Basic

-- A handler inside layers of middleware. A layer answers a request itself or hands
-- one on, this or another, and then finishes what comes back for its own.
namespace Middleware

structure Layer (R B : Type) where
  pass : R → Except B R
  finish : R → B → B

variable {R B V : Type} {layers : List (Layer R B)} {handler : R → B} {request arrived : R}

def Layer.wrap (layer : Layer R B) (next : R → B) (request : R) : B :=
  match layer.pass request with
  | .error answer => answer
  | .ok handed => layer.finish request (next handed)

-- The outermost layer first.
def stack : List (Layer R B) → (R → B) → R → B
  | [],handler => handler
  | layer :: inner,handler => layer.wrap (stack inner handler)

-- The request that gets to the handler, if one does.
def reached : List (Layer R B) → R → Option R
  | [],request => some request
  | layer :: inner,request => match layer.pass request with
    | .error _ => none
    | .ok handed => reached inner handed

theorem reached_append (outer inner : List (Layer R B)) (request : R) :
    reached (outer ++ inner) request = (reached outer request).bind (reached inner) := by
  induction outer generalizing request with
  | nil => rfl
  | cons layer rest ih =>
    simp only [List.cons_append,reached]
    cases layer.pass request with
    | error answer => rfl
    | ok handed => exact ih handed

-- What every layer hands on as it got it arrives as it was sent.
theorem reached_keeps (view : R → V) (keeps : ∀ layer ∈ layers, ∀ r handed, layer.pass r = .ok handed → view handed = view r)
    (arrives : reached layers request = some arrived) : view arrived = view request := by
  induction layers generalizing request with
  | nil =>
    cases arrives
    rfl
  | cons layer rest ih =>
    simp only [reached] at arrives
    cases passes : layer.pass request with
    | error answer => simp [passes] at arrives
    | ok handed =>
      simp only [passes] at arrives
      have inner := ih (fun later member => keeps later (List.mem_cons_of_mem _ member)) arrives
      exact inner.trans (keeps layer List.mem_cons_self request handed passes)

-- What holds of every answer and of what the handler does, and what every layer
-- keeps as it finishes, holds at the end.
theorem stack_keeps (P : B → Prop) (answers : ∀ layer ∈ layers, ∀ r answer, layer.pass r = .error answer → P answer)
    (finishes : ∀ layer ∈ layers, ∀ r b, P b → P (layer.finish r b))
    (handled : ∀ arrived, reached layers request = some arrived → P (handler arrived)) :
    P (stack layers handler request) := by
  induction layers generalizing request with
  | nil => exact handled request rfl
  | cons layer rest ih =>
    simp only [stack,Layer.wrap]
    cases passes : layer.pass request with
    | error answer => exact answers layer List.mem_cons_self request answer passes
    | ok handed =>
      refine finishes layer List.mem_cons_self request _ (ih ?_ ?_ ?_)
      · exact fun later member => answers later (List.mem_cons_of_mem _ member)
      · exact fun later member => finishes later (List.mem_cons_of_mem _ member)
      · intro arrived arrives
        exact handled arrived (by simp only [reached,passes,arrives])

-- What is seen of an answer goes through the layers on the way out, when each makes
-- of it what its entry of `ends` says.
theorem stack_view (view : B → V) {ends : List (V → V)}
    (finishes : List.Forall₂ (fun layer after => ∀ r b, view (layer.finish r b) = after (view b)) layers ends)
    (arrives : reached layers request = some arrived) :
    view (stack layers handler request) = ends.foldr (fun after v => after v) (view (handler arrived)) := by
  induction finishes generalizing request with
  | nil =>
    cases arrives
    rfl
  | @cons layer after rest ends own _ ih =>
    simp only [reached] at arrives
    simp only [stack,Layer.wrap]
    cases passes : layer.pass request with
    | error answer => simp [passes] at arrives
    | ok handed =>
      simp only [passes] at arrives
      exact (own request _).trans (congrArg after (ih arrives))

end Middleware
