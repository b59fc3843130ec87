import Trokk.Library.Program

-- Methods among others, from a fact that others leave alone to a fact about what is
-- returned.
namespace Method
variable {S : Type} {R : S → Type} {E D L C σ X A B : Type} {exec : Program.Execution S R E D L C} {inv : D → Prop} {own : L → Prop}
  {others : D → D → Prop} {known known' kept : D → Prop}

def Guarded (exec : Program.Execution S R E D L C) (inv : D → Prop) (own : L → Prop) (others : D → D → Prop) (known : D → Prop)
    (learned : A → D → Prop) (x : Method S R E σ X A) : Prop :=
  ∀ d l, inv d → own l → known d → x.Secure exec inv own others (fun a d _ => learned a d) d l

def Outliving (others : D → D → Prop) (known : D → Prop) : Prop := ∀ d d', others d d' → known d → known d'

theorem outliving_true (others : D → D → Prop) : Outliving others fun _ => True := fun _ _ _ _ => trivial

theorem Guarded.weaken {x : Method S R E σ X A} (guarded : x.Guarded exec inv own others known learned)
    (stronger : ∀ d, known' d → known d) : x.Guarded exec inv own others known' learned :=
  fun d l holds mine here => guarded d l holds mine (stronger d here)

theorem Guarded.pure (a : A) : (Pure.pure a : Method S R E σ X A).Guarded exec inv own others known fun _ _ => True :=
  fun _ _ _ _ _ _ _ _ _ _ _ => trivial

theorem Guarded.bind (refl : ∀ d, others d d) {x : Method S R E σ X A} {f : A → Method S R E σ X B}
    (first : x.Guarded exec inv own others known learned) (then' : ∀ a, (f a).Guarded exec inv own others (learned a) later) :
    (x >>= f).Guarded exec inv own others known later := fun d l holds mine here =>
  Secure.bind refl holds mine (first d l holds mine here) fun a d l holds mine told => then' a d l holds mine told

-- What is known before the body is known to the handler.
theorem Guarded.attempt (refl : ∀ d, others d d) (lasting : Outliving others known) {body : Method S R E σ X A}
    {handler : X → Method S R E σ X A} (first : body.Guarded exec inv own others known fun _ _ => True)
    (caught : ∀ e, (handler e).Guarded exec inv own others known fun _ _ => True) :
    (Method.attempt body handler).Guarded exec inv own others known fun _ _ => True := by
  intro d l holds mine here self
  have tried := (first d l holds mine here self).frame lasting here
  refine Program.Secure.bind refl holds mine tried fun (result,self) d l holds mine told => ?_
  cases result with
  | ok a => exact fun _ _ _ _ _ => trivial
  | error e => exact caught e d l holds mine told.2 self

-- Statements that are harmless in every state tell nothing, and nothing is lost.
theorem Guarded.only {P : S → Prop} (lasting : Outliving others known) {x : Method S R E σ X A} (only : x.Only P)
    (harmless : ∀ s c d l, P s → inv d → own l → inv (exec s c d l).2.1 ∧ own (exec s c d l).2.2 ∧ others d (exec s c d l).2.1) :
    x.Guarded exec inv own others known fun _ => known := by
  intro d l _ mine here self
  apply (((only self).secure (Program.yields_true _) harmless mine).frame lasting here).imp
  exact fun _ _ _ _ told _ _ => told.2

-- One statement where it is known to be harmless, and what its answer tells.
theorem Guarded.ask {s : S} {answer : Except E (R s) → Except X A} {learned : A → D → Prop} (lasting : Outliving others known)
    (stays : ∀ a, Outliving others (learned a))
    (keeps : ∀ c d l, inv d → own l → known d → inv (exec s c d l).2.1 ∧ own (exec s c d l).2.2 ∧ others d (exec s c d l).2.1)
    (tells : ∀ c d l a, inv d → known d → answer (exec s c d l).1 = .ok a → learned a (exec s c d l).2.1) :
    (Method.lift (Program.issue s >>= fun r => Program.done (answer r)) : Method S R E σ X A).Guarded exec inv own others known
      learned := by
  intro d l _ mine here self d' holds move c
  have there := lasting d d' move here
  obtain ⟨kept,still,moved⟩ := keeps c d' l holds mine there
  refine ⟨kept,still,moved,fun last _ later a same => ?_⟩
  exact stays a _ last later (tells c d' l a holds there same)

end Method
