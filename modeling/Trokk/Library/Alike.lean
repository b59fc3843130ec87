import Trokk.Library.Program

-- Programs that issue the same statements whatever they are told, and end alike.
namespace Program
variable {S : Type} {R : S → Type} {E A A' B B' D : Type}

inductive Alike (ends : A → A' → Prop) : Program S R E A → Program S R E A' → Prop where
  | done {a : A} {a' : A'} : ends a a' → Alike ends (.done a) (.done a')
  | call {s : S} {next : Except E (R s) → Program S R E A} {next' : Except E (R s) → Program S R E A'} :
    (∀ answer, Alike ends (next answer) (next' answer)) → Alike ends (.call s next) (.call s next')

theorem Alike.refl {ends : A → A → Prop} (same : ∀ a, ends a a) (x : Program S R E A) : x.Alike ends x := by
  induction x with
  | done a => exact .done (same a)
  | call s next ih => exact .call ih

theorem Alike.bind {x : Program S R E A} {x' : Program S R E A'} {f : A → Program S R E B} {f' : A' → Program S R E B'}
    {middle : A → A' → Prop} {ends : B → B' → Prop} (first : x.Alike middle x')
    (then' : ∀ a a', middle a a' → (f a).Alike ends (f' a')) : (x >>= f).Alike ends (x' >>= f') := by
  induction first with
  | done related => exact then' _ _ related
  | call _ ih => exact .call ih

theorem Alike.equal {x x' : Program S R E A} (alike : x.Alike Eq x') : x = x' := by
  induction alike with
  | done same => exact congrArg Program.done same
  | call _ ih => exact congrArg (Program.call _) (funext ih)

end Program
