import Mathlib.Logic.Function.Basic

-- Programs as trees of statements. A program issues one statement at a time,
-- whose answer may be an error, and others act between its statements.
inductive Program (S : Type) (R : S → Type) (E A : Type) : Type where
  | done (answer : A)
  | call (s : S) (next : Except E (R s) → Program S R E A)

namespace Program
variable {S : Type} {R : S → Type} {E A B D L C T : Type}

def bind : Program S R E A → (A → Program S R E B) → Program S R E B
  | .done answer,next => next answer
  | .call s rest,next => .call s fun answer => (rest answer).bind next

instance : Monad (Program S R E) where
  pure := .done
  bind := bind

def issue (s : S) : Program S R E (Except E (R s)) := .call s .done

@[simp] theorem done_bind (a : A) (next : A → Program S R E B) : (Program.done a >>= next) = next a := rfl

theorem bind_regroup (x : Program S R E A) (f : A → Program S R E B) (g : B → Program S R E D) :
    (x >>= f >>= g) = (x >>= fun a => f a >>= g) := by
  induction x with
  | done a => rfl
  | call s next ih => exact congrArg (Program.call s) (funext fun answer => ih answer)

-- The answer of a program whose statements have theirs ready.
def answeredBy (answers : (s : S) → Except E (R s)) : Program S R E A → A
  | .done answer => answer
  | .call s next => (next (answers s)).answeredBy answers

-- What one statement does to the shared state and to the state of its own
-- session, given what the outside world chooses.
abbrev Execution (S : Type) (R : S → Type) (E D L C : Type) :=
  (s : S) → C → D → L → Except E (R s) × D × L

-- Every statement that a program can issue, whatever the answers.
def Only (P : S → Prop) : Program S R E A → Prop
  | .done _ => True
  | .call s next => P s ∧ ∀ answer, (next answer).Only P

theorem Only.bind {x : Program S R E A} {f : A → Program S R E B} (first : x.Only P) (then' : ∀ a, (f a).Only P) :
    (x >>= f).Only P := by
  induction x with
  | done a => exact then' a
  | call s next ih => exact ⟨first.1,fun answer => ih answer (first.2 answer)⟩

theorem Only.issue {P : S → Prop} (allowed : P s) : (Program.issue (R := R) (E := E) s).Only P :=
  ⟨allowed,fun _ => trivial⟩

theorem only_true (x : Program S R E A) : x.Only fun _ => True := by
  induction x with
  | done a => trivial
  | call s next ih => exact ⟨trivial,ih⟩

-- What a program can answer, whatever it is told.
def Yields (post : A → Prop) : Program S R E A → Prop
  | .done answer => post answer
  | .call _ next => ∀ answer, (next answer).Yields post

theorem yields_true (x : Program S R E A) : x.Yields fun _ => True := by
  induction x with
  | done a => trivial
  | call s next ih => exact ih

theorem Yields.bind {x : Program S R E A} {f : A → Program S R E B} {middle : A → Prop} {post : B → Prop}
    (first : x.Yields middle) (then' : ∀ a, middle a → (f a).Yields post) : (x >>= f).Yields post := by
  induction x with
  | done a => exact then' a first
  | call s next ih => exact fun answer => ih answer (first answer)

-- What follows may go by what the first part can answer.
theorem Only.bind_yields {P : S → Prop} {x : Program S R E A} {f : A → Program S R E B} {middle : A → Prop} (first : x.Only P)
    (yields : x.Yields middle) (then' : ∀ a, middle a → (f a).Only P) : (x >>= f).Only P := by
  induction x with
  | done a => exact then' a yields
  | call s next ih => exact ⟨first.1,fun answer => ih answer (first.2 answer) (yields answer)⟩

-- Run alone, with every choice that `may` allows: the program ends, and ends well.
def Ensures (exec : Execution S R E D L C) (may : C → Prop) (post : A → D → L → Prop) :
    Program S R E A → D → L → Prop
  | .done answer,d,l => post answer d l
  | .call s next,d,l => ∀ c, may c →
      (next (exec s c d l).1).Ensures exec may post (exec s c d l).2.1 (exec s c d l).2.2

section
variable {exec : Execution S R E D L C} {may : C → Prop}

theorem Ensures.imp {x : Program S R E A} {post weaker : A → D → L → Prop} (ensures : x.Ensures exec may post d l)
    (implies : ∀ a d l, post a d l → weaker a d l) : x.Ensures exec may weaker d l := by
  induction x generalizing d l with
  | done a => exact implies a d l ensures
  | call s next ih => exact fun c allowed => ih _ (ensures c allowed)

theorem Ensures.narrow {x : Program S R E A} {post : A → D → L → Prop} (ensures : x.Ensures exec may post d l)
    (allowed : ∀ c, may' c → may c) : x.Ensures exec may' post d l := by
  induction x generalizing d l with
  | done a => exact ensures
  | call s next ih => exact fun c chosen => ih _ (ensures c (allowed c chosen))

theorem Ensures.bind {x : Program S R E A} {f : A → Program S R E B} {post : B → D → L → Prop}
    (first : x.Ensures exec may (fun a d l => (f a).Ensures exec may post d l) d l) :
    (x >>= f).Ensures exec may post d l := by
  induction x generalizing d l with
  | done a => exact first
  | call s next ih => exact fun c allowed => ih _ (first c allowed)

-- What every statement of the program keeps holds at its end.
theorem Only.ensures {x : Program S R E A} {P : S → Prop} (kept : D → L → Prop) (only : x.Only P)
    (keeps : ∀ s c d l, P s → kept d l → kept (exec s c d l).2.1 (exec s c d l).2.2) (holds : kept d l) :
    x.Ensures exec may (fun _ d l => kept d l) d l := by
  induction x generalizing d l with
  | done a => exact holds
  | call s next ih => exact fun c _ => ih _ (only.2 _) (keeps s c d l only.1 holds)

-- What no statement of the program can change still holds at its end.
theorem Ensures.keep {x : Program S R E A} {post : A → D → L → Prop} {P : S → Prop} {kept : D → Prop}
    (ensures : x.Ensures exec may post d l) (only : x.Only P) (keeps : ∀ s c d l, P s → kept d → kept (exec s c d l).2.1)
    (holds : kept d) : x.Ensures exec may (fun a d l => post a d l ∧ kept d) d l := by
  induction x generalizing d l with
  | done a => exact ⟨ensures,holds⟩
  | call s next ih => exact fun c allowed => ih _ (ensures c allowed) (only.2 _) (keeps s c d l only.1 holds)

-- Some run meets all that is ensured.
theorem Ensures.meet {x : Program S R E A} {post post' : A → D → L → Prop} (allowed : may c)
    (one : x.Ensures exec may post d l) (two : x.Ensures exec may post' d l) : ∃ a d l, post a d l ∧ post' a d l := by
  induction x generalizing d l with
  | done a => exact ⟨a,d,l,one,two⟩
  | call s next ih => exact ih _ (one c allowed) (two c allowed)

-- The run alone under given choices, if they last.
def play (exec : Execution S R E D L C) : List C → Program S R E A → D → L → Option (A × D × L)
  | _,.done answer,d,l => some (answer,d,l)
  | [],.call _ _,_,_ => none
  | c :: choices,.call s next,d,l =>
    (next (exec s c d l).1).play exec choices (exec s c d l).2.1 (exec s c d l).2.2

theorem Ensures.played {x : Program S R E A} {post : A → D → L → Prop} (ensures : x.Ensures exec may post d l)
    (allowed : ∀ c ∈ choices, may c) (played : x.play exec choices d l = some (a,d',l')) : post a d' l' := by
  induction x generalizing choices d l with
  | done b =>
    cases choices <;> cases played <;> exact ensures
  | call s next ih =>
    cases choices with
    | nil => cases played
    | cons c rest =>
      refine ih _ (ensures c (allowed c List.mem_cons_self)) ?_ played
      exact fun later present => allowed later (List.mem_cons_of_mem _ present)

end

-- Run among others: before each of its statements, and before its end, others
-- may have moved the shared state by `others`. Each of its own statements keeps
-- `inv` and the session's `own`, and moves the shared state by `others` too.
def Secure (exec : Execution S R E D L C) (inv : D → Prop) (own : L → Prop) (others : D → D → Prop)
    (post : A → D → L → Prop) : Program S R E A → D → L → Prop
  | .done answer,d,l => ∀ d', inv d' → others d d' → post answer d' l
  | .call s next,d,l => ∀ d', inv d' → others d d' → ∀ c,
      inv (exec s c d' l).2.1 ∧ own (exec s c d' l).2.2 ∧ others d' (exec s c d' l).2.1 ∧
        (next (exec s c d' l).1).Secure exec inv own others post (exec s c d' l).2.1 (exec s c d' l).2.2

section
variable {exec : Execution S R E D L C} {inv : D → Prop} {own : L → Prop} {others : D → D → Prop}

theorem Secure.moved {x : Program S R E A} {post : A → D → L → Prop} (trans : ∀ a b c, others a b → others b c → others a c)
    (secure : x.Secure exec inv own others post d l) (move : others d d') : x.Secure exec inv own others post d' l := by
  cases x with
  | done a => exact fun later holds more => secure later holds (trans _ _ _ move more)
  | call s next => exact fun later holds more => secure later holds (trans _ _ _ move more)

theorem Secure.bind {x : Program S R E A} {f : A → Program S R E B} {middle : A → D → L → Prop} {post : B → D → L → Prop}
    (refl : ∀ d, others d d) (holds : inv d) (mine : own l) (first : x.Secure exec inv own others middle d l)
    (then' : ∀ a d l, inv d → own l → middle a d l → (f a).Secure exec inv own others post d l) :
    (x >>= f).Secure exec inv own others post d l := by
  induction x generalizing d l with
  | done a => exact then' a d l holds mine (first d holds (refl d))
  | call s next ih =>
    intro d' ok move c
    obtain ⟨kept,still,moved,rest⟩ := first d' ok move c
    exact ⟨kept,still,moved,ih _ kept still rest⟩

-- One statement that keeps the invariant, then whatever follows its answer.
theorem Secure.ask {s : S} {f : Except E (R s) → Program S R E A} {post : A → D → L → Prop}
    (keeps : ∀ c d, inv d → inv (exec s c d l).2.1 ∧ own (exec s c d l).2.2 ∧ others d (exec s c d l).2.1)
    (next : ∀ c d, inv d → (f (exec s c d l).1).Secure exec inv own others post (exec s c d l).2.1 (exec s c d l).2.2) :
    (issue s >>= f).Secure exec inv own others post d l := by
  intro later holds _ c
  obtain ⟨kept,mine,moved⟩ := keeps c later holds
  exact ⟨kept,mine,moved,next c later holds⟩

theorem Secure.imp {x : Program S R E A} {post weaker : A → D → L → Prop} (secure : x.Secure exec inv own others post d l)
    (implies : ∀ a d l, inv d → post a d l → weaker a d l) : x.Secure exec inv own others weaker d l := by
  induction x generalizing d l with
  | done a => exact fun d' holds move => implies a d' l holds (secure d' holds move)
  | call s next ih =>
    intro d' holds move c
    obtain ⟨kept,still,moved,rest⟩ := secure d' holds move c
    exact ⟨kept,still,moved,ih _ rest⟩

-- What nobody can undo is still there at the end.
theorem Secure.frame {x : Program S R E A} {post : A → D → L → Prop} {kept : D → Prop}
    (secure : x.Secure exec inv own others post d l) (stable : ∀ d d', others d d' → kept d → kept d') (holds : kept d) :
    x.Secure exec inv own others (fun a d l => post a d l ∧ kept d) d l := by
  induction x generalizing d l with
  | done a => exact fun d' ok move => ⟨secure d' ok move,stable d d' move holds⟩
  | call s next ih =>
    intro d' ok move c
    obtain ⟨still,mine,moved,rest⟩ := secure d' ok move c
    exact ⟨still,mine,moved,ih _ rest (stable _ _ moved (stable d d' move holds))⟩

-- A program all of whose statements are harmless whenever they run is itself harmless.
theorem Only.secure {x : Program S R E A} {P : S → Prop} {post : A → Prop} (only : x.Only P) (yields : x.Yields post)
    (harmless : ∀ s c d l, P s → inv d → own l →
      inv (exec s c d l).2.1 ∧ own (exec s c d l).2.2 ∧ others d (exec s c d l).2.1) (mine : own l) :
    x.Secure exec inv own others (fun a _ _ => post a) d l := by
  induction x generalizing d l with
  | done a => exact fun _ _ _ => yields
  | call s next ih =>
    intro d' holds _ c
    obtain ⟨kept,still,moved⟩ := harmless s c d' l only.1 holds mine
    exact ⟨kept,still,moved,ih _ (only.2 _) (yields _) still⟩

end

-- Sessions at work on one shared state. A session that ends gives its answer;
-- one that is killed gives none.
structure Pool (S : Type) (R : S → Type) (E A D L T : Type) where
  shared : D
  sessions : T → Option (Program S R E A × L)

def Pool.idle (d : D) : Pool S R E A D L T := ⟨d,fun _ => none⟩

structure Pool.Secured (exec : Execution S R E D L C) (inv : D → Prop) (own : L → Prop) (others : D → D → Prop)
    (post : T → A → D → L → Prop) (p : Pool S R E A D L T) : Prop where
  holds : inv p.shared
  sessions : ∀ t x l, p.sessions t = some (x,l) → own l ∧ x.Secure exec inv own others (post t) p.shared l

theorem Pool.idle_secured {exec : Execution S R E D L C} {post : T → A → D → L → Prop} (holds : inv d) :
    (Pool.idle d).Secured exec inv own others post := ⟨holds,nofun⟩

-- What every statement that is issued keeps, of the shared state, of its own session
-- and of the other ones.
structure Keeps (exec : Execution S R E D L C) (P : S → Prop) (inv : D → Prop) (own : D → L → Prop) (fresh : L) : Prop where
  shared : ∀ s c d l, P s → inv d → own d l → inv (exec s c d l).2.1
  session : ∀ s c d l, P s → inv d → own d l → own (exec s c d l).2.1 (exec s c d l).2.2
  others : ∀ s c d l l', P s → inv d → own d l → own d l' → own (exec s c d l).2.1 l'
  fresh : ∀ d, inv d → own d fresh

structure Pool.Kept (P : S → Prop) (inv : D → Prop) (own : D → L → Prop) (p : Pool S R E A D L T) : Prop where
  holds : inv p.shared
  sessions : ∀ t x l, p.sessions t = some (x,l) → x.Only P ∧ own p.shared l

theorem Pool.idle_kept {P : S → Prop} {own : D → L → Prop} (holds : inv d) :
    (Pool.idle d : Pool S R E A D L T).Kept P inv own := ⟨holds,nofun⟩

inductive Event (T A : Type) where
  | begin (t : T)
  | act (t : T)
  | answer (t : T) (a : A)
  | kill (t : T)

section
variable [DecidableEq T]

inductive Pool.Step (exec : Execution S R E D L C) (may : T → Program S R E A → Prop) (fresh : L) :
    Pool S R E A D L T → Event T A → Pool S R E A D L T → Prop where
  | begin : p.sessions t = none → may t x →
      Pool.Step exec may fresh p (.begin t) {p with sessions := Function.update p.sessions t (some (x,fresh))}
  | act : p.sessions t = some (.call s next,l) →
      Pool.Step exec may fresh p (.act t) ⟨(exec s c p.shared l).2.1,
        Function.update p.sessions t (some (next (exec s c p.shared l).1,(exec s c p.shared l).2.2))⟩
  | answer : p.sessions t = some (.done a,l) →
      Pool.Step exec may fresh p (.answer t a) {p with sessions := Function.update p.sessions t none}
  | kill : p.sessions t = some (x,l) →
      Pool.Step exec may fresh p (.kill t) {p with sessions := Function.update p.sessions t none}

inductive Pool.Runs (exec : Execution S R E D L C) (may : T → Program S R E A → Prop) (fresh : L)
    (initial : Pool S R E A D L T) : Pool S R E A D L T → Prop where
  | start : Pool.Runs exec may fresh initial initial
  | step : Pool.Runs exec may fresh initial p → Pool.Step exec may fresh p event next →
      Pool.Runs exec may fresh initial next

theorem Pool.Runs.trans {exec : Execution S R E D L C} {may : T → Program S R E A → Prop} {fresh : L}
    (first : Pool.Runs exec may fresh initial p) (more : Pool.Runs exec may fresh p q) :
    Pool.Runs exec may fresh initial q := by
  induction more with
  | start => exact first
  | step _ step ih => exact .step ih step

-- A run with its steps, the first one first.
inductive Pool.Traced (exec : Execution S R E D L C) (may : T → Program S R E A → Prop) (fresh : L)
    (initial : Pool S R E A D L T) : List (Pool S R E A D L T × Event T A × Pool S R E A D L T) → Pool S R E A D L T → Prop where
  | start : Pool.Traced exec may fresh initial [] initial
  | step : Pool.Traced exec may fresh initial steps p → Pool.Step exec may fresh p event next →
      Pool.Traced exec may fresh initial (steps ++ [(p,event,next)]) next

theorem Pool.Runs.traced {exec : Execution S R E D L C} {may : T → Program S R E A → Prop} {fresh : L}
    (run : Pool.Runs exec may fresh initial p) : ∃ steps, Pool.Traced exec may fresh initial steps p := by
  induction run with
  | start => exact ⟨[],.start⟩
  | step _ step ih =>
    obtain ⟨steps,traced⟩ := ih
    exact ⟨_,.step traced step⟩

theorem Pool.Traced.runs {exec : Execution S R E D L C} {may : T → Program S R E A → Prop} {fresh : L}
    (traced : Pool.Traced exec may fresh initial steps p) : Pool.Runs exec may fresh initial p := by
  induction traced with
  | start => exact .start
  | step _ step ih => exact .step ih step

-- Every step was taken in a state that the run had reached.
theorem Pool.Traced.taken {exec : Execution S R E D L C} {may : T → Program S R E A → Prop} {fresh : L}
    (traced : Pool.Traced exec may fresh initial steps p) :
    ∀ s ∈ steps, Pool.Runs exec may fresh initial s.1 ∧ Pool.Step exec may fresh s.1 s.2.1 s.2.2 := by
  induction traced with
  | start => exact fun _ member => absurd member List.not_mem_nil
  | step before step ih =>
    intro s member
    cases List.mem_append.mp member with
    | inl old => exact ih s old
    | inr last =>
      rw [List.mem_singleton.mp last]
      exact ⟨before.runs,step⟩

-- One order of acts, carried out: who acts next and what the outside chooses.
def Pool.acts (exec : Execution S R E D L C) (p : Pool S R E A D L T) : List (T × C) → Pool S R E A D L T
  | [] => p
  | (t,c) :: order => match p.sessions t with
    | some (.call s next,l) => Pool.acts exec ⟨(exec s c p.shared l).2.1,
        Function.update p.sessions t (some (next (exec s c p.shared l).1,(exec s c p.shared l).2.2))⟩ order
    | _ => p

theorem Pool.acts_step {exec : Execution S R E D L C} {may : T → Program S R E A → Prop} {fresh : L}
    (present : p.sessions t = some (.call s next,l)) :
    Pool.Step exec may fresh p (.act t) (p.acts exec [(t,c)]) := by
  simp only [Pool.acts,present]
  exact .act present

theorem Pool.acts_runs {exec : Execution S R E D L C} {may : T → Program S R E A → Prop} {fresh : L}
    (run : Pool.Runs exec may fresh initial p) (order : List (T × C)) :
    Pool.Runs exec may fresh initial (p.acts exec order) := by
  induction order generalizing p with
  | nil => exact run
  | cons entry order ih =>
    obtain ⟨t,c⟩ := entry
    unfold Pool.acts
    split
    · rename_i present
      exact ih (.step run (.act present))
    · exact run

variable {exec : Execution S R E D L C} {may : T → Program S R E A → Prop} {fresh : L}
  {inv : D → Prop} {own : L → Prop} {others : D → D → Prop} {post : T → A → D → L → Prop}

-- What holds of every session still holds when one of them changes.
theorem Pool.update_sessions {sessions : T → Option (Program S R E A × L)} {Q : T → Program S R E A → L → Prop}
    (before : ∀ t x l, sessions t = some (x,l) → Q t x l) (t : T) (session : Option (Program S R E A × L))
    (changed : ∀ x l, session = some (x,l) → Q t x l) :
    ∀ u x l, Function.update sessions t session u = some (x,l) → Q u x l := by
  intro u x l present
  by_cases same : u = t
  · subst same
    rw [Function.update_self] at present
    exact changed x l present
  · rw [Function.update_of_ne same] at present
    exact before u x l present

theorem Pool.step_secured (refl : ∀ d, others d d) (trans : ∀ a b c, others a b → others b c → others a c)
    (begins : ∀ t x d, may t x → inv d → x.Secure exec inv own others (post t) d fresh) (started : own fresh)
    (secured : p.Secured exec inv own others post) (step : Pool.Step exec may fresh p event next) :
    next.Secured exec inv own others post ∧ others p.shared next.shared := by
  cases step with
  | begin _ allowed =>
    refine ⟨⟨secured.holds,Pool.update_sessions secured.sessions _ _ ?_⟩,refl _⟩
    intro x l present
    cases present
    exact ⟨started,begins _ _ _ allowed secured.holds⟩
  | act present =>
    obtain ⟨kept,still,moved,rest⟩ := (secured.sessions _ _ _ present).2 p.shared secured.holds (refl _) _
    refine ⟨⟨kept,Pool.update_sessions ?_ _ _ ?_⟩,moved⟩
    · intro u x l other
      obtain ⟨mine,secure⟩ := secured.sessions u x l other
      exact ⟨mine,secure.moved trans moved⟩
    · intro x l same
      cases same
      exact ⟨still,rest⟩
  | answer => exact ⟨⟨secured.holds,Pool.update_sessions secured.sessions _ none nofun⟩,refl _⟩
  | kill => exact ⟨⟨secured.holds,Pool.update_sessions secured.sessions _ none nofun⟩,refl _⟩

theorem Pool.runs_secured (refl : ∀ d, others d d) (trans : ∀ a b c, others a b → others b c → others a c)
    (begins : ∀ t x d, may t x → inv d → x.Secure exec inv own others (post t) d fresh) (started : own fresh)
    (secured : initial.Secured exec inv own others post) (run : Pool.Runs exec may fresh initial p) :
    p.Secured exec inv own others post ∧ others initial.shared p.shared := by
  induction run with
  | start => exact ⟨secured,refl _⟩
  | step _ step ih =>
    obtain ⟨still,moved⟩ := Pool.step_secured refl trans begins started ih.1 step
    exact ⟨still,trans _ _ _ ih.2 moved⟩

theorem Pool.step_kept {P : S → Prop} {own : D → L → Prop} (keeps : Keeps exec P inv own fresh)
    (begins : ∀ t x, may t x → x.Only P) (kept : p.Kept P inv own) (step : Pool.Step exec may fresh p event next) :
    next.Kept P inv own := by
  have old := kept.sessions
  cases step with
  | begin _ allowed =>
    refine ⟨kept.holds,Pool.update_sessions (Q := fun _ x l => x.Only P ∧ own p.shared l) old _ _ ?_⟩
    intro x l present
    cases present
    exact ⟨begins _ _ allowed,keeps.fresh _ kept.holds⟩
  | act present =>
    obtain ⟨only,mine⟩ := old _ _ _ present
    refine ⟨keeps.shared _ _ _ _ only.1 kept.holds mine,Pool.update_sessions ?_ _ _ ?_⟩
    · intro u x l other
      obtain ⟨also,theirs⟩ := old u x l other
      exact ⟨also,keeps.others _ _ _ _ l only.1 kept.holds mine theirs⟩
    · intro x l same
      cases same
      exact ⟨only.2 _,keeps.session _ _ _ _ only.1 kept.holds mine⟩
  | answer => exact ⟨kept.holds,Pool.update_sessions (Q := fun _ x l => x.Only P ∧ own p.shared l) old _ none nofun⟩
  | kill => exact ⟨kept.holds,Pool.update_sessions (Q := fun _ x l => x.Only P ∧ own p.shared l) old _ none nofun⟩

theorem Pool.runs_kept {P : S → Prop} {own : D → L → Prop} (keeps : Keeps exec P inv own fresh)
    (begins : ∀ t x, may t x → x.Only P) (kept : initial.Kept P inv own) (run : Pool.Runs exec may fresh initial p) :
    p.Kept P inv own := by
  induction run with
  | start => exact kept
  | step _ step ih => exact Pool.step_kept keeps begins ih step

-- What moves the shared state along at every statement moves it along the run.
theorem Pool.runs_moved {P : S → Prop} {own : D → L → Prop} {moves : D → D → Prop} (refl : ∀ d, moves d d)
    (trans : ∀ a b c, moves a b → moves b c → moves a c) (keeps : Keeps exec P inv own fresh)
    (moved : ∀ s c d l, P s → inv d → own d l → moves d (exec s c d l).2.1) (begins : ∀ t x, may t x → x.Only P)
    (kept : initial.Kept P inv own) (run : Pool.Runs exec may fresh initial p) :
    p.Kept P inv own ∧ moves initial.shared p.shared := by
  induction run with
  | start => exact ⟨kept,refl _⟩
  | step _ step ih =>
    refine ⟨Pool.step_kept keeps begins ih.1 step,trans _ _ _ ih.2 ?_⟩
    cases step with
    | act present =>
      obtain ⟨only,mine⟩ := ih.1.sessions _ _ _ present
      exact moved _ _ _ _ only.1 ih.1.holds mine
    | begin => exact refl _
    | answer => exact refl _
    | kill => exact refl _

-- The same where every statement of every program does.
theorem Pool.runs_along {moves : D → D → Prop} (refl : ∀ d, moves d d) (trans : ∀ a b c, moves a b → moves b c → moves a c)
    (moved : ∀ s c d l, moves d (exec s c d l).2.1) (run : Pool.Runs exec may fresh initial p) : moves initial.shared p.shared := by
  have keeps : Keeps exec (fun _ => True) (fun _ => True) (fun _ _ => True) fresh :=
    ⟨fun _ _ _ _ _ _ _ => trivial,fun _ _ _ _ _ _ _ => trivial,fun _ _ _ _ _ _ _ _ _ => trivial,fun _ _ => trivial⟩
  have kept : initial.Kept (fun _ => True) (fun _ => True) (fun _ _ => True) := ⟨trivial,fun _ x _ _ => ⟨only_true x,trivial⟩⟩
  exact (Pool.runs_moved refl trans keeps (fun s c d l _ _ _ => moved s c d l) (fun _ x _ => only_true x) kept run).2

-- An answer is given in a state that owes it.
theorem Pool.answered (refl : ∀ d, others d d) (secured : p.Secured exec inv own others post)
    (step : Pool.Step exec may fresh p (.answer t a) next) : next.shared = p.shared ∧ ∃ l, post t a p.shared l := by
  cases step with
  | answer present => exact ⟨rfl,_,(secured.sessions _ _ _ present).2 _ secured.holds (refl _)⟩

end
end Program

-- A method of an object with attributes `σ`, which may raise `X`. What it did to
-- the attributes before it raised stays.
def Method (S : Type) (R : S → Type) (E σ X A : Type) := σ → Program S R E (Except X A × σ)

namespace Method
variable {S : Type} {R : S → Type} {E σ X A B : Type}

instance : Monad (Method S R E σ X) where
  pure a := fun self => .done (.ok a,self)
  bind x next := fun self => x self >>= fun (result,self) => match result with
    | .ok a => next a self
    | .error raised => .done (.error raised,self)

def raise (raised : X) : Method S R E σ X A := fun self => .done (.error raised,self)
def attributes : Method S R E σ X σ := fun self => .done (.ok self,self)
def assign (self : σ) : Method S R E σ X Unit := fun _ => .done (.ok (),self)
def lift (x : Program S R E (Except X A)) : Method S R E σ X A := fun self => x >>= fun result => .done (result,self)
def attempt (body : Method S R E σ X A) (handler : X → Method S R E σ X A) : Method S R E σ X A :=
  fun self => body self >>= fun (result,self) => match result with
    | .ok a => .done (.ok a,self)
    | .error raised => handler raised self

theorem bind_def (x : Method S R E σ X A) (next : A → Method S R E σ X B) (self : σ) :
    (x >>= next) self = (x self >>= fun (result,self) => match result with
      | .ok a => next a self
      | .error raised => .done (.error raised,self)) := rfl

def Only (P : S → Prop) (x : Method S R E σ X A) : Prop := ∀ self, (x self).Only P

variable {P : S → Prop}

theorem Only.bind {x : Method S R E σ X A} {next : A → Method S R E σ X B} (first : x.Only P)
    (then' : ∀ a, (next a).Only P) : (x >>= next).Only P := by
  intro self
  apply Program.Only.bind (first self)
  intro answer
  obtain ⟨result,self⟩ := answer
  cases result with
  | ok a => exact then' a self
  | error raised => trivial

theorem Only.attempt {body : Method S R E σ X A} {handler : X → Method S R E σ X A} (first : body.Only P)
    (caught : ∀ raised, (handler raised).Only P) : (Method.attempt body handler).Only P := by
  intro self
  apply Program.Only.bind (first self)
  intro answer
  obtain ⟨result,self⟩ := answer
  cases result with
  | ok a => trivial
  | error raised => exact caught raised self

theorem Only.lift {x : Program S R E (Except X A)} (only : x.Only P) : (Method.lift x : Method S R E σ X A).Only P :=
  fun _ => Program.Only.bind only fun _ => trivial

theorem Only.pure (a : A) : (Pure.pure a : Method S R E σ X A).Only P := fun _ => trivial

section
variable {D L C : Type} {exec : Program.Execution S R E D L C} {may : C → Prop}

def Ensures (exec : Program.Execution S R E D L C) (may : C → Prop) (post : Except X A → σ → D → L → Prop)
    (x : Method S R E σ X A) (self : σ) (d : D) (l : L) : Prop :=
  (x self).Ensures exec may (fun (result,self) d l => post result self d l) d l

theorem Ensures.imp {x : Method S R E σ X A} {post weaker : Except X A → σ → D → L → Prop}
    (ensures : x.Ensures exec may post self d l) (implies : ∀ r self d l, post r self d l → weaker r self d l) :
    x.Ensures exec may weaker self d l := Program.Ensures.imp ensures fun (result,self) d l => implies result self d l

-- Whatever follows the answer of a method, by how it came out.
theorem Ensures.answered {x : Method S R E σ X A} {f : Except X A × σ → Program S R E B} {middle : Except X A → σ → D → L → Prop}
    {post : B → D → L → Prop} (first : x.Ensures exec may middle self d l)
    (ok : ∀ a self d l, middle (.ok a) self d l → (f (.ok a,self)).Ensures exec may post d l)
    (raised : ∀ e self d l, middle (.error e) self d l → (f (.error e,self)).Ensures exec may post d l) :
    (x self >>= f).Ensures exec may post d l := by
  apply Program.Ensures.bind
  refine Program.Ensures.imp first fun (result,self) d l holds => ?_
  cases result with
  | ok a => exact ok a self d l holds
  | error e => exact raised e self d l holds

theorem Ensures.bind {x : Method S R E σ X A} {next : A → Method S R E σ X B} {middle : Except X A → σ → D → L → Prop}
    {post : Except X B → σ → D → L → Prop} (first : x.Ensures exec may middle self d l)
    (ok : ∀ a self d l, middle (.ok a) self d l → (next a).Ensures exec may post self d l)
    (raised : ∀ e self d l, middle (.error e) self d l → post (.error e) self d l) :
    (x >>= next).Ensures exec may post self d l := Ensures.answered first ok raised

theorem Ensures.attempt {body : Method S R E σ X A} {handler : X → Method S R E σ X A}
    {middle post : Except X A → σ → D → L → Prop} (first : body.Ensures exec may middle self d l)
    (ok : ∀ a self d l, middle (.ok a) self d l → post (.ok a) self d l)
    (raised : ∀ e self d l, middle (.error e) self d l → (handler e).Ensures exec may post self d l) :
    (Method.attempt body handler).Ensures exec may post self d l := Ensures.answered first ok raised

theorem Ensures.lift {x : Program S R E (Except X A)} {post : Except X A → σ → D → L → Prop}
    (first : x.Ensures exec may (fun result d l => post result self d l) d l) :
    (Method.lift x : Method S R E σ X A).Ensures exec may post self d l := Program.Ensures.bind first

-- The method raises nothing.
def Returns (exec : Program.Execution S R E D L C) (may : C → Prop) (post : A → σ → D → L → Prop)
    (x : Method S R E σ X A) (self : σ) (d : D) (l : L) : Prop :=
  x.Ensures exec may (fun result self d l => ∃ a, result = .ok a ∧ post a self d l) self d l

theorem Returns.imp {x : Method S R E σ X A} {post weaker : A → σ → D → L → Prop} (returns : x.Returns exec may post self d l)
    (implies : ∀ a self d l, post a self d l → weaker a self d l) : x.Returns exec may weaker self d l := by
  apply Ensures.imp returns
  intro result self d l holds
  obtain ⟨a,ok,holds⟩ := holds
  exact ⟨a,ok,implies a self d l holds⟩

theorem Returns.narrow {x : Method S R E σ X A} {post : A → σ → D → L → Prop} (returns : x.Returns exec may post self d l)
    (allowed : ∀ c, may' c → may c) : x.Returns exec may' post self d l := Program.Ensures.narrow returns allowed

theorem Returns.bind {x : Method S R E σ X A} {next : A → Method S R E σ X B} {middle : A → σ → D → L → Prop}
    {post : Except X B → σ → D → L → Prop} (first : x.Returns exec may middle self d l)
    (then' : ∀ a self d l, middle a self d l → (next a).Ensures exec may post self d l) :
    (x >>= next).Ensures exec may post self d l := by
  apply Ensures.bind first
  · intro a self d l holds
    obtain ⟨b,same,holds⟩ := holds
    cases same
    exact then' a self d l holds
  · intro e self d l holds
    obtain ⟨b,same,-⟩ := holds
    cases same

end

section
variable {D L C : Type} {exec : Program.Execution S R E D L C} {inv : D → Prop} {own : L → Prop} {others : D → D → Prop}

-- Among others, with any attributes; where it returns, `learned` tells what.
def Secure (exec : Program.Execution S R E D L C) (inv : D → Prop) (own : L → Prop) (others : D → D → Prop)
    (learned : A → D → L → Prop) (x : Method S R E σ X A) (d : D) (l : L) : Prop :=
  ∀ self, (x self).Secure exec inv own others (fun (result,_) d l => ∀ a, result = .ok a → learned a d l) d l

theorem Secure.bind {x : Method S R E σ X A} {next : A → Method S R E σ X B} {learned : A → D → L → Prop}
    {later : B → D → L → Prop} (refl : ∀ d, others d d) (holds : inv d) (mine : own l)
    (first : x.Secure exec inv own others learned d l)
    (then' : ∀ a d l, inv d → own l → learned a d l → (next a).Secure exec inv own others later d l) :
    (x >>= next).Secure exec inv own others later d l := by
  intro self
  refine Program.Secure.bind refl holds mine (first self) fun (result,self) d l holds mine told => ?_
  cases result with
  | ok a => exact then' a d l holds mine (told a rfl) self
  | error e => exact fun _ _ _ _ => nofun

theorem Secure.attempt {body : Method S R E σ X A} {handler : X → Method S R E σ X A} {learned : A → D → L → Prop}
    (refl : ∀ d, others d d) (holds : inv d) (mine : own l)
    (stable : ∀ a d d' l, others d d' → learned a d l → learned a d' l)
    (first : body.Secure exec inv own others learned d l)
    (caught : ∀ e d l, inv d → own l → (handler e).Secure exec inv own others learned d l) :
    (Method.attempt body handler).Secure exec inv own others learned d l := by
  intro self
  refine Program.Secure.bind refl holds mine (first self) fun (result,self) d l holds mine told => ?_
  cases result with
  | ok a => exact fun d' _ move b same => stable b d d' l move (told b same)
  | error e => exact caught e d l holds mine self

theorem Secure.lift {x : Program S R E (Except X A)} {learned : A → D → L → Prop} (refl : ∀ d, others d d)
    (holds : inv d) (mine : own l) (stable : ∀ a d d' l, others d d' → learned a d l → learned a d' l)
    (secure : x.Secure exec inv own others (fun result d l => ∀ a, result = .ok a → learned a d l) d l) :
    (Method.lift x : Method S R E σ X A).Secure exec inv own others learned d l := by
  intro self
  refine Program.Secure.bind refl holds mine secure fun result d l holds mine told => ?_
  exact fun d' _ move a same => stable a d d' l move (told a same)

theorem Only.secure {x : Method S R E σ X A} (only : x.Only P)
    (harmless : ∀ s c d l, P s → inv d → own l →
      inv (exec s c d l).2.1 ∧ own (exec s c d l).2.2 ∧ others d (exec s c d l).2.1) (mine : own l) :
    x.Secure exec inv own others (fun _ _ _ => True) d l := by
  intro self
  apply ((only self).secure (Program.yields_true _) harmless mine).imp
  exact fun _ _ _ _ _ _ _ => trivial

end
end Method
