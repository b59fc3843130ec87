import Mathlib.Data.List.Induction
import Trokk.Library.Program

-- What a session has said and been told, recorded beside its run.
namespace Program
variable {S : Type} {R : S → Type} {E A B D L C T : Type}

-- A statement that was issued, with the shared state right before and after it.
structure Entry (S : Type) (R : S → Type) (E D C : Type) where
  statement : S
  choice : C
  answer : Except E (R statement)
  before : D
  after : D

abbrev Transcript (S : Type) (R : S → Type) (E D C : Type) := List (Entry S R E D C)

def entry (exec : Execution S R E D L C) (s : S) (c : C) (d : D) (l : L) : Entry S R E D C :=
  ⟨s,c,(exec s c d l).1,d,(exec s c d l).2.1⟩

def recorded (exec : Execution S R E D L C) : Execution S R E D (L × Transcript S R E D C) C := fun s c d l =>
  ((exec s c d l.1).1,(exec s c d l.1).2.1,((exec s c d l.1).2.2,l.2 ++ [entry exec s c d l.1]))

variable {exec : Execution S R E D L C} {may : C → Prop} {log : Transcript S R E D C}

-- The record does not change what is recorded.
theorem Ensures.recorded {x : Program S R E A} {post : A → D → L → Prop} (ensures : x.Ensures exec may post d l) :
    x.Ensures (Program.recorded exec) may (fun a d l => post a d l.1) d (l,log) := by
  induction x generalizing d l log with
  | done a => exact ensures
  | call s next ih => exact fun c allowed => ih _ (ensures c allowed)

-- What sessions keep without a record they keep with one.
theorem Keeps.recorded {P : S → Prop} {inv : D → Prop} {own : D → L → Prop} {fresh : L} (keeps : Keeps exec P inv own fresh) :
    Keeps (Program.recorded exec) P inv (fun d l => own d l.1) (fresh,[]) where
  shared := fun s c d l => keeps.shared s c d l.1
  session := fun s c d l => keeps.session s c d l.1
  others := fun s c d l l' => keeps.others s c d l.1 l'.1
  fresh := keeps.fresh

theorem Ensures.both {x : Program S R E A} {post post' : A → D → L → Prop} (one : x.Ensures exec may post d l)
    (two : x.Ensures exec may post' d l) : x.Ensures exec may (fun a d l => post a d l ∧ post' a d l) d l := by
  induction x generalizing d l with
  | done a => exact ⟨one,two⟩
  | call s next ih => exact fun c allowed => ih _ (one c allowed) (two c allowed)

theorem Only.recorded {x : Program S R E A} {P : S → Prop} {Q : Entry S R E D C → Prop} (only : x.Only P)
    (tells : ∀ e : Entry S R E D C, P e.statement → Q e) (before : ∀ e ∈ log, Q e) :
    x.Ensures (Program.recorded exec) may (fun _ _ l => ∀ e ∈ l.2, Q e) d (l,log) := by
  refine only.ensures (fun _ (l : L × Transcript S R E D C) => ∀ e ∈ l.2, Q e) ?_ before
  intro s c d l issued kept e member
  cases List.mem_append.mp member with
  | inl old => exact kept e old
  | inr added =>
    rw [List.mem_singleton.mp added]
    exact tells _ issued

-- Run alone and recorded: what holds at the end if every entry is good.
def Within (exec : Execution S R E D L C) (good : Entry S R E D C → Prop) (post : A → D → L → Transcript S R E D C → Prop)
    (x : Program S R E A) (d : D) (l : L) (log : Transcript S R E D C) : Prop :=
  x.Ensures (recorded exec) (fun _ => True) (fun a d l => (∀ e ∈ l.2, good e) → post a d l.1 l.2) d (l,log)

section
variable {good : Entry S R E D C → Prop}

theorem Within.imp {x : Program S R E A} {post weaker : A → D → L → Transcript S R E D C → Prop}
    (within : x.Within exec good post d l log) (implies : ∀ a d l log, post a d l log → weaker a d l log) :
    x.Within exec good weaker d l log := Ensures.imp within fun a d l holds all => implies a d l.1 l.2 (holds all)

-- An entry that is not good stays in the record.
theorem Within.spoiled (x : Program S R E A) {post : A → D → L → Transcript S R E D C → Prop}
    (spoiled : ¬ ∀ e ∈ log, good e) : x.Within exec good post d l log := by
  refine Ensures.imp ((only_true x).ensures (fun _ (l : L × Transcript S R E D C) => ¬ ∀ e ∈ l.2, good e) ?_ spoiled) ?_
  · exact fun s c d l _ bad all => bad fun e member => all e (List.mem_append_left _ member)
  · exact fun _ _ _ bad all => absurd all bad

theorem Within.issue {f : Except E (R s) → Program S R E B} {post : B → D → L → Transcript S R E D C → Prop}
    (next : ∀ c, (f (exec s c d l).1).Within exec good post (exec s c d l).2.1 (exec s c d l).2.2 (log ++ [entry exec s c d l])) :
    (Program.issue s >>= f).Within exec good post d l log := fun c _ => next c

theorem Within.bind {x : Program S R E A} {f : A → Program S R E B} {post : B → D → L → Transcript S R E D C → Prop}
    (first : x.Within exec good (fun a d l log => (f a).Within exec good post d l log) d l log) :
    (x >>= f).Within exec good post d l log := by
  apply Ensures.bind
  refine Ensures.imp first fun a d l holds => ?_
  by_cases all : ∀ e ∈ l.2, good e
  · exact holds all
  · exact Within.spoiled (f a) all

-- What the program may issue tells of the entries it adds.
theorem Within.added {x : Program S R E A} {P : S → Prop} {post : A → D → L → Transcript S R E D C → Prop}
    (within : x.Within exec good post d l log) (only : x.Only P) :
    x.Within exec good (fun a d l log' => post a d l log' ∧ ∀ e ∈ log', e ∈ log ∨ P e.statement) d l log := by
  have told : x.Ensures (Program.recorded exec) (fun _ => True) (fun _ _ l => ∀ e ∈ l.2, e ∈ log ∨ P e.statement) d (l,log) :=
    only.recorded (fun e issued => .inr issued) fun e member => .inl member
  refine Ensures.imp (Ensures.both within told) fun a d l holds all => ?_
  exact ⟨holds.1 all,holds.2⟩

end

-- The program that is left of `x` when it has been told what the transcript says.
inductive Follows (x : Program S R E A) : Transcript S R E D C → Program S R E A → Prop where
  | start : Follows x [] x
  | told (e : Entry S R E D C) (next : Except E (R e.statement) → Program S R E A) :
      Follows x before (.call e.statement next) → Follows x (before ++ [e]) (next e.answer)

-- A run of two parts is a run of the first, or a whole run of it and one of the second.
theorem Follows.bind {x : Program S R E A} {f : A → Program S R E B} (follows : Follows (x >>= f) log z) :
    (∃ s next, Follows x log (.call s next) ∧ z = (.call s next) >>= f) ∨
      ∃ a first rest, log = first ++ rest ∧ Follows x first (.done a) ∧ Follows (f a) rest z := by
  have settle (y : Program S R E A) (log : Transcript S R E D C) (reached : Follows x log y) :
      (∃ s next, Follows x log (.call s next) ∧ (y >>= f) = ((.call s next) >>= f : Program S R E B)) ∨
        ∃ a first rest, log = first ++ rest ∧ Follows x first (.done a) ∧ Follows (f a) rest (y >>= f) := by
    cases y with
    | done a => exact .inr ⟨a,log,[],(List.append_nil _).symm,reached,.start⟩
    | call s next => exact .inl ⟨s,next,reached,rfl⟩
  generalize whole : x >>= f = y at follows
  induction follows with
  | start =>
    subst whole
    exact settle x [] .start
  | told e next _ ih =>
    cases ih with
    | inl within =>
      obtain ⟨s,inner,reached,same⟩ := within
      cases same
      exact settle _ _ (.told e inner reached)
    | inr after =>
      obtain ⟨a,first,rest,rfl,ended,follows⟩ := after
      exact .inr ⟨a,first,rest ++ [e],List.append_assoc _ _ _,ended,.told e next follows⟩

theorem Follows.ended {a : A} (follows : Follows (.done a : Program S R E A) log z) : log = [] ∧ z = .done a := by
  induction follows with
  | start => exact ⟨rfl,rfl⟩
  | told e next _ ih => cases ih.2

-- A run of a call has not begun, or begins with its entry.
theorem Follows.called {next : Except E (R s) → Program S R E A} (follows : Follows (.call s next) log z) :
    (log = [] ∧ z = .call s next) ∨ ∃ c answer d d' rest, log = ⟨s,c,answer,d,d'⟩ :: rest ∧ Follows (next answer) rest z := by
  induction follows with
  | start => exact .inl ⟨rfl,rfl⟩
  | told e more _ ih =>
    cases ih with
    | inl first =>
      obtain ⟨rfl,same⟩ := first
      obtain ⟨_,c,answer,d,d'⟩ := e
      cases same
      exact .inr ⟨c,answer,d,d',[],rfl,.start⟩
    | inr later =>
      obtain ⟨c,answer,d,d',rest,rfl,follows⟩ := later
      exact .inr ⟨c,answer,d,d',rest ++ [e],rfl,.told e more follows⟩

theorem Follows.before {e : Entry S R E D C} {next : Except E (R e.statement) → Program S R E A}
    (follows : Follows (next e.answer) log z) : Follows (.call e.statement next) (e :: log) z := by
  induction follows with
  | start => exact .told e next .start
  | told later more _ ih => exact .told later more ih

-- Alone, a program ends after what its record has gained, each entry of it genuine.
theorem Ensures.followed (x : Program S R E A) : x.Ensures (Program.recorded exec) may (fun a _ l => ∃ added, l.2 = log ++ added ∧
    Follows x added (.done a) ∧ ∀ e ∈ added, ∃ own, e = entry exec e.statement e.choice e.before own) d (l,log) := by
  induction x generalizing d l log with
  | done a => exact ⟨[],(List.append_nil _).symm,.start,fun _ member => absurd member List.not_mem_nil⟩
  | call s next ih =>
    intro c _
    refine (ih _).imp fun a d' l' followed => ?_
    obtain ⟨added,same,follows,genuine⟩ := followed
    have whole : Follows (.call s next) (entry exec s c d l :: added) (.done a) :=
      Follows.before (e := entry exec s c d l) follows
    refine ⟨entry exec s c d l :: added,by rw [same,List.append_assoc]; rfl,whole,fun e member => ?_⟩
    cases List.mem_cons.mp member with
    | inl first =>
      rw [first]
      exact ⟨l,rfl⟩
    | inr later => exact genuine e later

theorem Within.followed {x : Program S R E A} {good : Entry S R E D C → Prop} {post : A → D → L → Transcript S R E D C → Prop}
    (within : x.Within exec good post d l log) : x.Within exec good (fun a d l log' => post a d l log' ∧
      ∃ added, log' = log ++ added ∧ Follows x added (.done a)) d l log := by
  refine Ensures.imp (Ensures.both within (Ensures.followed x)) fun a d l told all => ?_
  obtain ⟨holds,added,same,follows,-⟩ := told
  exact ⟨holds all,added,same,follows⟩

theorem Only.follows {x : Program S R E A} {P : S → Prop} (only : x.Only P) (follows : Follows x log z) :
    z.Only P ∧ ∀ e ∈ log, P e.statement := by
  induction follows with
  | start => exact ⟨only,fun _ member => absurd member List.not_mem_nil⟩
  | told e next _ ih =>
    refine ⟨ih.1.2 _,fun other member => ?_⟩
    cases List.mem_append.mp member with
    | inl old => exact ih.2 other old
    | inr added =>
      rw [List.mem_singleton.mp added]
      exact ih.1.1

-- Run alone and recorded: what holds of the end and of the entries that are added.
def Adds (exec : Execution S R E D L C) (may : C → Prop) (post : A → D → L → Transcript S R E D C → Prop)
    (x : Program S R E A) (d : D) (l : L) : Prop :=
  ∀ log, x.Ensures (recorded exec) may (fun a d l' => ∃ added, l'.2 = log ++ added ∧ post a d l'.1 added) d (l,log)

section
variable {post : A → D → L → Transcript S R E D C → Prop}

theorem Adds.imp {x : Program S R E A} {weaker : A → D → L → Transcript S R E D C → Prop} (adds : x.Adds exec may post d l)
    (implies : ∀ a d l added, post a d l added → weaker a d l added) : x.Adds exec may weaker d l := by
  intro log
  refine (adds log).imp fun a d l' told => ?_
  obtain ⟨added,same,holds⟩ := told
  exact ⟨added,same,implies a d l'.1 added holds⟩

theorem Adds.both {x : Program S R E A} {post' : A → D → L → Transcript S R E D C → Prop} (one : x.Adds exec may post d l)
    (two : x.Adds exec may post' d l) : x.Adds exec may (fun a d l added => post a d l added ∧ post' a d l added) d l := by
  intro log
  refine ((one log).both (two log)).imp fun a d l' told => ?_
  obtain ⟨⟨added,same,holds⟩,other,same',holds'⟩ := told
  have equal : other = added := List.append_cancel_left (same'.symm.trans same)
  exact ⟨added,same,holds,equal ▸ holds'⟩

theorem Adds.done (holds : post a d l []) : (Program.done a : Program S R E A).Adds exec may post d l :=
  fun _ => ⟨[],(List.append_nil _).symm,holds⟩

theorem Adds.call {next : Except E (R s) → Program S R E A}
    (then' : ∀ c, may c → (next (exec s c d l).1).Adds exec may (fun a d' l' more => post a d' l' (entry exec s c d l :: more))
      (exec s c d l).2.1 (exec s c d l).2.2) : (Program.call s next).Adds exec may post d l := by
  intro log c allowed
  refine (then' c allowed (log ++ [entry exec s c d l])).imp fun a d' l' told => ?_
  obtain ⟨more,same,holds⟩ := told
  exact ⟨entry exec s c d l :: more,by rw [same,List.append_assoc]; rfl,holds⟩

theorem Adds.bind {x : Program S R E A} {f : A → Program S R E B} {post : B → D → L → Transcript S R E D C → Prop}
    {middle : A → D → L → Transcript S R E D C → Prop} (first : x.Adds exec may middle d l)
    (then' : ∀ a d l added, middle a d l added → (f a).Adds exec may (fun b d l more => post b d l (added ++ more)) d l) :
    (x >>= f).Adds exec may post d l := by
  intro log
  refine Ensures.bind ((first log).imp fun a d' l' told => ?_)
  obtain ⟨m,log'⟩ := l'
  obtain ⟨added,rfl,holds⟩ := told
  refine (then' a d' m added holds (log ++ added)).imp fun b d'' l'' told => ?_
  obtain ⟨more,same,holds⟩ := told
  exact ⟨added ++ more,by rw [same,List.append_assoc],holds⟩

theorem Only.adds {x : Program S R E A} {P : S → Prop} (only : x.Only P) : x.Adds exec may (fun _ _ _ added =>
    ∀ e ∈ added, P e.statement ∧ ∃ own, e = entry exec e.statement e.choice e.before own) d l := by
  intro log
  refine (Ensures.followed x).imp fun a d' l' told => ?_
  obtain ⟨added,same,follows,genuine⟩ := told
  exact ⟨added,same,fun e member => ⟨(only.follows follows).2 e member,genuine e member⟩⟩

theorem Ensures.adds {x : Program S R E A} {post : A → D → L → Prop} (ensures : x.Ensures exec may post d l) :
    x.Adds exec may (fun a d l _ => post a d l) d l := by
  intro log
  refine (ensures.recorded.both (Ensures.followed x)).imp fun a d' l' told => ?_
  obtain ⟨holds,added,same,-⟩ := told
  exact ⟨added,same,holds⟩

theorem Yields.adds {x : Program S R E A} {post : A → Prop} (yields : x.Yields post) :
    x.Adds exec may (fun a _ _ _ => post a) d l := by
  induction x generalizing d l with
  | done a => exact .done yields
  | call s next ih => exact .call fun c _ => ih _ (yields _)

end

section
variable [DecidableEq T] {allowed : T → Program S R E A → Prop} {fresh : L}

def Pool.Follower (allowed : T → Program S R E A → Prop) (t : T) (x : Program S R E A) (l : L × Transcript S R E D C) : Prop :=
  ∃ whole, allowed t whole ∧ whole.Follows l.2 x

-- What is left of every session's program follows from its transcript.
theorem Pool.runs_follow {p : Pool S R E A D (L × Transcript S R E D C) T}
    (run : Pool.Runs (recorded exec) allowed (fresh,[]) (Pool.idle d) p) :
    ∀ t x l, p.sessions t = some (x,l) → Pool.Follower allowed t x l := by
  induction run with
  | start => exact nofun
  | step _ step ih =>
    cases step with
    | begin _ begun =>
      apply Pool.update_sessions ih
      intro x l present
      cases present
      exact ⟨_,begun,.start⟩
    | act present =>
      apply Pool.update_sessions ih
      intro x l same
      cases same
      obtain ⟨whole,begun,follows⟩ := ih _ _ _ present
      exact ⟨whole,begun,.told (entry exec _ _ _ _) _ follows⟩
    | answer => exact Pool.update_sessions ih _ none nofun
    | kill => exact Pool.update_sessions ih _ none nofun

-- What was recorded is what the statement did.
theorem Pool.runs_genuine {p : Pool S R E A D (L × Transcript S R E D C) T}
    (run : Pool.Runs (recorded exec) allowed (fresh,[]) (Pool.idle d) p) :
    ∀ t x l, p.sessions t = some (x,l) → ∀ e ∈ l.2, ∃ own, e = entry exec e.statement e.choice e.before own := by
  induction run with
  | start => exact nofun
  | step _ step ih =>
    cases step with
    | begin _ begun =>
      apply Pool.update_sessions ih
      intro x l present
      cases present
      exact fun _ member => absurd member List.not_mem_nil
    | act present =>
      apply Pool.update_sessions ih
      intro x l same
      cases same
      intro e member
      cases List.mem_append.mp member with
      | inl old => exact ih _ _ _ present e old
      | inr added =>
        rw [List.mem_singleton.mp added]
        exact ⟨_,rfl⟩
    | answer => exact Pool.update_sessions ih _ none nofun
    | kill => exact Pool.update_sessions ih _ none nofun

-- Every entry was there before the run, or was made on its way.
structure Pool.OnWay (rel : D → D → Prop) (initial p : Pool S R E A D (L × Transcript S R E D C) T) : Prop where
  moved : rel initial.shared p.shared
  entries : ∀ t x l, p.sessions t = some (x,l) → ∀ e ∈ l.2,
    (∃ y own, initial.sessions t = some (y,own) ∧ e ∈ own.2) ∨ rel initial.shared e.before ∧ rel e.after p.shared

theorem Pool.runs_on_way {rel : D → D → Prop} (refl : ∀ d, rel d d) (trans : ∀ a b c, rel a b → rel b c → rel a c)
    (moves : ∀ s c d l, rel d (exec s c d l).2.1) {initial p : Pool S R E A D (L × Transcript S R E D C) T}
    (run : Pool.Runs (recorded exec) allowed (fresh,[]) initial p) : Pool.OnWay rel initial p := by
  induction run with
  | start => exact ⟨refl _,fun t x l present e member => .inl ⟨x,l,present,member⟩⟩
  | @step q _ _ _ step ih =>
    cases step with
    | begin _ begun =>
      refine ⟨ih.moved,Pool.update_sessions ih.entries _ _ fun x l present => ?_⟩
      cases present
      exact fun _ member => absurd member List.not_mem_nil
    | @act l _ t s c next present =>
      have move := moves s c q.shared l.1
      refine ⟨trans _ _ _ ih.moved move,Pool.update_sessions ?_ _ _ fun x l same => ?_⟩
      · intro u x l there e member
        apply (ih.entries u x l there e member).imp_right
        exact fun way => ⟨way.1,trans _ _ _ way.2 move⟩
      · cases same
        intro e member
        cases List.mem_append.mp member with
        | inl old =>
          apply (ih.entries _ _ _ present e old).imp_right
          exact fun way => ⟨way.1,trans _ _ _ way.2 move⟩
        | inr added =>
          rw [List.mem_singleton.mp added]
          exact .inr ⟨ih.moved,refl _⟩
    | answer => exact ⟨ih.moved,Pool.update_sessions ih.entries _ none nofun⟩
    | kill => exact ⟨ih.moved,Pool.update_sessions ih.entries _ none nofun⟩

end
end Program

namespace Method
variable {S : Type} {R : S → Type} {E σ X A B D L C : Type} {exec : Program.Execution S R E D L C}
  {good : Program.Entry S R E D C → Prop} {log : Program.Transcript S R E D C}

def Within (exec : Program.Execution S R E D L C) (good : Program.Entry S R E D C → Prop)
    (post : Except X A → σ → D → L → Program.Transcript S R E D C → Prop) (x : Method S R E σ X A) (self : σ) (d : D) (l : L)
    (log : Program.Transcript S R E D C) : Prop :=
  (x self).Within exec good (fun (result,self) d l log => post result self d l log) d l log

theorem Within.imp {x : Method S R E σ X A} {post weaker : Except X A → σ → D → L → Program.Transcript S R E D C → Prop}
    (within : x.Within exec good post self d l log) (implies : ∀ r self d l log, post r self d l log → weaker r self d l log) :
    x.Within exec good weaker self d l log := Program.Within.imp within fun (result,self) d l log => implies result self d l log

theorem Within.bind {x : Method S R E σ X A} {next : A → Method S R E σ X B}
    {middle : Except X A → σ → D → L → Program.Transcript S R E D C → Prop}
    {post : Except X B → σ → D → L → Program.Transcript S R E D C → Prop} (first : x.Within exec good middle self d l log)
    (ok : ∀ a self d l log, middle (.ok a) self d l log → (next a).Within exec good post self d l log)
    (raised : ∀ e self d l log, middle (.error e) self d l log → post (.error e) self d l log) :
    (x >>= next).Within exec good post self d l log := by
  apply Program.Within.bind
  refine Program.Within.imp first fun (result,self) d l log holds => ?_
  cases result with
  | ok a => exact ok a self d l log holds
  | error e => exact fun _ => raised e self d l log holds

theorem Within.attempt {body : Method S R E σ X A} {handler : X → Method S R E σ X A}
    {middle post : Except X A → σ → D → L → Program.Transcript S R E D C → Prop}
    (first : body.Within exec good middle self d l log)
    (ok : ∀ a self d l log, middle (.ok a) self d l log → post (.ok a) self d l log)
    (raised : ∀ e self d l log, middle (.error e) self d l log → (handler e).Within exec good post self d l log) :
    (Method.attempt body handler).Within exec good post self d l log := by
  apply Program.Within.bind
  refine Program.Within.imp first fun (result,self) d l log holds => ?_
  cases result with
  | ok a => exact fun _ => ok a self d l log holds
  | error e => exact raised e self d l log holds

theorem Within.added {x : Method S R E σ X A} {P : S → Prop} {post : Except X A → σ → D → L → Program.Transcript S R E D C → Prop}
    (within : x.Within exec good post self d l log) (only : x.Only P) :
    x.Within exec good (fun r self d l log' => post r self d l log' ∧ ∀ e ∈ log', e ∈ log ∨ P e.statement) self d l log :=
  Program.Within.added within (only self)

theorem Within.lift {x : Program S R E (Except X A)} {post : Except X A → σ → D → L → Program.Transcript S R E D C → Prop}
    (first : x.Within exec good (fun result d l log => post result self d l log) d l log) :
    (Method.lift x : Method S R E σ X A).Within exec good post self d l log := by
  apply Program.Within.bind
  exact Program.Within.imp first fun _ _ _ _ holds _ => holds

theorem Within.followed {x : Method S R E σ X A} {post : Except X A → σ → D → L → Program.Transcript S R E D C → Prop}
    (within : x.Within exec good post self d l log) : x.Within exec good (fun r self' d l log' => post r self' d l log' ∧
      ∃ added, log' = log ++ added ∧ (x self).Follows added (.done (r,self'))) self d l log := Program.Within.followed within

def Adds (exec : Program.Execution S R E D L C) (may : C → Prop)
    (post : Except X A → σ → D → L → Program.Transcript S R E D C → Prop) (x : Method S R E σ X A) (self : σ) (d : D) (l : L) : Prop :=
  (x self).Adds exec may (fun (result,self) d l added => post result self d l added) d l

theorem Adds.imp {x : Method S R E σ X A} {post weaker : Except X A → σ → D → L → Program.Transcript S R E D C → Prop}
    (adds : x.Adds exec may post self d l) (implies : ∀ r self d l added, post r self d l added → weaker r self d l added) :
    x.Adds exec may weaker self d l := Program.Adds.imp adds fun (result,self) d l added => implies result self d l added

theorem Adds.pure (a : A) {post : Except X A → σ → D → L → Program.Transcript S R E D C → Prop} (holds : post (.ok a) self d l []) :
    (Pure.pure a : Method S R E σ X A).Adds exec may post self d l := Program.Adds.done holds

theorem Adds.bind {x : Method S R E σ X A} {next : A → Method S R E σ X B}
    {middle : Except X A → σ → D → L → Program.Transcript S R E D C → Prop}
    {post : Except X B → σ → D → L → Program.Transcript S R E D C → Prop} (first : x.Adds exec may middle self d l)
    (ok : ∀ a self d l added, middle (.ok a) self d l added →
      (next a).Adds exec may (fun r self d l more => post r self d l (added ++ more)) self d l)
    (raised : ∀ e self d l added, middle (.error e) self d l added → post (.error e) self d l added) :
    (x >>= next).Adds exec may post self d l := by
  apply Program.Adds.bind first
  intro answer d l added holds
  obtain ⟨result,self⟩ := answer
  cases result with
  | ok a => exact ok a self d l added holds
  | error e => exact .done (by rw [List.append_nil]; exact raised e self d l added holds)

theorem Adds.attempt {body : Method S R E σ X A} {handler : X → Method S R E σ X A}
    {middle post : Except X A → σ → D → L → Program.Transcript S R E D C → Prop} (first : body.Adds exec may middle self d l)
    (ok : ∀ a self d l added, middle (.ok a) self d l added → post (.ok a) self d l added)
    (raised : ∀ e self d l added, middle (.error e) self d l added →
      (handler e).Adds exec may (fun r self d l more => post r self d l (added ++ more)) self d l) :
    (Method.attempt body handler).Adds exec may post self d l := by
  apply Program.Adds.bind first
  intro answer d l added holds
  obtain ⟨result,self⟩ := answer
  cases result with
  | ok a => exact .done (by rw [List.append_nil]; exact ok a self d l added holds)
  | error e => exact raised e self d l added holds

theorem Adds.lift {x : Program S R E (Except X A)} {post : Except X A → σ → D → L → Program.Transcript S R E D C → Prop}
    (first : x.Adds exec may (fun result d l added => post result self d l added) d l) :
    (Method.lift x : Method S R E σ X A).Adds exec may post self d l := by
  apply Program.Adds.bind first
  intro result d l added holds
  exact .done (by rw [List.append_nil]; exact holds)

-- A run that has reached a statement is within the first part, or in the second one
-- after the first returned.
theorem follows_bind {x : Method S R E σ X A} {next : A → Method S R E σ X B} {rest : Except E (R s) → Program S R E (Except X B × σ)}
    (follows : ((x >>= next) self).Follows log (.call s rest)) : (∃ inner, (x self).Follows log (.call s inner)) ∨
      ∃ a after first more, log = first ++ more ∧ (x self).Follows first (.done (.ok a,after)) ∧
        (next a after).Follows more (.call s rest) := by
  cases Program.Follows.bind follows with
  | inl within =>
    obtain ⟨s,inner,reached,same⟩ := within
    cases same
    exact .inl ⟨inner,reached⟩
  | inr after =>
    obtain ⟨⟨result,after⟩,first,more,rfl,ended,later⟩ := after
    cases result with
    | ok a => exact .inr ⟨a,after,first,more,rfl,ended,later⟩
    | error e => cases later.ended.2

-- A whole run is one of the first part that raised, or one of each part.
theorem follows_through {x : Method S R E σ X A} {next : A → Method S R E σ X B}
    (follows : ((x >>= next) self).Follows log (.done (result,later))) :
    (∃ e, result = .error e ∧ (x self).Follows log (.done (.error e,later))) ∨
      ∃ a after first more, log = first ++ more ∧ (x self).Follows first (.done (.ok a,after)) ∧
        (next a after).Follows more (.done (result,later)) := by
  cases Program.Follows.bind follows with
  | inl within =>
    obtain ⟨s,inner,_,same⟩ := within
    cases same
  | inr after =>
    obtain ⟨⟨told,after⟩,first,more,rfl,ended,rest⟩ := after
    cases told with
    | ok a => exact .inr ⟨a,after,first,more,rfl,ended,rest⟩
    | error e =>
      obtain ⟨rfl,same⟩ := Program.Follows.ended rest
      cases same
      exact .inl ⟨e,rfl,by rw [List.append_nil]; exact ended⟩

end Method
