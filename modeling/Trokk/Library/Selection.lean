import Trokk.Library.Trace
import Mathlib.Data.List.Basic

-- A view of what is selected. It requests on selection and whenever it likes, answers
-- arrive in any order, and each is shown, whichever selection it was requested for.
namespace Selection

-- What the views have to say for themselves. `made` tells a view by the answers it shows.
structure Viewer (I F V D X : Type) where
  asks : I → Bool
  latest : F
  appends : F → Bool
  select : V → I → V
  request : V → F → V
  succeed : V → F → D → V
  fail : V → F → X → V
  made : V → List D → Prop
  selected : made v shown → made (select v i) shown
  requested : made v shown → made (request v f) shown
  replaced : appends f = false → made (succeed v f d) [d]
  appended : appends f = true → made v shown → made (succeed v f d) (shown ++ [d])
  failed : made v shown → made (fail v f x) shown

-- All selections, the current one first; the requests in flight; the answers shown.
structure State (I F V D : Type) where
  view : V
  selections : List I
  flights : List (I × F)
  shown : List (I × D)

inductive Event (I F D X : Type) where
  | select (i : I)
  | request (i : I) (f : F)
  | arrive (n : Nat) (result : Except X D)

variable {I F V D X : Type}

theorem mem_eraseIdx_other {flights : List (I × F)} (at' : flights[n]? = some flight) (member : other ∈ flights) (apart : other.1 ≠ flight.1) :
    other ∈ flights.eraseIdx n := by
  obtain ⟨m,place⟩ := List.mem_iff_getElem?.mp member
  refine List.mem_eraseIdx_iff_getElem?.mpr ⟨m,fun same => ?_,place⟩
  subst same
  cases at'.symm.trans place
  exact apart rfl

variable [DecidableEq I]

def step (viewer : Viewer I F V D X) (s : State I F V D) : Event I F D X → Option (State I F V D)
  | .select i => some {s with
      view := viewer.select s.view i
      selections := i :: s.selections
      flights := if viewer.asks i then s.flights ++ [(i,viewer.latest)] else s.flights}
  | .request i f => if i ∈ s.selections ∧ viewer.asks i = true then
      some {s with view := viewer.request s.view f,flights := s.flights ++ [(i,f)]} else none
  | .arrive n result => s.flights[n]?.map fun (i,f) => match result with
      | .ok d => {s with
          view := viewer.succeed s.view f d
          flights := s.flights.eraseIdx n
          shown := if viewer.appends f then s.shown ++ [(i,d)] else [(i,d)]}
      | .error x => {s with view := viewer.fail s.view f x,flights := s.flights.eraseIdx n}

def Answered (viewer : Viewer I F V D X) (s : State I F V D) (i : I) : Prop :=
  s.selections.head? = some i ∧ viewer.asks i = true ∧ ∀ flight ∈ s.flights, flight.1 ≠ i

-- All is shown as it was answered, and once the requests of the current selection are
-- answered, it is the answers to these.
structure Latest (viewer : Viewer I F V D X) (s : State I F V D) : Prop where
  made : viewer.made s.view (s.shown.map Prod.snd)
  current : ∀ i, Answered viewer s i → ∀ answer ∈ s.shown, answer.1 = i

-- An answer to an earlier selection comes while the current one is still waited for, and
-- the last one waited for finds nothing else shown unless it replaces it.
structure InTurn (viewer : Viewer I F V D X) (s : State I F V D) (e : Event I F D X) : Prop where
  superseded : ∀ n d flight i, e = .arrive n (.ok d) → s.flights[n]? = some flight → s.selections.head? = some i →
    viewer.asks i = true → flight.1 ≠ i → ∃ other ∈ s.flights, other.1 = i
  last : ∀ n result flight, e = .arrive n result → s.flights[n]? = some flight → s.selections.head? = some flight.1 →
    viewer.asks flight.1 = true → (∀ other ∈ s.flights.eraseIdx n, other.1 ≠ flight.1) →
    (∀ d, result = .ok d → viewer.appends flight.2 = true) → ∀ answer ∈ s.shown, answer.1 = flight.1

variable {viewer : Viewer I F V D X} {s s' : State I F V D}

-- An answer that replaces what is shown.
theorem arrive_replaces (at' : s.flights[n]? = some (i,f)) (alone : viewer.appends f = false)
    (next : s' = {s with view := viewer.succeed s.view f d,flights := s.flights.eraseIdx n,shown := [(i,d)]}) :
    Latest viewer s' ↔ InTurn viewer s (.arrive n (.ok d)) := by
  subst next
  constructor
  · intro after
    refine ⟨fun m d' flight j isEvent place head asks apart => ?_,fun m result flight isEvent place _ _ _ appends => ?_⟩
    · cases isEvent
      cases at'.symm.trans place
      by_contra none'
      refine apart (after.current j ⟨head,asks,fun other member same => none' ⟨other,List.mem_of_mem_eraseIdx member,same⟩⟩ (i,d) ?_)
      exact List.mem_singleton_self _
    · cases isEvent
      cases at'.symm.trans place
      cases alone.symm.trans (appends d rfl)
  · intro inTurn
    refine ⟨viewer.replaced alone,fun j answered answer member => ?_⟩
    rw [List.mem_singleton.mp member]
    by_contra apart
    obtain ⟨other,waiting,own⟩ := inTurn.superseded n d (i,f) j rfl at' answered.1 answered.2.1 apart
    refine answered.2.2 other (mem_eraseIdx_other at' waiting ?_) own
    exact fun same => apart (same.symm.trans own)

-- One that leaves what is shown in place: a failure, or an answer that is appended.
theorem arrive_keeps (latest : Latest viewer s) (at' : s.flights[n]? = some (i,f)) (made : viewer.made s'.view (s'.shown.map Prod.snd))
    (selections : s'.selections = s.selections) (flights : s'.flights = s.flights.eraseIdx n) (shown : s'.shown = s.shown ++ extra)
    (kind : (∃ x, result = .error x) ∧ extra = [] ∨ ∃ d, result = .ok d ∧ viewer.appends f = true ∧ extra = [(i,d)]) :
    Latest viewer s' ↔ InTurn viewer s (.arrive n result) := by
  have answered (j : I) (head : s.selections.head? = some j) (asks : viewer.asks j = true)
      (waiting : ∀ other ∈ s.flights.eraseIdx n, other.1 ≠ j) : Answered viewer s' j := by
    refine ⟨by rw [selections]; exact head,asks,?_⟩
    rw [flights]
    exact waiting
  constructor
  · intro after
    refine ⟨fun m d flight j isEvent place head asks apart => ?_,fun m result' flight isEvent place head asks others _ answer member => ?_⟩
    · cases isEvent
      cases at'.symm.trans place
      rcases kind with ⟨⟨x,isError⟩,-⟩ | ⟨d',isOk,-,own⟩
      · cases isError
      · by_contra none'
        have now := answered j head asks fun other waiting same => none' ⟨other,List.mem_of_mem_eraseIdx waiting,same⟩
        refine apart (after.current j now (i,d') ?_)
        rw [shown,own]
        exact List.mem_append_right _ (List.mem_singleton_self _)
    · cases isEvent
      cases at'.symm.trans place
      refine after.current i (answered i head asks others) answer ?_
      rw [shown]
      exact List.mem_append_left _ member
  · intro inTurn
    refine ⟨made,fun j now answer member => ?_⟩
    have head : s.selections.head? = some j := selections ▸ now.1
    have waiting : ∀ other ∈ s.flights.eraseIdx n, other.1 ≠ j := flights ▸ now.2.2
    rw [shown] at member
    by_cases own : i = j
    · subst own
      have before := inTurn.last n result (i,f) rfl at' head now.2.1 waiting fun d isOk => by
        rcases kind with ⟨⟨x,isError⟩,-⟩ | ⟨d',-,appends,-⟩
        · cases isOk.symm.trans isError
        · exact appends
      rcases List.mem_append.mp member with old | added
      · exact before answer old
      · rcases kind with ⟨-,none'⟩ | ⟨d',-,-,one⟩
        · rw [none'] at added
          cases added
        · rw [one] at added
          rw [List.mem_singleton.mp added]
    · have quiet : ∀ other ∈ s.flights, other.1 ≠ j := by
        intro other there same
        exact waiting other (mem_eraseIdx_other at' there fun same' => own (same'.symm.trans same)) same
      rcases kind with ⟨-,none'⟩ | ⟨d',isOk,-,-⟩
      · rw [none',List.append_nil] at member
        exact latest.current j ⟨head,now.2.1,quiet⟩ answer member
      · obtain ⟨other,there,same⟩ := inTurn.superseded n d' (i,f) j (by rw [isOk]) at' head now.2.1 own
        exact absurd same (quiet other there)

theorem step_once (latest : Latest viewer s) (taken : step viewer s e = some s') : Latest viewer s' ↔ InTurn viewer s e := by
  cases e with
  | select i =>
    cases taken
    refine iff_of_true ⟨viewer.selected latest.made,fun j answered => ?_⟩ ⟨fun _ _ _ _ => nofun,fun _ _ _ => nofun⟩
    obtain ⟨head,asks,waiting⟩ := answered
    cases head
    rw [if_pos asks] at waiting
    exact absurd rfl (waiting (i,viewer.latest) (List.mem_append_right _ (List.mem_singleton_self _)))
  | request i f =>
    dsimp only [step] at taken
    split at taken
    · cases taken
      refine iff_of_true ⟨viewer.requested latest.made,fun j answered => ?_⟩ ⟨fun _ _ _ _ => nofun,fun _ _ _ => nofun⟩
      exact latest.current j ⟨answered.1,answered.2.1,fun flight there => answered.2.2 flight (List.mem_append_left _ there)⟩
    · cases taken
  | arrive n result =>
    obtain ⟨⟨i,f⟩,at',rfl⟩ := Option.map_eq_some_iff.mp taken
    cases result with
    | error x =>
      refine arrive_keeps latest at' (viewer.failed latest.made) rfl rfl (List.append_nil _).symm (.inl ⟨⟨x,rfl⟩,rfl⟩)
    | ok d =>
      cases appends : viewer.appends f with
      | false =>
        refine arrive_replaces at' appends ?_
        simp [appends]
      | true =>
        refine arrive_keeps latest at' ?_ rfl rfl ?_ (.inr ⟨d,rfl,appends,rfl⟩)
        · simpa [appends] using viewer.appended appends latest.made
        · simp [appends]

theorem latest_along (initial : Latest viewer s) (events : List (Event I F D X)) :
    Trace.Along (step viewer) (fun _ _ s' => Latest viewer s') s events ↔ Trace.Along (step viewer) (fun s e _ => InTurn viewer s e) s events := by
  refine @Trace.along_iff _ _ (step viewer) _ _ (Latest viewer) s (fun s e s' latest taken => ?_) initial events
  exact ⟨step_once latest taken,(step_once latest taken).mpr⟩

end Selection
