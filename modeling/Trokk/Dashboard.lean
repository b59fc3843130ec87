import Trokk.Library.Trace

-- The investigation that ferr/src/app/dashboard/page.tsx shows: activeInv, the effect
-- that polls while it is under way, and the link to its report.
namespace Trokk
open Trace

structure Dashboard.Investigation where
  id : String
  question : String
  status : String
  deriving DecidableEq

-- `watched` is the status the effect ran for last, `interval` whether its timer runs.
structure Dashboard where
  investigations : List Dashboard.Investigation
  activeInv : Option Dashboard.Investigation
  polling : Bool
  watched : Option String
  interval : Bool
  deriving DecidableEq

-- What arrives: answers of the list, with no list in the body of a refusal, answers to
-- the POST of a question, and those to the POST of the consensus.
inductive DashboardEvent where
  | listed (data : Option (List Dashboard.Investigation))
  | unlisted
  | created (inv : Dashboard.Investigation)
  | triggered
  deriving DecidableEq

namespace Dashboard

def initial : Dashboard := ⟨[],none,false,none,false⟩

def unfinished (i : Investigation) : Bool := ["in_progress","consensus","pending"].contains i.status
def underWay (status : Option String) : Bool := status = some "in_progress" || status = some "consensus"

def fetchInvestigations (s : Dashboard) (data : Option (List Investigation)) : Dashboard :=
  let s := {s with investigations := data.getD []}
  match data.bind fun list => list.find? unfinished with
  | some active => {s with activeInv := some active}
  | none => s

-- The effect on activeInv?.status, with the cleanup of its last run.
def effect (s : Dashboard) : Dashboard :=
  let status := s.activeInv.map Investigation.status
  if s.watched = status then s else
    let s := if s.interval then {s with interval := false,polling := false} else s
    let s := {s with watched := status}
    if underWay status then {s with polling := true,interval := true} else s

def link (s : Dashboard) : Option String := s.activeInv.bind fun i =>
  if i.status = "complete" then some ("/reports/" ++ i.id) else none

def step (s : Dashboard) : DashboardEvent → Option Dashboard
  | .listed data => some (s.fetchInvestigations data).effect
  | .unlisted => some s
  | .created inv => some ({s with activeInv := some inv} : Dashboard).effect
  | .triggered => if s.activeInv = none then none else some s

end Dashboard

open Dashboard

-- The entries of a list that are about one investigation.
def Lists (list : List Dashboard.Investigation) (id : String) : Prop := ∃ i ∈ list, i.id = id
def ListsAs (list : List Dashboard.Investigation) (id status : String) : Prop := ∃ i ∈ list, i.id = id ∧ i.status = status

-- After a list with the investigation in question its status there is the one shown;
-- polling goes on while that is under way, and a completed investigation is linked.
structure FollowsList (followed : Option Dashboard.Investigation) (e : DashboardEvent) (s : Dashboard) : Prop where
  status : ∀ list, e = .listed (some list) → ∀ i ∈ followed, Lists list i.id → ∃ held ∈ s.activeInv, ListsAs list i.id held.status
  polling : s.polling = underWay (s.activeInv.map Investigation.status)
  completed : ∀ list, e = .listed (some list) → ∀ i ∈ followed, Lists list i.id →
    (∀ j ∈ list, j.id = i.id → j.status = "complete") → s.polling = false ∧ s.link = some ("/reports/" ++ i.id)

-- A list with an unfinished investigation, or none in which the held one moved on.
def UnfinishedListed (s : Dashboard) (e : DashboardEvent) : Prop := ∀ list, e = .listed (some list) →
  (∃ i ∈ list, unfinished i) ∨ ∀ held ∈ s.activeInv, Lists list held.id → ListsAs list held.id held.status

-- The first unfinished one of the list, if any, has the status that the list gives to the held one.
def AgreesListed (s : Dashboard) (e : DashboardEvent) : Prop := ∀ list, e = .listed (some list) →
  ∀ held ∈ s.activeInv, Lists list held.id → ListsAs list held.id ((list.find? unfinished).getD held).status

structure Watching (s : Dashboard) : Prop where
  watched : s.watched = s.activeInv.map Investigation.status
  polling : s.polling = underWay s.watched
  interval : s.interval = s.polling

theorem effect_activeInv (s : Dashboard) : s.effect.activeInv = s.activeInv := by
  unfold Dashboard.effect
  grind

theorem effect_watching {s : Dashboard} (polling : s.polling = underWay s.watched) (interval : s.interval = s.polling) :
    Watching s.effect := by
  by_cases same : s.watched = s.activeInv.map Investigation.status
  · have still : s.effect = s := if_pos same
    rw [still]
    exact ⟨same,polling,interval⟩
  · unfold Dashboard.effect
    rw [if_neg same]
    refine ⟨?_,?_,?_⟩ <;> grind

theorem watching_polls (watching : Watching s) : s.polling = underWay (s.activeInv.map Investigation.status) := by
  rw [watching.polling,watching.watched]

theorem step_watching (watching : Watching s) (taken : s.step e = some s') : Watching s' := by
  cases e with
  | listed data =>
    cases taken
    unfold Dashboard.fetchInvestigations
    split <;> exact effect_watching watching.polling watching.interval
  | unlisted =>
    cases taken
    exact watching
  | created inv =>
    cases taken
    exact effect_watching watching.polling watching.interval
  | triggered =>
    dsimp only [Dashboard.step] at taken
    split at taken <;> cases taken
    exact watching

theorem fetchInvestigations_active (s : Dashboard) (list : List Dashboard.Investigation) :
    (s.fetchInvestigations (some list)).effect.activeInv = (list.find? unfinished).or s.activeInv := by
  rw [effect_activeInv]
  unfold Dashboard.fetchInvestigations
  rw [Option.bind_some]
  cases list.find? unfinished <;> rfl

-- What is shown as complete was held before: the search passes over it.
theorem complete_held {list : List Dashboard.Investigation} (shown : (list.find? unfinished).or active = some held)
    (complete : held.status = "complete") : active = some held := by
  cases found : list.find? unfinished with
  | none => rwa [found,Option.none_or] at shown
  | some i =>
    rw [found,Option.some_or] at shown
    cases shown
    have isOpen := List.find?_some found
    rw [unfinished,complete] at isOpen
    cases isOpen

theorem complete_linked (watching : Watching s) (active : s.activeInv = some held) (complete : held.status = "complete") :
    s.polling = false ∧ s.link = some ("/reports/" ++ held.id) := by
  rw [watching_polls watching,Dashboard.link,active,Option.map_some,Option.bind_some,if_pos complete,complete]
  exact ⟨rfl,rfl⟩

-- Following is a matter of the status alone; an investigation that was shown before the
-- list, or is after it, is then linked on completion.
theorem follows_status {followed : Option Dashboard.Investigation} (watching : Watching s) (taken : s.step e = some s')
    (own : followed = s.activeInv ∨ followed = s'.activeInv) : FollowsList followed e s' ↔
      ∀ list, e = .listed (some list) → ∀ i ∈ followed, Lists list i.id → ∃ held ∈ s'.activeInv, ListsAs list i.id held.status := by
  have watching' := step_watching watching taken
  refine ⟨FollowsList.status,fun status => ⟨status,watching_polls watching',?_⟩⟩
  rintro list rfl i isFollowed listed complete
  obtain ⟨held,active,j,member,same,ended⟩ := status list rfl i isFollowed listed
  have isComplete : held.status = "complete" := ended.symm.trans (complete j member same)
  have linked := complete_linked watching' active isComplete
  have shown : i = held := by
    rcases own with rfl | rfl
    · cases taken
      have before := complete_held ((fetchInvestigations_active s list).symm.trans active) isComplete
      exact Option.some.inj (isFollowed.symm.trans before)
    · exact Option.some.inj (isFollowed.symm.trans active)
  rw [shown]
  exact linked

theorem held_followed (watching : Watching s) (taken : s.step e = some s') : FollowsList s'.activeInv e s' ↔ UnfinishedListed s e := by
  rw [follows_status watching taken (.inr rfl)]
  refine forall_congr' fun list => forall_congr' ?_
  rintro rfl
  cases taken
  rw [fetchInvestigations_active]
  cases found : list.find? unfinished with
  | some active =>
    have member := List.mem_of_find?_eq_some found
    refine iff_of_true (fun i isHeld _ => ⟨i,isHeld,?_⟩) (.inl ⟨active,member,List.find?_some found⟩)
    cases isHeld
    exact ⟨active,member,rfl,rfl⟩
  | none =>
    have finished : ¬ ∃ i ∈ list, unfinished i := by
      rintro ⟨i,member,isOpen⟩
      exact List.find?_eq_none.mp found i member isOpen
    rw [Option.none_or,or_iff_right finished]
    refine forall_congr' fun i => forall_congr' fun isHeld => forall_congr' fun _ => ?_
    constructor
    · rintro ⟨held,active,as⟩
      cases isHeld.symm.trans active
      exact as
    · exact fun as => ⟨i,isHeld,as⟩

theorem listed_followed (watching : Watching s) (taken : s.step e = some s') : FollowsList s.activeInv e s' ↔ AgreesListed s e := by
  rw [follows_status watching taken (.inl rfl)]
  refine forall_congr' fun list => forall_congr' ?_
  rintro rfl
  cases taken
  rw [fetchInvestigations_active]
  refine forall_congr' fun i => forall_congr' fun isHeld => forall_congr' fun _ => ?_
  have shown : (list.find? unfinished).or s.activeInv = some ((list.find? unfinished).getD i) := by
    cases list.find? unfinished with
    | none => exact isHeld
    | some active => rfl
  rw [shown]
  constructor
  · rintro ⟨_,⟨⟩,as⟩
    exact as
  · exact fun as => ⟨_,rfl,as⟩

-- Of the investigation that is held after each list, and of the one that was held when it arrived.
theorem dashboard_follows (events : List DashboardEvent) :
    (Along Dashboard.step (fun _ e s => FollowsList s.activeInv e s) .initial events ↔
      Along Dashboard.step (fun s e _ => UnfinishedListed s e) .initial events) ∧
    (Along Dashboard.step (fun s e s' => FollowsList s.activeInv e s') .initial events ↔
      Along Dashboard.step (fun s e _ => AgreesListed s e) .initial events) := by
  have first : Watching .initial := ⟨rfl,rfl,rfl⟩
  constructor
  · refine along_iff (fun _ _ _ watching taken => ?_) first events
    exact ⟨held_followed watching taken,fun _ => step_watching watching taken⟩
  · refine along_iff (fun _ _ _ watching taken => ?_) first events
    exact ⟨listed_followed watching taken,fun _ => step_watching watching taken⟩

-- The list says it is complete; the page still polls and links nothing.
def missedCompletion : List DashboardEvent := [.created ⟨"21","why","in_progress"⟩,.triggered,.listed (some [⟨"21","why","complete"⟩])]

theorem completion_missed :
    (run Dashboard.step .initial missedCompletion).map (fun s => (s.activeInv,s.polling,s.link)) = some (some ⟨"21","why","in_progress"⟩,true,none) ∧
    ¬ Along Dashboard.step (fun _ e s => FollowsList s.activeInv e s) .initial missedCompletion ∧
    ¬ Along Dashboard.step (fun s e s' => FollowsList s.activeInv e s') .initial missedCompletion := by
  have there : Lists [⟨"21","why","complete"⟩] "21" := ⟨_,List.mem_singleton_self _,rfl⟩
  refine ⟨rfl,fun along => ?_,fun along => ?_⟩
  · have follows := (((along _ rfl).2 _ rfl).2 _ rfl).1
    cases (follows.completed _ rfl _ rfl there (by decide)).1
  · have follows := (((along _ rfl).2 _ rfl).2 _ rfl).1
    cases (follows.completed _ rfl _ rfl there (by decide)).1

end Trokk
