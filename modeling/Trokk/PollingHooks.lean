import Mathlib.Logic.Function.Basic
import Trokk.Library.Trace

-- The effects of the polling hooks of ferr/src/lib/api/hooks.ts over setTimeout and the
-- listeners of ferr/src/lib/polling.ts. Durations are left out: a pending timer may fire
-- whenever it likes.
namespace Trokk
open Trace

inductive PollingHook where
  | useHealth | useAgents | useAgent | useMessages
  deriving DecidableEq

-- What one run of the effect closes over.
structure EffectRun where
  active : Bool
  timeout : Option Nat
  deriving DecidableEq

structure Polling where
  mounted : Bool
  runs : Nat → EffectRun
  count : Nat
  current : Option Nat         -- the run whose cleanup is due
  listeners : List Nat         -- the runs that are subscribed
  timers : List (Nat × Nat)    -- the pending ones, with the run each calls back into
  armed : Nat
  requests : List Nat          -- in flight, by the run that made them
  sent : Nat                   -- all requests so far

namespace Polling

def initial : Polling := ⟨false,fun _ => ⟨false,none⟩,0,none,[],[],0,[],0⟩

def setTimeout (s : Polling) (r : Nat) : Polling := {s with
  runs := Function.update s.runs r {s.runs r with timeout := some s.armed}
  timers := s.timers ++ [(s.armed,r)]
  armed := s.armed + 1}

def clearTimeout (s : Polling) (r : Nat) : Polling := match (s.runs r).timeout with
  | none => s
  | some t => {s with timers := s.timers.filter (·.1 ≠ t)}

def schedule (s : Polling) (r : Nat) : Polling := if (s.runs r).active then s.setTimeout r else s
def fetch (s : Polling) (r : Nat) : Polling := {s with requests := s.requests ++ [r],sent := s.sent + 1}
def subscribe (s : Polling) (r : Nat) : Polling := {s with listeners := s.listeners ++ [r]}

def enter (s : Polling) : Polling := {s with
  runs := Function.update s.runs s.count ⟨true,none⟩
  count := s.count + 1
  current := some s.count}

def useHealth (s : Polling) : Polling := (s.enter.subscribe s.count).fetch s.count
def useAgents (s : Polling) : Polling := ((s.enter.subscribe s.count).fetch s.count).schedule s.count
def useAgent (s : Polling) (id : String) : Polling := if id = "" then s else s.useAgents
def useMessages (s : Polling) : Polling := ((s.enter.fetch s.count).subscribe s.count).schedule s.count

def effect (hook : PollingHook) (id : String) (s : Polling) : Polling := match hook with
  | .useHealth => s.useHealth
  | .useAgents => s.useAgents
  | .useAgent => s.useAgent id
  | .useMessages => s.useMessages

-- The callbacks of the timer, of the subscription and of the request.
def fired (hook : PollingHook) (s : Polling) (r : Nat) : Polling := match hook with
  | .useHealth => s.fetch r
  | _ => (s.fetch r).schedule r

def notified (hook : PollingHook) (s : Polling) (r : Nat) : Polling := match hook with
  | .useHealth => (s.clearTimeout r).schedule r
  | _ => s.schedule r

def settled (hook : PollingHook) (s : Polling) (r : Nat) : Polling := match hook with
  | .useHealth => if (s.runs r).active then s.schedule r else s
  | _ => s

def deactivate (s : Polling) (r : Nat) : Polling := {s with runs := Function.update s.runs r {s.runs r with active := false}}
def unsubscribe (s : Polling) (r : Nat) : Polling := {s with listeners := s.listeners.erase r}

def cleanup (s : Polling) : Polling := match s.current with
  | none => s
  | some r => {((s.deactivate r).clearTimeout r).unsubscribe r with current := none}

end Polling

-- A change of the id runs the effects that depend on it again.
inductive PollingEvent where
  | mount (id : String)
  | change (id : String)
  | fire (timer : Nat)
  | settle (run : Nat)
  | setPollingInterval
  | unmount
  deriving DecidableEq

def react (hook : PollingHook) (s : Polling) : PollingEvent → Option Polling
  | .mount id => if s.mounted then none else some (Polling.effect hook id {s with mounted := true})
  | .change id => if s.mounted && (hook = .useAgent || hook = .useMessages) then some (s.cleanup.effect hook id) else none
  | .fire timer => (s.timers.find? (·.1 = timer)).map fun pending =>
    Polling.fired hook {s with timers := s.timers.filter (·.1 ≠ timer)} pending.2
  | .settle run => if run ∈ s.requests then some (Polling.settled hook {s with requests := s.requests.erase run} run) else none
  | .setPollingInterval => some (s.listeners.foldl (Polling.notified hook) s)
  | .unmount => if s.mounted then some {s.cleanup with mounted := false} else none

-- One step: one timer at most while mounted, no request after unmounting.
def OneTimer (s : Polling) (e : PollingEvent) (s' : Polling) : Prop :=
  (s'.mounted = true → s'.timers.length ≤ 1) ∧ (s.mounted = false → (∀ id, e ≠ .mount id) → s'.sent = s.sent)

-- The intervals change while nothing is subscribed; an answer to the mounted useHealth
-- finds no timer pending.
structure Undisturbed (hook : PollingHook) (s : Polling) (e : PollingEvent) : Prop where
  interval : hook ≠ .useHealth → e = .setPollingInterval → s.listeners = []
  answer : hook = .useHealth → ∀ run, e = .settle run → (s.runs run).active = true → s.timers = []

-- No run of the effect is alive,
structure Asleep (s : Polling) : Prop where
  current : s.current = none
  runs : ∀ r, (s.runs r).active = false
  listeners : s.listeners = []
  timers : s.timers = []

-- or one is, and the pending timer is the one it would clear.
structure Live (hook : PollingHook) (r : Nat) (s : Polling) : Prop where
  mounted : s.mounted = true
  current : s.current = some r
  active : (s.runs r).active = true
  others : ∀ other, other ≠ r → (s.runs other).active = false
  listeners : s.listeners = [r]
  timers : (s.timers = [] ∧ hook = .useHealth) ∨ ∃ t, s.timers = [(t,r)] ∧ (s.runs r).timeout = some t

variable {hook : PollingHook} {s s' : Polling} {r : Nat}

theorem schedule_live (mounted : s.mounted = true) (current : s.current = some r) (active : (s.runs r).active = true)
    (others : ∀ other, other ≠ r → (s.runs other).active = false) (listeners : s.listeners = [r]) (none' : s.timers = []) :
    Live hook r (s.schedule r) := by
  rw [Polling.schedule,if_pos active]
  refine ⟨mounted,current,?_,fun other apart => ?_,listeners,.inr ⟨s.armed,?_,?_⟩⟩
  · simp [Polling.setTimeout,active]
  · simp [Polling.setTimeout,apart,others other apart]
  · simp [Polling.setTimeout,none']
  · simp [Polling.setTimeout]

theorem effect_live (quiet : Asleep s) (mounted : s.mounted = true) (id : String) :
    Asleep (s.effect hook id) ∨ Live hook s.count (s.effect hook id) := by
  have active : ((s.enter.runs) s.count).active = true := by simp [Polling.enter]
  have others (other : Nat) (apart : other ≠ s.count) : (s.enter.runs other).active = false := by
    simp [Polling.enter,apart,quiet.runs other]
  have listeners : s.listeners ++ [s.count] = [s.count] := by rw [quiet.listeners,List.nil_append]
  have agents : Live hook s.count s.useAgents := schedule_live mounted rfl active others listeners quiet.timers
  cases hook with
  | useHealth => exact .inr ⟨mounted,rfl,active,others,listeners,.inl ⟨quiet.timers,rfl⟩⟩
  | useAgents => exact .inr agents
  | useAgent =>
    change Asleep (s.useAgent id) ∨ Live _ _ (s.useAgent id)
    rw [Polling.useAgent]
    split
    · exact .inl quiet
    · exact .inr agents
  | useMessages => exact .inr (schedule_live mounted rfl active others listeners quiet.timers)

theorem clear_timers (timers : (s.timers = [] ∧ hook = .useHealth) ∨ ∃ t, s.timers = [(t,r)] ∧ (s.runs r).timeout = some t) :
    (s.clearTimeout r).timers = [] := by
  unfold Polling.clearTimeout
  rcases timers with ⟨none',-⟩ | ⟨t,one,handle⟩
  · split
    · exact none'
    · rw [none']
      rfl
  · rw [handle,one]
    simp

-- clearTimeout takes timers away and nothing else.
theorem clearTimeout_rest (s : Polling) (r : Nat) : ∃ timers, s.clearTimeout r = {s with timers := timers} := by
  unfold Polling.clearTimeout
  split
  · exact ⟨s.timers,rfl⟩
  · exact ⟨_,rfl⟩

theorem cleanup_quiet (live : Live hook r s) : Asleep s.cleanup ∧ s.cleanup.mounted = true ∧ s.cleanup.sent = s.sent := by
  have cleared := @clear_timers hook (s.deactivate r) r
    (live.timers.imp_right fun ⟨t,one,handle⟩ => ⟨t,one,by simpa [Polling.deactivate] using handle⟩)
  obtain ⟨timers,rest⟩ := clearTimeout_rest (s.deactivate r) r
  have cleaned : s.cleanup = {((s.deactivate r).clearTimeout r).unsubscribe r with current := none} := by
    unfold Polling.cleanup
    split
    · rename_i absent
      cases absent.symm.trans live.current
    · rename_i own found
      cases found.symm.trans live.current
      rfl
  rw [rest] at cleared cleaned
  rw [cleaned]
  refine ⟨⟨rfl,fun other => ?_,?_,cleared⟩,live.mounted,rfl⟩
  · by_cases own : other = r
    · simp [Polling.unsubscribe,Polling.deactivate,own]
    · simp [Polling.unsubscribe,Polling.deactivate,own,live.others other own]
  · simp [Polling.unsubscribe,Polling.deactivate,live.listeners]

theorem quiet_cleanup (quiet : Asleep s) : s.cleanup = s := by
  unfold Polling.cleanup
  rw [quiet.current]

theorem short_timers (live : Live hook r s) : s.timers.length ≤ 1 := by
  rcases live.timers with ⟨none',-⟩ | ⟨t,one,-⟩
  · simp [none']
  · simp [one]

-- What holds of the hook between two events.
def Single (hook : PollingHook) (s : Polling) : Prop := Asleep s ∨ ∃ r, Live hook r s

theorem single_short (single : Single hook s) : s.timers.length ≤ 1 := by
  rcases single with quiet | ⟨r,live⟩
  · simp [quiet.timers]
  · exact short_timers live

theorem unmounted_quiet (single : Single hook s) (unmounted : s.mounted = false) : Asleep s := by
  rcases single with quiet | ⟨r,live⟩
  · exact quiet
  · cases unmounted.symm.trans live.mounted

theorem effect_single (quiet : Asleep s) (mounted : s.mounted = true) (id : String) : Single hook (s.effect hook id) :=
  (effect_live quiet mounted id).imp_right fun live => ⟨_,live⟩

-- Firing takes the one pending timer, and all but useHealth arm the next at once.
theorem fired_single (single : Single hook s) (pending : s.timers.find? (·.1 = timer) = some (t,r)) : s.mounted = true ∧
    Single hook (Polling.fired hook {s with timers := s.timers.filter (·.1 ≠ timer)} r) := by
  have isTimer : t = timer := by simpa using List.find?_some pending
  have member := List.mem_of_find?_eq_some pending
  rcases single with quiet | ⟨own,live⟩
  · rw [quiet.timers] at member
    cases member
  · rcases live.timers with ⟨none',-⟩ | ⟨t',one,-⟩
    · rw [none'] at member
      cases member
    · rw [one,List.mem_singleton] at member
      cases member
      have gone : s.timers.filter (·.1 ≠ timer) = [] := by
        rw [one]
        simp [isTimer]
      refine ⟨live.mounted,.inr ⟨r,?_⟩⟩
      have scheduled : Live hook r (Polling.schedule (Polling.fetch {s with timers := s.timers.filter (·.1 ≠ timer)} r) r) :=
        schedule_live live.mounted live.current live.active live.others live.listeners gone
      cases hook with
      | useHealth => exact ⟨live.mounted,live.current,live.active,live.others,live.listeners,.inl ⟨gone,rfl⟩⟩
      | _ => exact scheduled

-- A second timer is armed beside the pending one.
theorem schedule_twice (mounted : s.mounted = true) (active : (s.runs r).active = true) (one : s.timers = [(t,r)]) :
    ¬ OneTimer s₀ e (s.schedule r) := by
  rw [Polling.schedule,if_pos active]
  intro single
  have short := single.1 mounted
  simp [Polling.setTimeout,one] at short

theorem react_harmless (single : Single hook s') (sent : s.mounted = false → (∀ id, e ≠ .mount id) → s'.sent = s.sent)
    (calm : Undisturbed hook s e) : (OneTimer s e s' ↔ Undisturbed hook s e) ∧ (Undisturbed hook s e → Single hook s') :=
  ⟨iff_of_true ⟨fun _ => single_short single,sent⟩ calm,fun _ => single⟩

theorem interval_once (single : Single hook s) : (OneTimer s .setPollingInterval (s.listeners.foldl (Polling.notified hook) s) ↔
      Undisturbed hook s .setPollingInterval) ∧
    (Undisturbed hook s .setPollingInterval → Single hook (s.listeners.foldl (Polling.notified hook) s)) := by
  rcases single with quiet | ⟨r,live⟩
  · rw [quiet.listeners]
    exact react_harmless (.inl quiet) (fun _ _ => rfl) ⟨fun _ _ => quiet.listeners,fun _ _ => nofun⟩
  · rw [live.listeners]
    change (OneTimer s _ (Polling.notified hook s r) ↔ _) ∧ (_ → Single hook (Polling.notified hook s r))
    by_cases health : hook = .useHealth
    · subst health
      have cleared := clear_timers live.timers
      obtain ⟨timers,rest⟩ := clearTimeout_rest s r
      have single : Single .useHealth ((s.clearTimeout r).schedule r) := by
        rw [rest] at cleared ⊢
        exact .inr ⟨r,schedule_live live.mounted live.current live.active live.others live.listeners cleared⟩
      refine react_harmless single (fun unmounted => ?_) ⟨fun other => absurd rfl other,fun _ _ => nofun⟩
      cases unmounted.symm.trans live.mounted
    · have schedules : Polling.notified hook s r = s.schedule r := by
        cases hook <;> first | rfl | exact absurd rfl health
      rcases live.timers with ⟨-,isHealth⟩ | ⟨t,one,-⟩
      · exact absurd isHealth health
      · have disturbed : ¬ Undisturbed hook s .setPollingInterval := by
          intro calm
          have alone := calm.interval health rfl
          rw [live.listeners] at alone
          cases alone
        rw [schedules]
        exact ⟨iff_of_false (schedule_twice live.mounted live.active one) disturbed,fun calm => absurd calm disturbed⟩

theorem requests_single (single : Single hook s) (requests : List Nat) : Single hook {s with requests := requests} := by
  rcases single with quiet | ⟨r,live⟩
  · exact .inl ⟨quiet.current,quiet.runs,quiet.listeners,quiet.timers⟩
  · exact .inr ⟨r,live.mounted,live.current,live.active,live.others,live.listeners,live.timers⟩

theorem settle_once (single : Single hook s) (requests : List Nat) (run : Nat) :
    (OneTimer s (.settle run) (Polling.settled hook {s with requests := requests} run) ↔ Undisturbed hook s (.settle run)) ∧
    (Undisturbed hook s (.settle run) → Single hook (Polling.settled hook {s with requests := requests} run)) := by
  have still := requests_single single requests
  by_cases health : hook = .useHealth
  · subst health
    change (OneTimer s _ (if (s.runs run).active then _ else _) ↔ _) ∧ (_ → Single _ (if (s.runs run).active then _ else _))
    cases active : (s.runs run).active with
    | false =>
      have calm : Undisturbed .useHealth s (.settle run) := by
        refine ⟨fun other => absurd rfl other,fun _ r same alive => ?_⟩
        cases same
        cases active.symm.trans alive
      exact react_harmless still (fun _ _ => rfl) calm
    | true =>
      rcases single with quiet | ⟨r,live⟩
      · cases active.symm.trans (quiet.runs run)
      · have own : run = r := by
          by_contra apart
          cases active.symm.trans (live.others run apart)
        subst own
        rcases live.timers with ⟨none',-⟩ | ⟨t,one,-⟩
        · have scheduled : Live .useHealth run (Polling.schedule {s with requests := requests} run) :=
            schedule_live live.mounted live.current live.active live.others live.listeners none'
          refine react_harmless (.inr ⟨run,scheduled⟩) (fun unmounted => ?_) ⟨fun other => absurd rfl other,fun _ _ _ _ => none'⟩
          cases unmounted.symm.trans live.mounted
        · have disturbed : ¬ Undisturbed .useHealth s (.settle run) := by
            intro calm
            cases one.symm.trans (calm.answer rfl run rfl active)
          refine ⟨iff_of_false (schedule_twice ?_ ?_ one) disturbed,fun calm => absurd calm disturbed⟩
          · exact live.mounted
          · exact active
  · have untouched : Polling.settled hook {s with requests := requests} run = {s with requests := requests} := by
      cases hook <;> first | rfl | exact absurd rfl health
    rw [untouched]
    exact react_harmless still (fun _ _ => rfl) ⟨fun _ => nofun,fun isHealth => absurd isHealth health⟩

theorem react_once (single : Single hook s) (taken : react hook s e = some s') :
    (OneTimer s e s' ↔ Undisturbed hook s e) ∧ (Undisturbed hook s e → Single hook s') := by
  cases e with
  | mount id =>
    dsimp only [react] at taken
    split at taken
    · cases taken
    · rename_i unmounted
      cases taken
      have quiet := unmounted_quiet single (by simpa using unmounted)
      have entered : Asleep {s with mounted := true} := ⟨quiet.current,quiet.runs,quiet.listeners,quiet.timers⟩
      exact react_harmless (effect_single entered rfl id) (fun _ other => absurd rfl (other id)) ⟨fun _ => nofun,fun _ _ => nofun⟩
  | change id =>
    dsimp only [react] at taken
    split at taken
    · rename_i allowed
      cases taken
      have mounted : s.mounted = true := (Bool.and_eq_true_iff.mp allowed).1
      have cleaned : Asleep s.cleanup ∧ s.cleanup.mounted = true := by
        rcases single with quiet | ⟨r,live⟩
        · rw [quiet_cleanup quiet]
          exact ⟨quiet,mounted⟩
        · exact ⟨(cleanup_quiet live).1,(cleanup_quiet live).2.1⟩
      refine react_harmless (effect_single cleaned.1 cleaned.2 id) (fun unmounted => ?_) ⟨fun _ => nofun,fun _ _ => nofun⟩
      cases unmounted.symm.trans mounted
    · cases taken
  | fire timer =>
    obtain ⟨⟨t,r⟩,pending,rfl⟩ := Option.map_eq_some_iff.mp taken
    obtain ⟨mounted,fired⟩ := fired_single single pending
    refine react_harmless fired (fun unmounted => ?_) ⟨fun _ => nofun,fun _ _ => nofun⟩
    cases unmounted.symm.trans mounted
  | settle run =>
    dsimp only [react] at taken
    split at taken
    · cases taken
      exact settle_once single _ run
    · cases taken
  | setPollingInterval =>
    cases taken
    exact interval_once single
  | unmount =>
    dsimp only [react] at taken
    split at taken
    · rename_i mounted
      cases taken
      have calm : Undisturbed hook s .unmount := ⟨fun _ => nofun,fun _ _ => nofun⟩
      have quiet : Asleep s.cleanup := by
        rcases single with quiet | ⟨r,live⟩
        · rw [quiet_cleanup quiet]
          exact quiet
        · exact (cleanup_quiet live).1
      refine react_harmless (.inl ⟨quiet.current,quiet.runs,quiet.listeners,quiet.timers⟩) (fun unmounted => ?_) calm
      cases unmounted.symm.trans mounted
    · cases taken

theorem polling_one_timer (hook : PollingHook) (events : List PollingEvent) :
    Along (react hook) OneTimer .initial events ↔ Along (react hook) (fun s e _ => Undisturbed hook s e) .initial events :=
  along_iff (fun _ _ _ => react_once) (.inl ⟨rfl,fun _ => rfl,rfl,rfl⟩) events

def pollOutcome (hook : PollingHook) (events : List PollingEvent) : Option (Bool × Nat × Nat) :=
  (run (react hook) .initial events).map fun s => (s.mounted,s.timers.length,s.sent)

-- Mounted with two timers; the one that is not cleared requests after unmounting.
theorem leaked_timer_requests :
    (∀ hook ∈ [PollingHook.useAgents,.useAgent,.useMessages], pollOutcome hook [.mount "7",.setPollingInterval] = some (true,2,1) ∧
      pollOutcome hook [.mount "7",.setPollingInterval,.unmount] = some (false,1,1) ∧
      pollOutcome hook [.mount "7",.setPollingInterval,.unmount,.fire 0] = some (false,0,2)) ∧
    pollOutcome .useHealth [.mount "7",.setPollingInterval,.settle 0] = some (true,2,1) ∧
    pollOutcome .useHealth [.mount "7",.setPollingInterval,.settle 0,.unmount] = some (false,1,1) ∧
    pollOutcome .useHealth [.mount "7",.setPollingInterval,.settle 0,.unmount,.fire 0] = some (false,0,2) := by
  decide

end Trokk
