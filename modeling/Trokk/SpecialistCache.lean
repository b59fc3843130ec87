import Trokk.CursorText
import Trokk.InterruptedTicks
import Trokk.Library.Alike
import Trokk.StrandedTasks
import Trokk.TickRules

-- self.agents keeps the specialists that were built. What is kept is what would be
-- built again, so that nothing but the building is saved.
namespace Trokk
open Program

-- What self.agents can hold.
def Cached (registry : List (String × AgentClass)) (agents : Agents) : Prop := ∀ name agent, agents.lookup name = some agent →
  ∃ entry ∈ registry, ∃ agent_id, name = agentKey agent_id entry.1 ∧ entry.2.create = .ok agent

theorem text_length (id : Uuid) : id.text.length = 36 := by
  have hex := Uuid.hexadecimal_length 32 id.val
  simp [Uuid.text,hex]

-- The id has one length, so that the two parts of a key can be told apart.
theorem agentKey_type {one two : Uuid} (same : agentKey one type = agentKey two type') : type = type' := by
  have lists := congrArg String.toList same
  simp only [agentKey,String.toList_append,List.append_assoc] at lists
  have ends : ("-".toList ++ (String.ofList one.text).toList).length = ("-".toList ++ (String.ofList two.text).toList).length := by
    simp only [List.length_append,String.toList_ofList,text_length]
  exact String.toList_inj.mp (List.append_inj_left' lists ends)

variable {registry : List (String × AgentClass)} {agents : Agents} {entry : String × AgentClass}

theorem cached_nil (registry : List (String × AgentClass)) : Cached registry [] := by
  intro name agent found
  rw [List.lookup_nil] at found
  cases found

-- The specialist comes out as its class builds it, whether it was kept or not.
theorem agentFor_made (distinct : (registry.map Prod.fst).Nodup) (cached : Cached registry agents) (listed : entry ∈ registry)
    (agent_id : Uuid) : ∃ agents', agentFor (agentKey agent_id entry.1) entry.2 agents = .done (entry.2.create,agents') ∧
      Cached registry agents' := by
  unfold agentFor
  simp only [Method.bind_def,Method.attributes,done_bind]
  cases found : agents.lookup (agentKey agent_id entry.1) with
  | some agent =>
    obtain ⟨other,member,_,same,created⟩ := cached _ _ found
    have itself : other = entry := List.inj_on_of_nodup_map distinct member listed (agentKey_type same).symm
    rw [itself] at created
    exact ⟨agents,by rw [created]; rfl,cached⟩
  | none =>
    cases created : entry.2.create with
    | error raised => exact ⟨agents,rfl,cached⟩
    | ok agent =>
      refine ⟨_,rfl,fun name kept found' => ?_⟩
      rw [List.lookup_cons] at found'
      split at found'
      · rename_i same
        cases found'
        exact ⟨entry,listed,agent_id,eq_of_beq same,created⟩
      · exact cached name kept found'

-- Both end in the same way, and what they keep is what would be built.
def Ends (registry : List (String × AgentClass)) (one two : Except PyError A × Agents) : Prop :=
  one.1 = two.1 ∧ Cached registry one.2 ∧ Cached registry two.2

def Blind (registry : List (String × AgentClass)) (x : Py A) : Prop := ∀ agents agents', Cached registry agents → Cached registry agents' →
  (x agents).Alike (Ends registry) (x agents')

theorem Blind.lift (x : Api (Except PyError A)) : Blind registry (Method.lift x : Py A) := by
  intro agents agents' cached cached'
  refine (Alike.refl (fun _ => rfl) x).bind fun result result' same => .done ⟨same,cached,cached'⟩

theorem Blind.bind {x : Py A} {f : A → Py B} (first : Blind registry x) (then' : ∀ a, Blind registry (f a)) : Blind registry (x >>= f) := by
  intro agents agents' cached cached'
  refine (first agents agents' cached cached').bind fun (result,kept) (result',kept') ends => ?_
  obtain ⟨same,cached,cached'⟩ := ends
  change result = result' at same
  subst same
  cases result with
  | ok a => exact then' a kept kept' cached cached'
  | error e => exact .done ⟨rfl,cached,cached'⟩

theorem Blind.attempt {body : Py Unit} {handler : PyError → Py Unit} (first : Blind registry body)
    (caught : ∀ e, Blind registry (handler e)) : Blind registry (Method.attempt body handler) := by
  intro agents agents' cached cached'
  refine (first agents agents' cached cached').bind fun (result,kept) (result',kept') ends => ?_
  obtain ⟨same,cached,cached'⟩ := ends
  change result = result' at same
  subst same
  cases result with
  | ok a => exact .done ⟨rfl,cached,cached'⟩
  | error e => exact caught e kept kept' cached cached'

theorem blind_rules (registry : List (String × AgentClass)) : TickRules (fun _ => True) fun _ x => Blind registry x where
  pure := fun _ _ _ cached cached' => .done ⟨rfl,cached,cached'⟩
  bind := fun _ _ first then' => first.bind then'
  attempt := fun _ _ first caught => first.attempt caught
  fetch := fun _ _ => Blind.lift _

theorem agentFor_blind (distinct : (registry.map Prod.fst).Nodup) (listed : entry ∈ registry) (agent_id : Uuid) :
    Blind registry (agentFor (agentKey agent_id entry.1) entry.2) := by
  intro agents agents' cached cached'
  obtain ⟨kept,built,still⟩ := agentFor_made distinct cached listed agent_id
  obtain ⟨kept',built',still'⟩ := agentFor_made distinct cached' listed agent_id
  rw [built,built']
  exact .done ⟨rfl,still,still'⟩

theorem workTask_blind (agent : Specialist) (task : TaskRow) : Blind registry (workTask agent task) := by
  have rules := blind_rules registry
  refine rules.attempt _ _ ?_ fun _ => rules.fetch (.failTask _ _) trivial
  refine rules.bind _ _ (Blind.lift _) fun result => ?_
  split
  · exact rules.fetch (.failTask _ _) trivial
  · exact rules.fetch (.completeTask _ _) trivial

theorem handle_agent_tick_blind (distinct : (registry.map Prod.fst).Nodup) (agent_id : Uuid) (entries : List (String × AgentClass))
    (listed : ∀ entry ∈ entries, entry ∈ registry) : Blind registry (handle_agent_tick agent_id entries) := by
  have rules := blind_rules registry
  induction entries with
  | nil => exact rules.pure _
  | cons entry rest ih =>
    refine rules.bind _ _ ?_ fun _ => ih fun other member => listed other (List.mem_cons_of_mem _ member)
    refine rules.bind _ _ (rules.fetch (.pendingTask _ _) trivial) fun found => ?_
    cases found with
    | none => exact rules.pure _
    | some task =>
      exact (agentFor_blind distinct (listed entry List.mem_cons_self) agent_id).bind fun agent => workTask_blind agent task

theorem tick_blind {runtime : Runtime} (distinct : (runtime.registry.map Prod.fst).Nodup) : Blind runtime.registry (tick runtime) :=
  (blind_rules runtime.registry).tick (fun _ _ => trivial) (fun _ _ _ => Blind.lift _) fun agent_id =>
    handle_agent_tick_blind distinct agent_id runtime.registry fun _ listed => listed

-- The loop of Orchestrator.start for some rounds, with what each of them came to; and
-- the same with a process that is started anew for every round.
def rounds (runtime : Runtime) : Nat → Agents → Api (List (Except PyError Unit))
  | 0,_ => .done []
  | n+1,agents => tick runtime agents >>= fun (result,agents) => rounds runtime n agents >>= fun later => .done (result :: later)

def restarts (runtime : Runtime) : Nat → Api (List (Except PyError Unit))
  | 0 => .done []
  | n+1 => tick runtime [] >>= fun (result,_) => restarts runtime n >>= fun later => .done (result :: later)

theorem rounds_alike {runtime : Runtime} (distinct : (runtime.registry.map Prod.fst).Nodup) (n : Nat)
    (cached : Cached runtime.registry agents) : (rounds runtime n agents).Alike Eq (restarts runtime n) := by
  induction n generalizing agents with
  | zero => exact .done rfl
  | succ n ih =>
    refine (tick_blind distinct agents [] cached (cached_nil _)).bind fun (result,kept) (result',_) ends => ?_
    obtain ⟨same,still,-⟩ := ends
    refine (ih still).bind fun later later' alike => .done ?_
    change result = result' at same
    rw [same,alike]

-- Keeping the specialists between ticks cannot be told from building them anew: the
-- same statements, the same answers asked for, the same outcome of every round.
theorem cache_unobservable (runtime : Runtime) (distinct : (runtime.registry.map Prod.fst).Nodup) :
    (∀ agents, Cached runtime.registry agents → ticking runtime agents = ticking runtime []) ∧
      ∀ n, rounds runtime n [] = restarts runtime n := by
  refine ⟨fun agents cached => ?_,fun n => (rounds_alike distinct n (cached_nil _)).equal⟩
  refine Alike.equal ((tick_blind distinct agents [] cached (cached_nil _)).bind fun (result,kept) (result',_) ends => ?_)
  obtain ⟨same,-,-⟩ := ends
  change result = result' at same
  subst same
  exact Alike.refl (fun _ => rfl) _

-- A process that has built a specialist, and a new one.
theorem cache_unobservable_chatting : ticking .chatting [("news-" ++ String.ofList (Uuid.text 1),chatting)] = ticking .chatting [] ∧
    rounds .chatting 3 [] = restarts .chatting 3 := by
  obtain ⟨kept,looped⟩ := cache_unobservable .chatting (registry_distinct fun _ => ⟨.ok chatting⟩)
  refine ⟨kept _ fun name agent found => ⟨("news",⟨.ok chatting⟩),by simp [Runtime.chatting,AGENT_REGISTRY],(1 : Uuid),?_⟩,looped 3⟩
  rw [List.lookup_cons] at found
  split at found
  · rename_i same
    cases found
    exact ⟨eq_of_beq same,rfl⟩
  · cases found

end Trokk
