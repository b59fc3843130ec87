import Trokk.Specialists
import Trokk.TaskDrain

-- What becomes of a claimed task under the classes of runtime/agents. Building one
-- raises outside the try of _handle_agent_tick; the hops after it fail as well.
namespace Trokk
open Program

theorem init_raises (cfg : Config) (cls : SpecialistClass) : BaseAgent.init cfg cls = .error (.nameError "LLMClient") := rfl

-- With an agent of every class, the graph would stop at its second node,
theorem research_raises (self : BaseAgent) (noMesh : "mesh" ∉ self.attributes) (state : AgentState) :
    self.askModel state = .done {state with error := (PyError.attributeError self.cls.pyName "mesh").text} := by
  have missing : self.attribute "mesh" = .error (.attributeError self.cls.pyName "mesh") := by
    simp [BaseAgent.attribute,noMesh]
  have loads : loadGlobal "LLMMessage" = .ok () := rfl
  simp only [BaseAgent.askModel,loads,missing]
  rfl

-- and with a reply of the model the post would be turned away: the shared key is
-- the admin's, and POST /messages asks for an agent's.
theorem admin_may_not_post (adminKey : String) (body : Option Json) :
    serve adminKey ⟨"Bearer " ++ adminKey,.createMessage body⟩ = .done ⟨403,.error "agent_key_required"⟩ := by
  unfold serve
  rw [authenticate_bearer,if_pos rfl]
  rfl

theorem post_forbidden (adminKey : String) (body : Option Json) :
    (post adminKey ⟨"Bearer " ++ adminKey,.createMessage body⟩).Yields fun result => ∃ raised,
      (result >>= raise_for_status >>= receivedId) = .error raised := by
  intro sent
  cases sent with
  | error => exact ⟨_,rfl⟩
  | ok =>
    simp only [admin_may_not_post]
    intro received
    cases received <;> exact ⟨_,rfl⟩

theorem publish_fails (self : BaseAgent) (shared : self.cfg.adminApiKey = adminKey) (state : AgentState) :
    (self.publish adminKey state).Yields fun state => state.error ≠ "" := by
  unfold BaseAgent.publish
  split
  · rename_i failed
    exact failed
  · unfold publishRequest
    rw [shared]
    refine Yields.bind (post_forbidden adminKey _) fun result refused => ?_
    obtain ⟨raised,refused⟩ := refused
    rw [refused]
    intro empty
    have lengths := congrArg String.length empty
    rw [String.length_append] at lengths
    exact absurd (Nat.add_eq_zero_iff.mp lengths).1 (by decide)

theorem run_fails (self : BaseAgent) (shared : self.cfg.adminApiKey = adminKey) (taskId investigationId : Uuid)
    (taskPrompt : String) :
    (self.run adminKey taskId investigationId taskPrompt).Yields fun result => ∃ state, result = .ok state ∧ state.error ≠ "" :=
  Yields.bind (yields_true _) fun state _ => Yields.bind (publish_fails self shared state) fun state failed => ⟨state,rfl,failed⟩

theorem agentFor_raises (raises : cls.create = .error raised) (key : String) :
    (agentFor key cls).Ensures exec Healthy (fun result agents db' _ => result = .error raised ∧ agents = [] ∧ db' = db)
      [] db l := by
  unfold agentFor Method.Ensures
  simp only [Method.bind_def,Method.attributes,done_bind,List.lookup_nil,raises]
  exact ⟨rfl,rfl,rfl⟩

-- A tick when no class can be built: the first task that it would work on is
-- claimed, and stays so.
inductive Stopped (db : Database) (agent : Uuid) (raised : PyError) (types : List String) :
    Except PyError Unit → Database → Prop where
  | idle : (∀ type ∈ types, oldestPending db agent (some type) = none) → Stopped db agent raised types (.ok ()) db
  | claimed : type ∈ types → oldestPending db agent (some type) = some t →
      Stopped db agent raised types (.error raised) (db.editTask t.id fun t => {t with status := .running})

theorem Stopped.cons (nothing : oldestPending db agent (some type) = none) (stopped : Stopped db agent raised types result db') :
    Stopped db agent raised (type :: types) result db' := by
  cases stopped with
  | idle nothings =>
    apply Stopped.idle
    intro other present
    cases List.mem_cons.mp present with
    | inl same => rwa [same]
    | inr later => exact nothings other later
  | claimed later found => exact .claimed (List.mem_cons_of_mem _ later) found

theorem workType_raises (raises : cls.create = .error raised) (agent : Uuid) (type : String) :
    (workType agent type cls).Ensures exec Healthy
      (fun result agents db' _ => agents = [] ∧ Stopped db agent raised [type] result db') [] db l := by
  apply Method.Returns.bind (get_pending_task_row_claims agent type)
  intro found agents' db' l' holds
  obtain ⟨rfl,claim⟩ := holds
  cases claim with
  | nothing none' =>
    refine ⟨rfl,.idle fun other present => ?_⟩
    rwa [List.mem_singleton.mp present]
  | claimed found =>
    apply Method.Ensures.bind (agentFor_raises raises _)
    · intro specialist agents db' l' built
      cases built.1
    · intro e agents db' l' built
      obtain ⟨same,rfl,rfl⟩ := built
      cases same
      exact ⟨rfl,.claimed (List.mem_singleton_self type) found⟩

theorem handle_agent_tick_raises (registry : List (String × AgentClass)) (agent : Uuid)
    (raises : ∀ entry ∈ registry, entry.2.create = .error raised) :
    (handle_agent_tick agent registry).Ensures exec Healthy
      (fun result agents db' _ => agents = [] ∧ Stopped db agent raised (registry.map Prod.fst) result db') [] db l := by
  induction registry generalizing l with
  | nil => exact ⟨rfl,.idle nofun⟩
  | cons entry rest ih =>
    apply Method.Ensures.bind (workType_raises (raises entry List.mem_cons_self) agent entry.1)
    · intro _ agents db' l' worked
      obtain ⟨rfl,stopped⟩ := worked
      cases stopped with
      | idle nothing =>
        apply Method.Ensures.imp (ih fun later present => raises later (List.mem_cons_of_mem _ present))
        intro result agents db'' l'' worked
        exact ⟨worked.1,worked.2.cons (nothing _ List.mem_cons_self)⟩
    · intro e agents db' l' worked
      obtain ⟨rfl,stopped⟩ := worked
      cases stopped with
      | claimed type found =>
        rw [List.mem_singleton.mp type] at found
        exact ⟨rfl,.claimed List.mem_cons_self found⟩

-- The task ended with a finding, and the finding is stored.
def Published (db : Database) (task : Uuid) (output : String) : Prop :=
  ∃ t ∈ db.investigationTasks, t.id = task ∧ t.status = .complete ∧ ∃ f, t.result = some (findingResult (some f)) ∧
    ∃ m ∈ db.messages, m.id = f ∧ m.content = output

-- The tick claims one task if a task waits, raises, and completes none.
theorem claimed_task_unfinished (valid : db.Valid) (adminKey : String) (cfg : Config) (agent : Uuid) (l : Session) :
    (handle_agent_tick agent (AGENT_REGISTRY (SpecialistClass.agentClass adminKey cfg))).Ensures exec Healthy
      (fun result agents db' _ => agents = [] ∧
        (∀ t ∈ db.investigationTasks, t.status = .pending → ∀ output, ¬ Published db' t.id output) ∧
        ((∃ t ∈ db.investigationTasks, t.agentId = agent ∧ t.status = .pending ∧
            t.taskType ∈ (AGENT_REGISTRY (SpecialistClass.agentClass adminKey cfg)).map Prod.fst) →
          result = .error (.nameError "LLMClient") ∧ ∃ t ∈ db.investigationTasks, t.agentId = agent ∧ t.status = .pending ∧
            {t with status := .running} ∈ db'.investigationTasks)) [] db l := by
  have raises : ∀ entry ∈ AGENT_REGISTRY (SpecialistClass.agentClass adminKey cfg),
      entry.2.create = .error (.nameError "LLMClient") := by
    simp [AGENT_REGISTRY,SpecialistClass.agentClass,init_raises,Except.map]
  -- what is pending now is not complete with a finding yet
  have waits (t : TaskRow) (present : t ∈ db.investigationTasks) (pending : t.status = .pending) (output : String) :
      ¬ Published db t.id output := by
    intro published
    obtain ⟨u,there,id,complete,-⟩ := published
    rw [List.inj_on_of_nodup_map valid.taskIds there present id,pending] at complete
    cases complete
  apply Method.Ensures.imp (handle_agent_tick_raises _ agent raises)
  intro result agents db' l' worked
  obtain ⟨rfl,stopped⟩ := worked
  cases stopped with
  | idle nothing =>
    refine ⟨rfl,waits,fun waiting => ?_⟩
    obtain ⟨t,present,own,pending,registered⟩ := waiting
    exact absurd rfl (oldestPending_none (nothing _ registered) present own pending)
  | @claimed _ claimed _ found =>
    obtain ⟨there,own,pending,-⟩ := oldestPending_some found
    refine ⟨rfl,?_,fun _ => ⟨rfl,claimed,there,own,pending,List.mem_map.mpr ⟨claimed,there,if_pos rfl⟩⟩⟩
    intro t present pending output published
    obtain ⟨u,after,id,complete,stored⟩ := published
    obtain ⟨v,before,rfl⟩ := List.mem_map.mp after
    by_cases same : v.id = claimed.id
    · rw [if_pos same] at complete
      cases complete
    · rw [if_neg same] at id complete stored
      exact waits t present pending output ⟨v,before,id,complete,stored⟩

theorem Database.asked_valid : Database.asked.Valid := by
  constructor
  case parents => simp [Database.asked]
  case signalAgents => simp [Database.asked]
  all_goals decide

def realRegistry : List (String × AgentClass) := AGENT_REGISTRY (SpecialistClass.agentClass "rp_admin" ⟨"rp_admin"⟩)

def ticked : Option ((Except PyError Unit × Agents) × Database × Session) :=
  (handle_agent_tick 1 realRegistry []).play exec [.sample] .asked .fresh

theorem claimed_task_unfinished_sample : ∃ result agents db l, ticked = some ((result,agents),db,l) ∧
    result = .error (.nameError "LLMClient") ∧ ∀ output, ¬ Published db 51 output := by
  have unfinished := claimed_task_unfinished Database.asked_valid "rp_admin" ⟨"rp_admin"⟩ 1 .fresh
  refine ⟨_,_,_,_,rfl,rfl,?_⟩
  have healthy : ∀ c ∈ [Choice.sample], Healthy c := by simp [Healthy,Choice.sample]
  exact (Program.Ensures.played unfinished healthy rfl).2.1 _ (List.mem_singleton_self _) rfl

theorem research_task_left_running : ¬ ∀ result agents db l, ticked = some ((result,agents),db,l) →
    ∃ output, Published db 51 output := by
  intro published
  obtain ⟨output,t,present,-,complete,-⟩ := published _ _ _ _ rfl
  rw [List.mem_singleton.mp present] at complete
  cases complete

end Trokk
