import Trokk.Bearers
import Trokk.CursorText
import Trokk.Library.Guarded
import Trokk.TaskRecords

-- An agent that nobody ticks: its tasks wait, whatever else goes on.
namespace Trokk
open Program Evolution Method

structure TaskRow.Rests (agent : Uuid) (t u : TaskRow) : Prop where
  id : u.id = t.id
  agentId : u.agentId = t.agentId
  rests : t.agentId = agent → u = t

theorem TaskRow.Rests.refl (t : TaskRow) : t.Rests agent t := ⟨rfl,rfl,fun _ => rfl⟩
theorem TaskRow.Rests.trans (a b c : TaskRow) (one : a.Rests agent b) (two : b.Rests agent c) : a.Rests agent c where
  id := two.id.trans one.id
  agentId := two.agentId.trans one.agentId
  rests := fun own => (two.rests (one.agentId.trans own)).trans (one.rests own)

-- The rows stay in their places, and the agent's as they are.
def Resting (agent : Uuid) (db db' : Database) : Prop := Evolves (TaskRow.Rests agent) db.investigationTasks db'.investigationTasks

theorem Resting.refl (db : Database) : Resting agent db db := evolves_refl TaskRow.Rests.refl _
theorem Resting.trans (a b c : Database) (one : Resting agent a b) (two : Resting agent b c) : Resting agent a c :=
  Evolves.trans TaskRow.Rests.trans one two

def Unticked (agent : Uuid) (db : Database) : Prop := ∀ s ∈ db.controlSignals, s.signalType = "force_tick" →
  s.agentId = some agent → s.processed = true

structure AtRest (agent : Uuid) (start db : Database) : Prop where
  ids : (db.investigationTasks.map TaskRow.id).Nodup
  unticked : Unticked agent db
  tasks : ∀ t ∈ db.investigationTasks, t.agentId = agent → t ∈ start.investigationTasks ∨ t.status = .pending

-- A transaction whose tasks are new.
structure NewTasks (tx : Transaction) : Prop where
  ids : (tx.tasks.map TaskRow.id).Nodup
  pending : ∀ t ∈ tx.tasks, t.status = .pending

def Session.waits (l : Session) : Prop := ∀ tx ∈ l.tx, NewTasks tx

-- The task is another agent's.
def Elsewhere (agent : Uuid) (target : Uuid) (db : Database) : Prop := ∃ t ∈ db.investigationTasks, t.id = target ∧ t.agentId ≠ agent

def Statement.leaves (agent : Uuid) (db : Database) : Statement → Prop
  | .insertSignal _ target | .pendingTask target _ => target ≠ agent
  | .completeTask target _ | .failTask target _ => Elsewhere agent target db
  | _ => True

variable {db db' start : Database} {l : Session} {agent target : Uuid}

theorem elsewhere_outliving (target : Uuid) : Outliving (Resting agent) (Elsewhere agent target) := by
  intro d d' rests known
  obtain ⟨t,member,same,other⟩ := known
  obtain ⟨u,there,evolved⟩ := rests.mem member
  exact ⟨u,there,evolved.id.trans same,by rw [evolved.agentId]; exact other⟩

theorem editTask_rests (quiet : AtRest agent start db) (elsewhere : Elsewhere agent target db) {edit : TaskRow → TaskRow}
    (keeps : ∀ t, (edit t).id = t.id ∧ (edit t).agentId = t.agentId) :
    AtRest agent start (db.editTask target edit) ∧ Resting agent db (db.editTask target edit) := by
  obtain ⟨own,present,named,other⟩ := elsewhere
  have untouched (t : TaskRow) (member : t ∈ db.investigationTasks) (mine : t.agentId = agent) : t.id ≠ target := by
    intro same
    cases List.inj_on_of_nodup_map quiet.ids member present (same.trans named.symm)
    exact other mine
  refine ⟨⟨?_,quiet.unticked,fun t member mine => ?_⟩,evolves_map fun t member => ?_⟩
  · rw [Database.editTask,edits_kept fun t => (keeps t).1]
    exact quiet.ids
  · obtain ⟨old,there,rfl⟩ := List.mem_map.mp member
    split at mine
    · rename_i same
      exact absurd same (untouched old there ((keeps old).2.symm.trans mine))
    · rename_i apart
      rw [if_neg apart]
      exact quiet.tasks old there mine
  · split
    · rename_i same
      exact ⟨(keeps t).1,(keeps t).2,fun mine => absurd same (untouched t member mine)⟩
    · exact .refl t

theorem effect_leaves (effect : Effect c db l s db') (leaves : s.leaves agent db) (quiet : AtRest agent start db) (waits : l.waits) :
    AtRest agent start db' ∧ Resting agent db db' := by
  cases effect with
  | insertSignal =>
    refine ⟨⟨quiet.ids,fun s member type named => ?_,quiet.tasks⟩,Resting.refl db⟩
    cases List.mem_append.mp member with
    | inl old => exact quiet.unticked s old type named
    | inr added =>
      rw [List.mem_singleton.mp added] at named
      exact absurd (Option.some.inj named) leaves
  | commit opened _ fresh =>
    have drafted := waits _ opened
    refine ⟨⟨nodup_append quiet.ids drafted.ids fresh,quiet.unticked,fun t member mine => ?_⟩,evolves_append TaskRow.Rests.refl _ _⟩
    cases List.mem_append.mp member with
    | inl old => exact quiet.tasks t old mine
    | inr added => exact .inr (drafted.pending t added)
  | markProcessed =>
    refine ⟨⟨quiet.ids,fun s member type named => ?_,quiet.tasks⟩,Resting.refl db⟩
    obtain ⟨old,there,rfl⟩ := List.mem_map.mp member
    split
    · rfl
    · rename_i apart
      rw [if_neg apart] at type named
      exact quiet.unticked old there type named
  | pendingTask found =>
    obtain ⟨there,own,-⟩ := oldestPending_mem found
    refine editTask_rests quiet ⟨_,there,rfl,?_⟩ fun _ => ⟨rfl,rfl⟩
    rw [own]
    exact leaves
  | completeTask => exact editTask_rests quiet leaves fun _ => ⟨rfl,rfl⟩
  | failTask => exact editTask_rests quiet leaves fun _ => ⟨rfl,rfl⟩
  | toggle =>
    rw [toggled_eq]
    exact ⟨⟨quiet.ids,quiet.unticked,quiet.tasks⟩,Resting.refl db⟩
  | _ => exact ⟨⟨quiet.ids,quiet.unticked,quiet.tasks⟩,Resting.refl db⟩

theorem waits_drafting : Drafting NewTasks where
  empty := fun _ => ⟨List.nodup_nil,List.forall_mem_nil _⟩
  investigation := fun _ _ _ _ _ drafted => ⟨drafted.ids,drafted.pending⟩
  task := fun tx t pending _ _ fresh drafted => by
    refine ⟨nodup_snoc drafted.ids fresh,fun row member => ?_⟩
    cases List.mem_append.mp member with
    | inl old => exact drafted.pending row old
    | inr added => rwa [List.mem_singleton.mp added]

theorem exec_leaves (s : Statement) (c : Choice) (db : Database) (l : Session) (leaves : s.leaves agent db) (quiet : AtRest agent start db)
    (waits : l.waits) : AtRest agent start (exec s c db l).2.1 ∧ (exec s c db l).2.2.waits ∧ Resting agent db (exec s c db l).2.1 := by
  obtain ⟨quiet',rests⟩ := effect_leaves (exec_effect c db l s) leaves quiet waits
  exact ⟨quiet',exec_drafting waits_drafting s c db waits,rests⟩

-- In every state.
def Statement.passes (agent : Uuid) : Statement → Prop
  | .insertSignal _ target | .pendingTask target _ => target ≠ agent
  | .completeTask .. | .failTask .. => False
  | _ => True

theorem passes_leaves {s : Statement} (passes : s.passes agent) (db : Database) : s.leaves agent db := by
  cases s with
  | completeTask => exact passes.elim
  | failTask => exact passes.elim
  | _ => exact passes

theorem exec_passes (s : Statement) (c : Choice) (db : Database) (l : Session) (passes : s.passes agent) (quiet : AtRest agent start db)
    (waits : l.waits) : AtRest agent start (exec s c db l).2.1 ∧ (exec s c db l).2.2.waits ∧ Resting agent db (exec s c db l).2.1 :=
  exec_leaves s c db l (passes_leaves passes db) quiet waits

abbrev Restful (agent : Uuid) (start : Database) (known : Database → Prop) (learned : A → Database → Prop) (x : Py A) : Prop :=
  x.Guarded exec (AtRest agent start) Session.waits (Resting agent) known learned

theorem Restful.only {known : Database → Prop} (lasting : Outliving (Resting agent) known) {x : Py A} (only : x.Only (Statement.passes agent)) :
    Restful agent start known (fun _ => known) x := Guarded.only lasting only exec_passes

-- One statement, where it is known to leave the agent's tasks alone.
theorem Restful.fetch (s : Statement) {known : Database → Prop} {learned : s.Result → Database → Prop}
    (lasting : Outliving (Resting agent) known) (stays : ∀ r, Outliving (Resting agent) (learned r)) (leaves : ∀ db, known db → s.leaves agent db)
    (tells : ∀ c db l r, AtRest agent start db → known db → (exec s c db l).1 = .ok r → learned r (exec s c db l).2.1) :
    Restful agent start known learned (Trokk.fetch s) := by
  rw [fetch_orRaise]
  apply Guarded.ask lasting stays
  · exact fun c db l quiet waits here => exec_leaves s c db l (leaves db here) quiet waits
  · intro c db l r quiet here same
    exact tells c db l r quiet here (orRaise_ok same)

theorem restful_rules (agent : Uuid) (start : Database) :
    TickRules (Statement.passes agent) fun _ x => Restful agent start (fun _ => True) (fun _ _ => True) x where
  pure := fun a => Guarded.pure a
  bind := fun _ _ first then' => Guarded.bind Resting.refl first fun a => (then' a)
  attempt := fun _ _ first caught => Guarded.attempt Resting.refl (outliving_true _) first caught
  fetch := fun s passes => Restful.fetch s (outliving_true _) (fun _ => outliving_true _) (fun db _ => passes_leaves passes db)
    fun _ _ _ _ _ _ _ => trivial

theorem workTask_restful (agent : Uuid) (start : Database) (specialist : Specialist) (task : TaskRow) :
    Restful agent start (Elsewhere agent task.id) (fun _ _ => True) (workTask specialist task) := by
  have lasting : Outliving (Resting agent) (Elsewhere agent task.id) := elsewhere_outliving task.id
  have failed (error : String) : Restful agent start (Elsewhere agent task.id) (fun _ _ => True) (Trokk.fetch (.failTask task.id error)) :=
    Restful.fetch _ lasting (fun _ => outliving_true _) (fun _ known => known) fun _ _ _ _ _ _ _ => trivial
  refine Guarded.attempt Resting.refl lasting ?_ fun _ => failed _
  have published : (Method.lift (specialist.run task.id task.investigationId task.taskPrompt) : Py AgentState).Only (Statement.passes agent) := by
    refine Method.Only.lift (only_imp (specialist.publishes _ _ _) fun s publishes => ?_)
    cases s <;> trivial
  refine Guarded.bind Resting.refl (Restful.only lasting published) fun result => ?_
  split
  · exact failed _
  · exact Restful.fetch _ lasting (fun _ => outliving_true _) (fun _ known => known) fun _ _ _ _ _ _ _ => trivial

theorem workType_restful (start : Database) (other : agent_id ≠ agent) (task_type : String) (agent_cls : AgentClass) :
    Restful agent start (fun _ => True) (fun _ _ => True) (workType agent_id task_type agent_cls) := by
  have claims : Restful agent start (fun _ => True) (fun found db => ∀ task, found = some task → Elsewhere agent task.id db)
      (get_pending_task_row agent_id (some task_type)) := by
    refine Restful.fetch _ (outliving_true _) (fun found d d' rests known task same => ?_) (fun _ _ => other) fun c db l found _ _ ok task same => ?_
    · exact elsewhere_outliving task.id d d' rests (known task same)
    · rcases pendingTask_done (exec_ok ok) with ⟨-,none',-⟩ | ⟨t,oldest,isTask,edited⟩
      · cases same.symm.trans none'
      · cases same.symm.trans isTask
        obtain ⟨there,own,-⟩ := oldestPending_mem oldest
        rw [edited]
        refine ⟨_,List.mem_map_of_mem there,?_,?_⟩
        · rw [if_pos rfl]
        · rw [if_pos rfl]
          exact own.symm ▸ other
  refine Guarded.bind Resting.refl claims fun found => ?_
  cases found with
  | none => exact Guarded.pure ()
  | some task =>
    have built : Restful agent start (Elsewhere agent task.id) (fun _ => Elsewhere agent task.id)
        (agentFor (task_type ++ "-" ++ String.ofList agent_id.text) agent_cls) :=
      Restful.only (elsewhere_outliving task.id) (agentFor_only _ agent_cls)
    refine (Guarded.bind Resting.refl built fun specialist => workTask_restful agent start specialist task).weaken ?_
    exact fun db known => known task rfl

theorem handle_agent_tick_restful (start : Database) (other : agent_id ≠ agent) (registry : List (String × AgentClass)) :
    Restful agent start (fun _ => True) (fun _ _ => True) (handle_agent_tick agent_id registry) := by
  induction registry with
  | nil => exact Guarded.pure ()
  | cons entry rest ih => exact Guarded.bind Resting.refl (workType_restful start other entry.1 entry.2) fun _ => ih

-- No force_tick that is polled names the agent.
theorem tick_restful (agent : Uuid) (start : Database) (runtime : Runtime) :
    Restful agent start (fun _ => True) (fun _ _ => True) (tick runtime) := by
  have polls : Restful agent start (fun _ => True) (fun signals _ => ∀ s ∈ signals, s.signalType = "force_tick" → s.agentId ≠ some agent)
      (fetch .poll) := by
    refine Restful.fetch _ (outliving_true _) (fun _ _ _ _ known => known) (fun _ _ => trivial) fun c db l signals quiet _ ok s member type named => ?_
    have read := (Prod.mk.inj (Except.ok.inj (exec_ok ok))).1
    rw [← read,oldestFirst,List.mem_insertionSort,List.mem_filter] at member
    simp [quiet.unticked s member.1 type named] at member
  refine Guarded.bind Resting.refl polls fun signals d l quiet waits others => ?_
  have rules := restful_rules agent start
  refine rules.processEach (fun s routine => ?_) (fun id question findings => ?_) signals (fun signal member forces agent_id named => ?_)
    d l quiet waits trivial
  · cases s <;> trivial
  · refine (Restful.only (outliving_true _) (Method.Only.lift (only_imp (runtime.chats id question findings) fun s chats => ?_)))
    cases s <;> trivial
  · refine handle_agent_tick_restful start (fun same => ?_) runtime.registry
    exact others signal member forces (same ▸ named)

theorem controlTick_passes (other : Uuid.Parse text.toList ≠ some agent) : (ControlTick text).Only (Statement.passes agent) := by
  unfold ControlTick
  split
  · trivial
  · rename_i target parsed
    refine only_then (fun same => other ?_) (fun _ => trivial) fun _ => trivial
    rw [parsed,same]

theorem dispatch_passes (other : ∀ text, route = .controlTick text → Uuid.Parse text.toList ≠ some agent) (info : Option AuthInfo) :
    (dispatch info route).Only (Statement.passes agent) := by
  cases route with
  | controlTick text => exact requireAdmin_only (fun _ => controlTick_passes (other text rfl)) info
  | createAgent body => exact requireAdmin_only (fun _ => createAgent_only trivial (fun _ _ => trivial) body) info
  | updateAgent text body => exact requireAdmin_only (fun _ => updateAgent_only (fun _ => trivial) (fun _ _ => trivial) text body) info
  | createInvestigation body =>
    exact requireAdmin_only (fun _ => createInvestigation_only trivial (fun _ => trivial) trivial (fun _ _ _ _ => trivial) trivial body) info
  | triggerConsensus text => exact requireAdmin_only (fun _ => triggerConsensus_only (fun _ => ⟨trivial,trivial⟩) (fun _ _ => trivial)) info
  | pauseAll =>
    apply requireAdmin_only
    exact fun _ => only_then trivial (fun _ => trivial) fun _ => trivial
  | resumeAll =>
    apply requireAdmin_only
    exact fun _ => only_then trivial (fun _ => trivial) fun _ => trivial
  | createMessage body => exact requireAgent_only (fun info => createMessage_only (fun _ _ => trivial) (fun _ => trivial) body) info
  | respond text body => exact requireAgent_only (fun info => respond_only (fun _ _ => trivial) (fun _ => trivial) text body) info
  | endorse text => exact requireAgent_only (fun info => toggle_only (fun _ _ => trivial) _ _ text) info
  | propagate text => exact requireAgent_only (fun info => toggle_only (fun _ _ => trivial) _ _ text) info

-- Any requests but for ticks of the agent, and any ticks.
theorem serves_restful (others : ∀ r, admits r → ∀ text, r.route = .controlTick text → Uuid.Parse text.toList ≠ some agent)
    (serves : Serves adminKey runtime admits t x) (quiet : AtRest agent start db) :
    x.Secure exec (AtRest agent start) Session.waits (Resting agent) (fun _ _ _ => True) db .fresh := by
  have fresh : Session.fresh.waits := nofun
  cases serves with
  | @request req _ admitted =>
    have only : (serving adminKey req).Only (Statement.passes agent) := by
      refine Program.Only.bind (Program.Only.bind (authenticate_only (fun _ => trivial) _ _) fun result => ?_) fun _ => trivial
      cases result with
      | error response => trivial
      | ok info => exact dispatch_passes (others req admitted) info
    exact only.secure (yields_true _) exec_passes fresh
  | tick =>
    refine Secure.bind Resting.refl quiet fresh (tick_restful agent start runtime db .fresh quiet fresh trivial _) fun (result,agents) db l _ _ _ => ?_
    cases result <;> exact fun _ _ _ => trivial

-- Every task that the agent had is where it was, as it was; the others of its tasks
-- are new and wait.
theorem unticked_rests {p : System} (valid : start.Valid) (unticked : Unticked agent start)
    (others : ∀ r, admits r → ∀ text, r.route = .controlTick text → Uuid.Parse text.toList ≠ some agent)
    (run : ServesRuns adminKey runtime admits (Pool.idle start) p) :
    (∀ (n : Nat) (t : TaskRow), start.investigationTasks[n]? = some t → t.agentId = agent → p.shared.investigationTasks[n]? = some t) ∧
      ∀ t ∈ p.shared.investigationTasks, t.agentId = agent → t ∈ start.investigationTasks ∨ t.status = .pending := by
  have quiet : AtRest agent start start := ⟨valid.taskIds,unticked,fun t member _ => .inl member⟩
  have begins (worker : Worker) (x : Api Answer) (db : Database) (serves : Serves adminKey runtime admits worker x)
      (quiet : AtRest agent start db) := serves_restful others serves quiet
  obtain ⟨secured,rests⟩ := Pool.runs_secured Resting.refl Resting.trans begins (fun _ => nofun) (Pool.idle_secured quiet) run
  refine ⟨fun n t found own => ?_,secured.holds.tasks⟩
  obtain ⟨u,there,evolved⟩ := rests n t found
  rw [there,evolved.rests own]

-- Ada is ticked and her task claimed; Bob's waits.
def Database.divided : Database where
  agents := [⟨1,"ada","Ada",some "",none,"tk_agent_ada",some 10,some true⟩,⟨2,"bob","Bob",some "",none,"tk_agent_bob",some 20,some true⟩]
  controlSignals := [forcedSignal]
  investigations := [⟨21,"why",.inProgress,none,30,none⟩]
  investigationTasks := [⟨51,21,1,"research","Investigate: why",.pending,none,30,none⟩,⟨52,21,2,"news","Investigate: why",.pending,none,30,none⟩]

theorem Database.divided_valid : Database.divided.Valid := by
  constructor
  case parents => simp [Database.divided]
  case signalAgents => simp [Database.divided,forcedSignal]
  all_goals decide

def Runtime.dividing : System :=
  ⟨.divided,Function.update (fun _ => none) (.orchestrator 0) (some (ticking .chatting [],.fresh))⟩
def adasTurn : System := Runtime.dividing.acts exec (List.replicate 3 (.orchestrator 0,.sample))

theorem unticked_rests_sample : adasTurn.shared.investigationTasks.map TaskRow.status = [.running,.pending] ∧
    ∀ t ∈ adasTurn.shared.investigationTasks, t.agentId = 2 → t ∈ Database.divided.investigationTasks ∨ t.status = .pending := by
  have run : ServesRuns "rp_admin" .chatting (·.route = .controlTick (String.ofList (Uuid.text 1))) (Pool.idle .divided) adasTurn :=
    Pool.acts_runs (.step .start (.begin rfl .tick)) _
  refine ⟨by decide +kernel,(unticked_rests Database.divided_valid ?_ (fun r admitted text same => ?_) run).2⟩
  · intro s member _ named
    rw [List.mem_singleton.mp member] at named
    exact absurd named (by decide)
  · cases admitted.symm.trans same
    rw [String.toList_ofList,Uuid.Parse_text]
    decide

end Trokk
