import Trokk.System

-- Which investigations force_tick signals can drain: CreateInvestigation stores the
-- requested task types, the orchestrator claims tasks of the registered ones.
namespace Trokk
open Program

def Healthy (c : Choice) : Prop := c.fate = .answered

theorem exec_healthy (healthy : Healthy c) (s : Statement) (db : Database) (l : Session) :
    exec s c db l = match perform c db l s with
      | .ok (r,db,l) => (.ok r,db,l)
      | .error e => (.error e,db,l.rollback) := by
  have answered : (if s.certain then Fate.answered else c.fate) = .answered := by rw [healthy,ite_self]
  unfold exec
  split
  · rename_i refused
    cases answered.symm.trans refused
  · rfl
  · rename_i lost
    cases answered.symm.trans lost

-- The tasks that a call of insertTasks has inserted.
structure Drafted (inv : Uuid) (types : List String) (tasks : List TaskRow) : Prop where
  types : tasks.map TaskRow.taskType = types
  rows : ∀ t ∈ tasks, t.investigationId = inv ∧ t.status = .pending
  ids : (tasks.map TaskRow.id).Nodup

structure Created (types : List String) (inv : InvestigationWithTasks) (db : Database) : Prop where
  stored : db.investigationTasks = inv.tasks
  drafted : Drafted inv.investigation.id types inv.tasks

theorem query_ensures {f : Except PgError s.Result → Api A} {post : A → Database → Session → Prop}
    (ok : ∀ c r db' l', Healthy c → perform c db l s = .ok (r,db',l') → (f (.ok r)).Ensures exec Healthy post db' l')
    (failed : ∀ c e, perform c db l s = .error e → (f (.error e)).Ensures exec Healthy post db l.rollback) :
    (query s >>= f).Ensures exec Healthy post db l := by
  intro c healthy
  rw [exec_healthy healthy]
  cases done : perform c db l s with
  | error e => exact failed c e done
  | ok result => exact ok c result.1 result.2.1 result.2.2 healthy done

theorem drafted_nil (inv : Uuid) : Drafted inv [] [] := ⟨rfl,nofun,List.nodup_nil⟩

theorem drafted_next (drafted : Drafted inv types tasks) (fresh : ∀ t ∈ tasks, t.id ≠ new) :
    Drafted inv (types ++ [type]) (tasks ++ [⟨new,inv,agent,type,prompt,.pending,none,now,none⟩]) := by
  refine ⟨by simp [drafted.types],?_,?_⟩
  · intro t present
    rcases List.mem_append.mp present with before | added
    · exact drafted.rows t before
    · rw [List.mem_singleton.mp added]
      exact ⟨rfl,rfl⟩
  · rw [List.map_append,List.nodup_append]
    refine ⟨drafted.ids,by simp,?_⟩
    intro a before b added
    obtain ⟨t,present,rfl⟩ := List.mem_map.mp before
    rw [List.mem_map] at added
    obtain ⟨u,isNew,rfl⟩ := added
    rw [List.mem_singleton.mp isNew]
    exact fresh t present

theorem insertTasks_drafts (row : InvestigationRow) (question : String) (types : List String) {l : Session}
    (opened : ∃ tx, l.tx = some tx ∧ tx.tasks = tasks) (drafted : Drafted row.id before tasks) :
    (insertTasks row question types tasks).Ensures exec Healthy (fun result db' l => ∀ tasks, result = .ok tasks →
      db' = db ∧ Drafted row.id (before ++ types) tasks ∧ ∃ tx, l.tx = some tx ∧ tx.tasks = tasks) db l := by
  induction types generalizing tasks before l with
  | nil =>
    intro tasks same
    cases same
    exact ⟨rfl,by simpa using drafted,opened⟩
  | cons type rest ih =>
    refine query_ensures (fun c agentIDs db l _ done => ?_) fun _ _ _ _ => nofun
    cases done
    refine query_ensures (fun c task db' l' _ done => ?_) fun _ _ _ _ => nofun
    obtain ⟨tx,opened,rfl⟩ := opened
    obtain ⟨tx',opened',rfl,rfl,rfl,fresh,-⟩ := insertTask_done done
    cases opened.symm.trans opened'
    refine Ensures.imp (ih ?_ (drafted_next drafted fresh)) ?_
    · exact ⟨_,rfl,rfl⟩
    · intro result db l holds tasks same
      simpa using holds tasks same

theorem CreateInvestigationTx_creates (none' : db.investigationTasks = []) (question : String) (taskTypes : List String) :
    (CreateInvestigationTx question taskTypes).Ensures exec Healthy (fun result db' _ => ∀ inv, result = .ok inv →
      Created (if taskTypes = [] then defaultTaskTypes else taskTypes) inv db') db .fresh := by
  refine query_ensures (fun c _ db l _ done => ?_) fun _ _ _ _ => nofun
  cases done
  refine query_ensures (fun c row db' l _ done => ?_) fun _ _ _ _ => nofun
  obtain ⟨tx,opened,rfl,rfl,rfl,-⟩ := insertInvestigation_done done
  cases opened
  apply Ensures.bind
  refine Ensures.imp (insertTasks_drafts _ question _ ?_ (drafted_nil _)) ?_
  · exact ⟨_,rfl,rfl⟩
  · intro result db' l drafted
    cases result with
    | error => exact fun _ => nofun
    | ok tasks =>
      obtain ⟨rfl,drafted,tx,opened,rfl⟩ := drafted tasks rfl
      refine query_ensures (fun c _ db' l' _ done => ?_) fun _ _ _ _ => nofun
      obtain ⟨tx',opened',rfl,-⟩ := commit_done done
      cases opened.symm.trans opened'
      intro inv same
      cases same
      exact ⟨by simp [none'],drafted⟩

-- A specialist whose run returns a state, whatever it says in it.
def Normal (agent : Specialist) : Prop := ∀ taskId investigationId taskPrompt db l,
  (agent.run taskId investigationId taskPrompt).Ensures exec Healthy (fun result _ _ => ∃ state, result = .ok state) db l

def Works (cls : AgentClass) : Prop := ∃ agent, cls.create = .ok agent ∧ Normal agent

def AllNormal (agents : Agents) : Prop := ∀ entry ∈ agents, Normal entry.2

theorem allNormal_nil : AllNormal [] := by
  intro entry present
  cases present

-- What no update of a task changes.
structure SameTask (t u : TaskRow) : Prop where
  id : u.id = t.id
  investigationId : u.investigationId = t.investigationId
  agentId : u.agentId = t.agentId
  taskType : u.taskType = t.taskType

theorem SameTask.refl (t : TaskRow) : SameTask t t := ⟨rfl,rfl,rfl,rfl⟩

theorem SameTask.trans (one : SameTask t u) (two : SameTask u v) : SameTask t v :=
  ⟨two.id.trans one.id,two.investigationId.trans one.investigationId,two.agentId.trans one.agentId,
   two.taskType.trans one.taskType⟩

-- What a task may become under ticks: `may` says for which ids it may end.
structure Finishes (may : Uuid → Prop) (f : TaskRow → TaskRow) : Prop where
  keeps : ∀ t, SameTask t (f t)
  ends : ∀ t, f t = t ∨ may t.id ∧ (f t).open = false

theorem finishes_id (may : Uuid → Prop) : Finishes may id := ⟨SameTask.refl,fun _ => .inl rfl⟩

theorem Finishes.comp (second : Finishes may g) (first : Finishes may f) : Finishes may (g ∘ f) := by
  constructor
  · exact fun t => (first.keeps t).trans (second.keeps (f t))
  · intro t
    cases second.ends (f t) with
    | inl same =>
      change g (f t) = t ∨ may t.id ∧ (g (f t)).open = false
      rw [same]
      exact first.ends t
    | inr ended =>
      rw [(first.keeps t).id] at ended
      exact .inr ended

theorem Finishes.weaken (finishes : Finishes may f) (weaker : ∀ id, may id → may' id) : Finishes may' f :=
  ⟨finishes.keeps,fun t => (finishes.ends t).imp_right fun ended => ⟨weaker _ ended.1,ended.2⟩⟩

theorem closed_not_pending {t : TaskRow} (closed : t.open = false) : t.status ≠ .pending := by
  intro pending
  simp [TaskRow.open,pending] at closed

theorem Finishes.untouched (finishes : Finishes may f) (pending : (f t).status = .pending) : f t = t := by
  cases finishes.ends t with
  | inl same => exact same
  | inr ended => exact absurd pending (closed_not_pending ended.2)

theorem oldestPending_none (none' : oldestPending db agent (some type) = none) (present : t ∈ db.investigationTasks)
    (own : t.agentId = agent) (pending : t.status = .pending) : t.taskType ≠ type := by
  intro same
  have sorted : t ∈ oldestFirst TaskRow.createdAt (db.investigationTasks.filter fun t =>
      t.agentId = agent && t.status = .pending && (some type = none || some type = some t.taskType)) := by
    rw [oldestFirst,List.mem_insertionSort,List.mem_filter]
    simp [present,own,pending,same]
  rw [oldestPending,List.head?_eq_none_iff] at none'
  rw [none'] at sorted
  cases sorted

theorem oldestPending_some (found : oldestPending db agent (some type) = some t) :
    t ∈ db.investigationTasks ∧ t.agentId = agent ∧ t.status = .pending ∧ t.taskType = type := by
  obtain ⟨present,own,pending,isType⟩ := oldestPending_mem found
  exact ⟨present,own,pending,(Option.some.inj (isType.resolve_left nofun)).symm⟩

theorem fetch_ensures (s : Statement) {post : Except PyError s.Result → Agents → Database → Session → Prop}
    (ok : ∀ c r db' l', Healthy c → perform c db l s = .ok (r,db',l') → post (.ok r) agents db' l')
    (failed : ∀ c e, perform c db l s = .error e → post (.error .database) agents db l.rollback) :
    (fetch s).Ensures exec Healthy post agents db l := Method.Ensures.lift (query_ensures ok failed)

theorem fetch_returns (s : Statement) {post : s.Result → Agents → Database → Session → Prop}
    (ok : ∀ c r db' l', perform c db l s = .ok (r,db',l') → post r agents db' l')
    (certain : ∀ c e, perform c db l s ≠ .error e) : (fetch s).Returns exec Healthy post agents db l := by
  apply fetch_ensures s
  · exact fun c r db' l' _ done => ⟨r,rfl,ok c r db' l' done⟩
  · exact fun c e failed => absurd failed (certain c e)

-- The rows of the claimed task end with `edit`.
def Ended (task : Uuid) (before after : List TaskRow) : Prop := ∃ edit : TaskRow → TaskRow,
  after = before.map (fun t => if t.id = task then edit t else t) ∧ ∀ t, SameTask t (edit t) ∧ (edit t).open = false

theorem publishes_tasks {tasks : List TaskRow} (s : Statement) (c : Choice) (db : Database) (l : Session)
    (publishes : s.publishes) (kept : db.investigationTasks = tasks) : (exec s c db l).2.1.investigationTasks = tasks := by
  have effect := exec_effect c db l s
  generalize (exec s c db l).2.1 = db' at effect
  cases effect with
  | commit => exact publishes.elim
  | pendingTask => exact publishes.elim
  | completeTask => exact publishes.elim
  | failTask => exact publishes.elim
  | toggle => exact publishes.elim
  | _ => exact kept

-- The update of the task took effect, or failed and left the tasks as they were.
structure Tried (task : Uuid) (before after : List TaskRow) (result : Except PyError Unit) : Prop where
  ok : ∀ u, result = .ok u → Ended task before after
  failed : ∀ e, result = .error e → e = .database ∧ after = before

theorem failed_ended (done : perform c db l (.failTask task error) = .ok (r,db',l')) :
    Ended task db.investigationTasks db'.investigationTasks := by
  simp only [perform] at done
  split at done <;> cases done
  exact ⟨_,rfl,fun _ => ⟨⟨rfl,rfl,rfl,rfl⟩,rfl⟩⟩

theorem completed_ended (done : perform c db l (.completeTask task result) = .ok (r,db',l')) :
    Ended task db.investigationTasks db'.investigationTasks := by
  simp only [perform] at done
  split at done <;> cases done
  exact ⟨_,rfl,fun _ => ⟨⟨rfl,rfl,rfl,rfl⟩,rfl⟩⟩

theorem failTask_tries (task : Uuid) (error : String) :
    (fetch (.failTask task error)).Ensures exec Healthy (fun result agents' db' _ => agents' = agents ∧
      Tried task db.investigationTasks db'.investigationTasks result ∧
      (storableText error = true → result = .ok ())) agents db l := by
  apply fetch_ensures (.failTask task error)
  · intro c r db' l' _ done
    exact ⟨rfl,⟨fun _ _ => failed_ended done,fun _ => nofun⟩,fun _ => rfl⟩
  · intro c e done
    refine ⟨rfl,⟨fun _ => nofun,fun _ same => ⟨(Except.error.inj same).symm,rfl⟩⟩,fun storable => ?_⟩
    simp only [perform,storable,if_true] at done
    cases done

theorem completeTask_tries (task : Uuid) (value : Json) :
    (fetch (.completeTask task value)).Ensures exec Healthy (fun result agents' db' _ => agents' = agents ∧
      Tried task db.investigationTasks db'.investigationTasks result) agents db l := by
  apply fetch_ensures (.completeTask task value)
  · exact fun c r db' l' _ done => ⟨rfl,⟨fun _ _ => completed_ended done,fun _ => nofun⟩⟩
  · exact fun c e _ => ⟨rfl,⟨fun _ => nofun,fun _ same => ⟨(Except.error.inj same).symm,rfl⟩⟩⟩

theorem run_returns (normal : Normal agent) (taskId investigationId : Uuid) (taskPrompt : String) :
    (Method.lift (agent.run taskId investigationId taskPrompt) : Py AgentState).Returns exec Healthy
      (fun _ agents' db' _ => agents' = agents ∧ db'.investigationTasks = db.investigationTasks) agents db l := by
  apply Method.Ensures.lift
  apply Program.Ensures.imp ((normal _ _ _ db l).keep (agent.publishes _ _ _) publishes_tasks rfl)
  intro result db' l' holds
  obtain ⟨⟨state,ok⟩,same⟩ := holds
  exact ⟨state,ok,rfl,same⟩

theorem tryTask_tries (normal : Normal agent) (task : TaskRow) :
    (tryTask agent task).Ensures exec Healthy (fun result agents' db' _ => agents' = agents ∧
      Tried task.id db.investigationTasks db'.investigationTasks result) agents db l := by
  apply Method.Returns.bind (run_returns normal _ _ _)
  intro state agents' db' l' holds
  obtain ⟨rfl,same⟩ := holds
  rw [← same]
  split
  · apply Method.Ensures.imp (failTask_tries task.id state.error)
    exact fun _ _ _ _ tried => ⟨tried.1,tried.2.1⟩
  · exact completeTask_tries task.id _

-- The specialist's run returns, so the task ends, completed or failed.
theorem workTask_ends (normal : Normal agent) (task : TaskRow) :
    (workTask agent task).Returns exec Healthy (fun _ agents' db' _ => agents' = agents ∧
      Ended task.id db.investigationTasks db'.investigationTasks) agents db l := by
  apply Method.Ensures.attempt (tryTask_tries normal task)
  · intro u agents' db' l' tried
    exact ⟨u,rfl,tried.1,tried.2.ok u rfl⟩
  · intro e agents' db' l' tried
    obtain ⟨rfl,tried⟩ := tried
    obtain ⟨rfl,same⟩ := tried.failed e rfl
    -- str(exc) of the refused update is a text that Postgres takes
    apply Method.Ensures.imp (failTask_tries task.id _)
    intro result agents'' db'' l'' again
    obtain ⟨rfl,again,stored⟩ := again
    have ok := stored (by decide)
    exact ⟨(),ok,rfl,same ▸ again.ok () ok⟩

def MayEnd (types : List String) (tasks : List TaskRow) (task : Uuid) : Prop := ∃ t ∈ tasks, t.id = task ∧ t.taskType ∈ types

-- A round of claims for one agent: it ends tasks of the given types only, and one
-- of the agent's pending tasks if any of them has such a type.
structure Round (agent : Uuid) (types : List String) (f : TaskRow → TaskRow) (tasks : List TaskRow) : Prop where
  finishes : Finishes (MayEnd types tasks) f
  claims : ∀ t ∈ tasks, t.agentId = agent → t.status = .pending → t.taskType ∈ types →
    ∃ u ∈ tasks, u.agentId = agent ∧ u.status = .pending ∧ (f u).status ≠ .pending

theorem round_nil (agent : Uuid) (tasks : List TaskRow) : Round agent [] id tasks := ⟨finishes_id _,nofun⟩

theorem mayEnd_map (finishes : Finishes may f) (ends : MayEnd types (tasks.map f) task) : MayEnd types tasks task := by
  obtain ⟨u,present,id,type⟩ := ends
  obtain ⟨t,before,rfl⟩ := List.mem_map.mp present
  rw [(finishes.keeps t).id] at id
  rw [(finishes.keeps t).taskType] at type
  exact ⟨t,before,id,type⟩

theorem Round.cons (first : Round agent [type] f tasks) (second : Round agent types g (tasks.map f)) :
    Round agent (type :: types) (g ∘ f) tasks := by
  constructor
  · apply Finishes.comp
    · apply second.finishes.weaken
      intro task ends
      obtain ⟨t,present,id,later⟩ := mayEnd_map first.finishes ends
      exact ⟨t,present,id,List.mem_cons_of_mem _ later⟩
    · apply first.finishes.weaken
      intro task ends
      obtain ⟨t,present,id,same⟩ := ends
      exact ⟨t,present,id,List.mem_cons.mpr (.inl (List.mem_singleton.mp same))⟩
  · intro t present own pending isType
    -- a task that the first part ended stays ended
    have stays (u : TaskRow) (ended : (f u).status ≠ .pending) : (g (f u)).status ≠ .pending := by
      intro again
      rw [second.finishes.untouched again] at again
      exact ended again
    cases List.mem_cons.mp isType with
    | inl same =>
      obtain ⟨u,there,mine,waits,ended⟩ := first.claims t present own pending (List.mem_singleton.mpr same)
      exact ⟨u,there,mine,waits,stays u ended⟩
    | inr later =>
      by_cases still : (f t).status = .pending
      · have there : t ∈ tasks.map f := List.mem_map.mpr ⟨t,present,first.finishes.untouched still⟩
        obtain ⟨v,there,mine,waits,ended⟩ := second.claims t there own pending later
        obtain ⟨u,before,rfl⟩ := List.mem_map.mp there
        have same := first.finishes.untouched waits
        rw [same] at mine waits
        exact ⟨u,before,mine,waits,ended⟩
      · exact ⟨t,present,own,pending,stays t still⟩

theorem agentFor_normal (works : Works cls) (normal : AllNormal agents) (key : String) :
    (agentFor key cls).Returns exec Healthy (fun agent agents' db' _ => Normal agent ∧ AllNormal agents' ∧ db' = db)
      agents db l := by
  unfold agentFor Method.Returns Method.Ensures
  simp only [Method.bind_def,Method.attributes,done_bind]
  cases found : agents.lookup key with
  | some agent =>
    obtain ⟨before,after,split,-⟩ := List.lookup_eq_some_iff.mp found
    exact ⟨agent,rfl,normal (key,agent) (by simp [split]),normal,rfl⟩
  | none =>
    obtain ⟨agent,created,returns⟩ := works
    simp only [created]
    refine ⟨agent,rfl,returns,?_,rfl⟩
    intro entry present
    cases List.mem_cons.mp present with
    | inl new => exact new ▸ returns
    | inr before => exact normal entry before

-- A claim and the end of the claimed task together.
theorem ended_round (found : oldestPending db agent (some type) = some claimed)
    (ended : Ended claimed.id (db.editTask claimed.id fun t => {t with status := .running}).investigationTasks tasks) :
    ∃ f, Round agent [type] f db.investigationTasks ∧ tasks = db.investigationTasks.map f := by
  obtain ⟨edit,rfl,keeps⟩ := ended
  obtain ⟨present,own,pending,isType⟩ := oldestPending_some found
  have keep (t : TaskRow) : SameTask t (edit {t with status := .running}) := by
    obtain ⟨id,inv,agent,type⟩ := (keeps {t with status := .running}).1
    exact ⟨id,inv,agent,type⟩
  refine ⟨fun t => if t.id = claimed.id then edit {t with status := .running} else t,⟨⟨?_,?_⟩,?_⟩,?_⟩
  · intro t
    split
    · exact keep t
    · exact SameTask.refl t
  · intro t
    split
    · rename_i same
      exact .inr ⟨⟨claimed,present,same.symm,List.mem_singleton.mpr isType⟩,(keeps _).2⟩
    · exact .inl rfl
  · intro t _ _ _ _
    refine ⟨claimed,present,own,pending,?_⟩
    rw [if_pos rfl]
    exact closed_not_pending (keeps _).2
  · rw [Database.editTask,List.map_map]
    apply List.map_congr_left
    intro t _
    by_cases same : t.id = claimed.id
    · simp [same]
    · simp [same]

-- What get_pending_task finds and does.
inductive Claim (db : Database) (agent : Uuid) (type : String) : Option TaskRow → Database → Prop where
  | nothing : oldestPending db agent (some type) = none → Claim db agent type none db
  | claimed : oldestPending db agent (some type) = some t →
      Claim db agent type (some {t with status := .running}) (db.editTask t.id fun t => {t with status := .running})

theorem perform_claims (done : perform c db l (.pendingTask agent (some type)) = .ok (found,db',l')) : Claim db agent type found db' := by
  rcases pendingTask_done done with ⟨nothing,rfl,rfl⟩ | ⟨t,found,rfl,rfl⟩
  · exact .nothing nothing
  · exact .claimed found

theorem get_pending_task_row_claims (agent : Uuid) (type : String) :
    (get_pending_task_row agent (some type)).Returns exec Healthy
      (fun found agents' db' _ => agents' = agents ∧ Claim db agent type found db') agents db l := by
  apply fetch_returns (.pendingTask agent (some type))
  · exact fun c found db' l' done => ⟨rfl,perform_claims done⟩
  · intro c e done
    simp only [perform] at done
    split at done <;> cases done

structure Worked (agent : Uuid) (types : List String) (before after : List TaskRow) (agents : Agents) : Prop where
  normal : AllNormal agents
  round : ∃ f, Round agent types f before ∧ after = before.map f

theorem workType_round (works : Works cls) (normal : AllNormal agents) (agent : Uuid) (type : String) :
    (workType agent type cls).Returns exec Healthy
      (fun _ agents' db' _ => Worked agent [type] db.investigationTasks db'.investigationTasks agents') agents db l := by
  apply Method.Returns.bind (get_pending_task_row_claims agent type)
  intro found agents' db' l' holds
  obtain ⟨rfl,claim⟩ := holds
  cases claim with
  | nothing none' =>
    refine ⟨(),rfl,normal,id,⟨finishes_id _,?_⟩,by simp⟩
    intro t present own pending isType
    exact absurd (List.mem_singleton.mp isType) (oldestPending_none none' present own pending)
  | claimed found =>
    apply Method.Returns.bind (agentFor_normal works normal _)
    intro specialist agents'' db'' l'' holds
    obtain ⟨returns,normal',rfl⟩ := holds
    apply Method.Returns.imp (workTask_ends returns _)
    intro _ agents3 db3 l3 holds
    obtain ⟨rfl,ended⟩ := holds
    exact ⟨normal',ended_round found ended⟩

theorem handle_agent_tick_round (registry : List (String × AgentClass)) (works : ∀ entry ∈ registry, Works entry.2)
    (normal : AllNormal agents) (agent : Uuid) :
    (handle_agent_tick agent registry).Returns exec Healthy (fun _ agents' db' _ =>
      Worked agent (registry.map Prod.fst) db.investigationTasks db'.investigationTasks agents') agents db l := by
  induction registry generalizing agents db l with
  | nil => exact ⟨(),rfl,normal,id,round_nil agent _,by simp⟩
  | cons entry rest ih =>
    apply Method.Returns.bind (workType_round (works entry List.mem_cons_self) normal agent entry.1)
    intro _ agents' db' l' worked
    obtain ⟨normal',f,first,same⟩ := worked
    apply Method.Returns.imp (ih (fun later present => works later (List.mem_cons_of_mem _ present)) normal')
    intro _ agents'' db'' l'' worked
    obtain ⟨normal'',g,second,same'⟩ := worked
    rw [same] at second same'
    exact ⟨normal'',g ∘ f,first.cons second,by rw [same',List.map_map]⟩

def waiting (tasks : List TaskRow) (agent : Uuid) : Nat := tasks.countP fun t => t.agentId = agent && t.status = .pending

theorem waiting_back (finishes : Finishes may f) (agent : Uuid) (t : TaskRow)
    (waits : (decide ((f t).agentId = agent) && decide ((f t).status = .pending)) = true) :
    (decide (t.agentId = agent) && decide (t.status = .pending)) = true := by
  have pending : (f t).status = .pending := by simp_all
  rwa [finishes.untouched pending] at waits

-- A tick for an agent takes one of its waiting tasks, if it has any.
theorem round_waits (round : Round agent types f tasks) (registered : ∀ t ∈ tasks, t.taskType ∈ types) (other : Uuid) :
    waiting (tasks.map f) other ≤ waiting tasks other - if agent = other then 1 else 0 := by
  have back : ∀ t ∈ tasks, _ := fun t _ => waiting_back round.finishes other t
  split
  · rename_i same
    subst same
    by_cases waits : ∃ t ∈ tasks, t.agentId = agent ∧ t.status = .pending
    · obtain ⟨t,present,own,pending⟩ := waits
      obtain ⟨u,there,mine,waits,ended⟩ := round.claims t present own pending (registered t present)
      have less : waiting (tasks.map f) agent < waiting tasks agent :=
        Relational.update_counts_fewer back there (by simp [mine,waits]) (by simp [ended])
      omega
    · have none' : waiting tasks agent = 0 := by
        rw [waiting,List.countP_eq_zero]
        intro t present
        simp only [Bool.and_eq_true,decide_eq_true_eq]
        exact fun holds => waits ⟨t,present,holds⟩
      have le : waiting (tasks.map f) agent ≤ waiting tasks agent := Relational.update_counts_le back
      omega
  · exact Relational.update_counts_le back

def Forces (signal : SignalRow) : Prop := signal.signalType = "force_tick" ∧ signal.agentId.isSome

-- What a batch of force_ticks does to the tasks.
def Drained (types : List String) (signals : List SignalRow) (before after : List TaskRow) : Prop :=
  ∃ f, Finishes (MayEnd types before) f ∧ after = before.map f ∧ ((∀ t ∈ before, t.taskType ∈ types) →
    ∀ agent, waiting after agent ≤ waiting before agent - signals.countP fun s => s.agentId = some agent)

theorem drained_nil (types : List String) (tasks : List TaskRow) : Drained types [] tasks tasks :=
  ⟨id,finishes_id _,by simp,by simp⟩

theorem Drained.cons (round : Round agent types f before) (addressee : signal.agentId = some agent)
    (drained : Drained types rest (before.map f) after) : Drained types (signal :: rest) before after := by
  obtain ⟨g,finishes,rfl,fewer⟩ := drained
  refine ⟨g ∘ f,?_,by rw [List.map_map],?_⟩
  · exact Finishes.comp (finishes.weaken fun _ => mayEnd_map round.finishes) round.finishes
  · intro registered other
    have still : ∀ t ∈ before.map f, t.taskType ∈ types := by
      intro u present
      obtain ⟨t,there,rfl⟩ := List.mem_map.mp present
      rw [(round.finishes.keeps t).taskType]
      exact registered t there
    have one := round_waits round registered other
    have more := fewer still other
    rw [List.countP_cons]
    simp only [addressee,Option.some.injEq,decide_eq_true_eq]
    omega

theorem processing_returns (signal : SignalRow) : (fetch (.processing signal)).Returns exec Healthy
    (fun _ agents' db' _ => agents' = agents ∧ db' = db) agents db l := by
  apply fetch_returns (.processing signal)
  · intro c r db' l' done
    cases done
    exact ⟨rfl,rfl⟩
  · exact fun c e => nofun

theorem markProcessed_returns (signal : Uuid) : (fetch (.markProcessed signal)).Returns exec Healthy
    (fun _ agents' db' _ => agents' = agents ∧ db'.investigationTasks = db.investigationTasks) agents db l := by
  apply fetch_returns (.markProcessed signal)
  · intro c r db' l' done
    cases done
    exact ⟨rfl,rfl⟩
  · exact fun c e => nofun

theorem processEach_drains (runtime : Runtime) (works : ∀ entry ∈ runtime.registry, Works entry.2) (signals : List SignalRow)
    (forces : ∀ s ∈ signals, Forces s) (normal : AllNormal agents) :
    (processEach runtime signals).Returns exec Healthy (fun _ _ db' _ =>
      Drained (runtime.registry.map Prod.fst) signals db.investigationTasks db'.investigationTasks) agents db l := by
  induction signals generalizing agents db l with
  | nil => exact ⟨(),rfl,drained_nil _ _⟩
  | cons signal rest ih =>
    obtain ⟨isForce,addressed⟩ := forces signal List.mem_cons_self
    obtain ⟨agent,addressee⟩ := Option.isSome_iff_exists.mp addressed
    have handled : handleSignal runtime signal = handle_agent_tick agent runtime.registry := by
      simp [handleSignal,isForce,addressee]
    apply Method.Returns.bind (processing_returns signal)
    intro _ agents' db' l' same
    obtain ⟨rfl,rfl⟩ := same
    rw [handled]
    apply Method.Returns.bind (handle_agent_tick_round runtime.registry works normal agent)
    intro _ agents' ticked l' worked
    obtain ⟨normal',f,round,same⟩ := worked
    apply Method.Returns.bind (markProcessed_returns signal.id)
    intro _ agents'' marked l'' holds
    obtain ⟨rfl,unchanged⟩ := holds
    apply Method.Returns.imp (ih (fun later present => forces later (List.mem_cons_of_mem _ present)) normal')
    intro _ _ after _ drained
    rw [unchanged,same] at drained
    exact drained.cons round addressee

theorem poll_returns (db : Database) (l : Session) (signals : List SignalRow)
    (unprocessed : ∀ s ∈ signals, s.processed = false) : (fetch .poll).Returns exec Healthy
    (fun polled agents' db' _ => agents' = agents ∧ polled = oldestFirst SignalRow.createdAt signals ∧
      db' = {db with controlSignals := signals}) agents {db with controlSignals := signals} l := by
  have all : signals.filter (!·.processed) = signals :=
    List.filter_eq_self.mpr fun s present => by simp [unprocessed s present]
  apply fetch_returns .poll
  · intro c r db' l' done
    cases done
    exact ⟨rfl,by simp only [all],rfl⟩
  · exact fun c e => nofun

theorem tick_drains (runtime : Runtime) (works : ∀ entry ∈ runtime.registry, Works entry.2) (db : Database)
    (signals : List SignalRow) (forces : ∀ s ∈ signals, Forces s ∧ s.processed = false) (l : Session) :
    (tick runtime).Returns exec Healthy (fun _ _ db' _ =>
      Drained (runtime.registry.map Prod.fst) signals db.investigationTasks db'.investigationTasks)
      [] {db with controlSignals := signals} l := by
  have sorted := List.perm_insertionSort (fun a b : SignalRow => a.createdAt ≤ b.createdAt) signals
  apply Method.Returns.bind (poll_returns db l signals fun s present => (forces s present).2)
  intro polled agents db' l' holds
  obtain ⟨rfl,rfl,rfl⟩ := holds
  apply Method.Returns.imp (processEach_drains runtime works _ ?_ allNormal_nil)
  · intro _ _ after _ drained
    obtain ⟨f,finishes,same,fewer⟩ := drained
    refine ⟨f,finishes,same,fun registered agent => ?_⟩
    rw [← sorted.countP_eq]
    exact fewer registered agent
  · exact fun s present => (forces s (sorted.mem_iff.mp present)).1

-- Some batch of force_ticks for the assigned agents leaves no open task, however
-- the specialists fare.
def Drains (runtime : Runtime) (inv : InvestigationWithTasks) (db : Database) : Prop :=
  ∃ signals : List SignalRow, (signals.map SignalRow.id).Nodup ∧
    (∀ s ∈ signals, s.signalType = "force_tick" ∧ s.processed = false ∧ ∃ t ∈ inv.tasks, s.agentId = some t.agentId) ∧
    (tick runtime).Ensures exec Healthy (fun _ _ db' _ => (openTasks db' inv.investigation.id).length = 0)
      [] {db with controlSignals := signals} .fresh

theorem drained_closed (drafted : Drafted inv types tasks) (drained : Drained registered signals tasks after)
    (all : ∀ type ∈ types, type ∈ registered) (enough : ∀ agent, waiting tasks agent ≤ signals.countP fun s => s.agentId = some agent)
    (present : u ∈ after) : u.open = false := by
  obtain ⟨f,finishes,rfl,fewer⟩ := drained
  obtain ⟨t,before,rfl⟩ := List.mem_map.mp present
  cases finishes.ends t with
  | inr ended => exact ended.2
  | inl same =>
    have typed : ∀ t ∈ tasks, t.taskType ∈ registered := fun t there =>
      all _ (drafted.types ▸ List.mem_map_of_mem there)
    have none' : waiting (tasks.map f) t.agentId = 0 := by
      have le := fewer typed t.agentId
      have covered := enough t.agentId
      omega
    rw [waiting,List.countP_eq_zero] at none'
    have counted := none' (f t) present
    simp [same,(drafted.rows t before).2] at counted

theorem drains_of_registered (works : ∀ entry ∈ runtime.registry, Works entry.2) (created : Created types inv db)
    (all : ∀ type ∈ types, type ∈ runtime.registry.map Prod.fst) : Drains runtime inv db := by
  refine ⟨inv.tasks.map fun t => ⟨t.id,"force_tick",some t.agentId,0,false⟩,?_,?_,?_⟩
  · rw [List.map_map]
    exact created.drafted.ids
  · intro s present
    obtain ⟨t,there,rfl⟩ := List.mem_map.mp present
    exact ⟨rfl,rfl,t,there,rfl⟩
  · apply Method.Ensures.imp (tick_drains runtime works db _ ?_ .fresh)
    · intro result agents db' l holds
      obtain ⟨-,-,drained⟩ := holds
      rw [created.stored] at drained
      rw [List.length_eq_zero_iff,openTasks,List.filter_eq_nil_iff]
      intro u present isOpen
      have closed := drained_closed created.drafted drained all (fun agent => ?_) present
      · simp [closed] at isOpen
      · rw [List.countP_map]
        apply List.countP_mono_left
        intro t _ waits
        simp_all
    · intro s present
      obtain ⟨t,-,rfl⟩ := List.mem_map.mp present
      exact ⟨⟨rfl,rfl⟩,rfl⟩

-- A task of a type that is not registered is claimed by no tick.
theorem not_drains (works : ∀ entry ∈ runtime.registry, Works entry.2) (created : Created types inv db)
    (stuck : type ∈ types) (unregistered : type ∉ runtime.registry.map Prod.fst) : ¬ Drains runtime inv db := by
  intro drains
  obtain ⟨signals,-,forced,empties⟩ := drains
  have forces : ∀ s ∈ signals, Forces s ∧ s.processed = false := by
    intro s present
    obtain ⟨force,unprocessed,t,-,own⟩ := forced s present
    exact ⟨⟨force,Option.isSome_of_eq_some own⟩,unprocessed⟩
  have healthy : Healthy ⟨.answered,0,0,""⟩ := rfl
  obtain ⟨_,db',_,none',_,-,f,finishes,same,-⟩ :=
    Program.Ensures.meet healthy empties (tick_drains runtime works db signals forces .fresh)
  rw [← created.drafted.types] at stuck
  obtain ⟨t,present,rfl⟩ := List.mem_map.mp stuck
  have untouched : f t = t := by
    apply (finishes.ends t).resolve_right
    intro ended
    obtain ⟨u,there,id,registered⟩ := ended.1
    rw [created.stored] at there
    rw [List.inj_on_of_nodup_map created.drafted.ids there present id] at registered
    exact unregistered registered
  have still : t ∈ openTasks db' inv.investigation.id := by
    rw [openTasks,same,created.stored,List.mem_filter]
    refine ⟨List.mem_map.mpr ⟨t,present,untouched⟩,?_⟩
    simp [TaskRow.open,created.drafted.rows t present]
  rw [List.length_eq_zero_iff.mp none'] at still
  cases still

theorem CreateInvestigation_drains_iff (registry : runtime.registry = AGENT_REGISTRY cls) (works : ∀ c, Works (cls c))
    (valid : db.Valid) (alone : db.investigations = []) (question : String) (taskTypes : List String) :
    (CreateInvestigationTx question taskTypes).Ensures exec Healthy (fun result db' _ => ∀ inv, result = .ok inv →
      (Drains runtime inv db' ↔ taskTypes ≠ [] ∧ ∀ type ∈ taskTypes, type ∈ (AGENT_REGISTRY cls).map Prod.fst)) db .fresh := by
  have none' : db.investigationTasks = [] := by
    rw [List.eq_nil_iff_forall_not_mem]
    intro t present
    obtain ⟨i,there,-⟩ := valid.taskInvestigations t present
    rw [alone] at there
    cases there
  have works' : ∀ entry ∈ runtime.registry, Works entry.2 := by
    rw [registry]
    simp [AGENT_REGISTRY,works]
  refine (CreateInvestigationTx_creates none' question taskTypes).imp fun result db' _ creates inv same => ?_
  have created := creates inv same
  rw [← registry]
  constructor
  · intro drains
    by_cases given : taskTypes = []
    · rw [if_pos given] at created
      have unregistered : "consensus" ∉ runtime.registry.map Prod.fst := by simp [registry,AGENT_REGISTRY]
      exact absurd drains (not_drains works' created (by decide) unregistered)
    · rw [if_neg given] at created
      refine ⟨given,fun type present => ?_⟩
      by_contra unregistered
      exact not_drains works' created present unregistered drains
  · intro holds
    obtain ⟨given,all⟩ := holds
    rw [if_neg given] at created
    exact drains_of_registered works' created all

def Specialist.silent : Specialist :=
  ⟨fun taskId investigationId taskPrompt => .done (.ok ⟨some taskId,some investigationId,"",taskPrompt,"","",none,""⟩),
   fun _ _ _ => trivial⟩

def Runtime.staffed : Runtime :=
  ⟨AGENT_REGISTRY fun _ => ⟨.ok .silent⟩,fun _ _ _ => .done (.error (.other "no model")),fun _ _ _ => trivial⟩

theorem staffed_works : Works ⟨.ok .silent⟩ := ⟨_,rfl,fun _ _ _ _ _ => ⟨_,rfl⟩⟩

theorem Database.staffed_valid : Database.staffed.Valid := by
  constructor
  case parents => simp [Database.staffed]
  case signalAgents => simp [Database.staffed]
  all_goals decide

def freshIds (n : Nat) : List Choice := (List.range n).map fun i => ⟨.answered,100,Fin.ofNat _ (i+1),""⟩

theorem freshIds_healthy (n : Nat) : ∀ c ∈ freshIds n, Healthy c := by
  intro c present
  obtain ⟨i,-,rfl⟩ := List.mem_map.mp present
  rfl

def creating (taskTypes : List String) : Option (Except PgError InvestigationWithTasks × Database × Session) :=
  (CreateInvestigationTx "why" taskTypes).play exec (freshIds 20) .staffed .fresh

theorem CreateInvestigation_drains_iff_sample :
    ∃ inv db l, creating ["research","news"] = some (.ok inv,db,l) ∧ Drains .staffed inv db := by
  have ensured := @CreateInvestigation_drains_iff _ .staffed _ rfl (fun _ => staffed_works) Database.staffed_valid rfl
    "why" ["research","news"]
  refine ⟨_,_,_,rfl,?_⟩
  exact (ensured.played (freshIds_healthy 20) rfl _ rfl).mpr ⟨by decide,by decide⟩

theorem default_tasks_never_drain : ¬ ∀ inv db l, creating [] = some (.ok inv,db,l) → Drains .staffed inv db := by
  intro drains
  obtain ⟨inv,db,l,made⟩ : ∃ inv db l, creating [] = some (.ok inv,db,l) := ⟨_,_,_,rfl⟩
  have created := (CreateInvestigationTx_creates rfl "why" []).played (freshIds_healthy 20) made inv rfl
  have works : ∀ entry ∈ Runtime.staffed.registry, Works entry.2 := by simp [Runtime.staffed,AGENT_REGISTRY,staffed_works]
  exact not_drains works created (by decide : "consensus" ∈ defaultTaskTypes) (by decide) (drains inv db l made)

end Trokk
