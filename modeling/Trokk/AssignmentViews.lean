import Trokk.InvestigationCreation

-- A CreateInvestigation beside calls that change the agents: which agents table
-- its tasks were assigned by.
namespace Trokk
open Program

-- UpdateAgent, SetAllActive and CreateAgent commit one statement each.
def Statement.administers : Statement → Bool
  | .updateAgent .. | .setAllActive _ | .insertAgent .. => true
  | _ => false

-- What the call's list of the active agents holds.
def activeIDs (db : Database) : List Uuid := (creationOrder db).map AgentRow.id

-- Ids are keys, and gen_random_uuid() never draws the nil one.
def Keyed (db : Database) : Prop := (db.agents.map AgentRow.id).Nodup ∧ ∀ a ∈ db.agents, a.id ≠ 0

-- The call with the statements it has still to issue, its own record, and every
-- state that was committed since it began.
structure Creating where
  db : Database
  rest : Api (Except PgError InvestigationWithTasks)
  own : Session × Log
  seen : List Database

def Creating.told (σ : Creating) (s : Statement) (next : Except PgError s.Result → Api (Except PgError InvestigationWithTasks))
    (c : Choice) : Creating :=
  let (answer,db,own) := recorded exec s c σ.db σ.own
  ⟨db,next answer,own,σ.seen ++ [db]⟩

def Creating.meanwhile (σ : Creating) (s : Statement) (c : Choice) : Creating :=
  let db := (exec s c σ.db .fresh).2.1
  {σ with db := db,seen := σ.seen ++ [db]}

-- Under READ COMMITTED each statement of the call sees what is committed when it is
-- issued. `may` is asked of the state before each of them.
inductive CreationRuns (question : String) (taskTypes : List String) (may : Creating → Prop) : Creating → Prop where
  | start : Keyed db → CreationRuns question taskTypes may ⟨db,CreateInvestigationTx question taskTypes,(.fresh,[]),[db]⟩
  | own : CreationRuns question taskTypes may σ → σ.rest = .call s next → may σ →
      CreationRuns question taskTypes may (σ.told s next c)
  | other : CreationRuns question taskTypes may σ → s.administers = true → c.random ≠ 0 →
      CreationRuns question taskTypes may (σ.meanwhile s c)

-- The tables that the call found when it read the active agents.
def readTables (log : Log) : List Database := (log.filter (·.statement = .activeAgents)).map (·.before)

-- A repeated read gives the type at hand the agent that the first one gave it.
def ReadsAlike (taskTypes : List String) (σ : Creating) : Prop :=
  ∀ next, σ.rest = .call .activeAgents next → ∀ first ∈ (readTables σ.own.2).head?,
    ∀ type ∈ (requestedTypes taskTypes)[(readTables σ.own.2).length]?,
      assignee (activeIDs σ.db) type = assignee (activeIDs first) type

-- One committed table explains every assignment.
def OneView (seen : List Database) (inv : InvestigationWithTasks) : Prop :=
  ∃ db ∈ seen, ∀ t ∈ inv.tasks, t.agentId = assignee (activeIDs db) t.taskType

instance (seen : List Database) (inv : InvestigationWithTasks) : Decidable (OneView seen inv) :=
  inferInstanceAs (Decidable (∃ db ∈ seen, ∀ t ∈ inv.tasks, t.agentId = assignee (activeIDs db) t.taskType))

-- Each task goes where the table of its own read sends it.
def Placed (log : Log) (tasks : List TaskRow) : Prop :=
  List.Forall₂ (fun db t => t.agentId = assignee (activeIDs db) t.taskType) (readTables log) tasks

theorem readTables_snoc (log : Log) (e : Entry Statement Statement.Result PgError Database Choice) :
    readTables (log ++ [e]) = readTables log ++ if e.statement = .activeAgents then [e.before] else [] := by
  unfold readTables
  rw [List.filter_append,List.map_append]
  congr 1
  by_cases reads : e.statement = .activeAgents
  · simp [reads]
  · simp [reads]

-- Whatever the tables become between two statements.
abbrev Anyhow (x : Api A) (post : A → Log → Prop) (db : Database) (l : Session × Log) : Prop :=
  x.Secure (recorded exec) (fun _ => True) (fun _ => True) (fun _ _ => True) (fun a _ l => post a l.2) db l

theorem anyhow_query {f : Except PgError s.Result → Api (Except PgError A)} {post : A → Log → Prop}
    (failed : ∀ err, f (.error err) = .done (.error err))
    (ok : ∀ c r db db' l', perform c db l.1 s = .ok (r,db',l') → ∀ e, e.statement = s → e.before = db →
      Anyhow (f (.ok r)) (fun result log => ∀ a, result = .ok a → post a log) db' (l',l.2 ++ [e])) :
    Anyhow (query s >>= f) (fun result log => ∀ a, result = .ok a → post a log) db l := by
  intro d _ _ c
  refine ⟨trivial,trivial,trivial,?_⟩
  change Anyhow (f (exec s c d l.1).1) (fun result log => ∀ a, result = .ok a → post a log) (exec s c d l.1).2.1 ((exec s c d l.1).2.2,l.2 ++ [entry exec s c d l.1])
  cases answer : (exec s c d l.1).1 with
  | error err =>
    rw [failed]
    exact fun _ _ _ _ => nofun
  | ok r => exact ok c r d _ _ (exec_ok answer) _ rfl rfl

theorem insertTasks_places (row : InvestigationRow) (question : String) (types : List String) {l : Session × Log}
    (placed : Placed l.2 tasks) (typed : tasks.map TaskRow.taskType = before) :
    Anyhow (insertTasks row question types tasks) (fun result log => ∀ tasks, result = .ok tasks →
      Placed log tasks ∧ tasks.map TaskRow.taskType = before ++ types) db l := by
  induction types generalizing tasks before db l with
  | nil =>
    intro _ _ _ tasks same
    cases same
    exact ⟨placed,by simpa using typed⟩
  | cons type rest ih =>
    refine anyhow_query (fun _ => rfl) fun c agentIDs at' db l' done e statement found => ?_
    cases done
    refine anyhow_query (fun _ => rfl) fun c task at'' db l'' done e' statement' _ => ?_
    obtain ⟨_,-,rfl,-⟩ := insertTask_done done
    rw [List.append_cons before type rest]
    refine ih ?_ (by rw [List.map_append,typed,List.map_singleton])
    have reads : readTables (l.2 ++ [e] ++ [e']) = readTables l.2 ++ [at'] := by
      simp only [readTables_snoc,statement,statement',found,if_pos,reduceCtorEq,if_false,List.append_nil]
    unfold Placed
    rw [reads]
    exact List.rel_append placed (.cons rfl .nil)

theorem commit_places (inv : InvestigationWithTasks) {l : Session × Log} (placed : Placed l.2 inv.tasks)
    (typed : inv.tasks.map TaskRow.taskType = types) :
    Anyhow (query .commit >>= fun | .error err => .done (.error err) | .ok () => .done (.ok inv) :
        Api (Except PgError InvestigationWithTasks))
      (fun result log => ∀ inv, result = .ok inv → Placed log inv.tasks ∧ inv.tasks.map TaskRow.taskType = types) db l := by
  refine anyhow_query (fun _ => rfl) fun c _ at' db l' done e statement _ => ?_
  intro _ _ _ inv same
  cases same
  unfold Placed
  rw [readTables_snoc,statement,if_neg nofun,List.append_nil]
  exact ⟨placed,typed⟩

theorem CreateInvestigationTx_places (question : String) (taskTypes : List String) (db : Database) :
    Anyhow (CreateInvestigationTx question taskTypes) (fun result log => ∀ inv, result = .ok inv →
      Placed log inv.tasks ∧ inv.tasks.map TaskRow.taskType = requestedTypes taskTypes) db (.fresh,[]) := by
  refine anyhow_query (fun _ => rfl) fun c _ at' db l' done e statement _ => ?_
  refine anyhow_query (fun _ => rfl) fun c row at'' db l'' done e' statement' _ => ?_
  have none' : Placed ([] ++ [e] ++ [e']) [] := by
    unfold Placed
    simp only [readTables_snoc,statement,statement',reduceCtorEq,if_false,List.append_nil]
    exact .nil
  refine Secure.bind (fun _ => trivial) trivial trivial
    (insertTasks_places row question (requestedTypes taskTypes) none' rfl) fun result db l _ _ placed => ?_
  cases result with
  | error err => exact fun _ _ _ _ => nofun
  | ok tasks =>
    obtain ⟨placed,typed⟩ := placed tasks rfl
    exact commit_places ⟨row,tasks⟩ placed typed

section
variable {question : String} {taskTypes : List String} {may : Creating → Prop} {σ : Creating}

theorem runs_place (run : CreationRuns question taskTypes may σ) :
    Anyhow σ.rest (fun result log => ∀ inv, result = .ok inv →
      Placed log inv.tasks ∧ inv.tasks.map TaskRow.taskType = requestedTypes taskTypes) σ.db σ.own := by
  induction run with
  | start => exact CreateInvestigationTx_places question taskTypes _
  | @own σ s next c _ calls _ ih =>
    rw [calls] at ih
    exact (ih σ.db trivial trivial c).2.2.2
  | other _ _ _ ih => exact ih.moved (fun _ _ _ _ _ => trivial) trivial

-- Every table that the call found was committed while it ran.
theorem runs_seen (run : CreationRuns question taskTypes may σ) : σ.db ∈ σ.seen ∧ ∀ e ∈ σ.own.2, e.before ∈ σ.seen := by
  induction run with
  | start => exact ⟨List.mem_singleton_self _,fun _ member => absurd member List.not_mem_nil⟩
  | @own σ s next c _ _ _ ih =>
    refine ⟨List.mem_append_right _ (List.mem_singleton_self _),fun e member => List.mem_append_left _ ?_⟩
    cases List.mem_append.mp member with
    | inl old => exact ih.2 e old
    | inr added =>
      rw [List.mem_singleton.mp added]
      exact ih.1
  | other _ _ _ ih =>
    exact ⟨List.mem_append_right _ (List.mem_singleton_self _),fun e member => List.mem_append_left _ (ih.2 e member)⟩

-- All reads so far agree with the first on the types they were made for.
def Alike (taskTypes : List String) (log : Log) : Prop :=
  ∀ first ∈ (readTables log).head?, ∀ i : Nat, ∀ db ∈ (readTables log)[i]?, ∀ type ∈ (requestedTypes taskTypes)[i]?,
    assignee (activeIDs db) type = assignee (activeIDs first) type

theorem runs_alike (run : CreationRuns question taskTypes (ReadsAlike taskTypes) σ) : Alike taskTypes σ.own.2 := by
  induction run with
  | start => exact nofun
  | @own σ s next c _ calls alike ih =>
    change Alike taskTypes (σ.own.2 ++ [entry exec s c σ.db σ.own.1])
    unfold Alike
    rw [readTables_snoc]
    split
    · rename_i reads
      change s = .activeAgents at reads
      subst reads
      have again := alike next calls
      intro first isFirst i db found type requested
      by_cases before : i < (readTables σ.own.2).length
      · have nonempty : readTables σ.own.2 ≠ [] := by
          intro empty
          rw [empty] at before
          exact Nat.not_lt_zero i before
        rw [List.head?_append_of_ne_nil _ nonempty] at isFirst
        rw [List.getElem?_append_left before] at found
        exact ih first isFirst i db found type requested
      · have last : i = (readTables σ.own.2).length := by
          have short := (List.getElem?_eq_some_iff.mp found).1
          rw [List.length_append,List.length_singleton] at short
          omega
        subst last
        rw [List.getElem?_concat_length] at found
        cases found
        cases earlier : (readTables σ.own.2).head? with
        | none =>
          rw [List.head?_append,earlier] at isFirst
          cases isFirst
          rfl
        | some d =>
          rw [List.head?_append,earlier] at isFirst
          cases isFirst
          exact again _ earlier type requested
    · rw [List.append_nil]
      exact ih
  | other _ _ _ ih => exact ih

theorem keyed_map {f : AgentRow → AgentRow} (ids : ∀ a, (f a).id = a.id) (keyed : Keyed db) :
    Keyed {db with agents := db.agents.map f} := by
  constructor
  · have same : (db.agents.map f).map AgentRow.id = db.agents.map AgentRow.id := by
      rw [List.map_map]
      exact List.map_congr_left fun a _ => ids a
    exact same ▸ keyed.1
  · intro a member
    obtain ⟨b,present,rfl⟩ := List.mem_map.mp member
    rw [ids]
    exact keyed.2 b present

theorem keyed_insert {a : AgentRow} (keyed : Keyed db) (fresh : ∀ b ∈ db.agents, b.id ≠ a.id) (drawn : a.id ≠ 0) :
    Keyed {db with agents := db.agents ++ [a]} := by
  constructor
  · rw [List.map_append]
    refine keyed.1.append (List.nodup_singleton _) fun id left right => ?_
    obtain ⟨b,member,rfl⟩ := List.mem_map.mp left
    exact fresh b member (List.mem_singleton.mp right)
  · exact List.forall_mem_append.mpr ⟨keyed.2,List.forall_mem_singleton.mpr drawn⟩

theorem administers_keyed (administers : s.administers = true) (drawn : c.random ≠ 0) (keyed : Keyed db) (l : Session) :
    Keyed (exec s c db l).2.1 := by
  have performed {r : s.Result} {db' : Database} {l' : Session} (done : perform c db l s = .ok (r,db',l')) : Keyed db' := by
    cases s
    case insertAgent =>
      obtain ⟨rfl,rfl,-,fresh⟩ := insertAgent_done done
      exact keyed_insert keyed (fun b member => (fresh b member).1) drawn
    case updateAgent target req =>
      have ids : ∀ a : AgentRow, (if a.id = target then a.update req else a).id = a.id := by
        intro a
        split <;> rfl
      simp only [perform] at done
      split at done
      · cases done
      · split at done <;> cases done
        exact keyed_map ids keyed
    case setAllActive =>
      cases done
      exact keyed_map (fun _ => rfl) keyed
    all_goals cases administers
  unfold exec
  split
  · exact keyed
  · cases done : perform c db l s with
    | error e => exact keyed
    | ok result => exact performed done
  · cases done : perform c db l s with
    | error e => exact keyed
    | ok result => exact performed done

-- The statements of the call itself leave the agents alone.
theorem creating_agents (issued : s.reads ∨ s = .commit) (c : Choice) (db : Database) (l : Session) :
    (exec s c db l).2.1.agents = db.agents := by
  cases issued with
  | inl reads => rw [exec_reads s c db l reads]
  | inr commits =>
    subst commits
    have effect := exec_effect c db l .commit
    generalize (exec .commit c db l).2.1 = db' at effect
    cases effect with
    | none => rfl
    | commit => rfl

theorem runs_issue (run : CreationRuns question taskTypes may σ) : σ.rest.Only fun s => s.reads ∨ s = .commit := by
  induction run with
  | start =>
    exact createInvestigationTx_only (.inl trivial) (fun _ => .inl trivial) (.inl trivial) (fun _ _ _ _ => .inl trivial)
      (.inr rfl) question taskTypes
  | own _ calls _ ih =>
    rw [calls] at ih
    exact ih.2 _
  | other _ _ _ ih => exact ih

theorem runs_keyed (run : CreationRuns question taskTypes may σ) : Keyed σ.db ∧ ∀ db ∈ σ.seen, Keyed db := by
  induction run with
  | start keyed => exact ⟨keyed,fun db member => List.mem_singleton.mp member ▸ keyed⟩
  | @own σ s next c before calls _ ih =>
    have issued := runs_issue before
    rw [calls] at issued
    have keyed : Keyed (σ.told s next c).db := by
      unfold Keyed
      rw [show (σ.told s next c).db.agents = σ.db.agents from creating_agents issued.1 c σ.db σ.own.1]
      exact ih.1
    exact ⟨keyed,List.forall_mem_append.mpr ⟨ih.2,List.forall_mem_singleton.mpr keyed⟩⟩
  | other _ administers drawn ih =>
    have keyed := administers_keyed administers drawn ih.1 .fresh
    exact ⟨keyed,List.forall_mem_append.mpr ⟨ih.2,List.forall_mem_singleton.mpr keyed⟩⟩

-- The table of the first read explains all assignments.
theorem alike_one_view (run : CreationRuns question taskTypes may σ) (alike : Alike taskTypes σ.own.2)
    (ended : σ.rest = .done (.ok inv)) : OneView σ.seen inv := by
  have placing := runs_place run
  rw [ended] at placing
  obtain ⟨placed,typed⟩ := placing σ.db trivial trivial inv rfl
  obtain ⟨current,found⟩ := runs_seen run
  cases first : (readTables σ.own.2).head? with
  | none =>
    rw [List.head?_eq_none_iff] at first
    unfold Placed at placed
    rw [first] at placed
    cases tasks : inv.tasks with
    | nil => exact ⟨σ.db,current,by simp [tasks]⟩
    | cons t rest =>
      rw [tasks] at placed
      cases placed
  | some db =>
    obtain ⟨e,member,rfl⟩ := List.mem_map.mp (List.mem_of_mem_head? first)
    refine ⟨e.before,found e (List.mem_of_mem_filter member),fun t isTask => ?_⟩
    obtain ⟨i,short,rfl⟩ := List.getElem_of_mem isTask
    have read : i < (readTables σ.own.2).length := placed.length_eq ▸ short
    refine (placed.get read short).trans ?_
    refine alike e.before first i _ (List.getElem?_eq_getElem read) _ ?_
    rw [← typed,List.getElem?_map,List.getElem?_eq_getElem short]
    rfl

-- A table with eight active agents gives different known types different agents.
theorem assigned_apart (keyed : Keyed db) (eight : 8 ≤ (creationOrder db).length) (known : type ∈ defaultTaskTypes)
    (known' : type' ∈ defaultTaskTypes) (apart : type ≠ type') : assignee (activeIDs db) type ≠ assignee (activeIDs db) type' := by
  have staffed : creationOrder db ≠ [] := by
    intro empty
    rw [empty] at eight
    exact absurd eight (by decide)
  have prescribed := assignee_prescribed (fun a inOrder => keyed.2 a (creationOrder_active inOrder).1) staffed
  exact prescribed_apart (creationOrder_ids keyed.1) eight (prescribed type) (prescribed type') known known' apart

end

-- Research goes to Ada; while the call is between two iterations she is deactivated,
-- and news goes to the agent that has moved up to the second place.
def Database.threeAgents : Database where
  agents := [⟨1,"ada","Ada",some "",none,"tk_agent_ada",some 10,some true⟩,⟨2,"bob","Bob",some "",none,"tk_agent_bob",some 20,some true⟩,
    ⟨3,"cyd","Cyd",some "",none,"tk_agent_cyd",some 30,some true⟩]

def drawing (id : Uuid) : Choice := ⟨.answered,100,id,""⟩

theorem assignment_shifts : ¬ ∀ question taskTypes σ inv, CreationRuns question taskTypes (fun _ => True) σ →
    σ.rest = .done (.ok inv) → OneView σ.seen inv := by
  intro always
  have start : CreationRuns "why" ["research","news"] (fun _ => True)
      ⟨.threeAgents,CreateInvestigationTx "why" ["research","news"],(.fresh,[]),[.threeAgents]⟩ := .start ⟨by decide,by decide⟩
  have began := CreationRuns.own (c := drawing 100) start rfl trivial
  have asked := CreationRuns.own (c := drawing 101) began rfl trivial
  have listed := CreationRuns.own (c := drawing 102) asked rfl trivial
  have researched := CreationRuns.own (c := drawing 103) listed rfl trivial
  have paused := CreationRuns.other (s := .updateAgent 1 ⟨none,none,none,some false⟩) (c := drawing 104) researched rfl (by decide)
  have relisted := CreationRuns.own (c := drawing 105) paused rfl trivial
  have reported := CreationRuns.own (c := drawing 106) relisted rfl trivial
  have committed := CreationRuns.own (c := drawing 107) reported rfl trivial
  exact absurd (always _ _ _ _ committed rfl) (by decide)

theorem tasks_share_one_view (run : CreationRuns question taskTypes (ReadsAlike taskTypes) σ) (ended : σ.rest = .done (.ok inv)) :
    OneView σ.seen inv ∧ ((∀ db ∈ σ.seen, 8 ≤ (creationOrder db).length) →
      ∀ t ∈ inv.tasks, ∀ t' ∈ inv.tasks, t.taskType ∈ defaultTaskTypes → t'.taskType ∈ defaultTaskTypes →
        t.taskType ≠ t'.taskType → t.agentId ≠ t'.agentId) := by
  have view := alike_one_view run (runs_alike run) ended
  refine ⟨view,fun eight t member t' member' known known' apart => ?_⟩
  obtain ⟨db,seen,assigned⟩ := view
  rw [assigned t member,assigned t' member']
  exact assigned_apart ((runs_keyed run).2 db seen) (eight db seen) known known' apart

-- Bob and Ada keep their places when Cyd is deactivated between the iterations.
theorem tasks_share_one_view_sample : ∃ (σ : Creating) (inv : InvestigationWithTasks), σ.rest = .done (.ok inv) ∧ inv.tasks.length = 2 ∧ OneView σ.seen inv := by
  have start : CreationRuns "why" ["research","news"] (ReadsAlike ["research","news"])
      ⟨.threeAgents,CreateInvestigationTx "why" ["research","news"],(.fresh,[]),[.threeAgents]⟩ := .start ⟨by decide,by decide⟩
  have began := CreationRuns.own (c := drawing 100) start rfl (fun _ => nofun)
  have asked := CreationRuns.own (c := drawing 101) began rfl (fun _ => nofun)
  have listed := CreationRuns.own (c := drawing 102) asked rfl (fun _ _ => nofun)
  have researched := CreationRuns.own (c := drawing 103) listed rfl (fun _ => nofun)
  have paused := CreationRuns.other (s := .updateAgent 3 ⟨none,none,none,some false⟩) (c := drawing 104) researched rfl (by decide)
  have relisted := CreationRuns.own (c := drawing 105) paused rfl (by
    intro next _ first isFirst type requested
    cases isFirst
    cases requested
    decide)
  have reported := CreationRuns.own (c := drawing 106) relisted rfl (fun _ => nofun)
  have committed := CreationRuns.own (c := drawing 107) reported rfl (fun _ => nofun)
  exact ⟨_,_,rfl,rfl,(tasks_share_one_view committed rfl).1⟩

end Trokk
