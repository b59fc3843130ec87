import Trokk.ErrorAnswers
import Trokk.TaskDrain

-- What one CreateInvestigation stores, and to whom it gives the tasks.
namespace Trokk
open Program

-- ORDER BY a.created_at over the active agents.
def creationOrder (db : Database) : List AgentRow := oldestFirst AgentRow.created (db.agents.filter (·.active = some true))

-- The agent at the fixed position of a type where there is one, the most recently
-- created one otherwise.
def Prescribed (order : List AgentRow) (type : String) (id : Uuid) : Prop :=
  ∃ a, (((taskPosition type).bind (order[·]?)).orElse fun _ => order.getLast?) = some a ∧ id = a.id

theorem position_type (known : taskPosition type = some i) : defaultTaskTypes[i]? = some type := by
  unfold taskPosition at known
  split_ifs at known with h0 h1 h2 h3 h4 h5 h6 h7
  all_goals
    cases known
    subst type
    rfl

theorem known_position : ∀ type ∈ defaultTaskTypes, ∃ i < 8, taskPosition type = some i := by decide

theorem assignee_prescribed {order : List AgentRow} (nonNil : ∀ a ∈ order, a.id ≠ 0) (staffed : order ≠ []) (type : String) :
    Prescribed order type (assignee (order.map AgentRow.id) type) := by
  have positions : ((taskPosition type).bind ((order.map AgentRow.id)[·]?)) =
      ((taskPosition type).bind (order[·]?)).map AgentRow.id := by
    cases taskPosition type with
    | none => rfl
    | some i => exact List.getElem?_map
  unfold Prescribed assignee
  rw [positions]
  cases found : (taskPosition type).bind (order[·]?) with
  | some a =>
    have there : a ∈ order := by
      obtain ⟨i,_,hit⟩ := Option.bind_eq_some_iff.mp found
      exact List.mem_of_getElem? hit
    refine ⟨a,rfl,?_⟩
    simp [nonNil a there]
  | none =>
    refine ⟨order.getLast staffed,by simp [List.getLast?_eq_some_getLast staffed],?_⟩
    simp [List.getLast?_map,List.getLast?_eq_some_getLast staffed]

theorem prescribed_member (prescribed : Prescribed order type chosen) : ∃ a ∈ order, a.id = chosen := by
  obtain ⟨a,hit,rfl⟩ := prescribed
  refine ⟨a,?_,rfl⟩
  cases found : (taskPosition type).bind (order[·]?) with
  | some b =>
    rw [found] at hit
    cases hit
    obtain ⟨i,_,hit⟩ := Option.bind_eq_some_iff.mp found
    exact List.mem_of_getElem? hit
  | none =>
    rw [found] at hit
    exact List.mem_of_getLast? hit

-- With eight agents no known type falls back, and no two share a position.
theorem prescribed_apart {order : List AgentRow} (distinct : (order.map AgentRow.id).Nodup) (eight : 8 ≤ order.length)
    (one : Prescribed order type first) (two : Prescribed order type' second) (known : type ∈ defaultTaskTypes)
    (known' : type' ∈ defaultTaskTypes) (apart : type ≠ type') : first ≠ second := by
  obtain ⟨i,short,at'⟩ := known_position type known
  obtain ⟨j,short',at''⟩ := known_position type' known'
  obtain ⟨a,hit,rfl⟩ := one
  obtain ⟨b,hit',rfl⟩ := two
  have here : order.get ⟨i,by omega⟩ = a := by simpa [at',List.getElem?_eq_getElem (by omega : i < order.length)] using hit
  have there : order.get ⟨j,by omega⟩ = b := by simpa [at'',List.getElem?_eq_getElem (by omega : j < order.length)] using hit'
  intro same
  rw [← here,← there] at same
  have indices : i = j := by
    have bound : i < (order.map AgentRow.id).length := by simp; omega
    have bound' : j < (order.map AgentRow.id).length := by simp; omega
    refine (@List.Nodup.getElem_inj_iff _ _ distinct i bound j bound').mp ?_
    simpa using same
  subst indices
  exact apart (Option.some.inj ((position_type at').symm.trans (position_type at'')))

theorem creationOrder_active (member : a ∈ creationOrder db) : a ∈ db.agents ∧ a.active = some true := by
  rw [creationOrder,oldestFirst,List.mem_insertionSort,List.mem_filter] at member
  exact ⟨member.1,of_decide_eq_true member.2⟩

theorem creationOrder_ids {db : Database} (ids : (db.agents.map AgentRow.id).Nodup) :
    ((creationOrder db).map AgentRow.id).Nodup := by
  have sorted := (List.perm_insertionSort (fun a b : AgentRow => a.created ≤ b.created)
    (db.agents.filter (·.active = some true))).map AgentRow.id
  exact sorted.nodup_iff.mpr (ids.sublist (List.filter_sublist.map AgentRow.id))

instance : LT (WithTop Timestamptz) := WithTop.instLT

-- Distinct creation times leave one order.
theorem creationOrder_sorted {db : Database} (times : (db.agents.map AgentRow.created).Nodup) :
    (creationOrder db).Pairwise fun a b => a.created < b.created := by
  have ordered : (creationOrder db).Pairwise fun a b => a.created ≤ b.created :=
    List.pairwise_insertionSort (fun a b : AgentRow => a.created ≤ b.created) _
  have sorted := (List.perm_insertionSort (fun a b : AgentRow => a.created ≤ b.created)
    (db.agents.filter (·.active = some true))).map AgentRow.created
  have distinct := List.pairwise_map.mp (sorted.nodup_iff.mpr (times.sublist (List.filter_sublist.map AgentRow.created)))
  exact (ordered.and distinct).imp fun both => lt_of_le_of_ne both.1 both.2

def FailedEntry (e : Entry Statement Statement.Result PgError Database Choice) : Prop := ∃ err, e.answer = .error err

-- A COMMIT that took effect though its answer was lost.
def CommitLost (log : Log) : Prop := ∃ e ∈ log, e.statement = .commit ∧ e.choice.fate = .lost

-- A run alone from `db`: it failed, some statement of it did, and nothing is left but
-- what a lost COMMIT leaves; or it ended well and so did each statement.
def Resolved (db : Database) (unheard : Database → Prop) (post : A → Database → Session → Prop) (result : Except PgError A)
    (db' : Database) (l : Session × Log) : Prop :=
  match result with
  | .error _ => (∃ e ∈ l.2, FailedEntry e) ∧ (db' = db ∨ CommitLost l.2 ∧ unheard db')
  | .ok a => (∀ e ∈ l.2, ¬ FailedEntry e) ∧ post a db' l.1

abbrev Resolves (x : Api (Except PgError A)) (unheard : Database → Prop) (post : A → Database → Session → Prop) (db : Database)
    (l : Session) (log : Log) : Prop :=
  x.Ensures (recorded exec) (fun _ => True) (Resolved db unheard post) db (l,log)

section
variable {db : Database} {l : Session} {log : Log} {unheard : Database → Prop}

theorem clean_log {e : Entry Statement Statement.Result PgError Database Choice} (clean : ∀ e ∈ log, ¬ FailedEntry e)
    (added : ¬ FailedEntry e) : ∀ e' ∈ log ++ [e], ¬ FailedEntry e' := by
  intro e' member
  cases List.mem_append.mp member with
  | inl old => exact clean e' old
  | inr new => exact List.mem_singleton.mp new ▸ added

-- A statement inside the transaction fails, or goes through; then what follows
-- starts from the same tables.
theorem resolves_query {f : Except PgError s.Result → Api (Except PgError A)} {post : A → Database → Session → Prop}
    (clean : ∀ e ∈ log, ¬ FailedEntry e) (reads : s.reads) (failed : ∀ err, f (.error err) = .done (.error err))
    (ok : ∀ c r l' log', (∀ e ∈ log', ¬ FailedEntry e) → perform c db l s = .ok (r,db,l') → Resolves (f (.ok r)) unheard post db l' log') :
    Resolves (query s >>= f) unheard post db l log := by
  intro c _
  change ((f (exec s c db l).1).Ensures _ _ _ (exec s c db l).2.1 ((exec s c db l).2.2,log ++ [entry exec s c db l]))
  have same := exec_reads s c db l reads
  cases answer : (exec s c db l).1 with
  | error err =>
    rw [failed]
    refine ⟨⟨entry exec s c db l,by simp,err,answer⟩,.inl ?_⟩
    exact same
  | ok r =>
    have done := exec_ok answer
    have added : ¬ FailedEntry (entry exec s c db l) := by
      rintro ⟨err,failed⟩
      cases answer.symm.trans failed
    generalize at' : exec s c db l = told at same answer done
    obtain ⟨_,db',l'⟩ := told
    cases same
    exact ok c r l' _ (clean_log clean added) done

theorem resolves_bind {x : Api (Except PgError A)} {f : Except PgError A → Api (Except PgError B)}
    {middle : A → Database → Session → Prop} {post : B → Database → Session → Prop} (first : Resolves x (fun _ => False) middle db l log)
    (failed : ∀ err, f (.error err) = .done (.error err))
    (ok : ∀ a db' l' log', (∀ e ∈ log', ¬ FailedEntry e) → middle a db' l' →
      (f (.ok a)).Ensures (recorded exec) (fun _ => True) (Resolved db unheard post) db' (l',log')) :
    Resolves (x >>= f) unheard post db l log := by
  apply Program.Ensures.bind
  apply first.imp
  intro result db' l' resolved
  cases result with
  | error err =>
    rw [failed]
    exact ⟨resolved.1,.inl (resolved.2.resolve_right fun lost => lost.2)⟩
  | ok a => exact ok a db' l'.1 l'.2 resolved.1 resolved.2

-- A task as its INSERT stored it.
structure Assigned (db : Database) (question : String) (t : TaskRow) : Prop where
  prompt : t.taskPrompt = "Investigate: " ++ question
  agent : t.agentId = assignee ((creationOrder db).map AgentRow.id) t.taskType
  present : ∃ a ∈ db.agents, a.id = t.agentId

theorem insertTasks_resolves (row : InvestigationRow) (question : String) (types : List String)
    (clean : ∀ e ∈ log, ¬ FailedEntry e) (opened : l.tx = some ⟨now,[row],tasks⟩) (drafted : Drafted row.id before tasks)
    (assigned : ∀ t ∈ tasks, Assigned db question t) :
    Resolves (insertTasks row question types tasks) unheard (fun tasks db' l' => db' = db ∧ l'.tx = some ⟨now,[row],tasks⟩ ∧
      Drafted row.id (before ++ types) tasks ∧ ∀ t ∈ tasks, Assigned db question t) db l log := by
  induction types generalizing tasks before l log with
  | nil => exact ⟨clean,rfl,opened,by simpa using drafted,assigned⟩
  | cons type rest ih =>
    refine resolves_query clean trivial (fun _ => rfl) fun c agentIDs l' log' clean' done => ?_
    cases done
    refine resolves_query clean' trivial (fun _ => rfl) fun c task l' log' clean' done => ?_
    obtain ⟨tx,opened',rfl,-,rfl,fresh,agent,-⟩ := insertTask_done done
    cases opened.symm.trans opened'
    rw [List.append_cons before type rest]
    refine ih clean' rfl (drafted_next drafted fresh) fun t member => ?_
    cases List.mem_append.mp member with
    | inl old => exact assigned t old
    | inr added =>
      rw [List.mem_singleton.mp added]
      exact ⟨rfl,rfl,agent⟩

theorem commit_resolves (clean : ∀ e ∈ log, ¬ FailedEntry e) (opened : l.tx = some tx) (inv : InvestigationWithTasks) :
    Resolves (query .commit >>= fun | .error e => .done (.error e) | .ok () => .done (.ok inv))
      (fun db' => db' = {db with
        investigations := db.investigations ++ tx.investigations
        investigationTasks := db.investigationTasks ++ tx.tasks})
      (fun answered db' _ => answered = inv ∧ db' = {db with
        investigations := db.investigations ++ tx.investigations
        investigationTasks := db.investigationTasks ++ tx.tasks}) db l log := by
  intro c _
  change ((match (exec .commit c db l).1 with | .error e => _ | .ok () => _ : Api _).Ensures _ _ _ (exec .commit c db l).2.1
    ((exec .commit c db l).2.2,log ++ [entry exec .commit c db l]))
  cases answer : (exec .commit c db l).1 with
  | error err =>
    refine ⟨⟨entry exec .commit c db l,by simp,err,answer⟩,?_⟩
    by_cases lost : c.fate = .lost
    · have effect := exec_effect c db l .commit
      generalize (exec .commit c db l).2.1 = db' at effect
      cases effect with
      | none => exact .inl rfl
      | @commit tx' begun _ _ =>
        cases opened.symm.trans begun
        exact .inr ⟨⟨entry exec .commit c db l,by simp,rfl,lost⟩,rfl⟩
    · exact .inl (exec_refused lost answer)
  | ok r =>
    have done := exec_ok answer
    have added : ¬ FailedEntry (entry exec .commit c db l) := by
      rintro ⟨err,failed⟩
      cases answer.symm.trans failed
    refine ⟨clean_log clean added,rfl,?_⟩
    obtain ⟨tx',opened',same,-⟩ := commit_done done
    cases opened.symm.trans opened'
    exact same

end

-- What a successful call has committed over `db`.
structure CreatedExactly (db db' : Database) (question : String) (types : List String) (inv : InvestigationWithTasks) : Prop where
  committed : db' = {db with
    investigations := db.investigations ++ [inv.investigation]
    investigationTasks := db.investigationTasks ++ inv.tasks}
  investigation : inv.investigation.status = .inProgress ∧ inv.investigation.question = question
  types : inv.tasks.map TaskRow.taskType = types
  rows : ∀ t ∈ inv.tasks, t.status = .pending ∧ t.investigationId = inv.investigation.id ∧ t.taskPrompt = "Investigate: " ++ question
  separate : (inv.tasks.map TaskRow.id).Nodup
  prescribed : ∀ t ∈ inv.tasks, Prescribed (creationOrder db) t.taskType t.agentId
  active : ∀ t ∈ inv.tasks, ∃ a ∈ db.agents, a.active = some true ∧ a.id = t.agentId
  apart : 8 ≤ (creationOrder db).length → ∀ t ∈ inv.tasks, ∀ t' ∈ inv.tasks, t.taskType ∈ defaultTaskTypes →
    t'.taskType ∈ defaultTaskTypes → t.taskType ≠ t'.taskType → t.agentId ≠ t'.agentId

def requestedTypes (taskTypes : List String) : List String := if taskTypes = [] then defaultTaskTypes else taskTypes

theorem requestedTypes_some (taskTypes : List String) : requestedTypes taskTypes ≠ [] := by
  unfold requestedTypes
  split
  · decide
  · assumption

-- A call that drafted its tasks had someone to give them to.
theorem drafted_exactly {db : Database} (ids : (db.agents.map AgentRow.id).Nodup) (nonNil : ∀ a ∈ db.agents, a.id ≠ 0)
    {inv : InvestigationWithTasks} (row : inv.investigation.status = .inProgress ∧ inv.investigation.question = question)
    (drafted : Drafted inv.investigation.id (requestedTypes taskTypes) inv.tasks)
    (assigned : ∀ t ∈ inv.tasks, Assigned db question t) (committed : db' = {db with
      investigations := db.investigations ++ [inv.investigation]
      investigationTasks := db.investigationTasks ++ inv.tasks}) :
    (∃ a ∈ db.agents, a.active = some true) ∧ CreatedExactly db db' question (requestedTypes taskTypes) inv := by
  have staffed : creationOrder db ≠ [] := by
    intro empty
    cases some' : inv.tasks with
    | nil => exact requestedTypes_some taskTypes (by rw [← drafted.types,some']; rfl)
    | cons t rest =>
      have own := assigned t (some' ▸ List.mem_cons_self)
      obtain ⟨a,present,same⟩ := own.present
      refine nonNil a present (same.trans (own.agent.trans ?_))
      simp [assignee,empty]
  have prescribed : ∀ t ∈ inv.tasks, Prescribed (creationOrder db) t.taskType t.agentId := fun t member =>
    (assigned t member).agent ▸
      assignee_prescribed (fun a inOrder => nonNil a (creationOrder_active inOrder).1) staffed t.taskType
  constructor
  · obtain ⟨a,member⟩ := List.exists_mem_of_ne_nil _ staffed
    exact ⟨a,creationOrder_active member⟩
  · refine ⟨committed,row,drafted.types,?_,drafted.ids,prescribed,?_,?_⟩
    · intro t member
      obtain ⟨own,pending⟩ := drafted.rows t member
      exact ⟨pending,own,(assigned t member).prompt⟩
    · intro t member
      obtain ⟨a,inOrder,same⟩ := prescribed_member (prescribed t member)
      obtain ⟨present,active⟩ := creationOrder_active inOrder
      exact ⟨a,present,active,same⟩
    · exact fun eight t member t' member' =>
        prescribed_apart (creationOrder_ids ids) eight (prescribed t member) (prescribed t' member')

theorem CreateInvestigationTx_resolves {db : Database} (ids : (db.agents.map AgentRow.id).Nodup) (nonNil : ∀ a ∈ db.agents, a.id ≠ 0)
    (question : String) (taskTypes : List String) :
    Resolves (CreateInvestigationTx question taskTypes)
      (fun db' => ∃ inv, (∃ a ∈ db.agents, a.active = some true) ∧ CreatedExactly db db' question (requestedTypes taskTypes) inv)
      (fun inv db' _ => (∃ a ∈ db.agents, a.active = some true) ∧ CreatedExactly db db' question (requestedTypes taskTypes) inv)
      db .fresh [] := by
  refine resolves_query (fun _ member => absurd member List.not_mem_nil) trivial (fun _ => rfl) fun begun _ l log clean done => ?_
  cases done
  refine resolves_query clean trivial (fun _ => rfl) fun c row l log clean done => ?_
  obtain ⟨tx,opened,rfl,-,rfl,-⟩ := insertInvestigation_done done
  cases opened
  refine resolves_bind (insertTasks_resolves _ question (requestedTypes taskTypes) clean rfl (drafted_nil _)
    fun _ member => absurd member List.not_mem_nil) (fun _ => rfl) fun tasks db' l log clean drafted => ?_
  obtain ⟨rfl,opened,drafted,assigned⟩ := drafted
  refine (commit_resolves clean opened _).imp fun result db'' l' resolved => ?_
  cases result with
  | error err =>
    refine ⟨resolved.1,resolved.2.imp_right fun lost => ⟨lost.1,⟨⟨c.random,question,.inProgress,none,begun.now,none⟩,tasks⟩,?_⟩⟩
    exact drafted_exactly ids nonNil ⟨rfl,rfl⟩ drafted assigned lost.2
  | ok inv =>
    obtain ⟨clean',rfl,committed⟩ := resolved
    exact ⟨clean',drafted_exactly ids nonNil ⟨rfl,rfl⟩ drafted assigned committed⟩

-- A call alone, whatever becomes of its statements. The COMMIT of `unheard` has taken
-- effect, and only its acknowledgement failed.
structure CreatesOrFails (db : Database) (question : String) (taskTypes : List String) (result : Except PgError InvestigationWithTasks)
    (db' : Database) (log : Log) : Prop where
  unstaffed : (∀ a ∈ db.agents, a.active ≠ some true) → (∃ err, result = .error err) ∧ db' = db
  failed : (∃ e ∈ log, FailedEntry e) → (∃ err, result = .error err) ∧ (¬ CommitLost log → db' = db)
  unheard : CommitLost log → db' = db ∨ ∃ inv, CreatedExactly db db' question (requestedTypes taskTypes) inv
  created : (∃ a ∈ db.agents, a.active = some true) → (∀ e ∈ log, ¬ FailedEntry e) →
    ∃ inv, result = .ok inv ∧ CreatedExactly db db' question (requestedTypes taskTypes) inv

theorem CreateInvestigation_exact {db : Database} (ids : (db.agents.map AgentRow.id).Nodup) (nonNil : ∀ a ∈ db.agents, a.id ≠ 0)
    (times : (db.agents.map AgentRow.created).Nodup) (question : String) (taskTypes : List String) :
    ((creationOrder db).Pairwise fun a b => a.created < b.created) ∧
      (∀ a, a ∈ creationOrder db ↔ a ∈ db.agents ∧ a.active = some true) ∧
      (CreateInvestigationTx question taskTypes).Ensures (recorded exec) (fun _ => True) (fun result db' l =>
        CreatesOrFails db question taskTypes result db' l.2) db (.fresh,[]) := by
  refine ⟨creationOrder_sorted times,fun a => ?_,?_⟩
  · rw [creationOrder,oldestFirst,List.mem_insertionSort,List.mem_filter,decide_eq_true_eq]
  · refine (CreateInvestigationTx_resolves ids nonNil question taskTypes).imp fun result db' l resolved => ?_
    have idle (paused : ∀ a ∈ db.agents, a.active ≠ some true) : ¬ ∃ a ∈ db.agents, a.active = some true := by
      rintro ⟨a,present,active⟩
      exact paused a present active
    cases result with
    | error err =>
      obtain ⟨failed,kept⟩ := resolved
      refine ⟨fun paused => ⟨⟨err,rfl⟩,kept.resolve_right ?_⟩,fun _ => ⟨⟨err,rfl⟩,fun whole => kept.resolve_right fun lost => whole lost.1⟩,
        fun _ => kept.imp_right fun lost => lost.2.imp fun _ => And.right,fun _ clean => ?_⟩
      · rintro ⟨-,_,active,-⟩
        exact idle paused active
      · obtain ⟨e,member,bad⟩ := failed
        exact absurd bad (clean e member)
    | ok inv =>
      obtain ⟨clean,active,exactly⟩ := resolved
      refine ⟨fun paused => absurd active (idle paused),fun failed => ?_,fun _ => .inr ⟨inv,exactly⟩,fun _ _ => ⟨inv,rfl,exactly⟩⟩
      obtain ⟨e,member,bad⟩ := failed
      exact absurd bad (clean e member)

theorem CreateInvestigation_exact_sample :
    (CreateInvestigationTx "why" ["github","news","news"]).Ensures (recorded exec) (fun _ => True) (fun result db' l =>
      CreatesOrFails .sample "why" ["github","news","news"] result db' l.2) .sample (.fresh,[]) :=
  (CreateInvestigation_exact (by decide) (by decide) (by decide) "why" ["github","news","news"]).2.2

end Trokk
