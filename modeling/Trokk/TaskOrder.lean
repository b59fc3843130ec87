import Trokk.AssignmentViews
import Trokk.ReportedTasks

-- The tasks of an investigation read back: ORDER BY created_at, where one
-- transaction stamps all of its rows with its start.
namespace Trokk
open Program

def tasksOf (db : Database) (inv : Uuid) : List TaskRow := db.investigationTasks.filter (·.investigationId = inv)

-- The order a plan happens to give to the rows of one created_at.
structure Ordering where
  arrange : List TaskRow → List TaskRow
  ordered : ∀ rows, Relational.OrderBy TaskRow.createdAt rows (arrange rows)

-- Every SELECT of the tasks has an ordering of its own.
def unordered : Execution Statement Statement.Result PgError Database Session (Choice × Ordering)
  | .investigationTasks inv,c,db,l => ((exec (.investigationTasks inv) c.1 db l).1.map fun _ => c.2.arrange (tasksOf db inv),
      (exec (.investigationTasks inv) c.1 db l).2)
  | s,c,db,l => exec s c.1 db l

theorem oldestFirst_ordered (rows rows' : List TaskRow) (perm : rows'.Perm rows) :
    Relational.OrderBy TaskRow.createdAt rows (oldestFirst TaskRow.createdAt rows') :=
  ⟨(List.perm_insertionSort _ _).trans perm,List.pairwise_insertionSort (fun a b : TaskRow => a.createdAt ≤ b.createdAt) _⟩

def Ordering.stable : Ordering := ⟨oldestFirst TaskRow.createdAt,fun rows => oldestFirst_ordered rows rows (.refl rows)⟩
def Ordering.backwards : Ordering :=
  ⟨fun rows => oldestFirst TaskRow.createdAt rows.reverse,fun rows => oldestFirst_ordered rows _ rows.reverse_perm⟩

-- One of the orders is the one that the rest of the model computes with.
theorem unordered_stable (s : Statement) (c : Choice) (db : Database) (l : Session) : unordered s (c,.stable) db l = exec s c db l := by
  cases s with
  | investigationTasks inv =>
    refine Prod.ext ?_ rfl
    change (exec (.investigationTasks inv) c db l).1.map (fun _ => oldestFirst TaskRow.createdAt (tasksOf db inv)) = _
    cases answer : (exec (.investigationTasks inv) c db l).1 with
    | error e => rfl
    | ok tasks => exact congrArg Except.ok (Prod.mk.inj (Except.ok.inj (exec_ok answer))).1
  | _ => rfl

-- internal/store/pg, with an empty taskStatus
def GetInvestigationTasks (investigationID : Uuid) : Api (Except PgError (List TaskRow)) := query (.investigationTasks investigationID)

structure Anchored (db : Database) : Prop where
  tasks : ∀ t ∈ db.investigationTasks, Known db t.investigationId

def stamps (tasks : List TaskRow) : List (Uuid × Timestamptz) := tasks.map fun t => (t.id,t.createdAt)

-- An investigation that is there stays, and so do its tasks as far as they are ordered.
def Stays (db db' : Database) : Prop := ∀ inv, Known db inv → Known db' inv ∧ stamps (tasksOf db' inv) = stamps (tasksOf db inv)

theorem Stays.refl (db : Database) : Stays db db := fun _ known => ⟨known,rfl⟩

theorem Stays.trans (a b c : Database) (one : Stays a b) (two : Stays b c) : Stays a c := by
  intro inv known
  obtain ⟨known,same⟩ := one inv known
  obtain ⟨known',same'⟩ := two inv known
  exact ⟨known',same'.trans same⟩

theorem edits_stay {db db' : Database} (anchored : Anchored db) {f : TaskRow → TaskRow} (tasks : db'.investigationTasks = db.investigationTasks.map f)
    (owns : ∀ t, (f t).investigationId = t.investigationId) (keeps : ∀ t, (f t).id = t.id ∧ (f t).createdAt = t.createdAt)
    (investigations : ∀ inv, Known db inv → Known db' inv) : Anchored db' ∧ Stays db db' := by
  refine ⟨⟨fun t member => ?_⟩,fun inv known => ⟨investigations inv known,?_⟩⟩
  · rw [tasks] at member
    obtain ⟨old,present,rfl⟩ := List.mem_map.mp member
    rw [owns]
    exact investigations _ (anchored.tasks old present)
  · have filtered : tasksOf db' inv = (tasksOf db inv).map f := by
      rw [tasksOf,tasksOf,tasks,List.filter_map]
      congr 1
      refine List.filter_congr fun t _ => ?_
      rw [Function.comp_apply,owns]
    rw [filtered,stamps,stamps,List.map_map]
    refine List.map_congr_left fun t _ => ?_
    rw [Function.comp_apply,(keeps t).1,(keeps t).2]

theorem same_stay {db db' : Database} (anchored : Anchored db) (tasks : db'.investigationTasks = db.investigationTasks)
    (investigations : ∀ inv, Known db inv → Known db' inv) : Anchored db' ∧ Stays db db' :=
  @edits_stay db db' anchored id (by rw [tasks,List.map_id]) (fun _ => rfl) (fun _ => ⟨rfl,rfl⟩) investigations

theorem editTask_stay {db : Database} (anchored : Anchored db) {edit : TaskRow → TaskRow} (owns : ∀ t, (edit t).investigationId = t.investigationId)
    (ids : ∀ t, (edit t).id = t.id) (times : ∀ t, (edit t).createdAt = t.createdAt) (target : Uuid) :
    Anchored (db.editTask target edit) ∧ Stays db (db.editTask target edit) :=
  edits_stay anchored rfl (edit_kept owns) (fun t => ⟨edit_kept ids t,edit_kept times t⟩) fun _ known => known

theorem effect_stays (effect : Effect c db session s db') (uncommitted : s ≠ .commit) (anchored : Anchored db) :
    Anchored db' ∧ Stays db db' := by
  cases effect with
  | commit => exact absurd rfl uncommitted
  | pendingTask => exact editTask_stay anchored (fun _ => by rfl) (fun _ => by rfl) (fun _ => by rfl) _
  | completeTask => exact editTask_stay anchored (fun _ => by rfl) (fun _ => by rfl) (fun _ => by rfl) _
  | failTask => exact editTask_stay anchored (fun _ => by rfl) (fun _ => by rfl) (fun _ => by rfl) _
  | updateInvestigationStatus => exact same_stay anchored rfl fun _ known => hasId_map (edit_kept fun _ => rfl) known
  | setInvestigationStatus => exact same_stay anchored rfl fun _ known => hasId_map (edit_kept fun _ => rfl) known
  | setInvestigationReport => exact same_stay anchored rfl fun _ known => hasId_map (edit_kept fun _ => rfl) known
  | toggle =>
    rw [toggled_eq]
    exact same_stay anchored rfl fun _ known => known
  | _ => exact same_stay anchored rfl fun _ known => known

abbrev Staying (post : A → Database → Session → Prop) (x : Api A) : Database → Session → Prop :=
  x.Secure exec Anchored (fun _ => True) Stays post

theorem exec_stays (uncommitted : s ≠ .commit) (anchored : Anchored db) (c : Choice) (l : Session) :
    Anchored (exec s c db l).2.1 ∧ Stays db (exec s c db l).2.1 := effect_stays (exec_effect c db l s) uncommitted anchored

theorem query_staying {f : Except PgError s.Result → Api A} {post : A → Database → Session → Prop} (uncommitted : s ≠ .commit)
    (next : ∀ c db, Anchored db → Staying post (f (exec s c db l).1) (exec s c db l).2.1 (exec s c db l).2.2) :
    Staying post (query s >>= f) db l := by
  refine Secure.ask (fun c db anchored => ?_) next
  obtain ⟨anchored',moved⟩ := exec_stays uncommitted anchored c l
  exact ⟨anchored',trivial,moved⟩

theorem only_staying {x : Api A} (only : x.Only (· ≠ .commit)) (db : Database) (l : Session) : Staying (fun _ _ _ => True) x db l :=
  only.secure (yields_true x) (fun _ c _ l uncommitted anchored _ =>
    ⟨(exec_stays uncommitted anchored c l).1,trivial,(exec_stays uncommitted anchored c l).2⟩) trivial

-- The open transaction of CreateInvestigation.
def Stamped (row : InvestigationRow) (types : List String) (tasks : List TaskRow) (l : Session) : Prop :=
  ∃ now, l.tx = some ⟨now,[row],tasks⟩ ∧ Drafted row.id types tasks ∧ ∀ t ∈ tasks, t.createdAt = now

-- What was returned is there, all of one created_at.
structure Returned (types : List String) (inv : InvestigationWithTasks) (db : Database) : Prop where
  known : Known db inv.investigation.id
  stored : stamps (tasksOf db inv.investigation.id) = stamps inv.tasks
  stamp : ∃ now, ∀ t ∈ inv.tasks, t.createdAt = now
  drafted : Drafted inv.investigation.id types inv.tasks

theorem Returned.stays (returned : Returned types inv db) (stays : Stays db db') : Returned types inv db' := by
  obtain ⟨known,same⟩ := stays _ returned.known
  exact ⟨known,same.trans returned.stored,returned.stamp,returned.drafted⟩

theorem investigation_stamped (ok : (exec (.insertInvestigation question) c db l).1 = .ok row) (opened : l.tx = some ⟨now,[],[]⟩) :
    Stamped row [] [] (exec (.insertInvestigation question) c db l).2.2 := by
  obtain ⟨rfl,grown⟩ := investigation_inserted ok opened
  exact ⟨now,grown,drafted_nil _,fun t member => absurd member List.not_mem_nil⟩

theorem task_stamped (ok : (exec (.insertTask row.id agent type prompt) c db l).1 = .ok task) (stamped : Stamped row before tasks l) :
    Stamped row (before ++ [type]) (tasks ++ [task]) (exec (.insertTask row.id agent type prompt) c db l).2.2 := by
  obtain ⟨now,opened,drafted,stamp⟩ := stamped
  obtain ⟨rfl,fresh,grown⟩ := task_inserted ok opened
  refine ⟨now,grown,drafted_next drafted fresh,fun t member => ?_⟩
  rcases List.mem_append.mp member with old | added
  · exact stamp t old
  · rw [List.mem_singleton.mp added]

theorem insertTasks_staying (types : List String) (stamped : Stamped row before tasks l) :
    Staying (fun result _ l => ∀ inserted, result = .ok inserted → Stamped row (before ++ types) inserted l)
      (insertTasks row question types tasks) db l := by
  refine insertTasks_secure (· ≠ .commit) (Stamped row) nofun (fun _ _ _ _ => nofun) (fun s c db l uncommitted anchored => ?_)
    (fun _ _ _ _ _ _ _ _ _ => task_stamped) types stamped
  obtain ⟨anchored',moved⟩ := exec_stays uncommitted anchored c l
  exact ⟨anchored',trivial,moved⟩

theorem commit_stays {tx : Transaction} (anchored : Anchored db) (investigations : tx.investigations = [row])
    (drafted : Drafted row.id types tx.tasks) (fresh : ∀ old ∈ db.investigations, old.id ≠ row.id) :
    Anchored {db with investigations := db.investigations ++ tx.investigations
                      investigationTasks := db.investigationTasks ++ tx.tasks} ∧
      Stays db {db with investigations := db.investigations ++ tx.investigations
                        investigationTasks := db.investigationTasks ++ tx.tasks} := by
  refine ⟨⟨fun t member => ?_⟩,fun inv known => ⟨hasId_append known,?_⟩⟩
  · rcases List.mem_append.mp member with old | added
    · exact hasId_append (anchored.tasks t old)
    · refine ⟨row,List.mem_append_right _ ?_,((drafted.rows t added).1).symm⟩
      rw [investigations]
      exact List.mem_singleton_self row
  · have none' : tx.tasks.filter (·.investigationId = inv) = [] := by
      refine List.filter_eq_nil_iff.mpr fun t added own => ?_
      obtain ⟨old,present,same⟩ := known
      exact fresh old present (same.trans ((of_decide_eq_true own).symm.trans (drafted.rows t added).1))
    rw [tasksOf,List.filter_append,none',List.append_nil]
    rfl

theorem commit_returned {tx : Transaction} (anchored : Anchored db) (investigations : tx.investigations = [row])
    (drafted : Drafted row.id types tx.tasks) (stamp : ∀ t ∈ tx.tasks, t.createdAt = now)
    (fresh : ∀ old ∈ db.investigations, old.id ≠ row.id) :
    Returned types ⟨row,tx.tasks⟩ {db with investigations := db.investigations ++ tx.investigations
                                           investigationTasks := db.investigationTasks ++ tx.tasks} := by
  refine ⟨⟨row,List.mem_append_right _ ?_,rfl⟩,?_,⟨now,stamp⟩,drafted⟩
  · rw [investigations]
    exact List.mem_singleton_self row
  · have none' : db.investigationTasks.filter (·.investigationId = row.id) = [] := by
      refine List.filter_eq_nil_iff.mpr fun t present own => ?_
      obtain ⟨old,there,same⟩ := anchored.tasks t present
      exact fresh old there (same.trans (of_decide_eq_true own))
    have all : tx.tasks.filter (·.investigationId = row.id) = tx.tasks :=
      List.filter_eq_self.mpr fun t added => decide_eq_true (drafted.rows t added).1
    rw [tasksOf,List.filter_append,none',all,List.nil_append]

theorem committed_staying {f : Except PgError Unit → Api (Except PgError InvestigationWithTasks)} (stamped : Stamped row types tasks l)
    (failed : ∀ e, f (.error e) = .done (.error e)) (ok : f (.ok ()) = .done (.ok ⟨row,tasks⟩)) :
    Staying (fun result db _ => ∀ inv, result = .ok inv → Returned types inv db) (query .commit >>= f) db l := by
  intro later anchored _ c
  obtain ⟨now,opened,drafted,stamp⟩ := stamped
  have effect := exec_effect c later l .commit
  have kept : Anchored (exec .commit c later l).2.1 ∧ Stays later (exec .commit c later l).2.1 := by
    generalize (exec .commit c later l).2.1 = after at effect
    cases effect with
    | none => exact ⟨anchored,Stays.refl later⟩
    | commit opened' fresh =>
      cases opened.symm.trans opened'
      exact commit_stays anchored rfl drafted (fresh row (List.mem_singleton_self row))
  refine ⟨kept.1,trivial,kept.2,?_⟩
  change Staying _ (f (exec .commit c later l).1) _ _
  cases answer : (exec .commit c later l).1 with
  | error e =>
    rw [failed]
    exact fun _ _ _ _ => nofun
  | ok r =>
    have returned : Returned types ⟨row,tasks⟩ (exec .commit c later l).2.1 := by
      have done := exec_ok answer
      generalize (exec .commit c later l).2 = after at done ⊢
      obtain ⟨tx,opened',grown,-,fresh,-⟩ := commit_done done
      cases opened.symm.trans opened'
      rw [grown]
      exact @commit_returned later row types now ⟨now,[row],tasks⟩ anchored rfl drafted stamp (fresh row (List.mem_singleton_self row))
    rw [ok]
    intro last _ moved inv same
    cases same
    exact returned.stays moved

theorem CreateInvestigationTx_staying (question : String) (taskTypes : List String) (db : Database) (l : Session) :
    Staying (fun result db _ => ∀ inv, result = .ok inv → Returned (requestedTypes taskTypes) inv db)
      (CreateInvestigationTx question taskTypes) db l := by
  refine query_staying nofun fun c db _ => ?_
  cases answer : (exec .begin c db l).1 with
  | error => exact fun _ _ _ _ => nofun
  | ok =>
    have opened := begun answer
    generalize (exec .begin c db l).2.2 = l at opened
    refine query_staying nofun fun c' db anchored => ?_
    cases answer : (exec (.insertInvestigation question) c' db l).1 with
    | error => exact fun _ _ _ _ => nofun
    | ok row =>
      have anchored' := (@exec_stays (.insertInvestigation question) db nofun anchored c' l).1
      refine Secure.bind Stays.refl anchored' trivial (insertTasks_staying _ (investigation_stamped answer opened))
        fun result db l _ _ stamped => ?_
      cases result with
      | error => exact fun _ _ _ _ => nofun
      | ok tasks => exact committed_staying (stamped tasks rfl) (fun _ => rfl) rfl

theorem serve_staying (adminKey : String) (request : Request) (db : Database) (anchored : Anchored db) :
    Staying (fun _ _ _ => True) (serve adminKey request) db Session.fresh := by
  cases creates : request.route.createsInvestigation with
  | false =>
    refine only_staying (serve_only (fun s requested same => ?_) adminKey) db _
    subst same
    cases creates.symm.trans requested
  | true =>
    have authenticates := only_staying (authenticate_only (P := (· ≠ Statement.commit)) (fun _ => nofun) adminKey request.authorization)
    apply Secure.bind Stays.refl anchored trivial (authenticates db _)
    intro result db l anchored _ _
    obtain ⟨authorization,route⟩ := request
    cases route with
    | createInvestigation body =>
      match result with
      | .error _ => exact fun _ _ _ => trivial
      | .ok none => exact fun _ _ _ => trivial
      | .ok (some info) =>
        change Staying _ (if info.isAdmin then CreateInvestigation body else writeError 403 "admin_required") _ _
        split
        · unfold CreateInvestigation
          split
          · exact fun _ _ _ => trivial
          · split
            · exact fun _ _ _ => trivial
            · refine Secure.bind Stays.refl anchored trivial (CreateInvestigationTx_staying _ _ db l) fun result _ _ _ _ _ => ?_
              cases result <;> exact fun _ _ _ => trivial
        · exact fun _ _ _ => trivial
    | _ => cases creates

theorem operation_staying (operation : Operation adminKey runtime n x) (db : Database) (anchored : Anchored db) :
    Staying (fun _ _ _ => True) x db Session.fresh := by
  have uncommitted (type : String) (s : Statement) (handles : s.handles type) : s ≠ .commit := by
    intro same
    subst same
    exact handles.elim
  have alone (s : Statement) (other : s ≠ .commit) : (query s >>= fun _ => Program.done ()).Only (· ≠ Statement.commit) :=
    ⟨other,fun _ => trivial⟩
  have method {x : Py Unit} (only : x.Only (· ≠ Statement.commit)) (agents : Agents) :
      (x agents >>= fun _ => Program.done ()).Only (· ≠ Statement.commit) := Program.Only.bind (only agents) fun _ => trivial
  cases operation with
  | request => exact Secure.bind Stays.refl anchored trivial (serve_staying adminKey _ db anchored) fun _ _ _ _ _ _ _ _ _ => trivial
  | tick => exact only_staying (method (tick_only nofun (fun _ => nofun) (fun _ => ⟨nofun,uncommitted _⟩) runtime) _) db _
  | check =>
    have checks : (handle_consensus_check runtime).Only (· ≠ Statement.commit) :=
      Method.Only.bind (fetch_only nofun) fun ids => consensusEach_only (uncommitted _) runtime ids
    exact only_staying (method checks _) db _
  | claim => exact only_staying (alone (.pendingTask _ _) nofun) db _
  | complete => exact only_staying (alone (.completeTask _ _) nofun) db _
  | fail => exact only_staying (alone (.failTask _ _) nofun) db _

-- Calls of CreateInvestigation with what they return, beside all other operations.
inductive Reply where
  | created (question : String) (taskTypes : List String) (result : Except PgError InvestigationWithTasks)
  | other

inductive Calls (adminKey : String) (runtime : Runtime) : Nat → Api Reply → Prop where
  | create : Calls adminKey runtime n (CreateInvestigationTx question taskTypes >>= fun result => .done (.created question taskTypes result))
  | other : Operation adminKey runtime n x → Calls adminKey runtime n (x >>= fun _ => .done .other)

abbrev Work := Pool Statement Statement.Result PgError Reply Database Session Nat
abbrev WorkRuns (adminKey : String) (runtime : Runtime) : Work → Work → Prop := Pool.Runs exec (Calls adminKey runtime) Session.fresh

def Replied : Reply → Database → Prop
  | .created _ taskTypes (.ok inv),db => Returned (requestedTypes taskTypes) inv db
  | _,_ => True

theorem calls_staying (calls : Calls adminKey runtime n x) (db : Database) (anchored : Anchored db) :
    Staying (fun reply db _ => Replied reply db) x db Session.fresh := by
  cases calls with
  | @create question taskTypes =>
    refine Secure.bind Stays.refl anchored trivial (CreateInvestigationTx_staying question taskTypes db _) fun result db l _ _ returned => ?_
    intro later _ moved
    cases result with
    | error => trivial
    | ok inv => exact (returned inv rfl).stays moved
  | other operation =>
    refine Secure.bind Stays.refl anchored trivial (operation_staying operation db anchored) fun _ _ _ _ _ _ => ?_
    exact fun _ _ _ => trivial

def WorkSecured (p : Work) : Prop := p.Secured exec Anchored (fun _ => True) Stays fun _ reply db _ => Replied reply db

theorem work_secured {p q : Work} (secured : WorkSecured p) (run : WorkRuns adminKey runtime p q) : WorkSecured q ∧ Stays p.shared q.shared :=
  Pool.runs_secured Stays.refl Stays.trans (fun _ _ db calls anchored => calls_staying calls db anchored) trivial secured run

-- However both SELECTs are ordered, the tasks come as they were returned.
def ReadsInOrder (inv : InvestigationWithTasks) (db : Database) : Prop := ∀ l : Session,
  (GetInvestigation inv.investigation.id).Ensures unordered (fun _ => True) (fun result _ _ => ∀ answer, result = .ok answer →
    ∃ got, answer = some got ∧ got.tasks.map TaskRow.id = inv.tasks.map TaskRow.id) db l ∧
  (GetInvestigationTasks inv.investigation.id).Ensures unordered (fun _ => True) (fun result _ _ => ∀ tasks, result = .ok tasks →
    tasks.map TaskRow.id = inv.tasks.map TaskRow.id) db l

def Ordering.giving {rows answer : List TaskRow} (ordered : Relational.OrderBy TaskRow.createdAt rows answer) : Ordering where
  arrange others := if others = rows then answer else oldestFirst TaskRow.createdAt others
  ordered others := by
    split
    · rename_i same
      rw [same]
      exact ordered
    · exact oldestFirst_ordered others others (.refl others)

theorem giving_arrange {rows answer : List TaskRow} (ordered : Relational.OrderBy TaskRow.createdAt rows answer) :
    (Ordering.giving ordered).arrange rows = answer := if_pos rfl

-- All that a SELECT can return is in the order of `inv`.
def Listed (inv : InvestigationWithTasks) (db : Database) : Prop := ∀ order : Ordering,
  (order.arrange (tasksOf db inv.investigation.id)).map TaskRow.id = inv.tasks.map TaskRow.id

theorem reads_listed (known : Known db inv.investigation.id) : ReadsInOrder inv db ↔ Listed inv db := by
  constructor
  · intro reads order
    exact (reads .fresh).2 (.sample,order) trivial _ rfl
  · intro listed l
    have tasks (c : Choice × Ordering) (l : Session) (r : List TaskRow)
        (ok : (unordered (.investigationTasks inv.investigation.id) c db l).1 = .ok r) : r.map TaskRow.id = inv.tasks.map TaskRow.id := by
      change (exec (.investigationTasks inv.investigation.id) c.1 db l).1.map _ = _ at ok
      cases answer : (exec (.investigationTasks inv.investigation.id) c.1 db l).1 with
      | error e =>
        rw [answer] at ok
        cases ok
      | ok =>
        rw [answer] at ok
        cases ok
        exact listed c.2
    refine ⟨fun c _ => ?_,fun c _ r ok => tasks c l r ok⟩
    have read : (unordered (.investigation inv.investigation.id) c db l).2.1 = db ∧
        ∀ found, (unordered (.investigation inv.investigation.id) c db l).1 = .ok found → ∃ row, found = some row := by
      refine ⟨?_,fun found ok => ?_⟩
      · have effect := exec_effect c.1 db l (.investigation inv.investigation.id)
        change (exec (.investigation inv.investigation.id) c.1 db l).2.1 = db
        generalize (exec (.investigation inv.investigation.id) c.1 db l).2.1 = after at effect
        cases effect
        rfl
      · obtain ⟨row,present,own⟩ := known
        obtain ⟨other,-,first,-⟩ := Relational.find_present present own
        have done := (Prod.mk.inj (Except.ok.inj (exec_ok ok))).1
        exact ⟨other,done.symm.trans first⟩
    generalize unordered (.investigation inv.investigation.id) c db l = out at read ⊢
    obtain ⟨answer,db',l'⟩ := out
    obtain ⟨rfl,found⟩ := read
    cases answer with
    | error => exact fun _ => nofun
    | ok answer =>
      obtain ⟨row,rfl⟩ := found answer rfl
      intro c' _
      have listing := tasks c' l'
      generalize unordered (.investigationTasks inv.investigation.id) c' db' l' = out at listing ⊢
      obtain ⟨answer,db'',l''⟩ := out
      cases answer with
      | error => exact fun _ => nofun
      | ok r =>
        intro got same
        cases same
        exact ⟨_,rfl,listing r rfl⟩

theorem listed_short (returned : Returned types inv db) : Listed inv db ↔ types.length ≤ 1 := by
  have ids : (tasksOf db inv.investigation.id).map TaskRow.id = inv.tasks.map TaskRow.id := by
    have stored := congrArg (List.map Prod.fst) returned.stored
    rwa [stamps,stamps,List.map_map,List.map_map] at stored
  have many : types.length = (tasksOf db inv.investigation.id).length := by
    rw [← returned.drafted.types,List.length_map]
    simpa using (congrArg List.length ids).symm
  obtain ⟨now,stamp⟩ := returned.stamp
  have same : ∀ t ∈ tasksOf db inv.investigation.id, t.createdAt = now := by
    intro t member
    have marked : (t.id,t.createdAt) ∈ stamps inv.tasks := returned.stored ▸ List.mem_map_of_mem member
    obtain ⟨u,there,equal⟩ := List.mem_map.mp marked
    rw [← (Prod.mk.inj equal).2]
    exact stamp u there
  have fixed := Relational.orderBy_fixed same (ids ▸ returned.drafted.ids)
  rw [many,← fixed,ids]
  constructor
  · intro listed answer ordered
    have given := listed (.giving ordered)
    rwa [giving_arrange] at given
  · exact fun all order => all _ (order.ordered _)

theorem requestedTypes_short (taskTypes : List String) : (requestedTypes taskTypes).length ≤ 1 ↔ taskTypes.length = 1 := by
  unfold requestedTypes
  match taskTypes with
  | [] => decide
  | [_] => simp
  | _ :: _ :: _ => simp

theorem tasks_read_in_order {db : Database} {p next : Work} (valid : db.Valid) (run : WorkRuns adminKey runtime (Pool.idle db) p)
    (returns : Pool.Step exec (Calls adminKey runtime) Session.fresh p (.answer t (.created question taskTypes (.ok inv))) next) :
    ∀ q, WorkRuns adminKey runtime next q → (ReadsInOrder inv q.shared ↔ taskTypes.length = 1) := by
  have anchored : Anchored db := ⟨valid.taskInvestigations⟩
  have secured := (work_secured (Pool.idle_secured anchored) run).1
  obtain ⟨same,-,returned⟩ := Pool.answered Stays.refl secured returns
  have secured' : WorkSecured next := (Pool.step_secured Stays.refl Stays.trans (fun _ _ db calls holds => calls_staying calls db holds)
    trivial secured returns).1
  intro q later
  have stays := (work_secured secured' later).2
  rw [same] at stays
  have still : Returned (requestedTypes taskTypes) inv q.shared := Returned.stays returned stays
  rw [reads_listed still.known,listed_short still,requestedTypes_short]

def askedFor (tasks : List TaskRow) : InvestigationWithTasks := ⟨⟨21,"why",.inProgress,none,100,none⟩,tasks⟩

-- Two tasks of one transaction, read back before anything has happened to them.
theorem tasks_read_backwards : Database.staffed.Valid ∧
    ∃ inv db, (CreateInvestigationTx "why" ["research","news"]).play exec ([0,21,0,31,0,32,0].map drawing) .staffed .fresh =
      some (.ok inv,db,.fresh) ∧ inv.tasks.map TaskRow.id = [31,32] ∧
      ∃ got, (GetInvestigation inv.investigation.id).play unordered [(drawing 0,.backwards),(drawing 0,.backwards)] db .fresh =
        some (.ok (some got),db,.fresh) ∧ got.tasks.map TaskRow.id = [32,31] := by
  refine ⟨Database.staffed_valid,askedFor [⟨31,21,1,"research","Investigate: why",.pending,none,100,none⟩,
    ⟨32,21,1,"news","Investigate: why",.pending,none,100,none⟩],_,rfl,rfl,?_⟩
  exact ⟨askedFor [⟨32,21,1,"news","Investigate: why",.pending,none,100,none⟩,
    ⟨31,21,1,"research","Investigate: why",.pending,none,100,none⟩],rfl,rfl⟩

def Work.asking : Work := ⟨.staffed,Function.update (fun _ => none) 0
  (some (CreateInvestigationTx "why" ["research"] >>= fun result => .done (.created "why" ["research"] result),.fresh))⟩
def Work.asked : Work := Work.asking.acts exec ([0,21,0,31,0].map fun id => (0,drawing id))

theorem tasks_read_in_order_sample :
    ReadsInOrder (askedFor [⟨31,21,1,"research","Investigate: why",.pending,none,100,none⟩]) Work.asked.shared := by
  have begins : WorkRuns "rp_admin" .sample (Pool.idle .staffed) .asking := .step .start (.begin rfl .create)
  have ended : Work.asked.sessions 0 = some (.done (.created "why" ["research"]
      (.ok (askedFor [⟨31,21,1,"research","Investigate: why",.pending,none,100,none⟩]))),.fresh) := rfl
  exact (tasks_read_in_order Database.staffed_valid (Pool.acts_runs begins _) (.answer ended) _ .start).mpr rfl

end Trokk
