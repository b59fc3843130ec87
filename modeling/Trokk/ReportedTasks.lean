import Trokk.ConsensusRace
import Trokk.Integrity

-- A report needs ended tasks. The check counts the open tasks of an investigation
-- that is there, the writes come later, and tasks only ever leave the open ones.
namespace Trokk
open Program

def Known (db : Database) (inv : Uuid) : Prop := HasId db.investigations InvestigationRow.id inv
def Tasked (db : Database) (inv : Uuid) : Prop := ∃ t ∈ db.investigationTasks, t.investigationId = inv
def Closed (db : Database) (inv : Uuid) : Prop := ∀ t ∈ db.investigationTasks, t.investigationId = inv → t.open = false

structure Orderly (db : Database) : Prop where
  taskIds : (db.investigationTasks.map TaskRow.id).Nodup
  tasked : ∀ i ∈ db.investigations, Tasked db i.id
  reported : ∀ i ∈ db.investigations, i.report.isSome ∨ i.status = .complete → Closed db i.id

-- What everyone relies on: an investigation stays, and gets no open task any more.
def Settles (db db' : Database) : Prop := ∀ inv, Known db inv → Known db' inv ∧ (Closed db inv → Closed db' inv)

theorem Settles.refl (db : Database) : Settles db db := fun _ known => ⟨known,fun closed => closed⟩

theorem Settles.trans (a b c : Database) (one : Settles a b) (two : Settles b c) : Settles a c := by
  intro inv known
  obtain ⟨known,closed⟩ := one inv known
  obtain ⟨known',closed'⟩ := two inv known
  exact ⟨known',closed' ∘ closed⟩

def Kept (db db' : Database) : Prop := Orderly db' ∧ Settles db db'

variable {db db' : Database} {l : Session} {inv : Uuid}

-- New versions of tasks that keep their place and do not reopen.
theorem editTask_kept (orderly : Orderly db) {edit : TaskRow → TaskRow} (keeps : KeepsTask edit)
    (ends : ∀ t ∈ db.investigationTasks, t.id = target → t.open = false → (edit t).open = false) :
    Kept db (db.editTask target edit) := by
  have closed (inv : Uuid) (before : Closed db inv) : Closed (db.editTask target edit) inv := by
    intro t member own
    obtain ⟨old,present,rfl⟩ := List.mem_map.mp member
    rw [edit_kept keeps.investigationId] at own
    have ended := before old present own
    split
    · rename_i same
      exact ends old present same ended
    · exact ended
  refine ⟨⟨?_,?_,fun i member done => closed _ (orderly.reported i member done)⟩,fun inv known => ⟨known,closed inv⟩⟩
  · rw [Database.editTask,edits_kept keeps.id]
    exact orderly.taskIds
  · intro i member
    obtain ⟨t,present,own⟩ := orderly.tasked i member
    exact ⟨_,List.mem_map_of_mem present,by rw [edit_kept keeps.investigationId]; exact own⟩

theorem editInvestigation_kept (orderly : Orderly db) {edit : InvestigationRow → InvestigationRow} (keeps : ∀ i, (edit i).id = i.id)
    (ends : ∀ i, i.id = target → (edit i).report.isSome ∨ (edit i).status = .complete →
      (i.report.isSome ∨ i.status = .complete) ∨ Closed db i.id) : Kept db (db.editInvestigation target edit) := by
  refine ⟨⟨orderly.taskIds,?_,?_⟩,fun inv known => ⟨hasId_map (edit_kept keeps) known,fun closed => closed⟩⟩
  · intro i member
    obtain ⟨old,present,rfl⟩ := List.mem_map.mp member
    rw [edit_kept keeps]
    exact orderly.tasked old present
  · intro i member done
    obtain ⟨old,present,rfl⟩ := List.mem_map.mp member
    rw [edit_kept keeps]
    split at done
    · rename_i same
      cases ends old same done with
      | inl before => exact orderly.reported old present before
      | inr closed => exact closed
    · exact orderly.reported old present done

-- The tasks that a claim may set to running are pending ones, so open.
theorem claim_kept (orderly : Orderly db) (found : oldestPending db agent type = some t) :
    Kept db (db.editTask t.id fun t => {t with status := .running}) := by
  obtain ⟨there,-,pending,-⟩ := oldestPending_mem found
  apply editTask_kept orderly
  · exact ⟨fun _ => rfl,fun _ => rfl,fun _ => rfl⟩
  · intro other present same ended
    cases List.inj_on_of_nodup_map orderly.taskIds present there same
    simp [TaskRow.open,pending] at ended

-- The statements that are harmless whenever they come.
def Statement.settled : Statement → Prop
  | .commit | .setInvestigationStatus .. | .setInvestigationReport .. => False
  | .updateInvestigationStatus _ status => status ≠ .complete
  | _ => True

theorem settled_kept (effect : Effect c db session s db') (settled : s.settled) (orderly : Orderly db) : Kept db db' := by
  cases effect with
  | commit => exact settled.elim
  | setInvestigationStatus => exact settled.elim
  | setInvestigationReport => exact settled.elim
  | updateInvestigationStatus =>
    apply editInvestigation_kept orderly
    · exact fun _ => rfl
    · exact fun i _ done => .inl (done.imp_right fun complete => absurd complete settled)
  | pendingTask found => exact claim_kept orderly found
  | completeTask => exact editTask_kept orderly ⟨fun _ => rfl,fun _ => rfl,fun _ => rfl⟩ fun _ _ _ _ => rfl
  | failTask => exact editTask_kept orderly ⟨fun _ => rfl,fun _ => rfl,fun _ => rfl⟩ fun _ _ _ _ => rfl
  | toggle =>
    rw [toggled_eq]
    exact ⟨⟨orderly.taskIds,orderly.tasked,orderly.reported⟩,Settles.refl db⟩
  | _ => exact ⟨⟨orderly.taskIds,orderly.tasked,orderly.reported⟩,Settles.refl db⟩

theorem exec_settled (s : Statement) (c : Choice) (db : Database) (l : Session) (settled : s.settled) (orderly : Orderly db) :
    Kept db (exec s c db l).2.1 := settled_kept (exec_effect c db l s) settled orderly

theorem requested_settled {s : Statement} (other : route.createsInvestigation = false) (requested : s.requested route) : s.settled := by
  cases s with
  | commit => cases other.symm.trans requested
  | updateInvestigationStatus _ status =>
    intro complete
    cases requested.1.symm.trans complete
  | setInvestigationStatus => exact requested
  | setInvestigationReport => exact requested
  | _ => trivial

theorem handles_settled {s : Statement} (other : type ≠ "trigger_consensus") (handles : s.handles type) : s.settled := by
  cases s with
  | commit => exact handles
  | setInvestigationStatus => exact other handles.1
  | setInvestigationReport => exact other handles
  | updateInvestigationStatus => exact handles.elim
  | _ => trivial

abbrev Safely (post : A → Database → Session → Prop) (x : Api A) : Database → Session → Prop :=
  x.Secure exec Orderly (fun _ => True) Settles post

theorem only_safely {x : Api A} (only : x.Only Statement.settled) (db : Database) (l : Session) :
    Safely (fun _ _ _ => True) x db l :=
  only.secure (yields_true x) (fun s c db l settled orderly _ =>
    ⟨(exec_settled s c db l settled orderly).1,trivial,(exec_settled s c db l settled orderly).2⟩) trivial

-- One settled statement, then whatever follows its answer.
theorem query_safely {f : Except PgError s.Result → Api A} {post : A → Database → Session → Prop} (settled : s.settled)
    (next : ∀ c db, Orderly db → Safely post (f (exec s c db l).1) (exec s c db l).2.1 (exec s c db l).2.2) :
    Safely post (query s >>= f) db l := by
  refine Secure.ask (fun c db orderly => ?_) next
  obtain ⟨orderly',moved⟩ := exec_settled s c db l settled orderly
  exact ⟨orderly',trivial,moved⟩

-- The rows that CreateInvestigation has inserted for its investigation.
structure Draft (row : InvestigationRow) (tx : Transaction) : Prop where
  investigations : tx.investigations = [row]
  tasks : ∀ t ∈ tx.tasks, t.investigationId = row.id
  distinct : (tx.tasks.map TaskRow.id).Nodup

structure Blank (row : InvestigationRow) : Prop where
  report : row.report = none
  status : row.status = .inProgress

theorem commit_kept (orderly : Orderly db) (draft : Draft row tx) (blank : Blank row) (some' : tx.tasks ≠ [])
    (freshId : ∀ old ∈ db.investigations, old.id ≠ row.id) (freshTasks : ∀ t ∈ tx.tasks, ∀ old ∈ db.investigationTasks, old.id ≠ t.id) :
    Kept db {db with investigations := db.investigations ++ tx.investigations
                     investigationTasks := db.investigationTasks ++ tx.tasks} := by
  have closed (inv : Uuid) (apart : inv ≠ row.id) (before : Closed db inv) : ∀ t ∈ db.investigationTasks ++ tx.tasks,
      t.investigationId = inv → t.open = false := by
    intro t member own
    cases List.mem_append.mp member with
    | inl old => exact before t old own
    | inr added => exact absurd (own.symm.trans (draft.tasks t added)) apart
  have apart (inv : Uuid) (known : Known db inv) : inv ≠ row.id := by
    obtain ⟨old,present,rfl⟩ := known
    exact freshId old present
  refine ⟨⟨nodup_append orderly.taskIds draft.distinct freshTasks,?_,?_⟩,?_⟩
  · intro i member
    cases List.mem_append.mp member with
    | inl old =>
      obtain ⟨t,present,own⟩ := orderly.tasked i old
      exact ⟨t,List.mem_append_left _ present,own⟩
    | inr added =>
      rw [draft.investigations] at added
      cases List.mem_singleton.mp added
      obtain ⟨t,present⟩ := List.exists_mem_of_ne_nil _ some'
      exact ⟨t,List.mem_append_right _ present,draft.tasks t present⟩
  · intro i member done
    cases List.mem_append.mp member with
    | inl old => exact closed _ (apart _ ⟨i,old,rfl⟩) (orderly.reported i old done)
    | inr added =>
      rw [draft.investigations] at added
      cases List.mem_singleton.mp added
      simp [blank.report,blank.status] at done
  · exact fun inv known => ⟨hasId_append known,closed inv (apart inv known)⟩

theorem begun (ok : (exec .begin c db l).1 = .ok r) : (exec .begin c db l).2.2.tx = some ⟨c.now,[],[]⟩ := by
  have done := exec_ok ok
  generalize (exec .begin c db l).2 = after at done ⊢
  cases done
  rfl

theorem investigation_inserted (ok : (exec (.insertInvestigation question) c db l).1 = .ok row) (opened : l.tx = some tx) :
    row = ⟨c.random,question,.inProgress,none,tx.now,none⟩ ∧
      (exec (.insertInvestigation question) c db l).2.2.tx = some {tx with investigations := tx.investigations ++ [row]} := by
  have done := exec_ok ok
  generalize (exec (.insertInvestigation question) c db l).2 = after at done ⊢
  obtain ⟨tx',opened',own,-,grown,-⟩ := insertInvestigation_done done
  cases opened.symm.trans opened'
  exact ⟨own,by rw [grown]⟩

theorem task_inserted (ok : (exec (.insertTask inv agent type prompt) c db l).1 = .ok task) (opened : l.tx = some tx) :
    task = ⟨c.random,inv,agent,type,prompt,.pending,none,tx.now,none⟩ ∧ (∀ old ∈ tx.tasks, old.id ≠ c.random) ∧
      (exec (.insertTask inv agent type prompt) c db l).2.2.tx = some {tx with tasks := tx.tasks ++ [task]} := by
  have done := exec_ok ok
  generalize (exec (.insertTask inv agent type prompt) c db l).2 = after at done ⊢
  obtain ⟨tx',opened',own,-,grown,fresh,-⟩ := insertTask_done done
  cases opened.symm.trans opened'
  exact ⟨own,fresh,by rw [grown]⟩

theorem investigation_drafted (ok : (exec (.insertInvestigation question) c db l).1 = .ok row)
    (opened : l.tx = some ⟨now,[],[]⟩) : Blank row ∧
      ∃ tx, (exec (.insertInvestigation question) c db l).2.2.tx = some tx ∧ Draft row tx := by
  obtain ⟨rfl,grown⟩ := investigation_inserted ok opened
  exact ⟨⟨rfl,rfl⟩,_,grown,⟨rfl,nofun,List.nodup_nil⟩⟩

theorem agents_listed (ok : (exec .activeAgents c db l).1 = .ok agents) : (exec .activeAgents c db l).2.2 = l := by
  have done := exec_ok ok
  generalize (exec .activeAgents c db l).2 = after at done ⊢
  cases done
  rfl

-- insertTasks among others: what every INSERT carries further holds at the end.
theorem insertTasks_secure {inv : Database → Prop} {others : Database → Database → Prop} (P : Statement → Prop)
    (built : List String → List TaskRow → Session → Prop) (allowed : P .activeAgents)
    (inserts : ∀ inv agent type prompt, P (.insertTask inv agent type prompt))
    (keeps : ∀ s c db l, P s → inv db → inv (exec s c db l).2.1 ∧ True ∧ others db (exec s c db l).2.1)
    (carries : ∀ c db l before tasks agent type prompt task, (exec (.insertTask row.id agent type prompt) c db l).1 = .ok task →
      built before tasks l → built (before ++ [type]) (tasks ++ [task]) (exec (.insertTask row.id agent type prompt) c db l).2.2)
    (types : List String) (begun : built before tasks l) :
    (insertTasks row question types tasks).Secure exec inv (fun _ => True) others
      (fun result _ l => ∀ inserted, result = .ok inserted → built (before ++ types) inserted l) db l := by
  induction types generalizing db l before tasks with
  | nil =>
    intro _ _ _ inserted ok
    cases ok
    rwa [List.append_nil]
  | cons type rest ih =>
    refine Secure.ask (fun c db => keeps _ c db l allowed) fun c db _ => ?_
    cases answer : (exec .activeAgents c db l).1 with
    | error => exact fun _ _ _ _ => nofun
    | ok agents =>
      rw [agents_listed answer]
      refine Secure.ask (fun c db => keeps _ c db l (inserts _ _ _ _)) fun c db _ => ?_
      cases answer : (exec (.insertTask row.id (assignee agents type) type ("Investigate: " ++ question)) c db l).1 with
      | error => exact fun _ _ _ _ => nofun
      | ok task =>
        rw [List.append_cons before type rest]
        exact ih (carries _ _ _ _ _ _ _ _ _ answer begun)

-- An open transaction of one investigation, with tasks where there were any to insert.
def DraftOpen (row : InvestigationRow) (wanted : Prop) (l : Session) : Prop :=
  ∃ tx, l.tx = some tx ∧ Draft row tx ∧ (wanted → tx.tasks ≠ [])

theorem task_drafted (ok : (exec (.insertTask row.id agent type prompt) c db l).1 = .ok task) (drafts : DraftOpen row wanted l) :
    DraftOpen row True (exec (.insertTask row.id agent type prompt) c db l).2.2 := by
  obtain ⟨tx,opened,draft,_⟩ := drafts
  obtain ⟨rfl,fresh,grown⟩ := task_inserted ok opened
  refine ⟨_,grown,⟨draft.investigations,?_,nodup_snoc draft.distinct fresh⟩,fun _ => by simp⟩
  intro t member
  cases List.mem_append.mp member with
  | inl old => exact draft.tasks t old
  | inr added => rw [List.mem_singleton.mp added]

theorem insertTasks_safely (types : List String) (opened : l.tx = some tx) (draft : Draft row tx) :
    Safely (fun result _ l => ∀ inserted, result = .ok inserted → DraftOpen row (types ≠ []) l)
      (insertTasks row question types []) db l := by
  refine insertTasks_secure Statement.settled (fun before _ l => DraftOpen row (before ≠ []) l) trivial
    (fun _ _ _ _ => trivial) (fun s c db l settled orderly => ?_) (fun c db l before tasks agent type prompt task ok drafts => ?_)
    types ⟨tx,opened,draft,fun some' => absurd rfl some'⟩
  · obtain ⟨orderly',moved⟩ := exec_settled s c db l settled orderly
    exact ⟨orderly',trivial,moved⟩
  · obtain ⟨tx',opened',draft',some'⟩ := task_drafted ok drafts
    exact ⟨tx',opened',draft',fun _ => some' trivial⟩

theorem commit_safely {f : Except PgError Unit → Api (Except PgError A)} (drafts : DraftOpen row True l) (blank : Blank row)
    (ends : ∀ answer, ∃ result, f answer = .done result) : Safely (fun _ _ _ => True) (query .commit >>= f) db l := by
  intro later orderly _ c
  obtain ⟨tx,opened,draft,some'⟩ := drafts
  have kept : Kept later (exec .commit c later l).2.1 := by
    have effect := exec_effect c later l .commit
    generalize (exec .commit c later l).2.1 = after at effect
    cases effect with
    | none => exact ⟨orderly,Settles.refl later⟩
    | commit opened' freshIds freshTasks =>
      cases opened.symm.trans opened'
      refine commit_kept orderly draft blank (some' trivial) (fun old present => ?_) freshTasks
      exact freshIds row (by rw [draft.investigations]; exact List.mem_singleton_self row) old present
  refine ⟨kept.1,trivial,kept.2,?_⟩
  obtain ⟨result,same⟩ := ends (exec .commit c later l).1
  change Safely _ (f _) _ _
  rw [same]
  exact fun _ _ _ => trivial

theorem CreateInvestigationTx_safely (question : String) (taskTypes : List String) (db : Database) (l : Session) :
    Safely (fun _ _ _ => True) (CreateInvestigationTx question taskTypes) db l := by
  refine query_safely trivial fun c db _ => ?_
  cases answer : (exec .begin c db l).1 with
  | error => exact fun _ _ _ => trivial
  | ok =>
    have opened := begun answer
    generalize (exec .begin c db l).2.2 = l at opened
    refine query_safely trivial fun c' db orderly => ?_
    cases answer : (exec (.insertInvestigation question) c' db l).1 with
    | error => exact fun _ _ _ => trivial
    | ok row =>
      obtain ⟨blank,tx,opened,draft⟩ := investigation_drafted answer opened
      have orderly' := (exec_settled (.insertInvestigation question) c' db l trivial orderly).1
      refine Secure.bind Settles.refl orderly' trivial (insertTasks_safely _ opened draft)
        fun result db l _ _ drafts => ?_
      cases result with
      | error => exact fun _ _ _ => trivial
      | ok tasks =>
        obtain ⟨tx,opened,draft,some'⟩ := drafts tasks rfl
        refine commit_safely ⟨tx,opened,draft,fun _ => some' ?_⟩ blank fun answer => ?_
        · split
          · exact nofun
          · assumption
        · cases answer with
          | error e => exact ⟨_,rfl⟩
          | ok u => exact ⟨_,rfl⟩

-- A method of the orchestrator that is safe wherever `known` holds.
def Safe (known : Database → Prop) (learned : A → Database → Prop) (x : Py A) : Prop := ∀ db l, Orderly db → known db →
  x.Secure exec Orderly (fun _ => True) Settles (fun a db _ => learned a db) db l

def Lasting (known : Database → Prop) : Prop := ∀ db db', Settles db db' → known db → known db'

def nothing : A → Database → Prop := fun _ _ => True

theorem Safe.bind {x : Py A} {f : A → Py B} (first : Safe known learned x) (then' : ∀ a, Safe (learned a) later (f a)) :
    Safe known later (x >>= f) := by
  intro db l orderly holds
  exact Method.Secure.bind Settles.refl orderly trivial (first db l orderly holds)
    fun a db l orderly _ told => then' a db l orderly told

theorem Safe.only {x : Py A} (only : x.Only Statement.settled) : Safe known nothing x := by
  intro db l _ _
  apply only.secure ?_ trivial
  exact fun s c db l settled orderly _ =>
    ⟨(exec_settled s c db l settled orderly).1,trivial,(exec_settled s c db l settled orderly).2⟩

theorem Safe.attempt {body : Py Unit} (safe : Safe known nothing body) (handler : PyError → Py Unit)
    (caught : ∀ e, Safe (fun _ => True) nothing (handler e)) : Safe known nothing (Method.attempt body handler) := by
  intro db l orderly holds
  apply Method.Secure.attempt Settles.refl orderly trivial
  · exact fun _ _ _ _ _ _ => trivial
  · exact safe db l orderly holds
  · exact fun e db l orderly _ => caught e db l orderly trivial

-- What a statement keeps where `known` holds, and what its answer tells.
theorem Safe.fetch (s : Statement) {learned : s.Result → Database → Prop} (lasting : Lasting known)
    (stays : ∀ r, Lasting (learned r)) (keeps : ∀ c db l, Orderly db → known db → Kept db (exec s c db l).2.1)
    (tells : ∀ c db l r, Orderly db → known db → (exec s c db l).1 = .ok r → learned r (exec s c db l).2.1) :
    Safe known learned (fetch s) := by
  intro db l orderly holds
  apply Method.Secure.lift Settles.refl orderly trivial
  · exact fun r db db' _ move told => stays r db db' move told
  · intro later orderly move c
    have here := lasting db later move holds
    obtain ⟨orderly',moved⟩ := keeps c later l orderly here
    refine ⟨orderly',trivial,moved,?_⟩
    cases answer : (exec s c later l).1 with
    | error e => exact fun _ _ _ _ => nofun
    | ok r =>
      intro last _ move a same
      cases same
      exact stays r _ last move (tells c later l r orderly here answer)

theorem Safe.frame {x : Py A} (safe : Safe known learned x) (lasting : Lasting kept) :
    Safe (fun db => known db ∧ kept db) (fun a db => learned a db ∧ kept db) x := by
  intro db l orderly holds agents
  apply ((safe db l orderly holds.1 agents).frame lasting holds.2).imp
  exact fun _ _ _ _ both a same => ⟨both.1 a same,both.2⟩

theorem Safe.weaken {x : Py A} (safe : Safe known learned x) (stronger : ∀ db, known' db → known db) : Safe known' learned x :=
  fun db l orderly holds => safe db l orderly (stronger db holds)

theorem Safe.pure (a : A) : Safe known nothing (Pure.pure a : Py A) := Safe.only (Method.Only.pure a)

theorem known_lasting (inv : Uuid) : Lasting (Known · inv) := fun _ _ settles known => (settles inv known).1

-- What the consensus run is told about its investigation.
structure Ripe (inv : Uuid) (db : Database) : Prop where
  known : Known db inv
  closed : Closed db inv

theorem ripe_lasting (inv : Uuid) : Lasting (Ripe inv) := fun _ _ settles ripe =>
  ⟨(settles inv ripe.known).1,(settles inv ripe.known).2 ripe.closed⟩

theorem Safe.reads (s : Statement) (settled : s.settled) (lasting : Lasting known) : Safe known (fun _ => known) (Trokk.fetch s) :=
  Safe.fetch s lasting (fun _ => lasting) (fun c db l orderly _ => exec_settled s c db l settled orderly)
    fun c db l _ orderly holds _ => lasting db _ (exec_settled s c db l settled orderly).2 holds

theorem ripe_report_kept (orderly : Orderly db) (ripe : Ripe inv db) (c : Choice) (l : Session) (report : Json) :
    Kept db (exec (.setInvestigationReport inv report) c db l).2.1 := by
  have effect := exec_effect c db l (.setInvestigationReport inv report)
  generalize (exec (.setInvestigationReport inv report) c db l).2.1 = after at effect
  cases effect with
  | none => exact ⟨orderly,Settles.refl db⟩
  | setInvestigationReport =>
    apply editInvestigation_kept orderly
    · exact fun _ => rfl
    · exact fun i same _ => .inr (same ▸ ripe.closed)

theorem ripe_status_kept (orderly : Orderly db) (ripe : Ripe inv db) (c : Choice) (l : Session) (status : InvestigationStatus) :
    Kept db (exec (.setInvestigationStatus inv status) c db l).2.1 := by
  have effect := exec_effect c db l (.setInvestigationStatus inv status)
  generalize (exec (.setInvestigationStatus inv status) c db l).2.1 = after at effect
  cases effect with
  | none => exact ⟨orderly,Settles.refl db⟩
  | setInvestigationStatus =>
    apply editInvestigation_kept orderly
    · exact fun _ => rfl
    · exact fun i same _ => .inr (same ▸ ripe.closed)

theorem publishReport_safe (runtime : Runtime) (inv : Uuid) (question : String) (found : List Finding) :
    Safe (Ripe inv) nothing (publishReport runtime inv question found) := by
  have chats : (Method.lift (runtime.generateReport inv question found) : Py Json).Only Statement.settled := by
    refine Method.Only.lift (only_imp (runtime.chats _ _ _) fun s chats => ?_)
    cases s <;> trivial
  have replied : Safe (fun _ => True) nothing (Method.lift (runtime.generateReport inv question found) : Py Json) := .only chats
  apply ((replied.frame (ripe_lasting inv)).weaken fun _ ripe => ⟨trivial,ripe⟩).bind
  intro report
  apply Safe.weaken ?_ fun _ both => both.2
  have stored : Safe (Ripe inv) (fun _ => Ripe inv) (fetch (.setInvestigationReport inv report)) := by
    apply Safe.fetch _ (ripe_lasting inv) fun _ => ripe_lasting inv
    · exact fun c db l orderly ripe => ripe_report_kept orderly ripe c l report
    · exact fun c db l _ orderly ripe _ => ripe_lasting inv db _ (ripe_report_kept orderly ripe c l report).2 ripe
  apply stored.bind
  intro _
  apply Safe.fetch _ (ripe_lasting inv) fun _ _ _ _ _ => trivial
  · exact fun c db l orderly ripe => ripe_status_kept orderly ripe c l .complete
  · exact fun _ _ _ _ _ _ _ => trivial

theorem run_consensus_safe (runtime : Runtime) (inv : Uuid) : Safe (Ripe inv) nothing (run_consensus runtime inv) := by
  apply Safe.bind (Safe.reads (.investigationQuestion inv) trivial (ripe_lasting inv))
  intro question
  apply Safe.bind (Safe.reads (.investigationFindings inv) trivial (ripe_lasting inv))
  intro found
  split
  · exact .pure ()
  · exact Safe.attempt (publishReport_safe runtime inv question found) _ fun _ => .pure ()

theorem pending_counted (c : Choice) (l : Session) (ok : (exec (.countPendingTasks inv) c db l).1 = .ok pending) (none' : pending = 0) :
    Closed db inv := by
  have count := (Prod.mk.inj (Except.ok.inj (exec_ok ok))).1
  rw [none'] at count
  intro t member own
  by_contra open'
  have counted : t ∈ openTasks db inv := List.mem_filter.mpr ⟨member,by simpa [own] using open'⟩
  rw [List.eq_nil_of_length_eq_zero count] at counted
  cases counted

theorem consensusOf_safe (runtime : Runtime) (inv : Uuid) : Safe (Known · inv) nothing (consensusOf runtime inv) := by
  have counted : Safe (Known · inv) (fun pending db => Known db inv ∧ (pending = 0 → Closed db inv)) (fetch (.countPendingTasks inv)) := by
    have reads (c : Choice) (db : Database) (l : Session) : (exec (.countPendingTasks inv) c db l).2.1 = db := by
      have effect := exec_effect c db l (.countPendingTasks inv)
      generalize (exec (.countPendingTasks inv) c db l).2.1 = after at effect
      cases effect
      rfl
    apply Safe.fetch _ (known_lasting inv)
    · exact fun _ _ _ settles told => ⟨(settles inv told.1).1,fun none' => (settles inv told.1).2 (told.2 none')⟩
    · exact fun c db l orderly _ => exec_settled _ c db l trivial orderly
    · intro c db l pending _ known ok
      rw [reads]
      exact ⟨known,pending_counted c l ok⟩
  apply counted.bind
  intro pending
  split
  · rename_i none'
    exact (run_consensus_safe runtime inv).weaken fun _ told => ⟨told.1,told.2 none'⟩
  · exact .pure ()

def AllKnown (invs : List Uuid) (db : Database) : Prop := ∀ inv ∈ invs, Known db inv

theorem allKnown_lasting (invs : List Uuid) : Lasting (AllKnown invs) := fun _ _ settles known inv member =>
  (settles inv (known inv member)).1

theorem consensusEach_safe (runtime : Runtime) (invs : List Uuid) : Safe (AllKnown invs) nothing (consensusEach runtime invs) := by
  induction invs with
  | nil => exact .pure ()
  | cons inv rest ih =>
    have first := ((consensusOf_safe runtime inv).frame (allKnown_lasting rest)).weaken fun db (known : AllKnown (inv :: rest) db) =>
      ⟨known inv List.mem_cons_self,fun other member => known other (List.mem_cons_of_mem _ member)⟩
    exact first.bind fun _ => ih.weaken fun _ both => both.2

theorem active_known (c : Choice) (l : Session) (ok : (exec .activeInvestigations c db l).1 = .ok invs) : AllKnown invs db := by
  have listed := (Prod.mk.inj (Except.ok.inj (exec_ok ok))).1
  subst listed
  intro inv member
  obtain ⟨i,sorted,rfl⟩ := List.mem_map.mp member
  rw [oldestFirst,List.mem_insertionSort,List.mem_filter] at sorted
  exact ⟨i,sorted.1,rfl⟩

theorem handle_consensus_check_safe (runtime : Runtime) : Safe (fun _ => True) nothing (handle_consensus_check runtime) := by
  have listed : Safe (fun _ => True) AllKnown (fetch .activeInvestigations) := by
    apply Safe.fetch .activeInvestigations (fun _ _ _ _ => trivial) allKnown_lasting
    · exact fun c db l orderly _ => exec_settled _ c db l trivial orderly
    · intro c db l invs orderly _ ok
      exact allKnown_lasting invs db _ (exec_settled .activeInvestigations c db l trivial orderly).2 (active_known c l ok)
  exact listed.bind fun invs => consensusEach_safe runtime invs

theorem handleSignal_safe (runtime : Runtime) (signal : SignalRow) : Safe (fun _ => True) nothing (handleSignal runtime signal) := by
  by_cases triggers : signal.signalType = "trigger_consensus"
  · unfold handleSignal
    rw [triggers,if_neg (by decide),if_neg (by decide),if_pos rfl]
    exact handle_consensus_check_safe runtime
  · exact .only (handleSignal_only (fun _ => handles_settled triggers) runtime)

theorem processEach_safe (runtime : Runtime) (signals : List SignalRow) : Safe (fun _ => True) nothing (processEach runtime signals) := by
  induction signals with
  | nil => exact .pure ()
  | cons signal rest ih =>
    have logged : Safe (fun _ => True) (fun _ _ => True) (fetch (.processing signal)) := .reads _ trivial fun _ _ _ _ => trivial
    have marked : Safe (fun _ => True) (fun _ _ => True) (fetch (.markProcessed signal.id)) := .reads _ trivial fun _ _ _ _ => trivial
    exact logged.bind fun _ => (handleSignal_safe runtime signal).bind fun _ => marked.bind fun _ => ih

theorem tick_safe (runtime : Runtime) : Safe (fun _ => True) nothing (tick runtime) := by
  have polled : Safe (fun _ => True) (fun _ _ => True) (fetch .poll) := .reads .poll trivial fun _ _ _ _ => trivial
  exact polled.bind fun signals => processEach_safe runtime signals

theorem createInvestigation_safely (body : Option CreateInvestigationRequest) (db : Database) (l : Session) (orderly : Orderly db) :
    Safely (fun _ _ _ => True) (CreateInvestigation body) db l := by
  unfold CreateInvestigation
  split
  · exact fun _ _ _ => trivial
  · split
    · exact fun _ _ _ => trivial
    · apply Secure.bind Settles.refl orderly trivial (CreateInvestigationTx_safely _ _ db l)
      intro result db l _ _ _
      cases result <;> exact fun _ _ _ => trivial

theorem serve_safely (adminKey : String) (request : Request) (db : Database) (orderly : Orderly db) :
    Safely (fun _ _ _ => True) (serve adminKey request) db Session.fresh := by
  cases creates : request.route.createsInvestigation with
  | false => exact only_safely (serve_only (fun _ => requested_settled creates) adminKey) db _
  | true =>
    have authenticates := only_safely (authenticate_only (P := Statement.settled) (fun _ => trivial) adminKey request.authorization)
    apply Secure.bind Settles.refl orderly trivial (authenticates db _)
    intro result db l orderly _ _
    obtain ⟨authorization,route⟩ := request
    cases route with
    | createInvestigation body =>
      cases result with
      | error response => exact fun _ _ _ => trivial
      | ok info =>
        cases info with
        | none => exact fun _ _ _ => trivial
        | some info =>
          change Safely _ (if info.isAdmin then CreateInvestigation body else writeError 403 "admin_required") _ _
          split
          · exact createInvestigation_safely body db l orderly
          · exact fun _ _ _ => trivial
    | _ => cases creates

-- What may run beside what: requests, whole ticks, consensus checks, and claims,
-- completions and failures of any task on their own.
inductive Operation (adminKey : String) (runtime : Runtime) : Nat → Api Unit → Prop where
  | request : Operation adminKey runtime n (serve adminKey req >>= fun _ => .done ())
  | tick : Operation adminKey runtime n (tick runtime agents >>= fun _ => .done ())
  | check : Operation adminKey runtime n (handle_consensus_check runtime agents >>= fun _ => .done ())
  | claim : Operation adminKey runtime n (query (.pendingTask agent type) >>= fun _ => .done ())
  | complete : Operation adminKey runtime n (query (.completeTask task result) >>= fun _ => .done ())
  | fail : Operation adminKey runtime n (query (.failTask task error) >>= fun _ => .done ())

theorem operation_safely (operation : Operation adminKey runtime n x) (db : Database) (orderly : Orderly db) :
    Safely (fun _ _ _ => True) x db Session.fresh := by
  have method {x : Py Unit} (safe : Safe (fun _ => True) nothing x) (agents : Agents) :
      Safely (fun _ _ _ => True) (x agents >>= fun _ => Program.done ()) db Session.fresh :=
    Secure.bind Settles.refl orderly trivial (safe db _ orderly trivial agents) fun _ _ _ _ _ _ _ _ _ => trivial
  cases operation with
  | request =>
    exact Secure.bind Settles.refl orderly trivial (serve_safely adminKey _ db orderly) fun _ _ _ _ _ _ _ _ _ => trivial
  | tick => exact method (tick_safe runtime) _
  | check => exact method (handle_consensus_check_safe runtime) _
  | claim => exact query_safely trivial fun _ _ _ _ _ _ => trivial
  | complete => exact query_safely trivial fun _ _ _ _ _ _ => trivial
  | fail => exact query_safely trivial fun _ _ _ _ _ _ => trivial

abbrev Operations := Pool Statement Statement.Result PgError Unit Database Session Nat
abbrev OperationRuns (adminKey : String) (runtime : Runtime) : Operations → Operations → Prop :=
  Pool.Runs exec (Operation adminKey runtime) Session.fresh

theorem operations_orderly {p : Operations} (orderly : Orderly db) (run : OperationRuns adminKey runtime (Pool.idle db) p) :
    Orderly p.shared := by
  have begins (n : Nat) (x : Api Unit) (db : Database) (operation : Operation adminKey runtime n x) (orderly : Orderly db) :=
    operation_safely operation db orderly
  exact (Pool.runs_secured Settles.refl Settles.trans begins trivial (Pool.idle_secured orderly) run).1.holds

structure Finished (db : Database) (inv : Uuid) : Prop where
  tasked : ∃ t ∈ db.investigationTasks, t.investigationId = inv
  ended : ∀ t ∈ db.investigationTasks, t.investigationId = inv → t.status = .complete ∨ t.status = .failed

theorem reported_tasks_ended {p : Operations} (orderly : Orderly db) (run : OperationRuns adminKey runtime (Pool.idle db) p) :
    ∀ i ∈ p.shared.investigations, i.report.isSome ∨ i.status = .complete → Finished p.shared i.id := by
  intro i member done
  have reached := operations_orderly orderly run
  refine ⟨reached.tasked i member,?_⟩
  intro t present own
  have closed := reached.reported i member done t present own
  cases status : t.status with
  | complete => exact .inl rfl
  | failed => exact .inr rfl
  | pending => simp [TaskRow.open,status] at closed
  | running => simp [TaskRow.open,status] at closed

-- The one task of an investigation fails, and its finding is reported.
def Database.reporting : Database :=
  {Database.due with investigationTasks := [⟨51,21,1,"research","Investigate: why",.running,none,30,none⟩]}
def failing : Operations :=
  ⟨.reporting,Function.update (fun _ => none) 0 (some (query (.failTask 51 "timeout") >>= fun _ => .done (),.fresh))⟩
def checking : Operations :=
  ⟨.reporting,Function.update failing.sessions 1 (some (handle_consensus_check .sample [] >>= fun _ => .done (),.fresh))⟩
def reporting : Operations := checking.acts exec ((0,.sample) :: List.replicate 7 (1,.sample))

theorem reporting_orderly : Orderly .reporting := by
  constructor
  · decide
  · exact fun i member => ⟨_,List.mem_singleton_self _,by rw [List.mem_singleton.mp member]⟩
  · intro i member done
    rw [List.mem_singleton.mp member] at done
    simp at done

theorem checking_runs : OperationRuns "rp_admin" .sample (Pool.idle .reporting) checking := by
  have begun : OperationRuns "rp_admin" .sample (Pool.idle .reporting) failing := .step .start (.begin rfl .fail)
  exact .step begun (.begin rfl .check)

theorem reported_tasks_ended_sample : Finished reporting.shared 21 := by
  have rows : reporting.shared.investigations = [⟨21,"why",.complete,some (.obj []),30,none⟩] := by decide +kernel
  have member : ⟨21,"why",.complete,some (.obj []),30,none⟩ ∈ reporting.shared.investigations := by
    rw [rows]
    exact List.mem_singleton_self _
  exact reported_tasks_ended reporting_orderly (Pool.acts_runs checking_runs _) _ member (.inr rfl)

end Trokk
