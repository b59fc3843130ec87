import Trokk.Library.Transcript
import Trokk.System

-- What an answer outside 2xx says about the database: every handler that writes
-- writes last, but the two that store a message read it back, and the one that
-- updates an agent scans the row that the UPDATE returns.
namespace Trokk
open Program

def Response.success (response : Response) : Prop := 200 ≤ response.status ∧ response.status < 300

theorem ok_success (body : Body) : (⟨200,body⟩ : Response).success := by simp [Response.success]
theorem created_success (body : Body) : (⟨201,body⟩ : Response).success := by simp [Response.success]

-- A failed statement or commit has no effect.
def NotLost (c : Choice) : Prop := c.fate ≠ .lost

def Statement.reads : Statement → Prop
  | .agentByAPIKey _ | .messageWithAgent _ | .getAgent _ | .begin | .insertInvestigation _ | .activeAgents | .insertTask .. | .investigation _
  | .investigationTasks _ | .randomBytes => True
  | _ => False

-- GetMessageWithAgent fails.
def NotReadBack (e : Entry Statement Statement.Result PgError Database Choice) : Prop :=
  ∃ id, e.statement = .messageWithAgent id ∧ e.choice.fate = .refused

-- The UPDATE changes the table, and the row that it returns has a NULL that does not scan.
def Unscanned (db : Database) (id : Uuid) (req : UpdateAgentRequest) : Prop :=
  req.storable = true ∧ (∃ a, db.agents.find? (·.id = id) = some a ∧ (a.update req).scans = false) ∧
    ∃ b ∈ db.agents, b.id = id ∧ b.update req ≠ b

def NotScanned (e : Entry Statement Statement.Result PgError Database Choice) : Prop :=
  ∃ id req, e.statement = .updateAgent id req ∧ e.choice.fate = .answered ∧ Unscanned e.before id req

theorem exec_reads (s : Statement) (c : Choice) (db : Database) (l : Session) (reads : s.reads) : (exec s c db l).2.1 = db := by
  have effect := exec_effect c db l s
  generalize (exec s c db l).2.1 = db' at effect
  cases effect with
  | none => rfl
  | _ => exact reads.elim

theorem exec_refused (kept : NotLost c) (failed : (exec s c db l).1 = .error e) : (exec s c db l).2.1 = db := by
  unfold exec at failed ⊢
  split at failed
  · rfl
  · cases done : perform c db l s with
    | error e => rfl
    | ok result => rw [done] at failed; cases failed
  · rename_i lost
    split at lost
    · cases lost
    · exact absurd lost kept

-- An error leaves the database as it was.
def Atomic (x : Api (Except PgError A)) : Prop := ∀ db l, x.Ensures exec NotLost (fun result db' _ => ∀ e, result = .error e → db' = db) db l

-- So does an answer outside 2xx.
def Undoes (x : Api Response) : Prop := ∀ db l, x.Ensures exec NotLost (fun response db' _ => ¬ response.success → db' = db) db l

theorem reading_ensures {x : Api A} (only : x.Only Statement.reads) (db : Database) (l : Session) :
    x.Ensures exec NotLost (fun _ db' _ => db' = db) db l := by
  refine only.ensures (fun db' _ => db' = db) ?_ rfl
  intro s c db' l reads same
  rw [exec_reads s c db' l reads,same]

theorem Atomic.query (s : Statement) : Atomic (query s) := fun _ _ _ kept _ failed => exec_refused kept failed
theorem Atomic.done (result : Except PgError A) : Atomic (.done result) := fun _ _ _ _ => rfl
theorem Undoes.done (response : Response) : Undoes (.done response) := fun _ _ _ => rfl

theorem Atomic.after {x : Api A} {f : A → Api (Except PgError B)} (only : x.Only Statement.reads) (then' : ∀ a, Atomic (f a)) :
    Atomic (x >>= f) := by
  intro db l
  apply Program.Ensures.bind
  apply (reading_ensures only db l).imp
  intro a db' l' same
  subst same
  exact then' a _ _

theorem Undoes.after {x : Api A} {f : A → Api Response} (only : x.Only Statement.reads) (then' : ∀ a, Undoes (f a)) :
    Undoes (x >>= f) := by
  intro db l
  apply Program.Ensures.bind
  apply (reading_ensures only db l).imp
  intro a db' l' same
  subst same
  exact then' a _ _

theorem Atomic.passes {x : Api (Except PgError A)} {f : Except PgError A → Api (Except PgError B)} (atomic : Atomic x)
    (failed : ∀ e, ∃ e', f (.error e) = .done (.error e')) (ok : ∀ a, ∃ b, f (.ok a) = .done (.ok b)) : Atomic (x >>= f) := by
  intro db l
  apply Program.Ensures.bind
  apply (atomic db l).imp
  intro result db' l' undone
  cases result with
  | error e =>
    obtain ⟨e',same⟩ := failed e
    rw [same]
    exact fun _ _ => undone e rfl
  | ok a =>
    obtain ⟨b,same⟩ := ok a
    rw [same]
    exact fun _ => nofun

theorem Atomic.responds {x : Api (Except PgError A)} {f : Except PgError A → Api Response} (atomic : Atomic x)
    (failed : ∀ e, ∃ response, f (.error e) = .done response)
    (ok : ∀ a, ∃ response, f (.ok a) = .done response ∧ response.success) : Undoes (x >>= f) := by
  intro db l
  apply Program.Ensures.bind
  apply (atomic db l).imp
  intro result db' l' undone
  cases result with
  | error e =>
    obtain ⟨response,same⟩ := failed e
    rw [same]
    exact fun _ => undone e rfl
  | ok a =>
    obtain ⟨response,same,success⟩ := ok a
    rw [same]
    exact fun failed => absurd success failed

theorem requireAdmin_undoes {next : AuthInfo → Api Response} (undoes : ∀ info, Undoes (next info)) (info : Option AuthInfo) :
    Undoes (RequireAdmin info next) := by
  cases info with
  | none => exact .done _
  | some info =>
    unfold RequireAdmin
    dsimp only
    split
    · exact undoes info
    · exact .done _

theorem requireAgent_undoes {next : AuthInfo → Api Response} (undoes : ∀ info, Undoes (next info)) (info : Option AuthInfo) :
    Undoes (RequireAgent info next) := by
  cases info with
  | none => exact .done _
  | some info =>
    unfold RequireAgent
    dsimp only
    split
    · exact .done _
    · exact undoes info

theorem CreateAgentRow_atomic (req : CreateAgentRequest) : Atomic (CreateAgentRow req) := by
  refine Atomic.after (x := Trokk.query .randomBytes) (Only.issue trivial) fun bytes => ?_
  cases bytes with
  | error e => exact .done _
  | ok bytes => exact .query _

theorem CreateAgent_undoes (body : Option CreateAgentRequest) : Undoes (CreateAgent body) := by
  cases body with
  | none => exact .done _
  | some req =>
    unfold CreateAgent
    dsimp only
    split
    · exact .done _
    · exact (CreateAgentRow_atomic req).responds (fun _ => ⟨_,rfl⟩) fun _ => ⟨_,rfl,created_success _⟩

theorem toggle_undoes (table : ToggleTable) (failed : String) (info : AuthInfo) (text : String) :
    Undoes (toggleHandler table failed info text) := by
  unfold toggleHandler
  split
  · exact .done _
  · exact (Atomic.query _).responds (fun _ => ⟨_,rfl⟩) fun _ => ⟨_,rfl,ok_success _⟩

-- Everything before the COMMIT is of the transaction alone.
theorem CreateInvestigationTx_atomic (question : String) (taskTypes : List String) :
    Atomic (CreateInvestigationTx question taskTypes) := by
  refine Atomic.after (x := Trokk.query .begin) (Only.issue trivial) fun begun => ?_
  cases begun with
  | error e => exact .done _
  | ok _ =>
    refine Atomic.after (x := Trokk.query (.insertInvestigation question)) (Only.issue trivial) fun inserted => ?_
    cases inserted with
    | error e => exact .done _
    | ok inv =>
      apply Atomic.after (insertTasks_only trivial (fun _ _ _ _ => trivial) inv question _ _)
      intro tasks
      cases tasks with
      | error e => exact .done _
      | ok tasks => exact (Atomic.query .commit).passes (fun e => ⟨e,rfl⟩) fun _ => ⟨_,rfl⟩

theorem CreateInvestigation_undoes (body : Option CreateInvestigationRequest) : Undoes (CreateInvestigation body) := by
  cases body with
  | none => exact .done _
  | some req =>
    unfold CreateInvestigation
    dsimp only
    split
    · exact .done _
    · exact (CreateInvestigationTx_atomic _ _).responds (fun _ => ⟨_,rfl⟩) fun _ => ⟨_,rfl,created_success _⟩

theorem TriggerConsensus_undoes (text : String) : Undoes (TriggerConsensus text) := by
  unfold TriggerConsensus
  split
  · exact .done _
  · apply Undoes.after (getInvestigation_only (fun _ => ⟨trivial,trivial⟩) _)
    intro found
    split
    · exact .done _
    · exact .done _
    · split
      · exact .done _
      · exact (Atomic.query _).responds (fun _ => ⟨_,rfl⟩) fun _ => ⟨_,rfl,ok_success _⟩

theorem ControlTick_undoes (text : String) : Undoes (ControlTick text) := by
  unfold ControlTick
  split
  · exact .done _
  · exact (Atomic.query _).responds (fun _ => ⟨_,rfl⟩) fun _ => ⟨_,rfl,ok_success _⟩

theorem ControlPauseAll_undoes : Undoes ControlPauseAll :=
  (Atomic.query (.setAllActive false)).responds (fun _ => ⟨_,rfl⟩) fun _ => ⟨_,rfl,ok_success _⟩
theorem ControlResumeAll_undoes : Undoes ControlResumeAll :=
  (Atomic.query (.setAllActive true)).responds (fun _ => ⟨_,rfl⟩) fun _ => ⟨_,rfl,ok_success _⟩

-- The routes that can fail after their write.
def Route.late (route : Route) : Bool := route.storesMessage || route.updatesAgent

theorem dispatch_undoes (route : Route) (other : route.late = false) (info : Option AuthInfo) : Undoes (dispatch info route) := by
  cases route with
  | createAgent body => exact requireAdmin_undoes (fun _ => CreateAgent_undoes body) info
  | updateAgent => cases other
  | createMessage => cases other
  | respond => cases other
  | endorse text => exact requireAgent_undoes (fun info => toggle_undoes _ _ info text) info
  | propagate text => exact requireAgent_undoes (fun info => toggle_undoes _ _ info text) info
  | createInvestigation body => exact requireAdmin_undoes (fun _ => CreateInvestigation_undoes body) info
  | triggerConsensus text => exact requireAdmin_undoes (fun _ => TriggerConsensus_undoes text) info
  | controlTick text => exact requireAdmin_undoes (fun _ => ControlTick_undoes text) info
  | pauseAll => exact requireAdmin_undoes (fun _ => ControlPauseAll_undoes) info
  | resumeAll => exact requireAdmin_undoes (fun _ => ControlResumeAll_undoes) info

def Statement.late : Statement → Prop
  | .messageWithAgent _ | .updateAgent .. => True
  | _ => False

theorem dispatch_silent (route : Route) (other : route.late = false) (info : Option AuthInfo) :
    (dispatch info route).Only fun s => ¬ s.late := by
  obtain ⟨stores,updates⟩ := Bool.or_eq_false_iff.mp other
  refine handler_only (fun s requested late => ?_) info
  cases s with
  | messageWithAgent => cases stores.symm.trans requested
  | updateAgent => cases updates.symm.trans requested
  | _ => exact late

abbrev Log := Transcript Statement Statement.Result PgError Database Choice

-- What was written was read back and scanned.
def ReadBack (log : Log) : Prop := ∀ e ∈ log, ¬ (NotReadBack e ∨ NotScanned e)

-- An error means nothing happened exactly when no read-back failed.
def Truthful (db : Database) (response : Response) (db' : Database) (l : Session × Log) : Prop :=
  (¬ response.success → db' = db) ↔ ReadBack l.2

theorem quiet_entry (e : Entry Statement Statement.Result PgError Database Choice) (silent : ¬ e.statement.late) :
    ¬ (NotReadBack e ∨ NotScanned e) := by
  intro unread
  rcases unread with ⟨_,same,-⟩ | ⟨_,_,same,-⟩ <;>
    · rw [same] at silent
      exact silent trivial

variable {db : Database} {l : Session} {log : Log}

theorem Undoes.truthful {x : Api Response} (undoes : Undoes x) (silent : x.Only fun s => ¬ s.late) (clean : ReadBack log) :
    x.Ensures (recorded exec) NotLost (Truthful db) db (l,log) := by
  apply ((undoes db l).recorded.both (silent.recorded quiet_entry clean)).imp
  intro response db' l' both
  exact iff_of_true both.1 both.2

theorem insertMessage_changes (done : perform c db l (.insertMessage agent content parent) = .ok (row,db',l')) : db' ≠ db := by
  intro same
  obtain ⟨-,rfl,-⟩ := insertMessage_done done
  have longer := congrArg (fun d => d.messages.length) same
  simp at longer

theorem messageWithAgent_answers (c : Choice) (db : Database) (l : Session) (target : Uuid)
    (failed : (exec (.messageWithAgent target) c db l).1 = .error e) (kept : NotLost c) : c.fate = .refused := by
  cases fate : c.fate with
  | refused => rfl
  | answered => simp [exec,Statement.certain,fate,perform] at failed
  | lost => exact absurd fate kept

theorem clean_snoc (clean : ReadBack log) (now : ¬ (NotReadBack e ∨ NotScanned e)) : ReadBack (log ++ [e]) := by
  intro other member
  cases List.mem_append.mp member with
  | inl old => exact clean other old
  | inr added => exact List.mem_singleton.mp added ▸ now

theorem recorded_query {f : Except PgError s.Result → Api A} {post : A → Database → Session × Log → Prop}
    (next : ∀ c, NotLost c → (f (exec s c db l).1).Ensures (recorded exec) NotLost post (exec s c db l).2.1
      ((exec s c db l).2.2,log ++ [entry exec s c db l])) :
    (query s >>= f).Ensures (recorded exec) NotLost post db (l,log) := next

-- The message is there when the handler reads it back.
theorem storeMessage_truthful (clean : ReadBack log) (info : AuthInfo) (content : String) (parent : Option Uuid)
    (notCreated notFetched : String) : (storeMessage info content parent notCreated notFetched).Ensures (recorded exec) NotLost
      (Truthful db) db (l,log) := by
  apply recorded_query
  intro c kept
  have inserted := clean_snoc clean (quiet_entry (entry exec (.insertMessage info.agentID content parent) c db l) id)
  cases answer : (exec (.insertMessage info.agentID content parent) c db l).1 with
  | error e => exact iff_of_true (fun _ => exec_refused kept answer) inserted
  | ok row =>
    have stored := insertMessage_changes (exec_ok answer)
    apply recorded_query
    intro c' kept'
    generalize (exec (.insertMessage info.agentID content parent) c db l).2.1 = db' at stored
    generalize (exec (.insertMessage info.agentID content parent) c db l).2.2 = l'
    have same : (exec (.messageWithAgent row.id) c' db' l').2.1 = db' := exec_reads _ c' db' l' trivial
    cases answer' : (exec (.messageWithAgent row.id) c' db' l').1 with
    | error e =>
      refine iff_of_false ?_ ?_
      · intro undone
        rw [same] at undone
        exact stored (undone (by simp [Response.success]))
      · intro read
        apply read (entry exec (.messageWithAgent row.id) c' db' l') (by simp)
        exact .inl ⟨row.id,rfl,messageWithAgent_answers c' db' l' row.id answer' kept'⟩
    | ok found =>
      refine iff_of_true (fun failed => absurd (created_success _) failed) (clean_snoc inserted ?_)
      intro unread
      rcases unread with ⟨_,-,refused⟩ | ⟨_,_,update,-⟩
      · change c'.fate = .refused at refused
        simp [exec,Statement.certain,refused] at answer'
      · cases update

abbrev Truthfully (x : Api Response) (db : Database) (l : Session) (log : Log) : Prop :=
  x.Ensures (recorded exec) NotLost (Truthful db) db (l,log)

theorem done_truthful (clean : ReadBack log) (response : Response) : Truthfully (.done response) db l log :=
  iff_of_true (fun _ => rfl) clean

theorem createMessage_truthful (clean : ReadBack log) (info : AuthInfo) (body : Option Json) :
    Truthfully (CreateMessage info body) db l log := by
  unfold CreateMessage
  split
  · exact done_truthful clean _
  · split
    · exact done_truthful clean _
    · exact storeMessage_truthful clean _ _ _ _ _

theorem respond_truthful (clean : ReadBack log) (info : AuthInfo) (text : String) (body : Option Json) :
    Truthfully (RespondToMessage info text body) db l log := by
  unfold RespondToMessage
  split
  · exact done_truthful clean _
  · split
    · exact done_truthful clean _
    · split
      · exact done_truthful clean _
      · exact storeMessage_truthful clean _ _ _ _ _

theorem update_same {db : Database} {target : Uuid} {req : UpdateAgentRequest} :
    {db with agents := db.agents.map fun b => if b.id = target then b.update req else b} = db ↔
      ∀ b ∈ db.agents, b.id = target → b.update req = b := by
  have rows : {db with agents := db.agents.map fun b => if b.id = target then b.update req else b} = db ↔
      (db.agents.map fun b => if b.id = target then b.update req else b) = db.agents.map id :=
    ⟨fun same => (congrArg Database.agents same).trans (List.map_id _).symm,fun same => by rw [same,List.map_id]⟩
  rw [rows,List.map_inj_left]
  refine forall_congr' fun b => forall_congr' fun _ => ?_
  by_cases own : b.id = target <;> simp [own]

theorem updateAgent_carried (storable : req.storable = true) (found : db.agents.find? (·.id = target) = some a) :
    perform c db l (.updateAgent target req) = .ok (a.update req,
      {db with agents := db.agents.map fun b => if b.id = target then b.update req else b},l) := by
  simp only [perform,storable,Bool.not_true,Bool.false_eq_true,if_false]
  rw [found]

-- The UPDATE, its Scan and the answer.
theorem updateRow_truthful (clean : ReadBack log) (target : Uuid) (req : UpdateAgentRequest)
    {f : Except PgError AgentRow → Api Response} (failed : ∀ e, ∃ response, f (.error e) = .done response ∧ ¬ response.success)
    (ok : ∀ a, ∃ response, f (.ok a) = .done response ∧ response.success) :
    Truthfully ((query (.updateAgent target req) >>= fun returned => pure (returned.bind AgentRow.scanned)) >>= f) db l log := by
  intro c kept
  change (f ((exec (.updateAgent target req) c db l).1.bind AgentRow.scanned)).Ensures (recorded exec) NotLost (Truthful db)
    (exec (.updateAgent target req) c db l).2.1 ((exec (.updateAgent target req) c db l).2.2,log ++ [entry exec (.updateAgent target req) c db l])
  have unlogged (silent : ¬ NotScanned (entry exec (.updateAgent target req) c db l)) :
      ReadBack (log ++ [entry exec (.updateAgent target req) c db l]) := by
    refine clean_snoc clean ?_
    rintro (⟨_,read,-⟩ | unscanned)
    · cases read
    · exact silent unscanned
  cases answer : (exec (.updateAgent target req) c db l).1 with
  | error e =>
    obtain ⟨response,same,-⟩ := failed e
    rw [Except.bind,same]
    refine iff_of_true (fun _ => exec_refused kept answer) (unlogged ?_)
    rintro ⟨_,_,update,fate,storable,⟨a,found,-⟩,-⟩
    cases update
    change c.fate = .answered at fate
    change db.agents.find? (·.id = target) = some a at found
    have carried := updateAgent_carried (c := c) (l := l) storable found
    simp [exec,Statement.certain,fate,carried] at answer
  | ok row =>
    have done := exec_ok answer
    obtain ⟨storable,a,found,isRow,now,-⟩ := updateAgent_done done
    subst isRow
    have answered : c.fate = .answered := by
      cases fate : c.fate with
      | answered => rfl
      | refused => simp [exec,Statement.certain,fate] at answer
      | lost => exact absurd fate kept
    cases scans : (a.update req).scans with
    | true =>
      obtain ⟨response,same,success⟩ := ok (a.update req)
      have scanned : Except.bind (.ok (a.update req)) AgentRow.scanned = .ok (a.update req) := if_pos scans
      rw [scanned,same]
      refine iff_of_true (fun failed => absurd success failed) (unlogged ?_)
      rintro ⟨_,_,update,-,-,⟨b,found',unscanned⟩,-⟩
      cases update
      cases found.symm.trans found'
      cases scans.symm.trans unscanned
    | false =>
      obtain ⟨response,same,failure⟩ := failed .failed
      have unscanned : Except.bind (.ok (a.update req)) AgentRow.scanned = .error .failed := if_neg (by simp [scans])
      rw [unscanned,same]
      change (¬ response.success → _ = db) ↔ ReadBack _
      rw [now,imp_iff_right failure,update_same]
      constructor
      · intro unchanged
        refine unlogged ?_
        rintro ⟨_,_,update,-,-,-,b,member,own,changed⟩
        cases update
        exact changed (unchanged b member own)
      · intro read b member own
        by_contra changed
        exact read _ (List.mem_append_right _ List.mem_cons_self)
          (.inr ⟨target,req,rfl,answered,storable,⟨a,found,scans⟩,b,member,own,changed⟩)

theorem updateAgent_truthful (clean : ReadBack log) (text : String) (body : Option UpdateAgentRequest) :
    Truthfully (UpdateAgent text body) db l log := by
  unfold UpdateAgent
  split
  · exact done_truthful clean _
  · exact done_truthful clean _
  · unfold UpdateAgentRow
    split
    · refine Undoes.truthful (Undoes.after (Only.bind (Only.issue trivial) fun _ => trivial) fun result => ?_)
        (Only.bind (Only.bind (Only.issue id) fun _ => trivial) fun result => ?_) clean
      · cases result <;> exact .done _
      · cases result <;> trivial
    · exact updateRow_truthful clean _ _ (fun e => ⟨_,rfl,by simp [Response.success]⟩) fun a => ⟨_,rfl,ok_success _⟩

theorem requireAdmin_truthful {next : AuthInfo → Api Response} (clean : ReadBack log)
    (truthful : ∀ info, Truthfully (next info) db l log) (info : Option AuthInfo) : Truthfully (RequireAdmin info next) db l log := by
  cases info with
  | none => exact done_truthful clean _
  | some info =>
    unfold RequireAdmin
    dsimp only
    split
    · exact truthful info
    · exact done_truthful clean _

theorem requireAgent_truthful {next : AuthInfo → Api Response} (clean : ReadBack log)
    (truthful : ∀ info, Truthfully (next info) db l log) (info : Option AuthInfo) : Truthfully (RequireAgent info next) db l log := by
  cases info with
  | none => exact done_truthful clean _
  | some info =>
    unfold RequireAgent
    dsimp only
    split
    · exact done_truthful clean _
    · exact truthful info

theorem dispatch_truthful (route : Route) (info : Option AuthInfo) (clean : ReadBack log) :
    Truthfully (dispatch info route) db l log := by
  cases late : route.late with
  | false => exact (dispatch_undoes route late info).truthful (dispatch_silent route late info) clean
  | true => cases route with
    | createMessage body => exact requireAgent_truthful clean (fun info => createMessage_truthful clean info body) info
    | respond text body => exact requireAgent_truthful clean (fun info => respond_truthful clean info text body) info
    | updateAgent text body => exact requireAdmin_truthful clean (fun _ => updateAgent_truthful clean text body) info
    | _ => cases late

theorem authenticate_clean (adminKey header : String) (db : Database) (l : Session) :
    (Authenticate adminKey header).Ensures (recorded exec) NotLost (fun _ db' l' => db' = db ∧ ReadBack l'.2) db (l,[]) := by
  have reads := reading_ensures (authenticate_only (fun _ => trivial) adminKey header) db l
  have silent : (Authenticate adminKey header).Only fun s => ¬ s.late := authenticate_only (fun _ => id) _ _
  exact reads.recorded.both (silent.recorded quiet_entry (fun _ member => absurd member List.not_mem_nil))

theorem serve_truthful (adminKey : String) (request : Request) (db : Database) (l : Session) :
    Truthfully (serve adminKey request) db l [] := by
  apply Program.Ensures.bind
  apply (authenticate_clean adminKey request.authorization db l).imp
  intro result db' l' both
  obtain ⟨rfl,clean⟩ := both
  cases result with
  | error response => exact done_truthful clean response
  | ok info => exact dispatch_truthful request.route info clean

-- One toggle alone, statement by statement: what it commits is what the handlers'
-- single statement does, and without its commit nothing shows.
structure ToggledAlone (initial : Database) (key : ToggleKey) (s : ReadCommitted.State ToggleKey Unit Bool Nat) : Prop where
  finished : ∀ state, s.sessions 0 = .finished state → ∀ other,
    (s.rows other).committed.isSome ↔ other.2 ∈ (initial.toggled key).toggles other.1
  unfinished : (∀ state, s.sessions 0 ≠ .finished state) → ∀ other,
    (s.rows other).committed = ((toggleStart initial).rows other).committed

theorem toggle_alone {initial : Database} (valid : initial.Valid)
    (run : ReadCommitted.Runs (fun _ => ToggleCall key) (toggleStart initial) s) (alone : ∀ t ≠ 0, s.sessions t = .unstarted) :
    ToggledAlone initial key s := by
  have serial := runs_serial valid.toggles run
  obtain ⟨succeeded,distinct⟩ := ReadCommitted.runs_logged (start_quiet initial) run
  have own (entry : Nat × Bool) (member : entry ∈ s.log) : entry.1 = 0 := by
    by_contra other
    have finished := (succeeded entry.1 entry.2).mp member
    rw [alone entry.1 other] at finished
    cases finished
  constructor
  · intro state finished other
    have logged : (0,state) ∈ s.log := (succeeded 0 state).mpr finished
    have once : s.log = [(0,state)] := by
      cases log : s.log with
      | nil => rw [log] at logged; cases logged
      | cons entry rest =>
        rw [log,List.map_cons,List.nodup_cons] at distinct
        have alone : rest = [] := by
          apply List.eq_nil_iff_forall_not_mem.mpr
          intro later member
          apply distinct.1
          rw [own entry (log ▸ List.mem_cons_self),← own later (log ▸ List.mem_cons_of_mem _ member)]
          exact List.mem_map_of_mem member
        subst alone
        rw [log] at logged
        rw [← List.mem_singleton.mp logged]
    rw [serial.committed other,once]
    rfl
  · intro unfinished other
    have none' : s.log = [] := by
      apply List.eq_nil_iff_forall_not_mem.mpr
      intro entry member
      exact unfinished entry.2 (own entry member ▸ (succeeded entry.1 entry.2).mp member)
    have shown := serial.committed other
    rw [none'] at shown
    have start : ((toggleStart initial).rows other).committed.isSome ↔ other.2 ∈ initial.toggles other.1 := by
      simp [toggleStart]
    have same := shown.trans start.symm
    cases now : (s.rows other).committed <;> cases before : ((toggleStart initial).rows other).committed <;> simp_all

-- What every mutating endpoint answers, and the transaction behind a toggle.
structure ErrorsTruthful (adminKey : String) : Prop where
  requests : ∀ request db l, Truthfully (serve adminKey request) db l []
  toggles : ∀ initial key s, Database.Valid initial → ReadCommitted.Runs (fun _ => ToggleCall key) (toggleStart initial) s →
    (∀ t ≠ 0, s.sessions t = .unstarted) → ToggledAlone initial key s

theorem error_answers_truthful (adminKey : String) : ErrorsTruthful adminKey :=
  ⟨serve_truthful adminKey,fun _ _ _ valid run alone => toggle_alone valid run alone⟩

def Request.note : Request := ⟨"Bearer tk_agent_ada",.createMessage (some (.obj [("content",.str "note")]))⟩

-- The key is looked up, the message is stored and cannot be read back.
def unread : List Choice := [⟨.answered,100,0,""⟩,⟨.answered,100,7,""⟩,⟨.refused,100,0,""⟩]

theorem note_stored_with_error : ¬ ∀ response db' l', (∀ c ∈ unread, NotLost c) →
    (serve "rp_admin" .note).play exec unread .staffed .fresh = some (response,db',l') → ¬ response.success → db' = .staffed := by
  intro undone
  have played : ((serve "rp_admin" .note).play exec unread .staffed .fresh).map
      (fun (response,db',_) => (response.status,db'.messages.length)) = some (500,1) := by decide +kernel
  obtain ⟨⟨response,db',l'⟩,run,outcome⟩ := Option.map_eq_some_iff.mp played
  obtain ⟨status,stored⟩ := Prod.mk.inj outcome
  have same := undone response db' l' (by simp [unread,NotLost]) run (by simp [Response.success,status])
  rw [same] at stored
  cases stored

end Trokk
