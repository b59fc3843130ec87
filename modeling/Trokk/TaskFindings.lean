import Trokk.PublishedFindings
import Trokk.StrandedTasks

-- Whether the status of a worked task tells what was published for it. The API
-- commits the message before the tick commits the status of the task, and every
-- failure in between is taken for a failure of the task.
namespace Trokk
open Program

-- The messages that one entry, and a part of the record, have added.
def gained (e : Record) : List MessageRow := e.after.messages.drop e.before.messages.length
def storedIn (log : List Record) : List MessageRow := log.flatMap gained

-- The record from the entry that stored the first message on.
def sinceStored (log : List Record) : List Record := log.dropWhile fun e => (gained e).isEmpty

def Clean (log : List Record) : Prop := ∀ e ∈ sinceStored log, e.choice.fate = .answered

def Silent (log : List Record) : Prop := ∀ e ∈ log, gained e = []

theorem storedIn_append (log more : List Record) : storedIn (log ++ more) = storedIn log ++ storedIn more := List.flatMap_append

theorem silent_nil : Silent [] := fun _ member => absurd member List.not_mem_nil
theorem silent_one {e : Record} (silent : gained e = []) : Silent [e] := fun _ member => List.mem_singleton.mp member ▸ silent

theorem silent_stored (silent : Silent log) : storedIn log = [] := List.flatMap_eq_nil_iff.mpr silent

theorem silent_since (silent : Silent log) (more : List Record) : sinceStored (log ++ more) = sinceStored more :=
  List.dropWhile_append_of_pos fun e member => List.isEmpty_iff.mpr (silent e member)

theorem silent_none (silent : Silent log) : sinceStored log = [] := by
  have none' := silent_since silent []
  rwa [List.append_nil] at none'

theorem since_append (stored : storedIn log ≠ []) (more : List Record) : sinceStored (log ++ more) = sinceStored log ++ more := by
  rw [sinceStored,List.dropWhile_append,if_neg]
  · rfl
  · intro none'
    have silent : Silent log := fun e member => by
      simpa using List.dropWhile_eq_nil_iff.mp (List.isEmpty_iff.mp none') e member
    exact stored (silent_stored silent)

-- Nothing but the INSERT of a message adds one.
def Statement.storeless : Statement → Prop
  | .insertMessage .. => False
  | _ => True

theorem storeless_gains (storeless : s.storeless) (c : Choice) (db : Database) (l : Session) : gained (entry exec s c db l) = [] := by
  have same : (exec s c db l).2.1.messages = db.messages := by
    have effect := exec_effect c db l s
    generalize (exec s c db l).2.1 = db' at effect
    cases effect with
    | insertMessage => exact storeless.elim
    | toggle => rw [toggled_eq]
    | _ => rfl
  change (exec s c db l).2.1.messages.drop db.messages.length = []
  rw [same,List.drop_length]

-- What becomes of the finding, as the publisher is told and as the record tells.
inductive Publication (result : Except PyError Uuid) (added : List Record) : Prop where
  | nothing : Silent added → result = .error exc → Publication result added
  | known : storedIn added = [m] → Clean added → result = .ok m.id → Publication result added
  | unknown : storedIn added = [m] → ¬ Clean added → result = .error exc → storableText exc.text = true → Publication result added

abbrev Leaves (post : A → Database → List Record → Prop) (x : Api A) (db : Database) (l : Session) : Prop :=
  x.Adds exec (fun _ => True) (fun a db' _ added => post a db' added) db l

theorem storeless_leaves {x : Api A} (only : x.Only Statement.storeless) : Leaves (fun _ _ added => Silent added) x db l := by
  refine only.adds.imp fun _ _ _ added told e member => ?_
  obtain ⟨storeless,own,genuine⟩ := told e member
  rw [genuine]
  exact storeless_gains storeless _ _ _

theorem clean_after (stored : storedIn log ≠ []) (more : List Record) :
    Clean (log ++ more) ↔ Clean log ∧ ∀ e ∈ more, e.choice.fate = .answered := by
  unfold Clean
  rw [since_append stored,List.forall_mem_append]

theorem publication_later (silent : Silent before) (publication : Publication result added) : Publication result (before ++ added) := by
  have stored : storedIn (before ++ added) = storedIn added := by rw [storedIn_append,silent_stored silent,List.nil_append]
  have clean : Clean (before ++ added) ↔ Clean added := by rw [Clean,silent_since silent,Clean]
  cases publication with
  | nothing quiet raised => exact .nothing (List.forall_mem_append.mpr ⟨silent,quiet⟩) raised
  | known once all ok => exact .known (stored.trans once) (clean.mpr all) ok
  | unknown once some' raised storable => exact .unknown (stored.trans once) (fun all => some' (clean.mp all)) raised storable

-- The answer of the server arrives, or does not.
theorem publication_received {e : Record} (silent : gained e = []) (publication : Publication result added)
    (answered : e.choice.fate = .answered) : Publication result (added ++ [e]) := by
  have quiet : Silent [e] := silent_one silent
  have stored : storedIn (added ++ [e]) = storedIn added := by rw [storedIn_append,silent_stored quiet,List.append_nil]
  cases publication with
  | nothing before raised => exact .nothing (List.forall_mem_append.mpr ⟨before,quiet⟩) raised
  | known once all ok =>
    refine .known (stored.trans once) ((clean_after (by rw [once]; exact nofun) _).mpr ⟨all,?_⟩) ok
    exact List.forall_mem_singleton.mpr answered
  | unknown once some' raised storable =>
    refine .unknown (stored.trans once) (fun all => some' ?_) raised storable
    exact ((clean_after (by rw [once]; exact nofun) _).mp all).1

theorem publication_unheard {e : Record} (silent : gained e = []) (publication : Publication result added)
    (failed : e.choice.fate ≠ .answered) (storable : storableText exc.text = true) : Publication (.error exc) (added ++ [e]) := by
  have quiet : Silent [e] := silent_one silent
  have stored : storedIn (added ++ [e]) = storedIn added := by rw [storedIn_append,silent_stored quiet,List.append_nil]
  have unclean (m : MessageRow) (once : storedIn added = [m]) : ¬ Clean (added ++ [e]) := by
    intro all
    exact failed (((clean_after (by rw [once]; exact nofun) _).mp all).2 e (List.mem_singleton_self _))
  cases publication with
  | nothing before => exact .nothing (List.forall_mem_append.mpr ⟨before,quiet⟩) rfl
  | known once => exact .unknown (stored.trans once) (unclean _ once) rfl storable
  | unknown once => exact .unknown (stored.trans once) (unclean _ once) rfl storable

-- What a statement that the database does not refuse comes to.
theorem exec_fates (certain : s.certain = false) (done : perform c db l s = .ok (r,db',l')) :
    (c.fate = .answered ∧ (exec s c db l).1 = .ok r ∧ (exec s c db l).2.1 = db') ∨
    (c.fate = .lost ∧ (exec s c db l).1 = .error .failed ∧ (exec s c db l).2.1 = db') ∨
    (c.fate = .refused ∧ (exec s c db l).1 = .error .failed ∧ (exec s c db l).2.1 = db) := by
  unfold exec
  rw [certain,if_neg Bool.false_ne_true]
  cases fate : c.fate with
  | answered => simp [done]
  | refused => simp
  | lost => simp [done]

theorem exec_sure (certain : s.certain = false) (done : perform c db l s = .ok (r,db',l')) :
    (c.fate = .answered ∧ (exec s c db l).1 = .ok r ∧ (exec s c db l).2.1 = db') ∨
    (c.fate ≠ .answered ∧ (exec s c db l).1 = .error .failed ∧ (exec s c db l).2.1 = if c.fate = .lost then db' else db) := by
  rcases exec_fates certain done with told | ⟨lost,failed,same⟩ | ⟨refused,failed,same⟩
  · exact .inl told
  · exact .inr ⟨by simp [lost],failed,by rw [same,if_pos lost]⟩
  · exact .inr ⟨by simp [refused],failed,by rw [same,if_neg (by simp [refused])]⟩

theorem exec_barred (barred : perform c db l s = .error e) :
    (∃ e', (exec s c db l).1 = .error e') ∧ (exec s c db l).2.1 = db := by
  unfold exec
  rw [barred]
  split <;> exact ⟨⟨_,rfl⟩,rfl⟩

theorem insertMessage_leaves (agentId : Uuid) (content : String) (parent : Option Uuid) (c : Choice) (db : Database) (l : Session) :
    gained (entry exec (.insertMessage agentId content parent) c db l) = [] ∧
      (∃ e, (exec (.insertMessage agentId content parent) c db l).1 = .error e) ∨
    ∃ m, gained (entry exec (.insertMessage agentId content parent) c db l) = [m] ∧
      ((c.fate = .answered ∧ (exec (.insertMessage agentId content parent) c db l).1 = .ok m ∧
          (exec (.insertMessage agentId content parent) c db l).2.1.messages = db.messages ++ [m] ∧
          ∃ a ∈ (exec (.insertMessage agentId content parent) c db l).2.1.agents, a.id = m.agentId) ∨
        (c.fate ≠ .answered ∧ ∃ e, (exec (.insertMessage agentId content parent) c db l).1 = .error e)) := by
  cases done : perform c db l (.insertMessage agentId content parent) with
  | error e =>
    obtain ⟨failed,same⟩ := exec_barred done
    refine .inl ⟨?_,failed⟩
    change (exec _ c db l).2.1.messages.drop db.messages.length = []
    rw [same,List.drop_length]
  | ok result =>
    obtain ⟨m,db',l'⟩ := result
    have after : db'.messages = db.messages ++ [m] ∧ ∃ a ∈ db'.agents, a.id = m.agentId := by
      obtain ⟨rfl,rfl,-,-,author,-⟩ := insertMessage_done done
      exact ⟨rfl,author⟩
    rcases exec_fates rfl done with ⟨answered,ok,same⟩ | ⟨lost,error,same⟩ | ⟨_,error,same⟩
    · refine .inr ⟨m,?_,.inl ⟨answered,ok,?_⟩⟩
      · change (exec _ c db l).2.1.messages.drop db.messages.length = [m]
        rw [same,after.1,List.drop_left]
      · rw [same]
        exact after
    · refine .inr ⟨m,?_,.inr ⟨by simp [lost],_,error⟩⟩
      change (exec _ c db l).2.1.messages.drop db.messages.length = [m]
      rw [same,after.1,List.drop_left]
    · refine .inl ⟨?_,_,error⟩
      change (exec _ c db l).2.1.messages.drop db.messages.length = []
      rw [same,List.drop_length]

-- A message whose author is there is read back.
theorem messageWithAgent_found (present : m ∈ db.messages) (author : ∃ a ∈ db.agents, a.id = m.agentId) :
    ∃ row, perform c db l (.messageWithAgent m.id) = .ok (some row,db,l) ∧ row.message.id = m.id := by
  obtain ⟨a,there,own⟩ := author
  have joined : streamRow db m a ∈ streamRows db := by
    refine List.mem_flatMap.mpr ⟨m,present,?_⟩
    rw [joinMessage_authors]
    exact List.mem_map_of_mem (List.mem_filter.mpr ⟨there,decide_eq_true own⟩)
  obtain ⟨row,-,found,same⟩ := @Relational.find_present StreamRow Uuid _ (streamRows db) (fun row => row.message.id) _ m.id joined rfl
  exact ⟨row,congrArg (fun answer => Except.ok (answer,db,l)) found,same⟩

-- What the client makes of a response.
def idOf (response : Response) : Except PyError Uuid := raise_for_status response >>= receivedId

theorem idOf_failed (status : ¬ (200 ≤ response.status ∧ response.status < 300)) :
    idOf response = .error (.httpStatus response.status) := by
  rw [idOf,raise_for_status,if_neg status]
  rfl

theorem since_first {e : Record} (stores : gained e = [m]) (log : List Record) : sinceStored (e :: log) = e :: log := by
  rw [sinceStored,List.dropWhile_cons_of_neg]
  simp [stores]

theorem stored_first {e : Record} (stores : gained e = [m]) (silent : Silent log) : storedIn (e :: log) = [m] := by
  rw [storedIn,List.flatMap_cons,stores]
  exact congrArg ([m] ++ ·) (silent_stored silent)

theorem storeMessage_leaves (info : AuthInfo) (content notCreated notFetched : String) (db : Database) (l : Session) :
    Leaves (fun response _ added => Publication (idOf response) added) (storeMessage info content none notCreated notFetched) db l := by
  have failed (text : String) : idOf ⟨500,.error text⟩ = .error (.httpStatus 500) := idOf_failed (by simp)
  refine Adds.call fun c _ => ?_
  rcases insertMessage_leaves info.agentID content none c db l with ⟨nothing,e,error⟩ | ⟨m,once,⟨answered,ok,messages,author⟩ | ⟨lost,e,error⟩⟩
  · rw [error]
    exact .done (.nothing (silent_one nothing) (failed _))
  · rw [ok]
    have present : m ∈ (exec (.insertMessage info.agentID content none) c db l).2.1.messages := by
      rw [messages]
      exact List.mem_append_right _ (List.mem_singleton_self _)
    refine Adds.call fun c' _ => ?_
    obtain ⟨row,done,own⟩ := messageWithAgent_found (c := c') (l := (exec (.insertMessage info.agentID content none) c db l).2.2) present author
    have quiet := silent_one (storeless_gains (s := .messageWithAgent m.id) trivial c'
      (exec (.insertMessage info.agentID content none) c db l).2.1 (exec (.insertMessage info.agentID content none) c db l).2.2)
    rcases exec_sure rfl done with ⟨answered',ok',-⟩ | ⟨lost,error,-⟩
    · rw [ok']
      refine .done (.known (stored_first once quiet) ?_ (own ▸ rfl))
      rw [Clean,since_first once]
      exact List.forall_mem_cons.mpr ⟨answered,List.forall_mem_singleton.mpr answered'⟩
    · rw [error]
      refine .done (.unknown (stored_first once quiet) ?_ (failed _) (by decide))
      rw [Clean,since_first once]
      exact fun all => lost (all _ (List.mem_cons_of_mem _ (List.mem_singleton_self _)))
  · rw [error]
    refine .done (.unknown (stored_first once silent_nil) ?_ (failed _) (by decide))
    rw [Clean,since_first once]
    exact fun all => lost (all _ List.mem_cons_self)

theorem authenticate_storeless (adminKey header : String) : (Authenticate adminKey header).Only Statement.storeless :=
  authenticate_only (fun _ => trivial) _ _

theorem serve_leaves (adminKey header : String) (body : Option Json) (db : Database) (l : Session) :
    Leaves (fun response _ added => Publication (idOf response) added) (serve adminKey ⟨header,.createMessage body⟩) db l := by
  have refused (status : Nat) (text : String) (bad : ¬ (200 ≤ status ∧ status < 300)) (db : Database) (l : Session) :
      Leaves (fun response _ added => Publication (idOf response) added) (.done ⟨status,.error text⟩) db l :=
    .done (.nothing silent_nil (idOf_failed bad))
  have known : Leaves (fun result _ added => Silent added ∧ ∀ response, result = .error response → response.status = 500)
    (Authenticate adminKey header) db l := (storeless_leaves (authenticate_storeless adminKey header)).both
      (authenticate_refuses adminKey header).adds
  refine Adds.bind known fun result db l added told => ?_
  obtain ⟨silent,fails⟩ := told
  refine Adds.imp ?_ fun _ _ _ _ => publication_later silent
  cases result with
  | error response =>
    refine .done (.nothing silent_nil (idOf_failed ?_))
    rw [fails response rfl]
    decide
  | ok info => cases info with
    | none => exact refused 403 _ (by decide) db l
    | some info =>
      unfold dispatch RequireAgent
      dsimp only
      split
      · exact refused 403 _ (by decide) db l
      · unfold CreateMessage
        split
        · exact refused 400 _ (by decide) db l
        · split
          · exact refused 400 _ (by decide) db l
          · exact storeMessage_leaves info _ _ _ db l

-- The result of the request for its sender, who may not hear the response.
theorem post_leaves (adminKey header : String) (body : Option Json) (db : Database) (l : Session) :
    Leaves (fun result _ added => Publication (result >>= raise_for_status >>= receivedId) added)
      (post adminKey ⟨header,.createMessage body⟩) db l := by
  have storable : storableText (PyError.other "request failed").text = true := by decide
  refine Adds.call fun c _ => ?_
  have sent : Silent [entry exec .send c db l] := silent_one (storeless_gains (s := .send) trivial c db l)
  have delivered : perform c db l .send = .ok ((),db,l) := rfl
  rcases exec_sure rfl delivered with ⟨-,ok,-⟩ | ⟨-,error,-⟩
  · rw [ok]
    refine (Adds.bind (serve_leaves adminKey header body _ _) fun response db l added publication => ?_).imp
      fun result _ _ added => publication_later sent
    refine Adds.call fun c' _ => ?_
    have received := storeless_gains (s := .receive) trivial c' db l
    have heard : perform c' db l .receive = .ok ((),db,l) := rfl
    rcases exec_sure rfl heard with ⟨answered,ok,-⟩ | ⟨failed,error,-⟩
    · rw [ok]
      exact .done (publication_received received publication answered)
    · rw [error]
      exact .done (publication_unheard received publication failed storable)
  · rw [error]
    exact .done (.nothing sent rfl)

-- What a specialist's run tells the tick.
inductive Ran (state : AgentState) (added : List Record) : Prop where
  | nothing : Silent added → state.error ≠ "" → Ran state added
  | known : storedIn added = [m] → Clean added → state.error = "" → state.findingId = some m.id → Ran state added
  | unknown : storedIn added = [m] → ¬ Clean added → state.error ≠ "" → storableText state.error = true → Ran state added

theorem ran_later (silent : Silent before) (ran : Ran state added) : Ran state (before ++ added) := by
  have stored : storedIn (before ++ added) = storedIn added := by rw [storedIn_append,silent_stored silent,List.nil_append]
  have clean : Clean (before ++ added) ↔ Clean added := by rw [Clean,silent_since silent,Clean]
  cases ran with
  | nothing quiet failed => exact .nothing (List.forall_mem_append.mpr ⟨silent,quiet⟩) failed
  | known once all ok id => exact .known (stored.trans once) (clean.mpr all) ok id
  | unknown once some' failed storable => exact .unknown (stored.trans once) (fun all => some' (clean.mp all)) failed storable

theorem prefixed_text (exc : PyError) : "publish_failed: " ++ exc.text ≠ "" ∧
    (storableText exc.text = true → storableText ("publish_failed: " ++ exc.text) = true) := by
  constructor
  · intro empty
    have lengths := congrArg String.length empty
    rw [String.length_append] at lengths
    exact absurd (Nat.add_eq_zero_iff.mp lengths).1 (by decide)
  · intro storable
    unfold storableText at storable ⊢
    rw [String.toList_append,List.contains_append,Bool.not_or,storable,Bool.and_true]
    decide

theorem publish_leaves (adminKey : String) (self : BaseAgent) (state : AgentState) (db : Database) (l : Session) :
    Leaves (fun state _ added => Ran state added) (self.publish adminKey state) db l := by
  unfold BaseAgent.publish
  split
  · rename_i failed
    exact .done (.nothing silent_nil failed)
  · rename_i clear
    refine Adds.bind (post_leaves adminKey _ _ db l) fun result db' l' added publication => ?_
    rw [not_not] at clear
    generalize (result >>= raise_for_status >>= receivedId) = told at publication
    cases publication with
    | nothing silent raised =>
      subst raised
      exact .done (by rw [List.append_nil]; exact .nothing silent (prefixed_text _).1)
    | known once all ok =>
      subst ok
      exact .done (by rw [List.append_nil]; exact .known once all clear rfl)
    | unknown once some' raised storable =>
      subst raised
      exact .done (by rw [List.append_nil]; exact .unknown once some' (prefixed_text _).1 ((prefixed_text _).2 storable))

theorem research_storeless (self : BaseAgent) (state : AgentState) : (self.research state).Only Statement.storeless := by
  refine Only.bind ?_ fun state => ?_
  · unfold BaseAgent.askModel
    split
    · trivial
    · exact only_then trivial (fun _ => trivial) fun _ => trivial
  · split <;> trivial

theorem run_leaves (adminKey : String) (self : BaseAgent) (taskId investigationId : Uuid) (taskPrompt : String) (db : Database)
    (l : Session) : Leaves (fun result db' added => (∃ state, result = .ok state ∧ Ran state added) ∧
      (∀ e ∈ added, e.statement.publishes) ∧ db'.investigationTasks = db.investigationTasks)
      (self.run adminKey taskId investigationId taskPrompt) db l := by
  have ran : Leaves (fun result _ added => ∃ state, result = .ok state ∧ Ran state added)
      (self.run adminKey taskId investigationId taskPrompt) db l := by
    refine Adds.bind (storeless_leaves (research_storeless self _)) fun researched db l added silent => ?_
    refine Adds.bind (publish_leaves adminKey self researched db l) fun published db l more told => ?_
    refine .done ⟨published,rfl,?_⟩
    rw [List.append_nil]
    exact ran_later silent told
  have tasks : (self.run adminKey taskId investigationId taskPrompt).Ensures exec (fun _ => True)
      (fun _ db' _ => db'.investigationTasks = db.investigationTasks) db l :=
    (run_publishes adminKey self taskId investigationId taskPrompt).ensures
      (fun (db' : Database) _ => db'.investigationTasks = db.investigationTasks)
      (fun s c d m publishes same => publishes_tasks s c d m publishes same) rfl
  refine (ran.both ((run_publishes adminKey self taskId investigationId taskPrompt).adds.both tasks.adds)).imp ?_
  exact fun result db' l' added told => ⟨told.1,fun e member => (told.2.1 e member).1,told.2.2⟩

-- The rows of the task are rewritten, and then satisfy `Q`.
def EndsAs (task : Uuid) (Q : TaskRow → Prop) (before after : List TaskRow) : Prop := ∃ edit : TaskRow → TaskRow,
  after = before.map (fun t => if t.id = task then edit t else t) ∧ ∀ t, (edit t).id = t.id ∧ Q (edit t)

def Completed (m : MessageRow) (t : TaskRow) : Prop := t.status = .complete ∧ t.result = some (findingResult (some m.id))
def Failed (t : TaskRow) : Prop := t.status = .failed

theorem endsAs_then (one : EndsAs task P a b) (two : EndsAs task Q b c) : EndsAs task Q a c := by
  obtain ⟨f,rfl,first⟩ := one
  obtain ⟨g,rfl,second⟩ := two
  refine ⟨g ∘ f,?_,fun t => ⟨(second (f t)).1.trans (first t).1,(second (f t)).2⟩⟩
  rw [List.map_map]
  refine List.map_congr_left fun t _ => ?_
  by_cases own : t.id = task
  · have still : (f t).id = task := (first t).1.trans own
    simp [own,still]
  · simp [own]

def Statement.fails : Statement → Prop
  | .failTask .. => True
  | _ => False

-- No update to 'failed' after the message was stored is carried out.
def Refused (log : List Record) : Prop := ∀ e ∈ sinceStored log, e.statement.fails → e.choice.fate = .refused

-- From the INSERT of the message on all is answered, or no fail_task is carried out.
def Spared (handled : List Record) : Prop := Clean handled ∨ Refused handled

inductive Verdict (task : Uuid) (before after : List TaskRow) (added : List Record) : Prop where
  | nothing : Silent added → after = before ∨ EndsAs task Failed before after → Verdict task before after added
  | clean : storedIn added = [m] → Clean added → EndsAs task (Completed m) before after → Verdict task before after added
  | waiting : storedIn added = [m] → ¬ Clean added → Refused added → after = before → Verdict task before after added
  | complete : storedIn added = [m] → ¬ Clean added → Refused added → EndsAs task (Completed m) before after →
      Verdict task before after added
  | mistaken : storedIn added = [m] → ¬ Clean added → ¬ Refused added → EndsAs task Failed before after →
      Verdict task before after added

-- The update to 'failed' is carried out, or is not.
inductive FailTries (task : Uuid) (before after : List TaskRow) (e : Record) (storable : Prop) : Prop where
  | done : e.choice.fate ≠ .refused → EndsAs task Failed before after → FailTries task before after e storable
  | undone : (storable → e.choice.fate = .refused) → after = before → FailTries task before after e storable

theorem failTask_leaves (task : Uuid) (error : String) (agents : Agents) (db : Database) (l : Session) :
    (fetch (.failTask task error)).Adds exec (fun _ => True) (fun result agents' db' _ added => agents' = agents ∧
      ∃ e, added = [e] ∧ gained e = [] ∧ e.statement.fails ∧
        FailTries task db.investigationTasks db'.investigationTasks e (storableText error = true) ∧
        (∀ u, result = .ok u → e.choice.fate ≠ .refused) ∧ (∀ raised, result = .error raised → raised = .database))
      agents db l := by
  apply Method.Adds.lift
  refine Adds.call fun c _ => ?_
  have silent := storeless_gains (s := .failTask task error) trivial c db l
  cases storable : storableText error with
  | false =>
    have barred : perform c db l (.failTask task error) = .error .invalidText := by
      rw [perform,storable]
      rfl
    obtain ⟨⟨_,failed⟩,same⟩ := exec_barred barred
    rw [failed]
    refine .done ⟨rfl,_,rfl,silent,trivial,.undone (fun isTrue => absurd isTrue Bool.false_ne_true) ?_,fun _ ok => (by cases ok),fun _ => ?_⟩
    · rw [same]
    · rintro ⟨⟩
      rfl
  | true =>
    have done : perform c db l (.failTask task error) = .ok ((),db.editTask task fun t =>
        {t with status := .failed,result := some (.obj [("error",.str error)]),completedAt := some c.now},l) := by
      rw [perform,storable]
      rfl
    have ends : EndsAs task Failed db.investigationTasks (db.editTask task fun t =>
        {t with status := .failed,result := some (.obj [("error",.str error)]),completedAt := some c.now}).investigationTasks :=
      ⟨_,rfl,fun _ => ⟨rfl,rfl⟩⟩
    rcases exec_fates rfl done with ⟨answered,ok,same⟩ | ⟨lost,failed,same⟩ | ⟨refused,failed,same⟩
    · have carried : c.fate ≠ .refused := by simp [answered]
      rw [ok]
      refine .done ⟨rfl,_,rfl,silent,trivial,.done carried ?_,fun _ _ => carried,fun _ raised => (by cases raised)⟩
      rw [same]
      exact ends
    · have carried : c.fate ≠ .refused := by simp [lost]
      rw [failed]
      refine .done ⟨rfl,_,rfl,silent,trivial,.done carried ?_,fun _ _ => carried,fun _ raised => ?_⟩
      · rw [same]
        exact ends
      · cases raised
        rfl
    · rw [failed]
      refine .done ⟨rfl,_,rfl,silent,trivial,?_,fun _ ok => (by cases ok),fun _ raised => ?_⟩
      · rw [same]
        exact .undone (fun _ => refused) rfl
      · cases raised
        rfl

theorem refused_after (stored : storedIn log ≠ []) (more : List Record) :
    Refused (log ++ more) ↔ Refused log ∧ ∀ e ∈ more, e.statement.fails → e.choice.fate = .refused := by
  unfold Refused
  rw [since_append stored,List.forall_mem_append]

-- A fail_task after something went wrong.
theorem verdict_fails {e : Record} (verdict : Verdict task before mid added) (unclean : storedIn added ≠ [] → ¬ Clean added)
    (silent : gained e = []) (fails : e.statement.fails) (tries : FailTries task mid after e storable)
    (text : storedIn added ≠ [] → storable) : Verdict task before after (added ++ [e]) := by
  have quiet : Silent [e] := silent_one silent
  have stored : storedIn (added ++ [e]) = storedIn added := by rw [storedIn_append,silent_stored quiet,List.append_nil]
  have still (some' : storedIn added ≠ []) : ¬ Clean (added ++ [e]) := fun all => unclean some' ((clean_after some' _).mp all).1
  have refused (some' : storedIn added ≠ []) : Refused (added ++ [e]) ↔ Refused added ∧ e.choice.fate = .refused := by
    rw [refused_after some']
    refine and_congr_right fun _ => ?_
    rw [List.forall_mem_singleton]
    exact ⟨fun holds => holds fails,fun holds _ => holds⟩
  cases verdict with
  | nothing none' so =>
    refine .nothing (List.forall_mem_append.mpr ⟨none',quiet⟩) ?_
    cases tries with
    | done _ ends =>
      cases so with
      | inl same => exact .inr (same ▸ ends)
      | inr before => exact .inr (endsAs_then before ends)
    | undone _ same => exact same ▸ so
  | clean once all => exact absurd all (unclean (by rw [once]; exact nofun))
  | waiting once some' kept same =>
    have some'' : storedIn added ≠ [] := by rw [once]; exact nofun
    subst same
    cases tries with
    | done carried ends => exact .mistaken (stored.trans once) (still some'') (fun all => carried ((refused some'').mp all).2) ends
    | undone refuses same =>
      exact .waiting (stored.trans once) (still some'') ((refused some'').mpr ⟨kept,refuses (text some'')⟩) same
  | complete once some' kept ends =>
    have some'' : storedIn added ≠ [] := by rw [once]; exact nofun
    cases tries with
    | done carried fails =>
      exact .mistaken (stored.trans once) (still some'') (fun all => carried ((refused some'').mp all).2) (endsAs_then ends fails)
    | undone refuses same =>
      exact .complete (stored.trans once) (still some'') ((refused some'').mpr ⟨kept,refuses (text some'')⟩) (same ▸ ends)
  | mistaken once some' carried ends =>
    have some'' : storedIn added ≠ [] := by rw [once]; exact nofun
    refine .mistaken (stored.trans once) (still some'') (fun all => carried ((refused some'').mp all).1) ?_
    cases tries with
    | done _ fails => exact endsAs_then ends fails
    | undone _ same => exact same ▸ ends

theorem id_storable (message : Uuid) : storableJson (findingResult (some message)) = true := by
  have text : storableText (String.ofList message.text) = true := by
    rw [storableText,String.toList_ofList,Bool.not_eq_true',← Bool.not_eq_true,List.contains_iff_mem]
    intro member
    rcases Uuid.mem_text member with dash | ⟨k,small,same⟩
    · exact absurd dash (by decide)
    · revert same
      have digits : ∀ k < 16, Char.ofNat 0 ≠ nibbleDigit k := by decide
      exact digits k small
  have key : storableText "finding_id" = true := by decide
  simp [storableJson,findingResult,Json.EveryText,Json.EveryMember,Json.EveryNumber,Json.NumberMember,text,key]

theorem completeTask_leaves (task : Uuid) (m : MessageRow) (agents : Agents) (db : Database) (l : Session) :
    (fetch (.completeTask task (findingResult (some m.id)))).Adds exec (fun _ => True) (fun result agents' db' _ added =>
      agents' = agents ∧ ∃ e, added = [e] ∧ gained e = [] ∧ ¬ e.statement.fails ∧
        ((e.choice.fate = .answered ∧ result = .ok () ∧ EndsAs task (Completed m) db.investigationTasks db'.investigationTasks) ∨
          (e.choice.fate ≠ .answered ∧ result = .error .database ∧ (db'.investigationTasks = db.investigationTasks ∨
            EndsAs task (Completed m) db.investigationTasks db'.investigationTasks)))) agents db l := by
  apply Method.Adds.lift
  refine Adds.call fun c _ => ?_
  have silent := storeless_gains (s := .completeTask task (findingResult (some m.id))) trivial c db l
  have done : perform c db l (.completeTask task (findingResult (some m.id))) = .ok ((),db.editTask task fun t =>
      {t with status := .complete,result := some (findingResult (some m.id)),completedAt := some c.now},l) := by
    rw [perform,if_pos (id_storable m.id)]
  have ends : EndsAs task (Completed m) db.investigationTasks (db.editTask task fun t =>
      {t with status := .complete,result := some (findingResult (some m.id)),completedAt := some c.now}).investigationTasks :=
    ⟨_,rfl,fun _ => ⟨rfl,rfl,rfl⟩⟩
  rcases exec_sure rfl done with ⟨answered,ok,same⟩ | ⟨unanswered,failed,same⟩
  · rw [ok]
    refine .done ⟨rfl,_,rfl,silent,not_false,.inl ⟨answered,rfl,?_⟩⟩
    rw [same]
    exact ends
  · rw [failed]
    refine .done ⟨rfl,_,rfl,silent,not_false,.inr ⟨unanswered,rfl,?_⟩⟩
    rw [same]
    split
    · exact .inr ends
    · exact .inl rfl

theorem unfailed_refused (publishes : ∀ e ∈ log, e.statement.publishes) : Refused log := by
  intro e member fails
  have quiet := publishes e ((List.dropWhile_sublist _).subset member)
  generalize e.statement = s at quiet fails
  cases s <;> first | exact fails.elim | exact quiet.elim

-- The tick goes on to fail_task where something failed.
def Amiss (added : List Record) : Prop := storedIn added ≠ [] → ¬ Clean added

theorem amiss_then {e : Record} (amiss : Amiss added) (silent : gained e = []) : Amiss (added ++ [e]) := by
  intro some' all
  rw [storedIn_append,silent_stored (silent_one silent),List.append_nil] at some'
  exact amiss some' ((clean_after some' _).mp all).1

-- The body of the try: what the handler of its exception finds.
theorem tryTask_leaves (adminKey : String) (self : BaseAgent) (task : TaskRow) (agents : Agents) (db : Database) (l : Session) :
    (tryTask (self.specialist adminKey) task).Adds exec (fun _ => True) (fun result agents' db' _ added => agents' = agents ∧
      Verdict task.id db.investigationTasks db'.investigationTasks added ∧
      ∀ raised, result = .error raised → raised = .database ∧ Amiss added) agents db l := by
  have runs : (Method.lift (self.run adminKey task.id task.investigationId task.taskPrompt) : Py AgentState).Adds exec (fun _ => True)
      (fun result agents' db' _ added => agents' = agents ∧ (∃ state, result = .ok state ∧ Ran state added) ∧
        (∀ e ∈ added, e.statement.publishes) ∧ db'.investigationTasks = db.investigationTasks) agents db l :=
    Method.Adds.lift ((run_leaves adminKey self task.id task.investigationId task.taskPrompt db l).imp
      fun _ _ _ _ told => ⟨rfl,told⟩)
  apply Method.Adds.bind runs
  · intro state agents' db' l' added told
    obtain ⟨rfl,⟨_,same,ran⟩,publishes,tasks⟩ := told
    cases same
    have refused := unfailed_refused publishes
    split
    · rename_i failed
      refine (failTask_leaves task.id state.error agents' db' l').imp fun result agents'' db'' l'' more told => ?_
      obtain ⟨rfl,e,rfl,silent,fails,tries,-,raises⟩ := told
      rw [tasks] at tries
      have begun : Verdict task.id db.investigationTasks db.investigationTasks added ∧ Amiss added ∧
          (storedIn added ≠ [] → storableText state.error = true) := by
        cases ran with
        | nothing quiet => exact ⟨.nothing quiet (.inl rfl),fun some' => absurd (silent_stored quiet) some',fun some' =>
            absurd (silent_stored quiet) some'⟩
        | known _ _ clear => exact absurd clear failed
        | unknown once some' _ storable => exact ⟨.waiting once some' refused rfl,fun _ => some',fun _ => storable⟩
      obtain ⟨verdict,amiss,text⟩ := begun
      exact ⟨rfl,verdict_fails verdict amiss silent fails tries text,fun raised same => ⟨raises raised same,amiss_then amiss silent⟩⟩
    · rename_i clear
      rw [not_not] at clear
      cases ran with
      | nothing _ failed => exact absurd clear failed
      | unknown _ _ failed => exact absurd clear failed
      | @known m once all _ id =>
        rw [id]
        have some' : storedIn added ≠ [] := by rw [once]; exact nofun
        refine (completeTask_leaves task.id m agents' db' l').imp fun result agents'' db'' l'' more told => ?_
        obtain ⟨rfl,e,rfl,silent,kind,outcome⟩ := told
        rw [tasks] at outcome
        have stored : storedIn (added ++ [e]) = [m] := by rw [storedIn_append,silent_stored (silent_one silent),List.append_nil,once]
        rcases outcome with ⟨answered,rfl,ends⟩ | ⟨failed,rfl,so⟩
        · refine ⟨rfl,.clean stored ((clean_after some' _).mpr ⟨all,?_⟩) ends,fun _ => nofun⟩
          exact fun _ member => List.mem_singleton.mp member ▸ answered
        · have unclean : ¬ Clean (added ++ [e]) := by
            intro all
            exact failed (((clean_after some' _).mp all).2 e (List.mem_singleton_self _))
          have kept : Refused (added ++ [e]) := by
            refine (refused_after some' _).mpr ⟨refused,fun _ member => ?_⟩
            rw [List.mem_singleton.mp member]
            exact fun fails => absurd fails kind
          refine ⟨rfl,?_,fun raised same => ⟨(Except.error.inj same).symm,fun _ => unclean⟩⟩
          cases so with
          | inl same => exact .waiting stored unclean kept same
          | inr ends => exact .complete stored unclean kept ends
  · intro raised agents' db' l' added told
    obtain ⟨-,⟨_,same,-⟩,-⟩ := told
    cases same

theorem workTask_leaves (adminKey : String) (self : BaseAgent) (task : TaskRow) (agents : Agents) (db : Database) (l : Session) :
    (workTask (self.specialist adminKey) task).Adds exec (fun _ => True) (fun _ agents' db' _ added => agents' = agents ∧
      (∀ e ∈ added, e.statement.claimless) ∧ Verdict task.id db.investigationTasks db'.investigationTasks added) agents db l := by
  have verdict : (workTask (self.specialist adminKey) task).Adds exec (fun _ => True) (fun _ agents' db' _ added => agents' = agents ∧
      Verdict task.id db.investigationTasks db'.investigationTasks added) agents db l := by
    apply Method.Adds.attempt (tryTask_leaves adminKey self task agents db l)
    · exact fun _ agents' db' l' added told => ⟨told.1,told.2.1⟩
    · intro raised agents' db' l' added told
      obtain ⟨rfl,verdict,raises⟩ := told
      obtain ⟨rfl,amiss⟩ := raises raised rfl
      refine (failTask_leaves task.id _ agents' db' l').imp fun result agents'' db'' l'' more told => ?_
      obtain ⟨rfl,e,rfl,silent,fails,tries,-⟩ := told
      exact ⟨rfl,verdict_fails verdict amiss silent fails tries fun _ => by decide⟩
  refine Program.Adds.imp (Program.Adds.both (workTask_claimless (self.specialist adminKey) task agents).adds verdict) ?_
  exact fun _ _ _ _ told => ⟨told.2.1,fun e member => (told.1 e member).1,told.2.2⟩

-- Status and findings of a task agree.
structure Agrees (db : Database) (task : Uuid) (handled : List Record) : Prop where
  complete : ∀ t ∈ db.investigationTasks, t.id = task → t.status = .complete →
    ∃ m, storedIn handled = [m] ∧ t.result = some (findingResult (some m.id))
  failed : ∀ t ∈ db.investigationTasks, t.id = task → t.status = .failed → storedIn handled = []

theorem endsAs_rows (ends : EndsAs task Q before after) (member : t ∈ after) (own : t.id = task) : Q t := by
  obtain ⟨edit,rfl,keeps⟩ := ends
  obtain ⟨old,present,rfl⟩ := List.mem_map.mp member
  by_cases same : old.id = task
  · rw [if_pos same]
    exact (keeps old).2
  · rw [if_neg same] at own
    exact absurd own same

theorem verdict_agrees (present : ∃ t ∈ before, t.id = task) (running : ∀ t ∈ before, t.id = task → t.status = .running)
    (verdict : Verdict task before db.investigationTasks handled) : Agrees db task handled ↔ Spared handled := by
  cases verdict with
  | nothing silent so =>
    have none' := silent_stored silent
    refine iff_of_true ⟨fun t member own complete => ?_,fun _ _ _ _ => none'⟩ (.inl fun e member => ?_)
    · cases so with
      | inl same => exact absurd ((running t (same ▸ member) own).symm.trans complete) (by decide)
      | inr ends => exact absurd ((endsAs_rows ends member own).symm.trans complete) (by decide)
    · rw [silent_none silent] at member
      exact absurd member List.not_mem_nil
  | clean once all ends =>
    refine iff_of_true ⟨fun t member own _ => ⟨_,once,(endsAs_rows ends member own).2⟩,fun t member own failed => ?_⟩ (.inl all)
    exact absurd ((endsAs_rows ends member own).1.symm.trans failed) (by decide)
  | waiting once _ refused same =>
    refine iff_of_true ⟨fun t member own complete => ?_,fun t member own failed => ?_⟩ (.inr refused)
    · exact absurd ((running t (same ▸ member) own).symm.trans complete) (by decide)
    · exact absurd ((running t (same ▸ member) own).symm.trans failed) (by decide)
  | complete once _ refused ends =>
    refine iff_of_true ⟨fun t member own _ => ⟨_,once,(endsAs_rows ends member own).2⟩,fun t member own failed => ?_⟩ (.inr refused)
    exact absurd ((endsAs_rows ends member own).1.symm.trans failed) (by decide)
  | mistaken once unclean carried ends =>
    refine iff_of_false (fun agrees => ?_) fun spared => spared.elim unclean carried
    obtain ⟨t,there,own⟩ := present
    obtain ⟨edit,same,keeps⟩ := ends
    have member : edit t ∈ db.investigationTasks := by
      rw [same]
      exact List.mem_map.mpr ⟨t,there,if_pos own⟩
    have none' := agrees.failed _ member ((keeps t).1.trans own) (keeps t).2
    rw [once] at none'
    cases none'

def Statement.claims : Statement → Bool
  | .pendingTask .. => true
  | _ => false

-- What was done for a claimed task: the record up to the next claim.
def handledBy (rest : List Record) : List Record := rest.takeWhile fun e => !e.statement.claims

theorem claimless_iff (s : Statement) : s.claims = false ↔ s.claimless := by
  cases s <;> simp [Statement.claims,Statement.claimless]

-- One round of the loop over AGENT_REGISTRY.
inductive RoundLeaves (agent : Uuid) (type : String) (db db' : Database) : List Record → Prop where
  | idle {e : Record} : e.statement = .pendingTask agent (some type) → (∀ task, ¬ Claims e task) →
      db'.investigationTasks = db.investigationTasks → RoundLeaves agent type db db' [e]
  | claimed {claim : Record} : oldestPending db agent (some type) = some t → claim.statement = .pendingTask agent (some type) →
      claim.before = db → (∀ e ∈ handled, e.statement.claimless) →
      Verdict t.id (db.editTask t.id fun t => {t with status := .running}).investigationTasks db'.investigationTasks handled →
      RoundLeaves agent type db db' (claim :: handled)

structure Rounds (db db' : Database) (added : List Record) : Prop where
  agrees : ∀ earlier claim rest task, added = earlier ++ claim :: rest → Claims claim task →
    (Agrees db' task (handledBy rest) ↔ Spared (handledBy rest))
  kept : ∀ task, (∀ t ∈ db.investigationTasks, t.id = task → t.status ≠ .pending) → ∀ t, t.id = task →
    (t ∈ db'.investigationTasks ↔ t ∈ db.investigationTasks)
  opens : ∀ e ∈ added.head?, e.statement.claims = true

theorem endsAs_kept (ends : EndsAs target Q before after) (other : t.id ≠ target) : t ∈ after ↔ t ∈ before := by
  obtain ⟨edit,rfl,keeps⟩ := ends
  constructor
  · intro member
    obtain ⟨old,present,rfl⟩ := List.mem_map.mp member
    by_cases same : old.id = target
    · rw [if_pos same] at other
      exact absurd ((keeps old).1.trans same) other
    · rwa [if_neg same]
  · exact fun member => List.mem_map.mpr ⟨t,member,if_neg other⟩

theorem verdict_kept (verdict : Verdict target before after handled) (other : t.id ≠ target) : t ∈ after ↔ t ∈ before := by
  cases verdict with
  | nothing _ so =>
    cases so with
    | inl same => rw [same]
    | inr ends => exact endsAs_kept ends other
  | clean _ _ ends => exact endsAs_kept ends other
  | waiting _ _ _ same => rw [same]
  | complete _ _ _ ends => exact endsAs_kept ends other
  | mistaken _ _ _ ends => exact endsAs_kept ends other

-- A task that was worked is pending no more.
theorem verdict_begun (running : ∀ t ∈ before, t.id = task → t.status = .running) (verdict : Verdict task before after handled)
    (member : t ∈ after) (own : t.id = task) : t.status ≠ .pending := by
  have still (same : after = before) : t.status ≠ .pending := by
    rw [running t (same ▸ member) own]
    decide
  have complete {m : MessageRow} (ends : EndsAs task (Completed m) before after) : t.status ≠ .pending := by
    rw [(endsAs_rows ends member own).1]
    decide
  have failed (ends : EndsAs task Failed before after) : t.status ≠ .pending := by
    rw [endsAs_rows ends member own]
    decide
  cases verdict with
  | nothing _ so => exact so.elim still failed
  | clean _ _ ends => exact complete ends
  | waiting _ _ _ same => exact still same
  | complete _ _ _ ends => exact complete ends
  | mistaken _ _ _ ends => exact failed ends

theorem running_rows {db : Database} {t : TaskRow} (target : Uuid) (member : t ∈ (db.editTask target fun t => {t with status := .running}).investigationTasks)
    (own : t.id = target) : t.status = .running := by
  have ends : EndsAs target (fun t => t.status = .running) db.investigationTasks
    (db.editTask target fun t => {t with status := .running}).investigationTasks := ⟨_,rfl,fun _ => ⟨rfl,rfl⟩⟩
  exact endsAs_rows ends member own

theorem agrees_kept (rows : ∀ t, t.id = task → (t ∈ db'.investigationTasks ↔ t ∈ db.investigationTasks)) :
    Agrees db' task handled ↔ Agrees db task handled := by
  constructor
  · exact fun agrees => ⟨fun t member own => agrees.complete t ((rows t own).mpr member) own,
      fun t member own => agrees.failed t ((rows t own).mpr member) own⟩
  · exact fun agrees => ⟨fun t member own => agrees.complete t ((rows t own).mp member) own,
      fun t member own => agrees.failed t ((rows t own).mp member) own⟩

theorem split_after {handled more earlier rest : List Record} {claim : Record} (quiet : ∀ e ∈ handled, e.statement.claimless)
    (claims : ¬ claim.statement.claimless) (split' : handled ++ more = earlier ++ claim :: rest) :
    ∃ between, more = between ++ claim :: rest := by
  induction handled generalizing earlier with
  | nil => exact ⟨earlier,split'⟩
  | cons first others ih =>
    cases earlier with
    | nil =>
      obtain ⟨same,-⟩ := List.cons.inj split'
      exact absurd (same ▸ quiet first List.mem_cons_self) claims
    | cons _ earlier => exact ih (fun e member => quiet e (List.mem_cons_of_mem _ member)) (List.cons.inj split').2

theorem claims_claim (claims : Claims e task) : ¬ e.statement.claimless := fun claimless => claimless_claims claimless claims

theorem rounds_nil (db : Database) : Rounds db db [] where
  agrees := fun earlier claim rest task same => by
    cases earlier <;> cases same
  kept := fun _ _ _ _ => .rfl
  opens := by simp

-- The record of a claimed task ends where the next round opens.
theorem handledBy_whole (quiet : ∀ e ∈ handled, e.statement.claimless) (rounds : Rounds db db' more) :
    handledBy (handled ++ more) = handled := by
  have working : ∀ e ∈ handled, (!e.statement.claims) = true := by
    intro e member
    rw [(claimless_iff _).mpr (quiet e member)]
    rfl
  rw [handledBy,List.takeWhile_append_of_pos working]
  cases more with
  | nil => rw [List.takeWhile_nil,List.append_nil]
  | cons e _ => rw [List.takeWhile_cons_of_neg (by rw [rounds.opens e rfl]; decide),List.append_nil]

theorem round_opens (round : RoundLeaves agent type db mid first) : ∃ e rest, first = e :: rest ∧ e.statement.claims = true := by
  cases round with
  | @idle e statement _ _ => exact ⟨e,[],rfl,by rw [statement]; rfl⟩
  | @claimed _ handled claim _ statement _ _ _ => exact ⟨claim,handled,rfl,by rw [statement]; rfl⟩

-- A round leaves alone the tasks that are pending no more.
theorem round_kept (round : RoundLeaves agent type db mid first)
    (settled : ∀ t ∈ db.investigationTasks, t.id = task → t.status ≠ .pending) {u : TaskRow} (own : u.id = task) :
    u ∈ mid.investigationTasks ↔ u ∈ db.investigationTasks := by
  cases round with
  | idle _ _ same => rw [same]
  | @claimed t handled claim found _ _ _ verdict =>
    obtain ⟨present,_,pending,-⟩ := oldestPending_some found
    have other : u.id ≠ t.id := fun isTask => settled t present (isTask.symm.trans own) pending
    have claimed : EndsAs t.id (fun t => t.status = .running) db.investigationTasks
      (db.editTask t.id fun t => {t with status := .running}).investigationTasks := ⟨_,rfl,fun _ => ⟨rfl,rfl⟩⟩
    rw [verdict_kept verdict other,endsAs_kept claimed other]

theorem rounds_then (round : RoundLeaves agent type db mid first) (rounds : Rounds mid db' more) : Rounds db db' (first ++ more) := by
  refine ⟨fun earlier claim' rest task split' claims => ?_,fun task settled u own => ?_,?_⟩
  · cases round with
    | @idle e statement none' same => cases earlier with
      | nil =>
        obtain ⟨same,-⟩ := List.cons.inj split'
        exact absurd (same ▸ claims) (none' task)
      | cons _ earlier => exact rounds.agrees earlier claim' rest task (List.cons.inj split').2 claims
    | @claimed t handled claim found statement before quiet verdict => cases earlier with
      | nil =>
        obtain ⟨rfl,same⟩ := List.cons.inj split'
        obtain ⟨rfl,-⟩ := claims_oldest statement (before ▸ found) claims
        have running (u : TaskRow) := @running_rows db u t.id
        have there : ∃ u ∈ (db.editTask t.id fun t => {t with status := .running}).investigationTasks, u.id = t.id :=
          ⟨_,List.mem_map_of_mem (oldestPending_some found).1,by rw [if_pos rfl]⟩
        have whole : handledBy rest = handled := by
          rw [← show handled ++ more = rest from same,handledBy_whole quiet rounds]
        rw [whole,← verdict_agrees there running verdict]
        exact agrees_kept (rounds.kept t.id fun u member own => verdict_begun running verdict member own)
      | cons _ earlier =>
        obtain ⟨between,same⟩ := split_after quiet (claims_claim claims) (List.cons.inj split').2
        exact rounds.agrees between claim' rest task same claims
  · have still : ∀ t ∈ mid.investigationTasks, t.id = task → t.status ≠ .pending := fun t member isTask =>
      settled t ((round_kept round settled isTask).mp member) isTask
    exact (rounds.kept task still u own).trans (round_kept round settled own)
  · obtain ⟨e,rest,rfl,opens⟩ := round_opens round
    rintro _ ⟨⟩
    exact opens

-- Agents of the classes of runtime/agents, whatever their keys and attributes, and
-- classes that build such agents or raise.
def knownAgents (adminKey : String) (known : List (String × BaseAgent)) : Agents :=
  known.map fun (key,self) => (key,self.specialist adminKey)
def registryOf (adminKey : String) (classes : List (String × Except PyError BaseAgent)) : List (String × AgentClass) :=
  classes.map fun (type,create) => (type,⟨create.map (BaseAgent.specialist adminKey)⟩)

-- The registry of the repository among them.
theorem registry_of (adminKey : String) (cfg : Config) : AGENT_REGISTRY (SpecialistClass.agentClass adminKey cfg) =
    registryOf adminKey [("research",BaseAgent.init cfg .ResearchAgent),("news",BaseAgent.init cfg .NewsAgent),
      ("reddit",BaseAgent.init cfg .RedditAgent),("github",BaseAgent.init cfg .GitHubAgent),
      ("financial",BaseAgent.init cfg .FinancialAgent),("crypto",BaseAgent.init cfg .CryptoAgent),
      ("osint",BaseAgent.init cfg .OsintAgent),("fact_check",BaseAgent.init cfg .FactCheckerAgent)] := rfl

def Based (adminKey : String) (agents : Agents) : Prop := ∀ entry ∈ agents, ∃ self : BaseAgent, entry.2 = self.specialist adminKey

theorem lookup_mem {agents : Agents} (found : agents.lookup key = some agent) : ∃ entry ∈ agents, entry.2 = agent := by
  induction agents with
  | nil => cases found
  | cons entry rest ih =>
    obtain ⟨name,first⟩ := entry
    rw [List.lookup_cons] at found
    split at found
    · cases found
      exact ⟨_,List.mem_cons_self,rfl⟩
    · obtain ⟨other,member,same⟩ := ih found
      exact ⟨other,List.mem_cons_of_mem _ member,same⟩

theorem agentFor_based (based : Based adminKey agents) (key : String) (create : Except PyError BaseAgent) :
    ∃ result agents', agentFor key ⟨create.map (BaseAgent.specialist adminKey)⟩ agents = .done (result,agents') ∧ Based adminKey agents' ∧
      ∀ agent, result = .ok agent → ∃ self : BaseAgent, agent = self.specialist adminKey := by
  unfold agentFor
  simp only [Method.bind_def,Method.attributes,done_bind]
  cases found : agents.lookup key with
  | some agent =>
    obtain ⟨entry,member,same⟩ := lookup_mem found
    obtain ⟨self,isSelf⟩ := based entry member
    exact ⟨_,_,rfl,based,fun _ isAgent => ⟨self,(Except.ok.inj isAgent).symm.trans (same.symm.trans isSelf)⟩⟩
  | none => cases create with
    | error raised => exact ⟨_,_,rfl,based,fun _ isAgent => by cases isAgent⟩
    | ok self =>
      refine ⟨_,_,rfl,List.forall_mem_cons.mpr ⟨⟨self,rfl⟩,based⟩,fun _ isAgent => ⟨self,(Except.ok.inj isAgent).symm⟩⟩

-- The claim that one round begins with.
inductive Opening (agent : Uuid) (type : String) (db : Database) : Except PyError (Option TaskRow) → Database → List Record → Prop where
  | idle {e : Record} : e.statement = .pendingTask agent (some type) → (∀ task, ¬ Claims e task) → (∀ t, result ≠ .ok (some t)) →
      db'.investigationTasks = db.investigationTasks → Opening agent type db result db' [e]
  | claimed {claim : Record} : oldestPending db agent (some type) = some t → claim.statement = .pendingTask agent (some type) →
      claim.before = db → db' = (db.editTask t.id fun t => {t with status := .running}) →
      (∀ found, result = .ok found → found = some {t with status := .running}) → Opening agent type db result db' [claim]

theorem pendingTask_opens (agent : Uuid) (type : String) (agents : Agents) (db : Database) (l : Session) :
    (get_pending_task_row agent (some type)).Adds exec (fun _ => True) (fun result agents' db' _ added => agents' = agents ∧
      Opening agent type db result db' added) agents db l := by
  apply Method.Adds.lift
  refine Adds.call fun c _ => ?_
  cases found : oldestPending db agent (some type) with
  | none =>
    have done : perform c db l (.pendingTask agent (some type)) = .ok (none,db,l) := by rw [perform,found]
    have unclaimed (task : Uuid) : ¬ Claims (entry exec (.pendingTask agent (some type)) c db l) task := claims_nothing rfl found
    rcases exec_sure rfl done with ⟨-,ok,same⟩ | ⟨-,failed,same⟩
    · rw [ok]
      exact .done ⟨rfl,.idle rfl unclaimed (fun _ isRow => by cases isRow) (by rw [same])⟩
    · rw [failed]
      exact .done ⟨rfl,.idle rfl unclaimed (fun _ isRow => by cases isRow) (by rw [same,ite_self])⟩
  | some t =>
    have done : perform c db l (.pendingTask agent (some type)) = .ok (some {t with status := .running},
        db.editTask t.id fun t => {t with status := .running},l) := by rw [perform,found]
    rcases exec_fates rfl done with ⟨-,ok,same⟩ | ⟨-,failed,same⟩ | ⟨-,failed,same⟩
    · rw [ok]
      exact .done ⟨rfl,.claimed found rfl rfl same fun _ isRow => (Except.ok.inj isRow).symm⟩
    · rw [failed]
      exact .done ⟨rfl,.claimed found rfl rfl same fun _ isRow => by cases isRow⟩
    · rw [failed]
      refine .done ⟨rfl,.idle rfl ?_ (fun _ isRow => by cases isRow) (by rw [same])⟩
      intro task claims
      have after := (claims_oldest rfl found claims).2
      obtain ⟨present,-,pending,-⟩ := oldestPending_some found
      have unmoved : db = db.editTask t.id fun t => {t with status := .running} := same.symm.trans after
      have running := running_rows t.id (unmoved ▸ present) rfl
      cases running.symm.trans pending

theorem workType_leaves (based : Based adminKey agents) (agent : Uuid) (type : String) (create : Except PyError BaseAgent)
    (db : Database) (l : Session) :
    (workType agent type ⟨create.map (BaseAgent.specialist adminKey)⟩).Adds exec (fun _ => True)
      (fun _ agents' db' _ added => Based adminKey agents' ∧ RoundLeaves agent type db db' added) agents db l := by
  apply Method.Adds.bind (pendingTask_opens agent type agents db l)
  · intro found agents' db' l' added told
    obtain ⟨rfl,opening⟩ := told
    cases opening with
    | idle statement unclaimed nothing same =>
      cases found with
      | none => exact .done ⟨based,.idle statement unclaimed same⟩
      | some t => exact absurd rfl (nothing t)
    | claimed isOldest statement before moved row =>
      obtain rfl := row found rfl
      obtain ⟨result,agents'',whole,based',isSelf⟩ := agentFor_based based (type ++ "-" ++ String.ofList agent.text) create
      unfold Method.Adds
      dsimp only
      rw [Method.bind_def,whole,done_bind]
      cases result with
      | error raised =>
        refine .done ⟨based',.claimed isOldest statement before (fun _ member => absurd member List.not_mem_nil) ?_⟩
        exact .nothing silent_nil (.inl (by rw [moved]))
      | ok specialist =>
        obtain ⟨self,rfl⟩ := isSelf specialist rfl
        refine Program.Adds.imp (workTask_leaves adminKey self _ agents'' db' l') fun answer db'' l'' more worked => ?_
        obtain ⟨_,agents3⟩ := answer
        obtain ⟨rfl,claimless,verdict⟩ := worked
        rw [moved] at verdict
        exact ⟨based',.claimed isOldest statement before claimless verdict⟩
  · intro raised agents' db' l' added told
    obtain ⟨rfl,opening⟩ := told
    refine ⟨based,?_⟩
    cases opening with
    | idle statement unclaimed _ same => exact .idle statement unclaimed same
    | claimed isOldest statement before moved _ =>
      exact .claimed isOldest statement before (fun _ member => absurd member List.not_mem_nil) (.nothing silent_nil (.inl (by rw [moved])))

theorem handle_agent_tick_rounds (based : Based adminKey agents) (agent_id : Uuid) (classes : List (String × Except PyError BaseAgent))
    (db : Database) (l : Session) : (handle_agent_tick agent_id (registryOf adminKey classes)).Adds exec (fun _ => True)
      (fun _ _ db' _ added => Rounds db db' added) agents db l := by
  induction classes generalizing agents db l with
  | nil => exact .done (rounds_nil db)
  | cons entry rest ih =>
    obtain ⟨type,create⟩ := entry
    apply Method.Adds.bind (workType_leaves based agent_id type create db l)
    · intro _ agents' db' l' added told
      exact (ih told.1 db' l').imp fun _ _ _ _ _ more => rounds_then told.2 more
    · intro raised agents' db' l' added told
      have last := rounds_then told.2 (rounds_nil db')
      rwa [List.append_nil] at last

theorem knownAgents_based (adminKey : String) (known : List (String × BaseAgent)) : Based adminKey (knownAgents adminKey known) := by
  intro entry member
  obtain ⟨own,-,rfl⟩ := List.mem_map.mp member
  exact ⟨own.2,rfl⟩

-- An agent that reaches the model and posts with the key of its own row.
def BaseAgent.poster : BaseAgent := ⟨.ResearchAgent,⟨"tk_agent_ada"⟩,["cfg","name","model","system_prompt","mesh","_http","graph"]⟩

-- The response to the post is lost after the message is stored.
def unheard : List Choice :=
  List.replicate 6 .sample ++ [⟨.lost,200,0,""⟩] ++ List.replicate 1 .sample

theorem stored_finding_failed : ¬ ∀ known classes db, (handle_agent_tick 1 (registryOf "rp_admin" classes)).Ensures (recorded exec)
    (fun _ => True) (fun _ _ db' l => ∀ earlier claim rest task, l.2 = earlier ++ claim :: rest → Claims claim task →
      Agrees db' task (handledBy rest)) (knownAgents "rp_admin" known) db (.fresh,[]) := by
  intro always
  have agrees := Program.Ensures.played (always [(agentKey 1 "research",.poster)] [("research",.error (.nameError "LLMClient"))] .asked)
    (show ∀ c ∈ unheard, True from fun _ _ => trivial) rfl [] _ _ 51 rfl ⟨1,some "research",_,rfl,rfl,rfl,rfl⟩
  have none' := agrees.failed _ List.mem_cons_self rfl rfl
  cases none'

-- Whatever the agents, their keys and the model do: status and findings of every task
-- that the tick claimed agree, unless a failure after the INSERT of the message is
-- taken for the task's.
theorem findings_agree (adminKey : String) (agent_id : Uuid) (known : List (String × BaseAgent))
    (classes : List (String × Except PyError BaseAgent)) (db : Database) :
    (handle_agent_tick agent_id (registryOf adminKey classes)).Ensures (recorded exec) (fun _ => True) (fun _ _ db' l =>
      ∀ earlier claim rest task, l.2 = earlier ++ claim :: rest → Claims claim task →
        (Agrees db' task (handledBy rest) ↔ Spared (handledBy rest))) (knownAgents adminKey known) db (.fresh,[]) := by
  refine Program.Ensures.imp (handle_agent_tick_rounds (knownAgents_based adminKey known) agent_id classes db .fresh []) ?_
  intro answer db' l told
  obtain ⟨_,_⟩ := answer
  obtain ⟨added,same,rounds⟩ := told
  rw [List.nil_append] at same
  dsimp only
  rw [same]
  exact rounds.agrees

end Trokk
