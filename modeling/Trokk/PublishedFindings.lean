import Trokk.Specialists

-- What becomes of a finding that BaseAgent._publish posts. The API stores the text
-- and drops parent_msg_id, the column that get_investigation_findings selects on.
namespace Trokk
open Program

-- Messages come with fresh ids and never change.
structure Extends (db db' : Database) : Prop where
  kept : ∀ m ∈ db.messages, m ∈ db'.messages
  added : ∀ m ∈ db'.messages, m ∈ db.messages ∨ ∀ old ∈ db.messages, old.id ≠ m.id

theorem Extends.refl (db : Database) : Extends db db := ⟨fun _ present => present,fun _ present => .inl present⟩

theorem Extends.trans (a b c : Database) (one : Extends a b) (two : Extends b c) : Extends a c := by
  refine ⟨fun m present => two.kept m (one.kept m present),fun m present => ?_⟩
  cases two.added m present with
  | inl before => exact one.added m before
  | inr fresh => exact .inr fun old there => fresh old (one.kept old there)

theorem extends_same (same : db'.messages = db.messages) : Extends db db' :=
  ⟨fun _ present => same ▸ present,fun _ present => .inl (same ▸ present)⟩

theorem effect_extends (effect : Effect c db session s db') : Extends db db' := by
  cases effect with
  | insertMessage fresh =>
    refine ⟨fun m present => List.mem_append_left _ present,fun m present => ?_⟩
    rcases List.mem_append.mp present with before | added
    · exact .inl before
    · rw [List.mem_singleton.mp added]
      exact .inr fresh
  | toggle =>
    rw [toggled_eq]
    exact extends_same rfl
  | _ => exact extends_same rfl

-- A stored message without a parent.
structure Orphan (db : Database) (message : Uuid) : Prop where
  stored : ∃ m ∈ db.messages, m.id = message
  parentless : ∀ m ∈ db.messages, m.id = message → m.parentMsgId = none

theorem Extends.orphan (extends' : Extends db db') (orphan : Orphan db message) : Orphan db' message := by
  obtain ⟨m,present,same⟩ := orphan.stored
  refine ⟨⟨m,extends'.kept m present,same⟩,fun n there id => ?_⟩
  cases extends'.added n there with
  | inl before => exact orphan.parentless n before id
  | inr fresh => exact absurd (same.trans id.symm) (fresh m present)

def Found (db : Database) (investigationId message : Uuid) (content : String) : Prop :=
  ∃ finding ∈ findings db investigationId, finding.id = message ∧ finding.content = content

theorem orphan_not_found (orphan : Orphan db message) : ¬ Found db inv message content := by
  intro found
  obtain ⟨finding,present,id,-⟩ := found
  simp only [findings,List.mem_flatMap,oldestFirst,List.mem_insertionSort,List.mem_filter,List.mem_map,decide_eq_true_eq] at present
  obtain ⟨m,⟨stored,parent⟩,a,-,rfl⟩ := present
  rw [orphan.parentless m stored id] at parent
  cases parent

abbrev Beside (post : A → Database → Session → Prop) (x : Api A) : Database → Session → Prop :=
  x.Secure exec (fun _ => True) (fun _ => True) Extends post

theorem beside {x : Api A} {post : A → Prop} (yields : x.Yields post) (db : Database) (l : Session) :
    Beside (fun a _ _ => post a) x db l := by
  have any : x.Only fun _ => True := by
    clear yields
    induction x with
    | done a => trivial
    | call s next ih => exact ⟨trivial,ih⟩
  exact any.secure yields (fun s c db l _ _ _ => ⟨trivial,trivial,effect_extends (exec_effect c db l s)⟩) trivial

-- A 201 that carries a message.
def Posts (response : Response) (db : Database) : Prop := ∀ posted, response = ⟨201,.message (some posted)⟩ →
  Orphan db posted.message.id

theorem insertMessage_orphan {db : Database} (ok : (exec (.insertMessage agent content none) c db l).1 = .ok message) :
    Orphan (exec (.insertMessage agent content none) c db l).2.1 message.id := by
  have done := exec_ok ok
  generalize (exec (.insertMessage agent content none) c db l).2 = after at done
  obtain ⟨own,grown,-,fresh,-⟩ := insertMessage_done done
  rw [grown,own]
  refine ⟨⟨_,List.mem_append_right _ (List.mem_singleton_self _),rfl⟩,fun m present id => ?_⟩
  rcases List.mem_append.mp present with before | added
  · exact absurd id (fresh m before)
  · rw [List.mem_singleton.mp added]

theorem messageWithAgent_id {db : Database} (ok : (exec (.messageWithAgent message) c db l).1 = .ok (some found)) :
    found.message.id = message := by
  have read := (Prod.mk.inj (Except.ok.inj (exec_ok ok))).1
  simpa using List.find?_some read

theorem storeMessage_posts (info : AuthInfo) (content notCreated notFetched : String) (db : Database) (l : Session) :
    Beside (fun response db _ => Posts response db) (storeMessage info content none notCreated notFetched) db l := by
  intro db _ _ c
  refine ⟨trivial,trivial,effect_extends (exec_effect c db l _),?_⟩
  cases answer : (exec (.insertMessage info.agentID content none) c db l).1 with
  | error => exact fun _ _ _ _ => nofun
  | ok message =>
    have orphan := insertMessage_orphan answer
    intro later _ move c'
    refine ⟨trivial,trivial,effect_extends (exec_effect c' later _ _),?_⟩
    cases fetched : (exec (.messageWithAgent message.id) c' later _).1 with
    | error => exact fun _ _ _ _ => nofun
    | ok found =>
      intro last _ move' posted same
      cases same
      rw [messageWithAgent_id fetched]
      exact move'.orphan ((effect_extends (exec_effect c' later _ _)).orphan (move.orphan orphan))

theorem createMessage_posts (adminKey header : String) (body : Option Json) (db : Database) :
    Beside (fun response db _ => Posts response db) (serve adminKey ⟨header,.createMessage body⟩) db .fresh := by
  refine Secure.bind Extends.refl trivial trivial (beside (authenticate_refuses adminKey header) db .fresh)
    fun result db l _ _ refused => ?_
  cases result with
  | error response =>
    intro _ _ _ posted same
    have status := refused response rfl
    rw [same] at status
    cases status
  | ok info => cases info with
    | none => exact fun _ _ _ _ => nofun
    | some info =>
      unfold dispatch RequireAgent
      dsimp only
      split
      · exact fun _ _ _ _ => nofun
      · unfold CreateMessage
        split
        · exact fun _ _ _ _ => nofun
        · split
          · exact fun _ _ _ _ => nofun
          · exact storeMessage_posts info _ _ _ db l

-- Whatever a message request carries, its message has no parent.
def Orphaned (answer : Answer) (db : Database) : Prop := ∀ header body response,
  answer = .response ⟨header,.createMessage body⟩ response → Posts response db

theorem starts_orphaned (starts : Starts adminKey runtime t x) (db : Database) :
    Beside (fun answer db _ => Orphaned answer db) x db .fresh := by
  cases starts with
  | @request _ req =>
    by_cases posting : ∃ body, req.route = .createMessage body
    · obtain ⟨header,route⟩ := req
      obtain ⟨body,rfl⟩ := posting
      refine Secure.bind Extends.refl trivial trivial (createMessage_posts adminKey header body db)
        fun response db l _ _ posts => ?_
      intro later _ move header' body' response' same posted isPost
      cases same
      exact move.orphan (posts posted isPost)
    · refine Secure.bind Extends.refl trivial trivial (beside (yields_true _) db .fresh) fun response db l _ _ _ => ?_
      intro later _ _ header body response' same
      cases same
      exact absurd ⟨body,rfl⟩ posting
  | tick =>
    refine Secure.bind Extends.refl trivial trivial (beside (yields_true _) db .fresh) fun (result,agents) db l _ _ _ => ?_
    cases result with
    | ok => exact fun _ _ _ _ _ _ => nofun
    | error => exact fun _ _ _ _ _ _ => nofun

-- Neither the state in which the post is answered nor a later one shows the finding.
theorem published_never_found (run : SystemRuns adminKey runtime (Pool.idle db) p)
    (answered : SystemStep adminKey runtime p
      (.answer t (.response (publishRequest cfg content (some inv)) ⟨201,.message (some posted)⟩)) next)
    (later : SystemRuns adminKey runtime next q) : ¬ Found q.shared inv posted.message.id content := by
  have secured : (Pool.idle db : System).Secured exec (fun _ => True) (fun _ => True) Extends fun _ answer db _ =>
      Orphaned answer db := Pool.idle_secured trivial
  have begins (worker : Worker) (x : Api Answer) (db : Database) (starts : Starts adminKey runtime worker x) (_ : True) :=
    starts_orphaned starts db
  have before := (Pool.runs_secured Extends.refl Extends.trans begins trivial secured run).1
  obtain ⟨same,_,orphaned⟩ := Pool.answered Extends.refl before answered
  have after := (Pool.step_secured Extends.refl Extends.trans begins trivial before answered).1
  have extends' := (Pool.runs_secured Extends.refl Extends.trans begins trivial after later).2
  have orphan : Orphan next.shared posted.message.id := by
    rw [same]
    exact orphaned _ _ _ rfl posted rfl
  exact orphan_not_found (extends'.orphan orphan)

def posting : System := ⟨.staffed,Function.update (fun _ => none) (.request 0)
  (some (serving "rp_admin" (publishRequest ⟨"tk_agent_ada"⟩ "finding" (some 21)),.fresh))⟩
def stored : System := posting.acts exec (List.replicate 3 (.request 0,⟨.answered,100,7,""⟩))
def posted : System := {stored with sessions := Function.update stored.sessions (.request 0) none}

theorem stored_runs : SystemRuns "rp_admin" .sample (Pool.idle .staffed) stored :=
  Pool.acts_runs (.step .start (.begin rfl .request)) _

theorem stored_answer : ∃ row : StreamRow, row.message.id = 7 ∧ SystemStep "rp_admin" .sample stored
    (.answer (.request 0) (.response (publishRequest ⟨"tk_agent_ada"⟩ "finding" (some 21)) ⟨201,.message (some row)⟩))
    posted := ⟨_,rfl,.answer rfl⟩

theorem published_never_found_sample : ¬ Found posted.shared 21 7 "finding" := by
  obtain ⟨row,id,answered⟩ := stored_answer
  exact id ▸ published_never_found stored_runs answered .start

theorem published_finding_lost : ¬ ∀ p t row next q, SystemRuns "rp_admin" .sample (Pool.idle .staffed) p →
    SystemStep "rp_admin" .sample p
      (.answer t (.response (publishRequest ⟨"tk_agent_ada"⟩ "finding" (some 21)) ⟨201,.message (some row)⟩)) next →
    SystemRuns "rp_admin" .sample next q → Found q.shared 21 row.message.id "finding" := by
  intro found
  obtain ⟨row,-,answered⟩ := stored_answer
  have shown := found stored (.request 0) row posted posted stored_runs answered .start
  have none' : findings posted.shared 21 = [] := by decide +kernel
  rw [Found,none'] at shown
  simp at shown

end Trokk
