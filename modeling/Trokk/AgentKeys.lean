import Trokk.Acknowledgements

-- What the key that CreateAgent hands out is good for: it names its agent for good,
-- and nothing else names that agent.
namespace Trokk
open Program Evolution

variable {db : Database} {a row : AgentRow} {adminKey header : String}

-- Authentication, with the lookup answered.
def Identifies (db : Database) (adminKey header : String) (info : Option AuthInfo) : Prop := ∀ l : Session,
  (Authenticate adminKey header).Ensures exec (fun c => c.fate = .answered) (fun result db' l' =>
    db' = db ∧ l' = l ∧ result = .ok info) db l

theorem lookup_own (keys : (db.agents.map AgentRow.apiKey).Nodup) (member : row ∈ db.agents) :
    (db.agents.find? fun b => b.apiKey = row.apiKey && b.active = some true) = if row.active = some true then some row else none := by
  split
  · rename_i active
    cases found : db.agents.find? fun b => b.apiKey = row.apiKey && b.active = some true with
    | none => exact absurd (List.find?_eq_none.mp found row member) (by simp [active])
    | some b =>
      obtain ⟨listed,key,-⟩ := byAPIKey_found found
      rw [List.inj_on_of_nodup_map keys listed member key]
  · rename_i inactive
    refine List.find?_eq_none.mpr fun b present hit => inactive ?_
    have hit : b.apiKey = row.apiKey ∧ b.active = some true := by simpa using hit
    rw [← List.inj_on_of_nodup_map keys present member hit.1]
    exact hit.2

theorem own_key_identifies (keys : (db.agents.map AgentRow.apiKey).Nodup) (member : row ∈ db.agents)
    (scans : row.scans = true) (other : row.apiKey ≠ adminKey) :
    Identifies db adminKey ("Bearer " ++ row.apiKey) (some ⟨false,if row.active = some true then row.id else 0⟩) := by
  intro l
  rw [authenticate_bearer,if_neg other]
  intro c answered
  have told : exec (.agentByAPIKey row.apiKey) c db l =
      (.ok (db.agents.find? fun b => b.apiKey = row.apiKey && b.active = some true),db,l) := by
    simp [exec,Statement.certain,answered,perform]
  rw [told,lookup_own keys member]
  refine ⟨rfl,rfl,?_⟩
  split
  · exact if_pos scans
  · rfl

-- Whatever the lookup does, the id of an agent comes of that agent's key.
theorem identified_by_key (ids : (db.agents.map AgentRow.id).Nodup) (member : row ∈ db.agents) (l : Session) :
    (Authenticate adminKey header).Ensures exec (fun _ => True) (fun result _ _ =>
      ∀ info, result = .ok (some info) → info.agentID ≠ 0 → info.agentID = row.id → header = "Bearer " ++ row.apiKey) db l := by
  by_cases bearer : ∃ token, header = "Bearer " ++ token
  · obtain ⟨token,rfl⟩ := bearer
    rw [authenticate_bearer]
    split
    · intro info same named
      cases same
      exact absurd rfl named
    · intro c _
      cases answer : (exec (.agentByAPIKey token) c db l).1 with
      | error => exact fun _ => nofun
      | ok found =>
        cases found with
        | none =>
          intro info same named
          cases same
          exact absurd rfl named
        | some b =>
          intro info same _ id
          cases authInfo_some same
          obtain ⟨b',present,same,key⟩ := agentByAPIKey_holds answer
          rw [key,List.inj_on_of_nodup_map ids present member (same.trans id)]
  · rw [authenticate_other adminKey fun token same => bearer ⟨token,same⟩]
    exact fun _ => nofun

-- The row of an agent that was created, in a later state.
structure Issued (adminKey : String) (a : AgentRow) (db : Database) : Prop where
  row : ∃ row ∈ db.agents, a.Becomes row ∧
    Identifies db adminKey ("Bearer " ++ a.apiKey) (some ⟨false,if row.active = some true then a.id else 0⟩)
  alone : ∀ header l, (Authenticate adminKey header).Ensures exec (fun _ => True) (fun result _ _ =>
    ∀ info, result = .ok (some info) → info.agentID ≠ 0 → info.agentID = a.id → header = "Bearer " ++ a.apiKey) db l

theorem issued_key_names {p next q : System} (valid : db.Valid) (run : SystemRuns adminKey runtime (Pool.idle db) p)
    (answered : SystemStep adminKey runtime p (.answer t (.response ⟨header,.createAgent (some req)⟩ ⟨status,.agent a⟩)) next)
    (other : a.apiKey ≠ adminKey) (later : SystemRuns adminKey runtime next q) : Issued adminKey a q.shared := by
  have reached : SystemRuns adminKey runtime (Pool.idle db) q := (Pool.Runs.step run answered).trans later
  have valid' := (Pool.runs_kept (exec_keeps_valid fun _ => True) (fun _ x _ => only_true x) (Pool.idle_kept valid) reached).holds
  obtain ⟨same,now⟩ := answered_due run answered
  have moved := Pool.runs_along Later.refl Later.trans exec_later later
  rw [same] at moved
  obtain ⟨⟨-,scans⟩,row,member,becomes⟩ :
    (a.username = req.username ∧ a.scans = true) ∧ ∃ b ∈ q.shared.agents, a.Becomes b := now.later moved
  refine ⟨⟨row,member,becomes,?_⟩,fun header l => ?_⟩
  · rw [← becomes.apiKey,← becomes.id]
    exact own_key_identifies valid'.apiKeys member (becomes.scans scans) (by rw [becomes.apiKey]; exact other)
  · rw [← becomes.apiKey,← becomes.id]
    exact identified_by_key valid'.agentIds member l

def CreateAgentRequest.cy : CreateAgentRequest := ⟨"cy","Cy","",none⟩
def enrolling : System := ⟨.staffed,Function.update (fun _ => none) (.request 0)
  (some (serving "rp_admin" ⟨"Bearer rp_admin",.createAgent (some .cy)⟩,.fresh))⟩
def enrolled : System := enrolling.acts exec (List.replicate 2 (.request 0,⟨.answered,100,5,""⟩))
def handedOut : System := {enrolled with sessions := Function.update enrolled.sessions (.request 0) none}
def AgentRow.cy : AgentRow := ⟨5,"cy","Cy",some "",none,generateAPIKey 5,some 100,some true⟩

theorem enrolled_runs : SystemRuns "rp_admin" .sample (Pool.idle .staffed) enrolled :=
  Pool.acts_runs (.step .start (.begin rfl .request)) _

theorem enrolled_answer : SystemStep "rp_admin" .sample enrolled
    (.answer (.request 0) (.response ⟨"Bearer rp_admin",.createAgent (some .cy)⟩ ⟨201,.agent .cy⟩)) handedOut :=
  .answer rfl

theorem issued_key_names_sample : Issued "rp_admin" .cy handedOut.shared :=
  issued_key_names Database.staffed_valid enrolled_runs enrolled_answer (by decide +kernel) .start

end Trokk
