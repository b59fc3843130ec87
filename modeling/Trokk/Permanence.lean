import Trokk.Integrity
import Trokk.Library.Evolution

-- What no run takes back. Rows are never removed or moved; of each one, the columns
-- that identify it stay, and what was once filled in stays filled in.
namespace Trokk
open Program Evolution

structure AgentRow.Becomes (a b : AgentRow) : Prop where
  id : b.id = a.id
  username : b.username = a.username
  apiKey : b.apiKey = a.apiKey
  createdAt : b.createdAt = a.createdAt
  described : a.description.isSome → b.description.isSome
  flagged : a.active.isSome → b.active.isSome

structure SignalRow.Becomes (s s' : SignalRow) : Prop where
  id : s'.id = s.id
  signalType : s'.signalType = s.signalType
  agentId : s'.agentId = s.agentId
  createdAt : s'.createdAt = s.createdAt
  processed : s.processed = true → s'.processed = true

structure InvestigationRow.Becomes (i j : InvestigationRow) : Prop where
  id : j.id = i.id
  question : j.question = i.question
  createdAt : j.createdAt = i.createdAt
  reported : i.report.isSome → j.report.isSome
  completed : i.completedAt.isSome → j.completedAt.isSome

structure TaskRow.Becomes (t u : TaskRow) : Prop where
  id : u.id = t.id
  investigationId : u.investigationId = t.investigationId
  agentId : u.agentId = t.agentId
  taskType : u.taskType = t.taskType
  taskPrompt : u.taskPrompt = t.taskPrompt
  createdAt : u.createdAt = t.createdAt
  answered : t.result.isSome → u.result.isSome
  completed : t.completedAt.isSome → u.completedAt.isSome

theorem AgentRow.Becomes.refl (a : AgentRow) : a.Becomes a := ⟨rfl,rfl,rfl,rfl,fun set => set,fun set => set⟩
theorem SignalRow.Becomes.refl (s : SignalRow) : s.Becomes s := ⟨rfl,rfl,rfl,rfl,fun set => set⟩
theorem InvestigationRow.Becomes.refl (i : InvestigationRow) : i.Becomes i := ⟨rfl,rfl,rfl,fun set => set,fun set => set⟩
theorem TaskRow.Becomes.refl (t : TaskRow) : t.Becomes t := ⟨rfl,rfl,rfl,rfl,rfl,rfl,fun set => set,fun set => set⟩

theorem AgentRow.Becomes.trans (a b c : AgentRow) (one : a.Becomes b) (two : b.Becomes c) : a.Becomes c :=
  ⟨two.id.trans one.id,two.username.trans one.username,two.apiKey.trans one.apiKey,two.createdAt.trans one.createdAt,
   two.described ∘ one.described,two.flagged ∘ one.flagged⟩

-- A row that scans goes on to.
theorem AgentRow.Becomes.scans {a b : AgentRow} (becomes : a.Becomes b) (scans : a.scans = true) : b.scans = true := by
  simp only [AgentRow.scans,Bool.and_eq_true,becomes.createdAt] at scans ⊢
  exact ⟨⟨becomes.described scans.1.1,scans.1.2⟩,becomes.flagged scans.2⟩

theorem SignalRow.Becomes.trans (a b c : SignalRow) (one : a.Becomes b) (two : b.Becomes c) : a.Becomes c :=
  ⟨two.id.trans one.id,two.signalType.trans one.signalType,two.agentId.trans one.agentId,two.createdAt.trans one.createdAt,
   two.processed ∘ one.processed⟩

theorem InvestigationRow.Becomes.trans (a b c : InvestigationRow) (one : a.Becomes b) (two : b.Becomes c) : a.Becomes c :=
  ⟨two.id.trans one.id,two.question.trans one.question,two.createdAt.trans one.createdAt,two.reported ∘ one.reported,
   two.completed ∘ one.completed⟩

theorem TaskRow.Becomes.trans (a b c : TaskRow) (one : a.Becomes b) (two : b.Becomes c) : a.Becomes c :=
  ⟨two.id.trans one.id,two.investigationId.trans one.investigationId,two.agentId.trans one.agentId,
   two.taskType.trans one.taskType,two.taskPrompt.trans one.taskPrompt,two.createdAt.trans one.createdAt,
   two.answered ∘ one.answered,two.completed ∘ one.completed⟩

-- The toggles have no part in it: they come and go.
structure Later (db db' : Database) : Prop where
  agents : Evolves AgentRow.Becomes db.agents db'.agents
  messages : db.messages <+: db'.messages
  controlSignals : Evolves SignalRow.Becomes db.controlSignals db'.controlSignals
  investigations : Evolves InvestigationRow.Becomes db.investigations db'.investigations
  investigationTasks : Evolves TaskRow.Becomes db.investigationTasks db'.investigationTasks

theorem Later.refl (db : Database) : Later db db where
  agents := evolves_refl AgentRow.Becomes.refl _
  messages := List.prefix_refl _
  controlSignals := evolves_refl SignalRow.Becomes.refl _
  investigations := evolves_refl InvestigationRow.Becomes.refl _
  investigationTasks := evolves_refl TaskRow.Becomes.refl _

theorem Later.trans (a b c : Database) (one : Later a b) (two : Later b c) : Later a c where
  agents := one.agents.trans AgentRow.Becomes.trans two.agents
  messages := one.messages.trans two.messages
  controlSignals := one.controlSignals.trans SignalRow.Becomes.trans two.controlSignals
  investigations := one.investigations.trans InvestigationRow.Becomes.trans two.investigations
  investigationTasks := one.investigationTasks.trans TaskRow.Becomes.trans two.investigationTasks

variable {db db' : Database}

theorem update_becomes (a : AgentRow) (req : UpdateAgentRequest) : a.Becomes (a.update req) := by
  have kept {A : Type} {given old : Option A} (set : old.isSome) : (given.orElse fun _ => old).isSome := by
    cases given with
    | none => exact set
    | some => rfl
  exact ⟨rfl,rfl,rfl,rfl,kept,kept⟩

theorem agents_later {rows : List AgentRow} (evolves : Evolves AgentRow.Becomes db.agents rows) :
    Later db {db with agents := rows} := {Later.refl db with agents := evolves}

-- The rows of one id are edited.
theorem edit_becomes {R : A → A → Prop} (key : A → Uuid) (refl : ∀ a, R a a) {edit : A → A} (edits : ∀ a, R a (edit a)) (a : A) :
    R a (if key a = target then edit a else a) := by
  split
  · exact edits a
  · exact refl a

theorem editTask_later (edits : ∀ t, TaskRow.Becomes t (edit t)) (target : Uuid) : Later db (db.editTask target edit) :=
  {Later.refl db with
    investigationTasks := evolves_map fun t _ => edit_becomes TaskRow.id TaskRow.Becomes.refl edits t}

theorem editInvestigation_later (edits : ∀ i, InvestigationRow.Becomes i (edit i)) (target : Uuid) :
    Later db (db.editInvestigation target edit) :=
  {Later.refl db with
    investigations := evolves_map fun i _ => edit_becomes InvestigationRow.id InvestigationRow.Becomes.refl edits i}

theorem effect_later (effect : Effect c db session s db') : Later db db' := by
  cases effect with
  | none => exact Later.refl db
  | insertAgent => exact agents_later (evolves_append AgentRow.Becomes.refl _ _)
  | updateAgent =>
    exact agents_later (evolves_map fun a _ => edit_becomes AgentRow.id AgentRow.Becomes.refl (update_becomes · _) a)
  | setAllActive => exact agents_later (evolves_map fun _ _ => ⟨rfl,rfl,rfl,rfl,fun set => set,fun _ => rfl⟩)
  | insertMessage => exact {Later.refl db with messages := List.prefix_append _ _}
  | toggle =>
    rw [toggled_eq]
    exact {Later.refl db with}
  | insertSignal => exact {Later.refl db with controlSignals := evolves_append SignalRow.Becomes.refl _ _}
  | commit => exact {Later.refl db with
      investigations := evolves_append InvestigationRow.Becomes.refl _ _
      investigationTasks := evolves_append TaskRow.Becomes.refl _ _}
  | updateInvestigationStatus =>
    apply editInvestigation_later
    intro i
    refine ⟨rfl,rfl,rfl,fun set => set,fun set => ?_⟩
    split
    · rfl
    · exact set
  | setInvestigationStatus =>
    apply editInvestigation_later
    exact fun _ => ⟨rfl,rfl,rfl,fun set => set,fun set => set⟩
  | setInvestigationReport =>
    apply editInvestigation_later
    exact fun _ => ⟨rfl,rfl,rfl,fun _ => rfl,fun set => set⟩
  | markProcessed =>
    refine {Later.refl db with controlSignals := evolves_map fun s _ => ?_}
    apply edit_becomes SignalRow.id SignalRow.Becomes.refl
    exact fun _ => ⟨rfl,rfl,rfl,rfl,fun _ => rfl⟩
  | pendingTask =>
    apply editTask_later
    exact fun _ => ⟨rfl,rfl,rfl,rfl,rfl,rfl,fun set => set,fun set => set⟩
  | completeTask =>
    apply editTask_later
    exact fun _ => ⟨rfl,rfl,rfl,rfl,rfl,rfl,fun _ => rfl,fun _ => rfl⟩
  | failTask =>
    apply editTask_later
    exact fun _ => ⟨rfl,rfl,rfl,rfl,rfl,rfl,fun _ => rfl,fun _ => rfl⟩

theorem exec_later (s : Statement) (c : Choice) (db : Database) (l : Session) : Later db (exec s c db l).2.1 :=
  effect_later (exec_effect c db l s)

-- Whatever is served and ticked in between, and whatever fails or is killed.
theorem history_kept {p q : System} (run : SystemRuns adminKey runtime p q) : Later p.shared q.shared :=
  Pool.runs_along Later.refl Later.trans exec_later run

def halting : System := ⟨.asked,Function.update (fun _ => none) (.request 0)
  (some (serving "rp_admin" ⟨"Bearer rp_admin",.pauseAll⟩,.fresh))⟩
def haltedBy : System := halting.acts exec [(.request 0,.sample)]

theorem halting_runs : SystemRuns "rp_admin" .sample (Pool.idle .asked) haltedBy :=
  Pool.acts_runs (.step .start (.begin rfl .request)) _

theorem history_kept_sample : haltedBy.shared.agents.map AgentRow.active = [some false] ∧ Later .asked haltedBy.shared :=
  ⟨by decide +kernel,history_kept halting_runs⟩

end Trokk
