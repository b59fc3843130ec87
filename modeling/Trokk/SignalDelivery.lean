import Trokk.Integrity
import Trokk.StrandedTasks

-- Requests beside one orchestrator whose ticks fail, are killed and begin again: what
-- the processed flag of a signal tells about its handling.
namespace Trokk
open Program

inductive OneOrchestrator (adminKey : String) (runtime : Runtime) : Worker → Api Answer → Prop where
  | request : OneOrchestrator adminKey runtime (.request n) (serving adminKey req)
  | tick : OneOrchestrator adminKey runtime (.orchestrator 0) (ticking runtime agents)

abbrev Watched := Pool Statement Statement.Result PgError Answer Database (Session × List Record) Worker
abbrev WatchedStep (adminKey : String) (runtime : Runtime) : Watched → Event Worker Answer → Watched → Prop :=
  Pool.Step (recorded exec) (OneOrchestrator adminKey runtime) (Session.fresh,[])
abbrev WatchedRuns (adminKey : String) (runtime : Runtime) : Watched → Watched → Prop :=
  Pool.Runs (recorded exec) (OneOrchestrator adminKey runtime) (Session.fresh,[])

-- What a batch of polled signals is at, after the transcript.
inductive Doing (runtime : Runtime) (polled : List SignalRow) (log : List Record) : Statement → Prop where
  | logging : signal ∈ polled → Doing runtime polled log (.processing signal)
  | handling : signal ∈ polled → s.handles signal.signalType → Doing runtime polled log s
  | marking : signal ∈ polled → log = earlier ++ first :: handled → first.statement = .processing signal →
      (handleSignal runtime signal agents).Follows handled (.done (.ok (),later)) → signal.id = target →
      Doing runtime polled log (.markProcessed target)

section
variable {runtime : Runtime} {agents : Agents} {log : List Record}

theorem fetch_reached {rest : Except PgError other.Result → Api (Except PyError s.Result × Agents)}
    (follows : (fetch s agents).Follows log (.call other rest)) : log = [] ∧ other = s := by
  cases Follows.called follows with
  | inl start =>
    obtain ⟨rfl,same⟩ := start
    cases same
    exact ⟨rfl,rfl⟩
  | inr told =>
    obtain ⟨_,answer,_,_,_,-,atEnd⟩ := told
    cases answer <;> cases (Follows.ended atEnd).2

theorem fetch_finished (follows : (fetch s agents).Follows log (.done (result,later))) : ∃ c d d',
    (∃ r, result = .ok r ∧ later = agents ∧ log = [⟨s,c,.ok r,d,d'⟩]) ∨
    ∃ exc err, result = .error exc ∧ log = [⟨s,c,.error err,d,d'⟩] := by
  cases Follows.called follows with
  | inl start => cases start.2
  | inr told =>
    obtain ⟨c,answer,d,d',_,rfl,atEnd⟩ := told
    refine ⟨c,d,d',?_⟩
    cases answer with
    | ok r =>
      obtain ⟨rfl,same⟩ := Follows.ended atEnd
      cases same
      exact .inl ⟨r,rfl,rfl,rfl⟩
    | error err =>
      obtain ⟨rfl,same⟩ := Follows.ended atEnd
      cases same
      exact .inr ⟨_,err,rfl,rfl⟩

theorem fetch_returned (follows : (fetch s agents).Follows log (.done (.ok r,later))) :
    ∃ c d d', log = [⟨s,c,.ok r,d,d'⟩] ∧ later = agents := by
  obtain ⟨c,d,d',⟨_,⟨⟩,rfl,rfl⟩ | ⟨_,_,⟨⟩,-⟩⟩ := fetch_finished follows
  exact ⟨c,d,d',rfl,rfl⟩

theorem Doing.later (doing : Doing runtime polled log s) (signal : SignalRow) (before : List Record) :
    Doing runtime (signal :: polled) (before ++ log) s := by
  cases doing with
  | logging member => exact .logging (List.mem_cons_of_mem _ member)
  | handling member handles => exact .handling (List.mem_cons_of_mem _ member) handles
  | marking member split' logged returned same =>
    subst split'
    exact .marking (List.mem_cons_of_mem _ member) (List.append_assoc _ _ _).symm logged returned same

theorem processEach_doing (follows : (processEach runtime polled agents).Follows log (.call s rest)) :
    Doing runtime polled log s := by
  induction polled generalizing agents log with
  | nil => cases (Follows.ended follows).2
  | cons signal more ih =>
    cases Method.follows_bind follows with
    | inl reached =>
      obtain ⟨_,reached⟩ := reached
      obtain ⟨rfl,rfl⟩ := fetch_reached reached
      exact .logging List.mem_cons_self
    | inr logged =>
      obtain ⟨_,_,_,_,rfl,logged,work⟩ := logged
      obtain ⟨_,_,_,rfl,rfl⟩ := fetch_returned logged
      cases Method.follows_bind work with
      | inl reached =>
        obtain ⟨_,reached⟩ := reached
        have only := (handleSignal_only (fun _ handles => handles) runtime _).follows reached
        exact .handling List.mem_cons_self only.1.1
      | inr returned =>
        obtain ⟨_,_,handled,_,rfl,returned,marks⟩ := returned
        cases Method.follows_bind marks with
        | inl reached =>
          obtain ⟨_,reached⟩ := reached
          obtain ⟨rfl,rfl⟩ := fetch_reached reached
          exact .marking List.mem_cons_self (by rw [List.append_nil]; exact (List.nil_append _).symm) rfl returned rfl
        | inr marked =>
          obtain ⟨_,_,_,_,rfl,marked,others⟩ := marked
          rw [← List.append_assoc,← List.append_assoc]
          exact (ih others).later signal _

theorem ticking_doing (follows : (ticking runtime agents).Follows log (.call s rest)) : (log = [] ∧ s = .poll) ∨
    ∃ c polled d d' more, log = ⟨.poll,c,.ok polled,d,d'⟩ :: more ∧ Doing runtime polled more s := by
  rcases Follows.bind follows with ⟨_,_,reached,same⟩ | ⟨⟨result,_⟩,_,_,_,_,ended⟩
  · cases same
    rcases Method.follows_bind reached with polling | ⟨polled,_,_,_,rfl,answered,process⟩
    · obtain ⟨_,polling⟩ := polling
      exact .inl (fetch_reached polling)
    · obtain ⟨c,d,d',rfl,rfl⟩ := fetch_returned answered
      exact .inr ⟨c,polled,d,d',_,rfl,processEach_doing process⟩
  · cases result <;> cases (Follows.ended ended).2

theorem orchestrator_follows {p : Watched} (run : WatchedRuns adminKey runtime (Pool.idle db) p)
    (present : p.sessions (.orchestrator n) = some (x,l)) : n = 0 ∧ ∃ agents, (ticking runtime agents).Follows l.2 x := by
  obtain ⟨_,begun,follows⟩ := Pool.runs_follow run _ _ _ present
  cases begun
  exact ⟨rfl,_,follows⟩

theorem request_only {p : Watched} (run : WatchedRuns adminKey runtime (Pool.idle db) p)
    (present : p.sessions (.request n) = some (x,l)) :
    ∃ route, x.Only (Statement.requested route) ∧ ∀ e ∈ l.2, e.statement.requested route := by
  obtain ⟨_,begun,follows⟩ := Pool.runs_follow run _ _ _ present
  cases begun
  exact ⟨_,Only.follows (serving_only (fun _ requested => requested) adminKey) follows⟩

theorem watched_valid {p : Watched} (valid : db.Valid) (run : WatchedRuns adminKey runtime (Pool.idle db) p) : p.shared.Valid :=
  (Pool.runs_kept (exec_keeps_valid fun _ => True).recorded (fun _ x _ => only_true x) (Pool.idle_kept valid) run).holds

-- A signal changes by its flag alone.
def SameSignal (s s' : SignalRow) : Prop := s' = s ∨ s' = {s with processed := true}

theorem SameSignal.id (same : SameSignal s s') : s'.id = s.id := by
  cases same <;> subst s' <;> rfl

theorem SameSignal.processed (same : SameSignal s s') (processed : s.processed = true) : s'.processed = true := by
  cases same <;> subst s'
  · exact processed
  · rfl

theorem SameSignal.trans (one : SameSignal a b) (two : SameSignal b c) : SameSignal a c := by
  cases two with
  | inl same => exact same ▸ one
  | inr same =>
    subst same
    cases one <;> subst b <;> exact .inr rfl

structure SignalsKept (db db' : Database) : Prop where
  ids : (db.controlSignals.map SignalRow.id).Nodup → (db'.controlSignals.map SignalRow.id).Nodup
  rows : ∀ s ∈ db.controlSignals, ∃ s' ∈ db'.controlSignals, SameSignal s s'

theorem SignalsKept.refl (db : Database) : SignalsKept db db := ⟨fun ids => ids,fun s member => ⟨s,member,.inl rfl⟩⟩

theorem SignalsKept.trans (a b c : Database) (one : SignalsKept a b) (two : SignalsKept b c) : SignalsKept a c := by
  refine ⟨two.ids ∘ one.ids,?_⟩
  intro s member
  obtain ⟨s',member,same⟩ := one.rows s member
  obtain ⟨s'',member,same'⟩ := two.rows s' member
  exact ⟨s'',member,same.trans same'⟩

theorem effect_signals (effect : Effect c db session s db') : SignalsKept db db' := by
  cases effect with
  | insertSignal fresh =>
    exact ⟨fun ids => nodup_snoc ids fresh,fun s member => ⟨s,List.mem_append_left _ member,.inl rfl⟩⟩
  | @markProcessed target =>
    have kept : (db.editSignal target fun s => {s with processed := true}).controlSignals.map SignalRow.id =
      db.controlSignals.map SignalRow.id := edits_kept fun _ => rfl
    refine ⟨fun ids => by rwa [kept],fun s member => ⟨_,List.mem_map_of_mem member,?_⟩⟩
    · split
      · exact .inr rfl
      · exact .inl rfl
  | toggle =>
    rw [toggled_eq]
    exact ⟨fun ids => ids,(SignalsKept.refl db).rows⟩
  | _ => exact ⟨fun ids => ids,(SignalsKept.refl db).rows⟩

theorem exec_signals (s : Statement) (c : Choice) (db : Database) (l : Session) : SignalsKept db (exec s c db l).2.1 :=
  effect_signals (exec_effect c db l s)

-- Only its own UPDATE sets the flag of a signal.
theorem effect_marks {signal : SignalRow} (effect : Effect c db session s db') (ids : (db.controlSignals.map SignalRow.id).Nodup)
    (present : signal ∈ db.controlSignals) (waits : signal.processed = false)
    (marked : {signal with processed := true} ∈ db'.controlSignals) : s = .markProcessed signal.id := by
  have absent : {signal with processed := true} ∉ db.controlSignals := by
    intro there
    have same := List.inj_on_of_nodup_map ids there present rfl
    rw [← same] at waits
    cases waits
  cases effect with
  | insertSignal =>
    cases List.mem_append.mp marked with
    | inl old => exact absurd old absent
    | inr added => cases congrArg SignalRow.processed (List.mem_singleton.mp added)
  | @markProcessed target =>
    obtain ⟨old,there,same⟩ := List.mem_map.mp marked
    split at same
    · rename_i own
      rw [← own,← congrArg SignalRow.id same]
    · exact absurd (same ▸ there) absent
  | toggle =>
    rw [toggled_eq] at marked
    exact absurd marked absent
  | _ => exact absurd marked absent

-- What a poll lists waits in the snapshot that it took.
theorem polled_waits (genuine : ∃ own, (⟨.poll,c,.ok polled,d,d'⟩ : Record) = entry exec .poll c d own) (member : signal ∈ polled) :
    signal ∈ d.controlSignals ∧ signal.processed = false ∧ SignalsKept d d' := by
  obtain ⟨own,genuine⟩ := genuine
  injection genuine with _ _ answer _ after
  have answered : (exec .poll c d own).1 = .ok polled := answer.symm
  have listed := (Prod.mk.inj (Except.ok.inj (exec_ok answered))).1
  rw [← listed,oldestFirst,List.mem_insertionSort,List.mem_filter] at member
  refine ⟨member.1,by simpa using member.2,?_⟩
  rw [after]
  exact exec_signals .poll c d own

-- The tick polled the signal while it waited and logged it, and then its call of
-- _handle_agent_tick came back.
def Served (runtime : Runtime) (signal : SignalRow) (agent : Uuid) (log : List Record) : Prop :=
  ∃ poll earlier first handled agents later, log = poll :: (earlier ++ first :: handled) ∧ poll.statement = .poll ∧
    signal ∈ poll.before.controlSignals ∧ first.statement = .processing signal ∧
    (handle_agent_tick agent runtime.registry agents).Follows handled (.done (.ok (),later))

structure SignalsDelivered (adminKey : String) (runtime : Runtime) (p : Watched) : Prop where
  marked : ∀ event next signal agent, WatchedStep adminKey runtime p event next → signal ∈ p.shared.controlSignals →
    signal.signalType = "force_tick" → signal.agentId = some agent → signal.processed = false →
    {signal with processed := true} ∈ next.shared.controlSignals → event = .act (.orchestrator 0) ∧
      ∃ x l, p.sessions (.orchestrator 0) = some (x,l) ∧ Served runtime signal agent l.2
  snapshot : ∀ id rest l, p.sessions (.orchestrator 0) = some (.call (.markProcessed id) rest,l) →
    ∃ poll more, l.2 = poll :: more ∧ poll.statement = .poll ∧ ∃ s ∈ poll.before.controlSignals, s.id = id ∧ s.processed = false
  once : ∀ signal ∈ p.shared.controlSignals, signal.processed = true → ∀ q begun later, WatchedRuns adminKey runtime p q →
    WatchedStep adminKey runtime q (.begin (.orchestrator 0)) begun → WatchedRuns adminKey runtime begun later →
    ∀ row rest l, later.sessions (.orchestrator 0) = some (.call (.processing row) rest,l) → row.id ≠ signal.id

-- A tick that has a signal in hand polled it, waiting.
theorem working_polled {p : Watched} (run : WatchedRuns adminKey runtime (Pool.idle db) p)
    (present : p.sessions (.orchestrator n) = some (.call s rest,l)) (working : s ≠ .poll) :
    ∃ c polled d d' more, l.2 = ⟨.poll,c,.ok polled,d,d'⟩ :: more ∧ Doing runtime polled more s ∧
      ∀ signal ∈ polled, signal ∈ d.controlSignals ∧ signal.processed = false ∧ SignalsKept d d' := by
  obtain ⟨-,agents,follows⟩ := orchestrator_follows run present
  rcases ticking_doing follows with ⟨-,same⟩ | ⟨c,polled,d,d',more,log,doing⟩
  · exact absurd same working
  · have genuine := Pool.runs_genuine run _ _ _ present _ (by rw [log]; exact List.mem_cons_self)
    exact ⟨c,polled,d,d',more,log,doing,fun signal member => polled_waits genuine member⟩

theorem flag_set {p : Watched} (valid : db.Valid) (run : WatchedRuns adminKey runtime (Pool.idle db) p)
    (step : WatchedStep adminKey runtime p event next) (present : signal ∈ p.shared.controlSignals)
    (waits : signal.processed = false) (marked : {signal with processed := true} ∈ next.shared.controlSignals) :
    ∃ t rest l, event = .act t ∧ p.sessions t = some (.call (.markProcessed signal.id) rest,l) := by
  have ids := (watched_valid valid run).signalIds
  have absent (there : {signal with processed := true} ∈ p.shared.controlSignals) : False := by
    have same := List.inj_on_of_nodup_map ids there present rfl
    rw [← same] at waits
    cases waits
  cases step with
  | begin => exact (absent marked).elim
  | answer => exact (absent marked).elim
  | kill => exact (absent marked).elim
  | @act l _ t s c rest working =>
    have same := effect_marks (exec_effect c p.shared l.1 s) ids present waits marked
    subst same
    exact ⟨t,rest,l,rfl,working⟩

theorem set_never_again {p q begun later : Watched} (valid : db.Valid) (run : WatchedRuns adminKey runtime (Pool.idle db) p)
    (present : signal ∈ p.shared.controlSignals) (processed : signal.processed = true) (reached : WatchedRuns adminKey runtime p q)
    (begins : WatchedStep adminKey runtime q (.begin (.orchestrator 0)) begun) (runs : WatchedRuns adminKey runtime begun later)
    (row : SignalRow) (rest : Except PgError Unit → Api Answer) (l : Session × List Record)
    (working : later.sessions (.orchestrator 0) = some (.call (.processing row) rest,l)) : row.id ≠ signal.id := by
  intro own
  have whole : WatchedRuns adminKey runtime (Pool.idle db) later := (Pool.Runs.step (run.trans reached) begins).trans runs
  obtain ⟨c,polled,d,d',more,log,doing,listed⟩ := working_polled whole working nofun
  have member : row ∈ polled := by
    cases doing with
    | logging member => exact member
    | handling _ handles => exact handles.elim
  obtain ⟨before,waits,-⟩ := listed row member
  have earlier := (Pool.runs_on_way SignalsKept.refl SignalsKept.trans exec_signals reached).moved
  -- the poll of a tick that begins later reads a later state
  have since : SignalsKept p.shared d := by
    cases begins with
    | begin =>
      have way := (Pool.runs_on_way SignalsKept.refl SignalsKept.trans exec_signals runs).entries _ _ _ working _
        (by rw [log]; exact List.mem_cons_self)
      cases way with
      | inl old =>
        obtain ⟨_,_,same,member⟩ := old
        simp only [Function.update_self] at same
        cases same
        cases member
      | inr way => exact SignalsKept.trans _ _ _ earlier way.1
  obtain ⟨now,there,same⟩ := since.rows signal present
  cases List.inj_on_of_nodup_map (since.ids (watched_valid valid run).signalIds) there before (same.id.trans own.symm)
  rw [same.processed processed] at waits
  cases waits

theorem signals_delivered {p : Watched} (valid : db.Valid) (run : WatchedRuns adminKey runtime (Pool.idle db) p) :
    SignalsDelivered adminKey runtime p := by
  have ids := (watched_valid valid run).signalIds
  refine ⟨?_,?_,?_⟩
  · intro event next signal agent step present forces isAgent waits marked
    obtain ⟨t,rest,l,rfl,working⟩ := flag_set valid run step present waits marked
    cases t with
    | request n =>
      obtain ⟨route,only,-⟩ := request_only run working
      exact only.1.elim
    | orchestrator n =>
      obtain ⟨rfl,-⟩ := orchestrator_follows run working
      refine ⟨rfl,_,l,working,?_⟩
      obtain ⟨c,polled,d,d',more,log,doing,listed⟩ := working_polled run working nofun
      cases doing with
      | handling _ handles => exact handles.elim
      | @marking row earlier first handled agents later _ member split' logged returned own =>
        obtain ⟨before,waited,kept⟩ := listed row member
        -- the polled row is the signal: between the two only the flag could change
        have way := (Pool.runs_on_way SignalsKept.refl SignalsKept.trans exec_signals run).entries _ _ _ working _
          (by rw [log]; exact List.mem_cons_self)
        have since : SignalsKept d' p.shared := by
          cases way with
          | inl old => obtain ⟨_,_,same,-⟩ := old; cases same
          | inr way => exact way.2
        obtain ⟨now,there,same⟩ := (SignalsKept.trans _ _ _ kept since).rows row before
        cases List.inj_on_of_nodup_map ids there present (same.id.trans own)
        have isRow : signal = row := by
          cases same with
          | inl same => exact same
          | inr same => rw [same] at waits; cases waits
        subst isRow
        refine ⟨_,earlier,first,handled,agents,later,by rw [log,split'],rfl,before,logged,?_⟩
        unfold handleSignal at returned
        rw [if_pos forces,isAgent] at returned
        exact returned
  · intro id rest l working
    obtain ⟨c,polled,d,d',more,log,doing,listed⟩ := working_polled run working nofun
    refine ⟨_,more,log,rfl,?_⟩
    cases doing with
    | handling _ handles => exact handles.elim
    | @marking row _ _ _ _ _ _ member _ _ _ own => exact ⟨row,(listed row member).1,own,(listed row member).2.1⟩
  · exact fun signal present processed q begun later => set_never_again valid run present processed

end

-- A specialist that asks the model.
def chatting : Specialist where
  run := fun taskId investigationId taskPrompt => query (.chat specialistModel []) >>= fun _ =>
    .done (.ok ⟨some taskId,some investigationId,"",taskPrompt,"","",none,""⟩)
  publishes := fun _ _ _ => ⟨trivial,fun _ => trivial⟩

def Runtime.chatting : Runtime := {Runtime.sample with registry := AGENT_REGISTRY fun _ => ⟨.ok Trokk.chatting⟩}
def forcedSignal : SignalRow := ⟨31,"force_tick",some 1,60,false⟩
def Database.forcedAsked : Database := {Database.asked with controlSignals := [forcedSignal]}

theorem Database.forcedAsked_valid : Database.forcedAsked.Valid := by
  constructor
  case parents => simp [Database.forcedAsked,Database.asked]
  case signalAgents => simp [Database.forcedAsked,Database.asked,forcedSignal]
  all_goals decide

-- One tick for one signal, up to its mark: the task is claimed, the model asked and the
-- task completed before.
def forcing : Watched :=
  ⟨.forcedAsked,Function.update (fun _ => none) (.orchestrator 0) (some (ticking .chatting [],(.fresh,[])))⟩
def beforeMark : Watched := forcing.acts (recorded exec) (List.replicate 12 (.orchestrator 0,.sample))
def afterMark : Watched := beforeMark.acts (recorded exec) [(.orchestrator 0,.sample)]

theorem signals_delivered_sample : beforeMark.shared.taskStatus 51 = some .complete ∧
    ∃ x l, beforeMark.sessions (.orchestrator 0) = some (x,l) ∧ Served .chatting forcedSignal 1 l.2 := by
  refine ⟨by decide +kernel,?_⟩
  have begun : WatchedRuns "rp_admin" .chatting (Pool.idle .forcedAsked) forcing := .step .start (.begin rfl .tick)
  have delivered := signals_delivered Database.forcedAsked_valid (Pool.acts_runs begun _ : WatchedRuns _ _ _ beforeMark)
  have step : WatchedStep "rp_admin" .chatting beforeMark (.act (.orchestrator 0)) afterMark := Pool.acts_step rfl
  exact (delivered.marked _ _ forcedSignal 1 step (by decide) rfl rfl rfl (by decide +kernel)).2

end Trokk
