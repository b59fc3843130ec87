import Trokk.SignalBatches

-- One tick over triggers of the consensus: each examines the active investigations
-- once and is marked, whatever came of the examination.
namespace Trokk
open Program

-- The statements of signals.py and scheduler.py succeed; those of the specialists, of
-- the API they post to and of the models may fail.
def Answered (e : Record) : Prop := ¬ e.statement.publishes → ∃ r, e.answer = .ok r

abbrev Outcome := Uuid × Except PyError Json

-- One investigation is examined; the reports that are asked for on the way.
inductive Check (runtime : Runtime) (inv : Uuid) : List Record → List Outcome → Prop where
  | busy {c : Choice} {pending : Nat} {d d' : Database} : pending ≠ 0 →
      Check runtime inv [⟨.countPendingTasks inv,c,.ok pending,d,d'⟩] []
  | silent {c₁ c₂ c₃ : Choice} {question : String} {d₁ d₁' d₂ d₂' d₃ d₃' : Database} :
      Check runtime inv [⟨.countPendingTasks inv,c₁,.ok (0 : Nat),d₁,d₁'⟩,⟨.investigationQuestion inv,c₂,.ok question,d₂,d₂'⟩,
        ⟨.investigationFindings inv,c₃,.ok ([] : List Finding),d₃,d₃'⟩] []
  | failed {c₁ c₂ c₃ : Choice} {question : String} {found : List Finding} {d₁ d₁' d₂ d₂' d₃ d₃' : Database} {raised : PyError} :
      found ≠ [] → (runtime.generateReport inv question found).Follows requested (.done (.error raised)) →
      Check runtime inv (⟨.countPendingTasks inv,c₁,.ok (0 : Nat),d₁,d₁'⟩ :: ⟨.investigationQuestion inv,c₂,.ok question,d₂,d₂'⟩ ::
        ⟨.investigationFindings inv,c₃,.ok found,d₃,d₃'⟩ :: requested) [(inv,.error raised)]
  | reported {c₁ c₂ c₃ c₄ c₅ : Choice} {question : String} {found : List Finding}
      {d₁ d₁' d₂ d₂' d₃ d₃' d₄ d₄' d₅ d₅' : Database} {report : Json} :
      found ≠ [] → (runtime.generateReport inv question found).Follows requested (.done (.ok report)) →
      Check runtime inv (⟨.countPendingTasks inv,c₁,.ok (0 : Nat),d₁,d₁'⟩ :: ⟨.investigationQuestion inv,c₂,.ok question,d₂,d₂'⟩ ::
        ⟨.investigationFindings inv,c₃,.ok found,d₃,d₃'⟩ :: requested ++
        [⟨.setInvestigationReport inv report,c₄,.ok (),d₄,d₄'⟩,⟨.setInvestigationStatus inv .complete,c₅,.ok (),d₅,d₅'⟩])
        [(inv,.ok report)]

inductive Checks (runtime : Runtime) : List Uuid → List Record → List Outcome → Prop where
  | done : Checks runtime [] [] []
  | next : Check runtime inv checked one → Checks runtime rest more others →
      Checks runtime (inv :: rest) (checked ++ more) (one ++ others)

-- A trigger that was handled: the state it met and the reports it asked for.
structure Trigger where
  before : Database
  outcomes : List Outcome

-- The batch, signal by signal, with the triggers among them that were handled.
inductive Course (runtime : Runtime) : Agents → List SignalRow → List Record → List Trigger → Prop where
  | done : Course runtime agents [] [] []
  | raised {first : Record} {signal : SignalRow} {rest : List SignalRow} {raised : PyError} : first.statement = .processing signal →
      signal.signalType ≠ "trigger_consensus" → (handleSignal runtime signal agents).Follows handled (.done (.error raised,later)) →
      Course runtime agents (signal :: rest) (first :: handled) []
  | other {first mark : Record} {signal : SignalRow} {rest : List SignalRow} : first.statement = .processing signal →
      signal.signalType ≠ "trigger_consensus" → (handleSignal runtime signal agents).Follows handled (.done (.ok (),later)) →
      mark.statement = .markProcessed signal.id → Course runtime later rest more triggers →
      Course runtime agents (signal :: rest) (first :: handled ++ mark :: more) triggers
  | trigger {first active mark : Record} {signal : SignalRow} {rest : List SignalRow} : first.statement = .processing signal →
      signal.signalType = "trigger_consensus" → active.statement = .activeInvestigations →
      Checks runtime ids checked outcomes →
      (handleSignal runtime signal agents).Follows (active :: checked) (.done (.ok (),later)) →
      mark.statement = .markProcessed signal.id → Course runtime later rest more triggers →
      Course runtime agents (signal :: rest) (first :: (active :: checked) ++ mark :: more) (⟨first.after,outcomes⟩ :: triggers)

def Reported (db : Database) (inv : Uuid) : Prop :=
  ∃ i ∈ db.investigations, i.id = inv ∧ i.status = .complete ∧ i.report ≠ none

-- The investigations of `P` are completed and the others are left alone.
def Reports (P : Uuid → Prop) (db db' : Database) : Prop := ∃ f : InvestigationRow → InvestigationRow,
  db'.investigations = db.investigations.map f ∧ ∀ i, (f i).id = i.id ∧
    (P i.id → (f i).status = .complete ∧ (f i).report ≠ none) ∧ (¬ P i.id → f i = i)

theorem reports_same (same : db'.investigations = db.investigations) : Reports (fun _ => False) db db' :=
  ⟨id,by rw [same,List.map_id],fun _ => ⟨rfl,False.elim,fun _ => rfl⟩⟩

theorem reports_trans {a b c : Database} (one : Reports P a b) (two : Reports Q b c) : Reports (fun inv => P inv ∨ Q inv) a c := by
  obtain ⟨f,first,keeps⟩ := one
  obtain ⟨g,second,keeps'⟩ := two
  refine ⟨g ∘ f,by rw [second,first,List.map_map],fun i => ?_⟩
  obtain ⟨own,completed,kept⟩ := keeps i
  obtain ⟨own',completed',kept'⟩ := keeps' (f i)
  rw [own] at own' completed' kept'
  refine ⟨own',fun either => ?_,fun neither => ?_⟩
  · by_cases later : Q i.id
    · exact completed' later
    · rw [Function.comp_apply,kept' later]
      exact completed (either.resolve_right later)
  · rw [Function.comp_apply,kept' fun q => neither (.inr q),kept fun p => neither (.inl p)]

theorem reports_ids (reports : Reports P db db') :
    db'.investigations.map InvestigationRow.id = db.investigations.map InvestigationRow.id := by
  obtain ⟨f,same,keeps⟩ := reports
  rw [same,map_kept fun i => (keeps i).1]

theorem reports_kept (reports : Reports P db db') (reported : Reported db inv) : Reported db' inv := by
  obtain ⟨f,same,keeps⟩ := reports
  obtain ⟨i,present,rfl,complete⟩ := reported
  obtain ⟨own,completed,kept⟩ := keeps i
  refine ⟨f i,same ▸ List.mem_map_of_mem present,own,?_⟩
  by_cases now : P i.id
  · exact completed now
  · rwa [kept now]

theorem reported_iff (ids : (db.investigations.map InvestigationRow.id).Nodup) (reports : Reports P db db')
    (present : i ∈ db.investigations) (undone : i.status = .consensus) : Reported db' i.id ↔ P i.id := by
  obtain ⟨f,same,keeps⟩ := reports
  constructor
  · rintro ⟨i',present',own,complete,-⟩
    rw [same] at present'
    obtain ⟨j,there,rfl⟩ := List.mem_map.mp present'
    have one : j = i := List.inj_on_of_nodup_map ids there present ((keeps j).1.symm.trans own)
    subst one
    by_contra never
    rw [(keeps j).2.2 never,undone] at complete
    cases complete
  · exact fun p => ⟨f i,same ▸ List.mem_map_of_mem present,(keeps i).1,(keeps i).2.1 p⟩

theorem reports_stay (ids : (db.investigations.map InvestigationRow.id).Nodup) (reports : Reports P db db')
    (present : i ∈ db.investigations) (undone : i.status = .consensus) : Reported db' i.id ∨ i ∈ db'.investigations := by
  by_cases now : P i.id
  · exact .inl ((reported_iff ids reports present undone).mpr now)
  · obtain ⟨f,same,keeps⟩ := reports
    refine .inr (same ▸ List.mem_map.mpr ⟨i,present,(keeps i).2.2 now⟩)

theorem reports_published (report : Json) : Reports (· = inv) db ((db.editInvestigation inv fun i =>
    {i with report := some report}).editInvestigation inv fun i => {i with status := .complete}) := by
  refine ⟨_,List.map_map,fun i => ?_⟩
  by_cases own : i.id = inv <;> simp [own]

-- What an examination of some investigations does, and tells.
structure Examined (ids : List Uuid) (outcomes : List Outcome) (db db' : Database) : Prop where
  rest : db' = {db with investigations := db'.investigations}
  reports : Reports (fun inv => ∃ report, (inv,.ok report) ∈ outcomes) db db'
  asked : ∀ inv, (∃ o, (inv,o) ∈ outcomes) ↔ inv ∈ ids ∧ openTasks db inv = [] ∧ findings db inv ≠ []
  keys : (outcomes.map Prod.fst).Sublist ids

section
variable {runtime : Runtime} {agents : Agents} {log : List Record} {l : Session}

theorem answered_own (own : ¬ s.publishes) (e : Record) (answered : Answered e) (same : e.statement = s) :
    ∃ r, e.answer = .ok r := answered (same ▸ own)

theorem examined_none (inv : Uuid) (quiet : openTasks db inv ≠ [] ∨ findings db inv = []) : Examined [inv] [] db db where
  rest := rfl
  reports := by simpa using reports_same rfl
  asked := fun other => by
    refine iff_of_false (by simp) fun asked => ?_
    rw [List.mem_singleton.mp asked.1] at asked
    exact quiet.elim (fun busy => busy asked.2.1) fun silent => asked.2.2 silent
  keys := List.nil_sublist _

theorem examined_one {o : Except PyError Json} (closed : openTasks db inv = []) (found : findings db inv ≠ [])
    (rest : db' = {db with investigations := db'.investigations})
    (reports : Reports (fun other => ∃ report, (other,Except.ok report) ∈ [(inv,o)]) db db') : Examined [inv] [(inv,o)] db db' where
  rest := rest
  reports := reports
  asked := fun other => by
    simp only [List.mem_singleton,Prod.mk.injEq,exists_and_left,exists_eq,and_true]
    constructor
    · rintro rfl
      exact ⟨rfl,closed,found⟩
    · exact And.left
  keys := List.Sublist.refl _

theorem examined_then (one : Examined [inv] first a b) (others : Examined rest more b c) :
    Examined (inv :: rest) (first ++ more) a c where
  rest := by
    rw [others.rest,one.rest]
  reports := by
    simpa only [List.mem_append,exists_or] using reports_trans one.reports others.reports
  asked := fun other => by
    have later := others.asked other
    rw [one.rest] at later
    simp only [List.mem_append,exists_or,List.mem_cons]
    rw [one.asked other,later,List.mem_singleton]
    exact or_and_right.symm
  keys := by
    rw [List.map_append]
    exact one.keys.append others.keys

-- A report is asked of the models alone.
theorem generateReport_asks (runtime : Runtime) (inv : Uuid) (question : String) (found : List Finding) :
    (Method.lift (runtime.generateReport inv question found) : Py Json).Within exec Answered (fun result agents' db' _ log' =>
      agents' = agents ∧ db' = db ∧ ∃ requested, log' = log ++ requested ∧
        (runtime.generateReport inv question found).Follows requested (.done result)) agents db l log := by
  apply Method.Within.lift
  have untouched : (runtime.generateReport inv question found).Ensures (recorded exec) (fun _ => True)
      (fun _ db' _ => db' = db) db (l,log) := by
    refine (runtime.chats inv question found).ensures (fun db' _ => db' = db) (fun s c d l chats same => ?_) rfl
    have effect := exec_effect c d l.1 s
    change (exec s c d l.1).2.1 = db
    generalize (exec s c d l.1).2.1 = d' at effect
    cases effect with
    | none => exact same
    | _ => exact chats.elim
  refine (untouched.both (Ensures.followed _)).imp fun result db' l' told _ => ?_
  obtain ⟨same,requested,whole,follows,-⟩ := told
  exact ⟨rfl,same,requested,whole,follows⟩

theorem told_after {a b c : Record} {told : List Record} : log ++ [a] ++ [b] ++ [c] ++ told = log ++ (a :: b :: c :: told) := by simp

theorem told_last {a b : Record} {told : List Record} : log ++ told ++ [a] ++ [b] = log ++ (told ++ [a,b]) := by simp

-- The body of the try.
inductive Publishes (runtime : Runtime) (inv : Uuid) (question : String) (found : List Finding) (db : Database) :
    Except PyError Unit → List Record → Database → Prop where
  | raised : (runtime.generateReport inv question found).Follows requested (.done (.error exc)) →
      Publishes runtime inv question found db (.error exc) requested db
  | published {c c' : Choice} {d d' d'' : Database} : (runtime.generateReport inv question found).Follows requested (.done (.ok report)) →
      Publishes runtime inv question found db (.ok ()) (requested ++ [⟨.setInvestigationReport inv report,c,.ok (),d,d'⟩,
        ⟨.setInvestigationStatus inv .complete,c',.ok (),d',d''⟩]) ((db.editInvestigation inv fun i =>
          {i with report := some report}).editInvestigation inv fun i => {i with status := .complete})

theorem publishReport_told (runtime : Runtime) (inv : Uuid) (question : String) (found : List Finding) :
    (publishReport runtime inv question found).Within exec Answered (fun result agents' db' _ log' => agents' = agents ∧
      ∃ told, log' = log ++ told ∧ Publishes runtime inv question found db result told db') agents db l log := by
  apply Method.Within.bind (generateReport_asks runtime inv question found)
  · intro report agents' db' l' log' asked
    obtain ⟨rfl,rfl,requested,rfl,follows⟩ := asked
    refine fetch_then (answered_own nofun) fun c _ d m done => ?_
    apply (fetch_answers (.setInvestigationStatus inv .complete) (answered_own nofun)).imp
    intro result agents' d' m' log' told
    obtain ⟨c',_,rfl,rfl,done',rfl⟩ := told
    simp only [perform] at done
    split at done <;> cases done
    cases done'
    exact ⟨rfl,_,told_last,.published follows⟩
  · intro raised agents' db' l' log' asked
    obtain ⟨rfl,rfl,requested,rfl,follows⟩ := asked
    exact ⟨rfl,requested,rfl,.raised follows⟩

theorem consensusOf_checks (runtime : Runtime) (inv : Uuid) : (consensusOf runtime inv).Within exec Answered
    (fun result agents' db' _ log' => result = .ok () ∧ agents' = agents ∧ ∃ checked outcomes, log' = log ++ checked ∧
      Check runtime inv checked outcomes ∧ Examined [inv] outcomes db db') agents db l log := by
  refine fetch_then (answered_own nofun) fun c₁ pending d₁ l₁ counted => ?_
  cases counted
  split
  · rename_i none'
    have closed : openTasks db inv = [] := List.length_eq_zero_iff.mp none'
    refine fetch_then (answered_own nofun) fun c₂ question d₂ l₂ read => ?_
    cases read
    refine fetch_then (answered_own nofun) fun c₃ found d₃ l₃ listed => ?_
    cases listed
    rw [none']
    split
    · rename_i silent
      rw [silent]
      exact fun _ => ⟨rfl,rfl,_,[],(List.append_nil _).symm.trans told_after,.silent,examined_none inv (.inr silent)⟩
    · rename_i some'
      apply Method.Within.attempt (publishReport_told runtime inv _ _)
      · intro _ agents' db' l' log' told
        obtain ⟨rfl,told,rfl,publishes⟩ := told
        cases publishes with
        | published follows =>
          refine ⟨rfl,rfl,_,_,told_after,.reported some' follows,examined_one closed some' rfl ?_⟩
          simpa using reports_published _
      · intro raised agents' db' l' log' told
        obtain ⟨rfl,told,rfl,publishes⟩ := told
        cases publishes with
        | raised follows =>
          refine fun _ => ⟨rfl,rfl,_,_,told_after,.failed some' follows,examined_one closed some' rfl ?_⟩
          simpa using reports_same rfl
  · rename_i some'
    have busy : openTasks db inv ≠ [] := fun none' => some' (List.length_eq_zero_iff.mpr none')
    exact fun _ => ⟨rfl,rfl,_,[],rfl,.busy some',examined_none inv (.inl busy)⟩

theorem consensusEach_checks (runtime : Runtime) (ids : List Uuid) : (consensusEach runtime ids).Within exec Answered
    (fun result agents' db' _ log' => result = .ok () ∧ agents' = agents ∧ ∃ checked outcomes, log' = log ++ checked ∧
      Checks runtime ids checked outcomes ∧ Examined ids outcomes db db') agents db l log := by
  induction ids generalizing agents db l log with
  | nil => exact fun _ => ⟨rfl,rfl,[],[],(List.append_nil _).symm,.done,⟨rfl,by simpa using reports_same rfl,by simp,List.nil_sublist _⟩⟩
  | cons inv rest ih =>
    apply Method.Within.bind (consensusOf_checks runtime inv)
    · intro _ agents' db' l' log' told
      obtain ⟨-,rfl,checked,one,rfl,check,examined⟩ := told
      apply ih.imp
      intro result agents' db'' l'' log'' told
      obtain ⟨rfl,rfl,more,others,rfl,checks,examined'⟩ := told
      exact ⟨rfl,rfl,_,_,List.append_assoc _ _ _,.next check checks,examined_then examined examined'⟩
    · intro e agents' db' l' log' told
      cases told.1

-- The trigger meets the investigation with all its tasks done, some findings, and no
-- failure of the report that is asked for.
def Trigger.Concludes (t : Trigger) (inv : Uuid) : Prop :=
  openTasks t.before inv = [] ∧ findings t.before inv ≠ [] ∧ ∀ raised, (inv,.error raised) ∉ t.outcomes

def LastConcludes (triggers : List Trigger) : Prop :=
  ∀ t ∈ triggers.getLast?, ∀ i ∈ t.before.investigations, i.status = .consensus → t.Concludes i.id

-- What the trigger leaves behind.
structure Heard (t : Trigger) (after : Database) : Prop where
  reports : Reports (fun inv => ∃ report, (inv,.ok report) ∈ t.outcomes) t.before after
  told : ∀ i ∈ t.before.investigations, i.status = .consensus →
    ((∃ report, (i.id,.ok report) ∈ t.outcomes) ↔ t.Concludes i.id)

theorem examined_heard {t : Trigger} (examined : Examined ids t.outcomes t.before after) (distinct : ids.Nodup)
    (listed : ∀ i ∈ t.before.investigations, i.status = .consensus → i.id ∈ ids) : Heard t after where
  reports := examined.reports
  told := fun i present undone => by
    constructor
    · rintro ⟨report,member⟩
      obtain ⟨-,closed,found⟩ := (examined.asked i.id).mp ⟨_,member⟩
      refine ⟨closed,found,fun raised failed => ?_⟩
      cases List.inj_on_of_nodup_map (distinct.sublist examined.keys) member failed rfl
    · intro concludes
      obtain ⟨o,member⟩ := (examined.asked i.id).mpr ⟨listed i present undone,concludes.1,concludes.2.1⟩
      cases o with
      | ok report => exact ⟨report,member⟩
      | error raised => exact absurd member (concludes.2.2 raised)

-- The triggers of a batch, one after the other.
inductive Progress : Database → List Trigger → Database → Prop where
  | quiet {db db' : Database} : db'.investigations = db.investigations → Progress db [] db'
  | next {t : Trigger} {db after : Database} {triggers : List Trigger} {db' : Database} : t.before.investigations = db.investigations → Heard t after → Progress after triggers db' →
      Progress db (t :: triggers) db'

theorem progress_moved (progress : Progress db triggers after) (same : db'.investigations = db.investigations) :
    Progress db' triggers after := by
  cases progress with
  | quiet rest => exact .quiet (rest.trans same.symm)
  | next before heard rest => exact .next (before.trans same.symm) heard rest

theorem progress_reports (progress : Progress db triggers db') : ∃ P, Reports P db db' := by
  induction progress with
  | quiet same => exact ⟨_,reports_same same⟩
  | next before heard _ ih =>
    obtain ⟨P,later⟩ := ih
    exact ⟨_,reports_trans (reports_trans (reports_same before) heard.reports) later⟩

def Trigger.Effective (t : Trigger) (db' : Database) : Prop :=
  ∀ i ∈ t.before.investigations, i.status = .consensus → Reported db' i.id

-- An investigation stays in consensus until a trigger concludes it, so that the last
-- one tells of all.
theorem progress_effective (ids : (db.investigations.map InvestigationRow.id).Nodup) (progress : Progress db triggers db') :
    (∀ t ∈ triggers, t.Effective db') ↔ LastConcludes triggers := by
  unfold LastConcludes
  induction progress with
  | quiet => simp
  | @next t db after more db' before heard rest ih =>
    have here : (t.before.investigations.map InvestigationRow.id).Nodup := before ▸ ids
    have there : (after.investigations.map InvestigationRow.id).Nodup := by rwa [reports_ids heard.reports]
    have others := ih there
    cases rest with
    | quiet same =>
      have last (i : InvestigationRow) (present : i ∈ t.before.investigations) (undone : i.status = .consensus) :
          Reported db' i.id ↔ t.Concludes i.id := by
        rw [← heard.told i present undone,← reported_iff here heard.reports present undone]
        unfold Reported
        rw [same]
      simp only [List.mem_singleton,forall_eq,List.getLast?_singleton,Option.mem_def,Option.some.injEq,forall_eq']
      exact forall_congr' fun i => forall_congr' fun present => forall_congr' fun undone => last i present undone
    | next before' heard' rest' =>
      rw [List.getLast?_cons_cons,← others,List.forall_mem_cons]
      refine and_iff_right_of_imp fun later i present undone => ?_
      obtain ⟨P,reports⟩ := progress_reports (.next before' heard' rest')
      cases reports_stay here heard.reports present undone with
      | inl reported => exact reports_kept reports reported
      | inr still => exact later _ List.mem_cons_self i (before' ▸ still) undone

-- No other signal touches an investigation.
theorem quiet_handled (runtime : Runtime) (other : signal.signalType ≠ "trigger_consensus") :
    (handleSignal runtime signal).Within exec Answered (fun _ _ db' _ _ => db'.investigations = db.investigations) agents db l log := by
  have only : (handleSignal runtime signal).Only fun s => s.handles signal.signalType := handleSignal_only (fun _ handles => handles) runtime
  refine ((only agents).ensures (fun (db' : Database) _ => db'.investigations = db.investigations) ?_ rfl).imp fun _ _ _ same _ => same
  intro s c d l handles same
  have effect := exec_effect c d l.1 s
  change (exec s c d l.1).2.1.investigations = _
  generalize (exec s c d l.1).2.1 = d' at effect
  cases effect with
  | setInvestigationStatus => exact absurd handles.1 other
  | setInvestigationReport => exact absurd handles other
  | updateInvestigationStatus => exact handles.elim
  | commit => exact handles.elim
  | toggle => exact handles.elim
  | _ => exact same

theorem trigger_handled (runtime : Runtime) (isTrigger : signal.signalType = "trigger_consensus")
    (distinct : (db.investigations.map InvestigationRow.id).Nodup) : (handleSignal runtime signal).Within exec Answered
      (fun result agents' db' _ log' => result = .ok () ∧ agents' = agents ∧ ∃ active ids checked outcomes,
        log' = log ++ active :: checked ∧ active.statement = .activeInvestigations ∧ Checks runtime ids checked outcomes ∧
        Heard ⟨db,outcomes⟩ db') agents db l log := by
  have check : handleSignal runtime signal = handle_consensus_check runtime := by simp [handleSignal,isTrigger]
  rw [check]
  refine fetch_then (answered_own not_false) fun c ids d l' listed => ?_
  cases listed
  apply (consensusEach_checks runtime _).imp
  intro result agents' db' l' log' told
  obtain ⟨rfl,rfl,checked,outcomes,rfl,checks,examined⟩ := told
  refine ⟨rfl,rfl,_,_,checked,outcomes,by rw [List.append_assoc,List.singleton_append],rfl,checks,examined_heard examined ?_ ?_⟩
  · have sorted := List.perm_insertionSort (fun a b : InvestigationRow => a.createdAt ≤ b.createdAt)
      (db.investigations.filter fun i => i.status = .inProgress || i.status = .consensus)
    rw [oldestFirst,(sorted.map InvestigationRow.id).nodup_iff]
    exact distinct.sublist (List.filter_sublist.map _)
  · intro i present undone
    refine List.mem_map_of_mem ?_
    rw [oldestFirst,List.mem_insertionSort,List.mem_filter]
    exact ⟨present,by simp [undone]⟩

theorem processEach_course (runtime : Runtime) (polled : List SignalRow) (ids : (db.investigations.map InvestigationRow.id).Nodup) :
    (processEach runtime polled).Within exec Answered (fun _ _ db' _ log' => ∃ more triggers, log' = log ++ more ∧
      Course runtime agents polled more triggers ∧ Progress db triggers db') agents db l log := by
  induction polled generalizing agents db l log with
  | nil => exact fun _ => ⟨[],[],(List.append_nil _).symm,.done,.quiet rfl⟩
  | cons signal rest ih =>
    refine fetch_then (answered_own not_false) fun c _ d m logged => ?_
    cases logged
    have joined {first mark : Record} {handled more : List Record} :
        log ++ [first] ++ handled ++ mark :: more = log ++ (first :: handled ++ mark :: more) := by simp
    -- The signal's mark, then the signals behind it.
    have marking {agents' : Agents} {db' : Database} {l' : Session} {log' : List Record}
        (distinct : (db'.investigations.map InvestigationRow.id).Nodup) :
        (fetch (.markProcessed signal.id) >>= fun _ => processEach runtime rest).Within exec Answered
          (fun _ _ db'' _ log'' => ∃ mark more triggers, log'' = log' ++ mark :: more ∧ mark.statement = .markProcessed signal.id ∧
            Course runtime agents' rest more triggers ∧ Progress db' triggers db'') agents' db' l' log' := by
      refine fetch_then (answered_own not_false) fun c' _ d' m' marked => ?_
      cases marked
      have there : ((db'.editSignal signal.id fun s => {s with processed := true}).investigations.map InvestigationRow.id).Nodup :=
        distinct
      apply (ih there).imp
      intro result agents'' db'' l'' log'' told
      obtain ⟨more,triggers,rfl,course,progress⟩ := told
      exact ⟨_,more,triggers,by rw [List.append_assoc,List.singleton_append],rfl,course,progress_moved progress rfl⟩
    by_cases isTrigger : signal.signalType = "trigger_consensus"
    · apply Method.Within.bind (trigger_handled runtime isTrigger ids).followed
      · intro _ agents' db' l' log' told
        obtain ⟨⟨-,rfl,active,_,checked,outcomes,rfl,statement,checks,heard⟩,added,whole,follows⟩ := told
        have same : added = active :: checked := (List.append_cancel_left whole).symm
        subst same
        have there : (db'.investigations.map InvestigationRow.id).Nodup := by rwa [reports_ids heard.reports]
        apply (marking there).imp
        intro result agents'' db'' l'' log'' told
        obtain ⟨mark,more,triggers,rfl,marks,course,progress⟩ := told
        exact ⟨_,_,joined,.trigger rfl isTrigger statement checks follows marks course,.next rfl heard progress⟩
      · intro e agents' db' l' log' told
        cases told.1.1
    · apply Method.Within.bind (quiet_handled runtime isTrigger).followed
      · intro _ agents' db' l' log' told
        obtain ⟨same,handled,rfl,follows⟩ := told
        have there : (db'.investigations.map InvestigationRow.id).Nodup := by rwa [same]
        apply (marking there).imp
        intro result agents'' db'' l'' log'' told
        obtain ⟨mark,more,triggers,rfl,marks,course,progress⟩ := told
        exact ⟨_,_,joined,.other rfl isTrigger follows marks course,progress_moved progress same.symm⟩
      · intro e agents' db' l' log' told
        obtain ⟨same,handled,rfl,follows⟩ := told
        exact ⟨_,[],by rw [List.append_assoc,List.singleton_append],.raised rfl isTrigger follows,.quiet same⟩

theorem course_batch (course : Course runtime agents polled log triggers) : ∃ outcomes, Batch runtime agents polled log outcomes ∧
    ∀ signal raised, (signal,.error raised) ∈ outcomes → signal.signalType ≠ "trigger_consensus" := by
  induction course with
  | done => exact ⟨_,.done,by simp⟩
  | raised logged other follows =>
    refine ⟨_,.raised logged follows,fun s e member => ?_⟩
    cases List.mem_singleton.mp member
    exact other
  | other logged _ follows marked _ ih =>
    obtain ⟨outcomes,batch,raises⟩ := ih
    exact ⟨_,.returned logged follows marked batch,fun s e member => raises s e (by simpa using member)⟩
  | trigger logged _ _ _ follows marked _ ih =>
    obtain ⟨outcomes,batch,raises⟩ := ih
    exact ⟨_,.returned logged follows marked batch,fun s e member => raises s e (by simpa using member)⟩

-- The entry takes up no trigger, or one that `Q` holds of.
def TakesUp (Q : Database → Prop) (e : Record) : Prop :=
  ∀ signal, e.statement = .processing signal → signal.signalType = "trigger_consensus" → Q e.after

theorem idle_takes {Q : Database → Prop} {e : Record} (idle : e.statement.idle) : TakesUp Q e := by
  intro signal same
  rw [same] at idle
  exact idle.elim

theorem handled_takes {Q : Database → Prop} {first mark : Record} {handled more : List Record} (quiet : ∀ e ∈ handled, e.statement.idle)
    (marked : mark.statement = .markProcessed target) :
    (∀ e ∈ first :: handled ++ mark :: more, TakesUp Q e) ↔ TakesUp Q first ∧ ∀ e ∈ more, TakesUp Q e := by
  have unmarked : TakesUp Q mark := by
    intro signal same
    cases marked.symm.trans same
  rw [List.cons_append,List.forall_mem_cons,List.forall_mem_append,List.forall_mem_cons,and_iff_right unmarked,
    and_iff_right fun e member => idle_takes (quiet e member)]

-- The triggers of the batch are those whose handling was logged.
theorem course_triggers {Q : Database → Prop} (course : Course runtime agents polled log triggers) :
    (∀ t ∈ triggers, Q t.before) ↔ ∀ e ∈ log, TakesUp Q e := by
  have passed {first : Record} {signal : SignalRow} (logged : first.statement = .processing signal)
      (other : signal.signalType ≠ "trigger_consensus") : TakesUp Q first := by
    intro s same isTrigger
    cases logged.symm.trans same
    exact absurd isTrigger other
  induction course with
  | done => simp
  | raised logged other follows =>
    refine iff_of_true (by simp) (List.forall_mem_cons.mpr ⟨passed logged other,fun e member => ?_⟩)
    exact idle_takes (handled_statements follows e member)
  | other logged other follows marked _ ih =>
    rw [handled_takes (handled_statements follows) marked,and_iff_right (passed logged other)]
    exact ih
  | trigger logged isTrigger _ _ follows marked _ ih =>
    rw [handled_takes (handled_statements follows) marked,List.forall_mem_cons]
    exact and_congr ⟨fun holds s _ _ => holds,fun holds => holds _ logged isTrigger⟩ ih

def Retried (db : Database) : Prop := ∃ row ∈ db.controlSignals, row.signalType = "trigger_consensus" ∧ row.processed = false

-- A trigger of the batch was not taken up: the handler of an earlier signal raised.
def Untaken (polled : List SignalRow) (log : List Record) : Prop :=
  ∃ signal ∈ polled, signal.signalType = "trigger_consensus" ∧ signal ∉ attempts log

-- Every trigger that is marked leaves no investigation behind in consensus, or
-- another trigger is still to come.
def TriggersKept (log : List Record) (db' : Database) : Prop := ∀ e ∈ log, ∀ signal, e.statement = .processing signal →
  signal.signalType = "trigger_consensus" → marks log signal.id = true →
  ∀ i ∈ e.after.investigations, i.status = .consensus → Reported db' i.id ∨ Retried db'

-- A trigger that was taken up was marked.
theorem course_marks (course : Course runtime agents polled log triggers) (isTrigger : signal.signalType = "trigger_consensus")
    (taken : signal ∈ attempts log) : marks log signal.id = true := by
  obtain ⟨outcomes,batch,raises⟩ := course_batch course
  rw [batch_attempts batch] at taken
  obtain ⟨⟨s,o⟩,member,rfl⟩ := List.mem_map.mp taken
  cases o with
  | error raised => exact absurd isTrigger (raises s raised member)
  | ok u => exact (batch_marks batch s.id).mpr ⟨s,member,rfl⟩

theorem course_marked {target : Uuid} (course : Course runtime agents polled log triggers) (marked : marks log target = true) :
    ∃ signal ∈ attempts log, signal.id = target := by
  obtain ⟨outcomes,batch,-⟩ := course_batch course
  obtain ⟨s,member,same⟩ := (batch_marks batch target).mp marked
  exact ⟨s,by rw [batch_attempts batch]; exact List.mem_map_of_mem member,same⟩

theorem course_attempts (course : Course runtime agents polled log triggers) : ∀ signal ∈ attempts log, signal ∈ polled := by
  obtain ⟨outcomes,batch,-⟩ := course_batch course
  rw [batch_attempts batch]
  exact fun _ member => (batch_front batch).subset member

theorem retried_iff {db db' : Database} (distinct : (db.controlSignals.map SignalRow.id).Nodup)
    (course : Course runtime agents polled log triggers)
    (listed : ∀ row, row ∈ polled ↔ row ∈ db.controlSignals ∧ row.processed = false)
    (flags : db'.controlSignals = db.controlSignals.map (flagged log)) :
    Retried db' ↔ Untaken polled log := by
  unfold Retried Untaken
  rw [flags]
  constructor
  · rintro ⟨row,present,isTrigger,unprocessed⟩
    obtain ⟨old,there,rfl⟩ := List.mem_map.mp present
    cases marked : marks log old.id with
    | true => simp [flagged,marked] at unprocessed
    | false =>
      simp only [flagged,marked,Bool.false_eq_true,if_false] at isTrigger unprocessed
      refine ⟨old,(listed old).mpr ⟨there,unprocessed⟩,isTrigger,fun taken => ?_⟩
      cases marked.symm.trans (course_marks course isTrigger taken)
  · rintro ⟨signal,member,isTrigger,untaken⟩
    obtain ⟨present,unprocessed⟩ := (listed signal).mp member
    have unmarked : marks log signal.id = false := by
      rw [← Bool.not_eq_true]
      intro marked
      obtain ⟨other,taken,same⟩ := course_marked course marked
      have there := ((listed other).mp (course_attempts course other taken)).1
      exact untaken (List.inj_on_of_nodup_map distinct there present same ▸ taken)
    exact ⟨signal,List.mem_map.mpr ⟨signal,present,by simp [flagged,unmarked]⟩,isTrigger,unprocessed⟩

theorem triggersKept_iff {poll : Record} {db' : Database} (course : Course runtime agents polled log triggers)
    (polls : poll.statement = .poll) :
    TriggersKept (poll :: log) db' ↔ Retried db' ∨ ∀ t ∈ triggers, t.Effective db' := by
  have same (target : Uuid) : marks (poll :: log) target = marks log target := by
    unfold marks
    rw [List.any_cons,polls]
    exact Bool.false_or _
  by_cases retried : Retried db'
  · exact iff_of_true (fun _ _ _ _ _ _ _ _ _ => .inr retried) (.inl retried)
  · rw [or_iff_right retried]
    unfold Trigger.Effective
    rw [course_triggers (Q := fun db => ∀ i ∈ db.investigations, i.status = .consensus → Reported db' i.id) course]
    constructor
    · intro kept e member signal taken isTrigger i present undone
      have attempted : signal ∈ attempts log := List.mem_filterMap.mpr ⟨e,member,by rw [taken]⟩
      have marked := (same _).trans (course_marks course isTrigger attempted)
      exact (kept e (List.mem_cons_of_mem _ member) signal taken isTrigger marked i present undone).resolve_right retried
    · intro takes e member signal taken isTrigger _ i present undone
      cases List.mem_cons.mp member with
      | inl first =>
        subst first
        cases polls.symm.trans taken
      | inr later => exact .inl (takes e later signal taken isTrigger i present undone)

theorem tick_course (runtime : Runtime) (ids : (db.investigations.map InvestigationRow.id).Nodup) :
    (tick runtime).Within exec Answered (fun _ _ db' _ log' => ∃ c polled more triggers,
      log' = ⟨.poll,c,.ok polled,db,db⟩ :: more ∧ (∀ row, row ∈ polled ↔ row ∈ db.controlSignals ∧ row.processed = false) ∧
      Course runtime agents polled more triggers ∧ Progress db triggers db') agents db l [] := by
  refine fetch_then (answered_own nofun) fun c polled d l' listed => ?_
  cases listed
  apply (processEach_course runtime _ ids).imp
  intro result agents' db' l'' log' told
  obtain ⟨more,triggers,rfl,course,progress⟩ := told
  refine ⟨c,_,more,triggers,rfl,fun row => ?_,course,progress⟩
  rw [oldestFirst,List.mem_insertionSort,List.mem_filter,Bool.not_eq_true']

end

-- A trigger comes while a task of its investigation is still pending.
def Database.triggered : Database :=
  {Database.asked with
    investigations := [⟨21,"why",.consensus,none,30,none⟩]
    controlSignals := [⟨31,"trigger_consensus",none,60,false⟩]}

theorem Database.triggered_valid : Database.triggered.Valid := by
  constructor <;> simp [Database.triggered,Database.asked]

theorem pending_trigger_lost : ¬ ∀ runtime db, db.Valid → ((tick runtime) []).Ensures (recorded exec) Healthy (fun _ db' l =>
    (∀ e ∈ l.2, Answered e) → TriggersKept l.2 db') db (.fresh,[]) := by
  intro always
  have healthy : ∀ c ∈ List.replicate 5 Choice.sample, Healthy c := by simp [Healthy,Choice.sample]
  have answered {s : Statement} (r : s.Result) {c : Choice} {d d' : Database} : Answered ⟨s,c,.ok r,d,d'⟩ := fun _ => ⟨r,rfl⟩
  have kept := (always .sample _ Database.triggered_valid).played healthy rfl
    (List.forall_mem_cons.mpr ⟨answered _,List.forall_mem_cons.mpr ⟨answered _,List.forall_mem_cons.mpr ⟨answered _,
      List.forall_mem_cons.mpr ⟨answered _,List.forall_mem_singleton.mpr (answered _)⟩⟩⟩⟩)
  rcases kept _ (List.mem_cons_of_mem _ List.mem_cons_self) _ rfl rfl rfl _ List.mem_cons_self rfl with
    ⟨i,member,-,complete,-⟩ | ⟨row,member,-,waiting⟩
  · cases List.mem_singleton.mp member
    cases complete
  · cases List.mem_singleton.mp member
    cases waiting

-- Where triggers were taken up, the last of them must find every investigation in
-- consensus with its tasks done, some findings and a report, unless the exception of
-- another handler left a trigger of the batch unprocessed.
theorem triggers_kept (runtime : Runtime) (agents : Agents) (db : Database) (valid : db.Valid) :
    ((tick runtime) agents).Ensures (recorded exec) (fun _ => True) (fun _ db' l => (∀ e ∈ l.2, Answered e) →
      ∃ c polled more triggers, l.2 = ⟨.poll,c,.ok polled,db,db⟩ :: more ∧ Course runtime agents polled more triggers ∧
        (TriggersKept l.2 db' ↔ Untaken polled more ∨ LastConcludes triggers)) db (.fresh,[]) := by
  refine (Ensures.both (tick_course runtime valid.investigationIds) (tick_flags runtime agents db)).imp fun _ db' l told answered => ?_
  obtain ⟨c,polled,more,triggers,log,listed,course,progress⟩ := told.1 answered
  refine ⟨c,polled,more,triggers,log,course,?_⟩
  have marked : MarksSucceed l.2 := by
    intro e member target same
    exact answered e member (by rw [same]; exact nofun)
  have flags : db'.controlSignals = db.controlSignals.map (flagged more) := by
    rw [told.2 marked,log]
    refine List.map_congr_left fun row _ => ?_
    rw [flagged,flagged,marks,List.any_cons]
    exact congrArg (fun b => if b = true then _ else _) (Bool.false_or _)
  rw [log,triggersKept_iff course rfl,← retried_iff valid.signalIds course listed flags,
    ← progress_effective valid.investigationIds progress]

theorem triggers_kept_sample : ((tick .sample) []).Ensures (recorded exec) (fun _ => True) (fun _ db' l => (∀ e ∈ l.2, Answered e) →
    ∃ c polled more triggers, l.2 = ⟨.poll,c,.ok polled,.triggered,.triggered⟩ :: more ∧
      Course .sample [] polled more triggers ∧ (TriggersKept l.2 db' ↔ Untaken polled more ∨ LastConcludes triggers))
    .triggered (.fresh,[]) := triggers_kept .sample [] .triggered Database.triggered_valid

end Trokk
