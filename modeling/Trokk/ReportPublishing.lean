import Trokk.ConsensusAgent
import Trokk.ConsensusRace
import Trokk.ConsensusTriggers
import Trokk.TaskFindings

-- run_consensus run alone, whatever its statements meet: its two last UPDATEs, and the
-- report that later runs find.
namespace Trokk
open Program

-- The UPDATE that stores the report was carried out, answered or not.
def Stores (inv : Uuid) (report : Json) (e : Record) : Prop :=
  e.statement = .setInvestigationReport inv report ∧ storableJson report = true ∧ e.choice.fate ≠ .refused

-- The report is stored, and the UPDATE of the status is not reached or refused.
def Halfway (inv : Uuid) (report : Json) (added : List Record) : Prop := ∃ e ∈ added, Stores inv report e ∧
  (e.choice.fate = .lost ∨ ∃ e' ∈ added, e'.statement = .setInvestigationStatus inv .complete ∧ e'.choice.fate = .refused)

def AllOrNothing (inv : Uuid) (added : List Record) (before after : Option InvestigationRow) : Prop :=
  after = before ∨ ∃ i report, before = some i ∧ (∃ e ∈ added, e.statement = .setInvestigationReport inv report) ∧
    after = some {i with report := some report,status := .complete}

-- The two writes are not split, or it does not show.
def Whole (inv : Uuid) (added : List Record) (before : Option InvestigationRow) : Prop :=
  ∀ report, Halfway inv report added → ∀ i ∈ before, i.report = some report ∨ i.status = .complete

def published (report : Json) (i : InvestigationRow) : InvestigationRow := {i with report := some report,status := .complete}

-- What is left of one run.
inductive Leftover (inv : Uuid) (db db' : Database) (added : List Record) : Prop where
  | nothing : (∀ e ∈ added, ∀ report, ¬ Stores inv report e) → db' = db → Leftover inv db db' added
  | report : Halfway inv report added → (∀ e ∈ added, ∀ r, e.statement = .setInvestigationReport inv r → r = report) →
      db' = db.editInvestigation inv (fun i => {i with report := some report}) → Leftover inv db db' added
  | both : (∀ r, ¬ Halfway inv r added) → (∃ e ∈ added, e.statement = .setInvestigationReport inv report) →
      (∀ e ∈ added, ∀ r, e.statement = .setInvestigationReport inv r → r = report) →
      db' = db.editInvestigation inv (published report) → Leftover inv db db' added

theorem leftover_whole (leftover : Leftover inv db db' added) :
    AllOrNothing inv added (db.investigationRow inv) (db'.investigationRow inv) ↔ Whole inv added (db.investigationRow inv) := by
  cases leftover with
  | nothing unstored same =>
    refine iff_of_true (.inl (by rw [same])) fun report halfway => ?_
    obtain ⟨e,member,stores,-⟩ := halfway
    exact absurd stores (unstored e member report)
  | @both report unsplit stored only same =>
    refine iff_of_true ?_ fun r halfway => absurd halfway (unsplit r)
    rw [same,@investigationRow_edit inv db (published report) fun _ => rfl]
    cases db.investigationRow inv with
    | none => exact .inl rfl
    | some i => exact .inr ⟨i,_,rfl,stored,rfl⟩
  | @report report halfway only same =>
    rw [same,@investigationRow_edit inv db (fun i => {i with report := some report}) fun _ => rfl]
    have once (r : Json) (split : Halfway inv r added) : r = report := by
      obtain ⟨e,member,stores,-⟩ := split
      exact only e member r stores.1
    cases db.investigationRow inv with
    | none => exact iff_of_true (.inl rfl) fun _ _ _ => nofun
    | some i =>
      constructor
      · rintro (unchanged | ⟨j,r,sameRow,-,complete⟩) r' split k isRow
        · cases isRow
          have own := congrArg (Option.map InvestigationRow.report) unchanged
          rw [once r' split]
          exact .inl (Option.some.inj own).symm
        · cases isRow
          cases sameRow
          have own := congrArg (Option.map InvestigationRow.status) complete
          exact .inr (Option.some.inj own)
      · intro whole
        rcases whole report halfway i rfl with same | complete
        · refine .inl ?_
          rw [Option.map_some,← same]
        · obtain ⟨e,member,stores,-⟩ := halfway
          refine .inr ⟨i,report,rfl,⟨e,member,stores.1⟩,?_⟩
          rw [Option.map_some,← complete]

-- Only the two UPDATEs at the end of a run.
def Statement.concludes : Statement → Prop
  | .setInvestigationReport .. | .setInvestigationStatus .. => True
  | _ => False

theorem halfway_later (quiet : ∀ e ∈ first, ¬ e.statement.concludes) (added : List Record) :
    Halfway inv report (first ++ added) ↔ Halfway inv report added := by
  constructor
  · rintro ⟨e,member,stores,split⟩
    have own : e ∈ added := (List.mem_append.mp member).resolve_left fun there => quiet e there (by rw [stores.1]; trivial)
    refine ⟨e,own,stores,split.imp_right ?_⟩
    rintro ⟨e',member',ends,refused⟩
    exact ⟨e',(List.mem_append.mp member').resolve_left fun there => quiet e' there (by rw [ends]; trivial),ends,refused⟩
  · rintro ⟨e,member,stores,split⟩
    refine ⟨e,List.mem_append_right _ member,stores,split.imp_right ?_⟩
    rintro ⟨e',member',both⟩
    exact ⟨e',List.mem_append_right _ member',both⟩

theorem leftover_later (quiet : ∀ e ∈ first, ¬ e.statement.concludes) (leftover : Leftover inv db db' added) :
    Leftover inv db db' (first ++ added) := by
  cases leftover with
  | nothing unstored same =>
    refine .nothing (List.forall_mem_append.mpr ⟨fun e member report stores => ?_,unstored⟩) same
    exact quiet e member (by rw [stores.1]; trivial)
  | report halfway only same =>
    refine .report ((halfway_later quiet added).mpr halfway) (List.forall_mem_append.mpr ⟨fun e member r asks => ?_,only⟩) same
    exact absurd (by rw [asks]; trivial) (quiet e member)
  | both unsplit stored only same =>
    obtain ⟨e,member,asks⟩ := stored
    refine .both (fun r => by rw [halfway_later quiet]; exact unsplit r) ⟨e,List.mem_append_right _ member,asks⟩
      (List.forall_mem_append.mpr ⟨fun e member r asks => ?_,only⟩) same
    exact absurd (by rw [asks]; trivial) (quiet e member)

theorem leftover_quiet (quiet : ∀ e ∈ added, ¬ e.statement.concludes) : Leftover inv db db added :=
  .nothing (fun e member report stores => quiet e member (by rw [stores.1]; trivial)) rfl

theorem fetch_adds (s : Statement) (agents : Agents) (db : Database) (l : Session) : (fetch s).Adds exec (fun _ => True)
    (fun result agents' db' _ added => agents' = agents ∧ ∃ c, added = [entry exec s c db l] ∧ db' = (exec s c db l).2.1 ∧
      ((∃ r, result = .ok r ∧ (exec s c db l).1 = .ok r) ∨ ∃ raised e, result = .error raised ∧ (exec s c db l).1 = .error e))
    agents db l := by
  apply Method.Adds.lift
  refine Adds.call fun c _ => ?_
  cases answer : (exec s c db l).1 with
  | ok r => exact .done ⟨rfl,c,rfl,rfl,.inl ⟨r,rfl,answer⟩⟩
  | error e => exact .done ⟨rfl,c,rfl,rfl,.inr ⟨_,e,rfl,answer⟩⟩

theorem chats_quiet {s : Statement} (chats : s.chats) : ¬ s.concludes := by
  cases s with
  | chat => exact id
  | _ => exact chats.elim

theorem generateReport_adds (runtime : Runtime) (inv : Uuid) (question : String) (found : List Finding) (agents : Agents)
    (db : Database) (l : Session) : (Method.lift (runtime.generateReport inv question found) : Py Json).Adds exec (fun _ => True)
      (fun _ agents' db' _ added => agents' = agents ∧ db' = db ∧ ∀ e ∈ added, ¬ e.statement.concludes) agents db l := by
  apply Method.Adds.lift
  have untouched : (runtime.generateReport inv question found).Ensures exec (fun _ => True) (fun _ db' _ => db' = db) db l := by
    refine (runtime.chats inv question found).ensures (fun db' _ => db' = db) (fun s c d l chats same => ?_) rfl
    have effect := exec_effect c d l s
    generalize (exec s c d l).2.1 = d' at effect
    cases effect with
    | none => exact same
    | _ => exact chats.elim
  refine (untouched.adds.both (runtime.chats inv question found).adds).imp fun _ db' _ added told => ?_
  exact ⟨rfl,told.1,fun e member => chats_quiet (told.2 e member).1⟩

-- The status follows a report that was stored and answered for.
theorem statusUpdate_leaves (inv : Uuid) (report : Json) (agents : Agents) (stored : Database) {first : Record} (l : Session)
    (stores : Stores inv report first) (answered : first.choice.fate = .answered)
    (edited : stored = db.editInvestigation inv fun i => {i with report := some report}) :
    (fetch (.setInvestigationStatus inv .complete)).Adds exec (fun _ => True)
      (fun _ _ db' _ added => Leftover inv db db' (first :: added)) agents stored l := by
  apply (fetch_adds (.setInvestigationStatus inv .complete) agents stored l).imp
  rintro result agents' db' l' added ⟨-,c,rfl,rfl,-⟩
  have done : perform c stored l (.setInvestigationStatus inv .complete) =
      .ok ((),stored.editInvestigation inv fun i => {i with status := .complete},l) := rfl
  have both : (stored.editInvestigation inv fun i => {i with status := .complete}) = db.editInvestigation inv (published report) := by
    subst edited
    simp only [Database.editInvestigation,List.map_map]
    congr 1
    refine List.map_congr_left fun i _ => ?_
    by_cases own : i.id = inv <;> simp [own,published]
  have only : ∀ e ∈ [first,entry exec (.setInvestigationStatus inv .complete) c stored l], ∀ r,
      e.statement = .setInvestigationReport inv r → r = report := by
    intro e member r asks
    rcases List.mem_cons.mp member with rfl | last
    · cases stores.1.symm.trans asks
      rfl
    · cases List.mem_singleton.mp last
      cases asks
  have ended (unrefused : c.fate ≠ .refused) : ∀ r, ¬ Halfway inv r [first,entry exec (.setInvestigationStatus inv .complete) c stored l] := by
    rintro r ⟨e,member,storesR,split⟩
    rcases List.mem_cons.mp member with rfl | last
    · rcases split with lost | ⟨e',member',ends,refused⟩
      · cases answered.symm.trans lost
      · rcases List.mem_cons.mp member' with rfl | last
        · cases stores.1.symm.trans ends
        · cases List.mem_singleton.mp last
          exact unrefused refused
    · cases List.mem_singleton.mp last
      cases storesR.1
  rcases exec_fates rfl done with ⟨told,-,same⟩ | ⟨lost,-,same⟩ | ⟨refused,-,same⟩
  · rw [same,both]
    exact .both (ended (by simp [told])) ⟨first,List.mem_cons_self,stores.1⟩ only rfl
  · rw [same,both]
    exact .both (ended (by simp [lost])) ⟨first,List.mem_cons_self,stores.1⟩ only rfl
  · rw [same]
    exact .report ⟨first,List.mem_cons_self,stores,.inr ⟨_,List.mem_cons_of_mem _ List.mem_cons_self,rfl,refused⟩⟩ only edited

-- What the UPDATE of the report leaves, by whether the next one is reached.
theorem reportUpdate_leaves (inv : Uuid) (report : Json) (agents : Agents) (db : Database) (l : Session) :
    (fetch (.setInvestigationReport inv report)).Adds exec (fun _ => True) (fun result _ db' _ added =>
      (∀ u, result = .ok u → ∃ e, added = [e] ∧ Stores inv report e ∧ e.choice.fate = .answered ∧
        db' = db.editInvestigation inv fun i => {i with report := some report}) ∧
      (∀ raised, result = .error raised → Leftover inv db db' added)) agents db l := by
  apply (fetch_adds (.setInvestigationReport inv report) agents db l).imp
  rintro result agents' db' l' added ⟨-,c,rfl,rfl,told⟩
  have unheard {e : PgError} (failed : (exec (.setInvestigationReport inv report) c db l).1 = .error e) (u : Unit) : result ≠ .ok u := by
    intro ok
    rcases told with ⟨r,-,answer⟩ | ⟨raised,e,error,-⟩
    · cases failed.symm.trans answer
    · cases ok.symm.trans error
  cases storable : storableJson report with
  | false =>
    have barred : perform c db l (.setInvestigationReport inv report) = .error .invalidText := by
      rw [perform,storable]
      rfl
    obtain ⟨⟨_,failed⟩,same⟩ := exec_barred barred
    refine ⟨fun u ok => absurd ok (unheard failed u),fun raised _ => .nothing ?_ same⟩
    intro e member r stores
    cases List.mem_singleton.mp member
    cases stores.1
    cases storable.symm.trans stores.2.1
  | true =>
    have done : perform c db l (.setInvestigationReport inv report) =
        .ok ((),db.editInvestigation inv fun i => {i with report := some report},l) := by
      rw [perform,storable]
      rfl
    rcases exec_fates rfl done with ⟨answered,ok,same⟩ | ⟨lost,failed,same⟩ | ⟨refused,failed,same⟩
    · have carried : c.fate ≠ .refused := by simp [answered]
      refine ⟨fun u _ => ⟨_,rfl,⟨rfl,storable,carried⟩,answered,same⟩,fun raised error => ?_⟩
      rcases told with ⟨r,ok',-⟩ | ⟨raised,e,-,answer⟩
      · cases error.symm.trans ok'
      · cases ok.symm.trans answer
    · have carried : c.fate ≠ .refused := by simp [lost]
      refine ⟨fun u ok => absurd ok (unheard failed u),fun raised _ => ?_⟩
      rw [same]
      refine .report ⟨_,List.mem_cons_self,⟨rfl,storable,carried⟩,.inl lost⟩ (fun e member r asks => ?_) rfl
      cases List.mem_singleton.mp member
      cases asks
      rfl
    · refine ⟨fun u ok => absurd ok (unheard failed u),fun raised _ => ?_⟩
      rw [same]
      refine .nothing (fun e member r stores => ?_) rfl
      cases List.mem_singleton.mp member
      exact stores.2.2 refused

theorem publishReport_adds (runtime : Runtime) (inv : Uuid) (question : String) (found : List Finding) (agents : Agents)
    (db : Database) (l : Session) : (publishReport runtime inv question found).Adds exec (fun _ => True)
      (fun _ _ db' _ added => Leftover inv db db' added) agents db l := by
  apply Method.Adds.bind (generateReport_adds runtime inv question found agents db l)
  · rintro report agents' db' l' requested ⟨-,rfl,quiet⟩
    apply Method.Adds.bind (reportUpdate_leaves inv report agents' db' l')
    · intro u agents'' stored l'' one told
      obtain ⟨e,rfl,stores,answered,edited⟩ := told.1 u rfl
      apply (statusUpdate_leaves inv report agents'' stored l'' stores answered edited).imp
      intro _ _ _ _ more leftover
      exact leftover_later quiet leftover
    · intro raised _ _ _ one told
      exact leftover_later quiet (told.2 raised rfl)
  · rintro raised _ _ _ requested ⟨-,rfl,quiet⟩
    exact leftover_quiet quiet

theorem fetch_reads {s : Statement} (still : ∀ c session d, Effect c db session s d → d = db) (quiet : ¬ s.concludes)
    (agents : Agents) (l : Session) : (fetch s).Adds exec (fun _ => True) (fun _ _ db' _ added => db' = db ∧
      ∀ e ∈ added, ¬ e.statement.concludes) agents db l := by
  apply (fetch_adds s agents db l).imp
  rintro _ _ _ _ _ ⟨-,c,rfl,rfl,-⟩
  exact ⟨still c l _ (exec_effect c db l s),List.forall_mem_singleton.mpr quiet⟩

theorem run_consensus_leaves (runtime : Runtime) (inv : Uuid) (agents : Agents) (db : Database) (l : Session) :
    (run_consensus runtime inv).Adds exec (fun _ => True) (fun _ _ db' _ added => Leftover inv db db' added) agents db l := by
  have readQuestion := @fetch_reads db (.investigationQuestion inv) (fun _ _ _ effect => by cases effect; rfl) id agents l
  apply Method.Adds.bind readQuestion
  · rintro question agents' _ l' asked ⟨rfl,quiet⟩
    have readFindings {d : Database} := @fetch_reads d (.investigationFindings inv) (fun _ _ _ effect => by cases effect; rfl) id agents' l'
    apply Method.Adds.bind readFindings
    · rintro found agents'' _ l'' listed ⟨rfl,quiet'⟩
      split
      · apply Method.Adds.pure
        refine leftover_later quiet (leftover_later quiet' (leftover_quiet ?_))
        exact fun e member => absurd member List.not_mem_nil
      · apply Method.Adds.attempt (publishReport_adds runtime inv question found agents'' _ l'')
        · exact fun _ _ _ _ _ leftover => leftover_later quiet (leftover_later quiet' leftover)
        · intro raised _ _ _ added leftover
          apply Method.Adds.pure
          rw [List.append_nil]
          exact leftover_later quiet (leftover_later quiet' leftover)
    · rintro raised _ _ _ listed ⟨rfl,quiet'⟩
      exact leftover_later quiet (leftover_quiet quiet')
  · rintro raised _ _ _ asked ⟨rfl,quiet⟩
    exact leftover_quiet quiet

-- Statements that leave the investigation's status and report alone, whatever they do to others.
def Statement.passesBy (inv : Uuid) : Statement → Prop
  | .setInvestigationReport target _ | .setInvestigationStatus target _ | .updateInvestigationStatus target _ => target ≠ inv
  | _ => True

structure Settled (inv : Uuid) (report : Json) (db : Database) : Prop where
  present : ∃ i, db.investigationRow inv = some i
  rows : ∀ i ∈ db.investigations, i.id = inv → i.status = .complete ∧ i.report = some report

theorem effect_rows (effect : Effect c db session s db') (member : j ∈ db'.investigations) :
    (∃ i ∈ db.investigations, i.id = j.id ∧ Touched c i s j) ∨ ∀ i ∈ db.investigations, i.id ≠ j.id := by
  have edited {target : Uuid} {edit : InvestigationRow → InvestigationRow} (keeps : ∀ i, (edit i).id = i.id)
      (touches : ∀ i, i.id = target → Touched c i s (edit i)) (member : j ∈ (db.editInvestigation target edit).investigations) :
      ∃ i ∈ db.investigations, i.id = j.id ∧ Touched c i s j := by
    obtain ⟨i,there,rfl⟩ := List.mem_map.mp member
    refine ⟨i,there,?_⟩
    split
    · rename_i own
      exact ⟨(keeps i).symm,touches i own⟩
    · exact ⟨rfl,.untouched⟩
  cases effect with
  | commit opened fresh =>
    rcases List.mem_append.mp member with old | new
    · exact .inl ⟨j,old,rfl,.untouched⟩
    · exact .inr (fresh j new)
  | updateInvestigationStatus => exact .inl (edited (fun _ => by rfl) (fun _ => .updateStatus) member)
  | setInvestigationStatus => exact .inl (edited (fun _ => by rfl) (fun _ => .setStatus) member)
  | setInvestigationReport => exact .inl (edited (fun _ => by rfl) (fun _ => .setReport) member)
  | toggle =>
    rw [toggled_eq] at member
    exact .inl ⟨j,member,rfl,.untouched⟩
  | _ => exact .inl ⟨j,member,rfl,.untouched⟩

theorem spared_row (touched : Touched c i s j) (passesBy : s.passesBy inv) (own : i.id = inv) : j = i := by
  cases touched with
  | untouched => rfl
  | updateStatus same => exact absurd (same.symm.trans own) passesBy
  | setStatus same => exact absurd (same.symm.trans own) passesBy
  | setReport same => exact absurd (same.symm.trans own) passesBy

theorem settled_effect (settled : Settled inv report db) (passesBy : s.passesBy inv) (effect : Effect c db session s db') :
    Settled inv report db' := by
  obtain ⟨⟨i,found⟩,rows⟩ := settled
  obtain ⟨k,found',-⟩ := row_kept effect found
  refine ⟨⟨k,found'⟩,fun j member isOwn => ?_⟩
  rcases effect_rows effect member with ⟨k,old,same,touched⟩ | fresh
  · have unmoved := spared_row touched passesBy (same.trans isOwn)
    rw [unmoved]
    exact rows k old (same.trans isOwn)
  · exact absurd ((investigationRow_id found).trans isOwn.symm) (fresh i (List.mem_of_find?_eq_some found))

theorem run_consensus_passesBy (runtime : Runtime) (apart : target ≠ inv) : (run_consensus runtime target).Only (Statement.passesBy inv) := by
  refine Method.Only.bind (fetch_only trivial) fun question => ?_
  refine Method.Only.bind (fetch_only trivial) fun found => ?_
  split
  · exact Method.Only.pure _
  · refine Method.Only.attempt ?_ fun _ => Method.Only.pure _
    have chatted (s : Statement) (chats : s.chats) : s.passesBy inv := by
      cases s with
      | chat => trivial
      | _ => exact chats.elim
    refine Method.Only.bind (Method.Only.lift (only_imp (runtime.chats _ _ _) chatted)) fun report => ?_
    exact Method.Only.bind (fetch_only apart) fun _ => fetch_only apart

theorem consensusEach_passesBy (runtime : Runtime) {ids : List Uuid} (apart : inv ∉ ids) :
    (consensusEach runtime ids).Only (Statement.passesBy inv) := by
  induction ids with
  | nil => exact Method.Only.pure _
  | cons target rest ih =>
    refine Method.Only.bind (Method.Only.bind (fetch_only trivial) fun pending => ?_) fun _ => ih fun later => apart (List.mem_cons_of_mem _ later)
    split
    · exact run_consensus_passesBy runtime fun same => apart (same ▸ List.mem_cons_self)
    · exact Method.Only.pure _

-- A settled investigation is not among those that a check takes up.
theorem settled_unlisted (settled : Settled inv report db) (listed : perform c db l .activeInvestigations = .ok (ids,db',l')) :
    inv ∉ ids := by
  cases listed
  intro member
  obtain ⟨i,sorted,own⟩ := List.mem_map.mp member
  rw [oldestFirst,List.mem_insertionSort,List.mem_filter] at sorted
  have active := sorted.2
  simp [(settled.rows i sorted.1 own).1] at active

-- What a statement tells of a settled investigation: complete, not among the active ones.
def Tells (inv : Uuid) : (s : Statement) → Except PgError s.Result → Prop
  | .investigation target,.ok (some row) => target = inv → row.status = .complete
  | .activeInvestigations,.ok ids => inv ∉ ids
  | _,_ => True

-- Told so, the program leaves the investigation alone.
def LetAlone (inv : Uuid) : Api A → Prop
  | .done _ => True
  | .call s next => s.passesBy inv ∧ ∀ answer, Tells inv s answer → LetAlone inv (next answer)

theorem LetAlone.bind {x : Api A} {f : A → Api B} (first : LetAlone inv x) (then' : ∀ a, LetAlone inv (f a)) : LetAlone inv (x >>= f) := by
  induction x with
  | done a => exact then' a
  | call s next ih => exact ⟨first.1,fun answer told => ih answer (first.2 answer told)⟩

theorem only_letAlone {x : Api A} (only : x.Only (Statement.passesBy inv)) : LetAlone inv x := by
  induction x with
  | done a => trivial
  | call s next ih => exact ⟨only.1,fun answer _ => ih answer (only.2 answer)⟩

-- A request that does not get past the guard of the trigger updates other investigations.
theorem unarmed_letAlone {x : Api A} (unarmed : Unarmed inv x) (only : x.Only (Statement.requested route)) : LetAlone inv x := by
  induction x with
  | done a => trivial
  | call s next ih =>
    obtain ⟨requested,later⟩ := only
    obtain ⟨apart,passed⟩ := unarmed
    refine ⟨?_,fun answer told => ih answer (passed answer ?_) (later answer)⟩
    · cases s with
      | updateInvestigationStatus target status =>
        rintro rfl
        exact apart (by rw [requested.1])
      | setInvestigationStatus => exact requested.elim
      | setInvestigationReport => exact requested.elim
      | _ => trivial
    · intro passes
      cases s with
      | investigation target =>
        match answer,passes with
        | .ok (some row),⟨own,active⟩ => exact active (told own)
      | _ => exact passes.elim

theorem handle_consensus_check_letAlone (runtime : Runtime) (inv : Uuid) (agents : Agents) :
    LetAlone inv (handle_consensus_check runtime agents) := by
  refine ⟨trivial,fun answer told => ?_⟩
  cases answer with
  | error => trivial
  | ok ids => exact only_letAlone (consensusEach_passesBy runtime told agents)

theorem handleSignal_letAlone (runtime : Runtime) (inv : Uuid) (signal : SignalRow) (agents : Agents) :
    LetAlone inv (handleSignal runtime signal agents) := by
  by_cases triggers : signal.signalType = "trigger_consensus"
  · unfold handleSignal
    rw [triggers,if_neg (by decide),if_neg (by decide),if_pos rfl]
    exact handle_consensus_check_letAlone runtime inv agents
  · refine only_letAlone (handleSignal_only (fun s handles => ?_) runtime agents)
    cases s with
    | setInvestigationStatus => exact absurd handles.1 triggers
    | setInvestigationReport => exact absurd handles triggers
    | updateInvestigationStatus => exact handles.elim
    | _ => trivial

theorem processEach_letAlone (runtime : Runtime) (inv : Uuid) (signals : List SignalRow) (agents : Agents) :
    LetAlone inv (processEach runtime signals agents) := by
  induction signals generalizing agents with
  | nil => trivial
  | cons signal rest ih =>
    refine LetAlone.bind (only_letAlone (fetch_only trivial agents)) fun (logged,agents) => ?_
    cases logged with
    | error => trivial
    | ok =>
      refine LetAlone.bind (handleSignal_letAlone runtime inv signal agents) fun (handled,agents) => ?_
      cases handled with
      | error => trivial
      | ok =>
        refine LetAlone.bind (only_letAlone (fetch_only trivial agents)) fun (marked,agents) => ?_
        cases marked with
        | error => trivial
        | ok => exact ih agents

theorem starts_letAlone (inv : Uuid) (starts : Starts adminKey runtime t x) : LetAlone inv x := by
  cases starts with
  | @request n req =>
    have unarmed : Unarmed inv (serving adminKey req) := starts_unarmed inv (@Starts.request adminKey runtime n req)
    exact unarmed_letAlone unarmed (serving_only (fun _ requested => requested) adminKey)
  | tick =>
    have ticks (agents : Agents) : LetAlone inv (tick runtime agents) := by
      refine LetAlone.bind (only_letAlone (fetch_only trivial agents)) fun (polled,agents) => ?_
      cases polled with
      | error => trivial
      | ok signals => exact processEach_letAlone runtime inv signals agents
    refine LetAlone.bind (ticks _) fun (result,_) => ?_
    cases result <;> trivial

theorem settled_tells (settled : Settled inv report db) (c : Choice) (l : Session) (s : Statement) : Tells inv s (exec s c db l).1 := by
  cases answer : (exec s c db l).1 with
  | error e => cases s <;> trivial
  | ok r => cases s with
    | activeInvestigations => exact settled_unlisted settled (exec_ok answer)
    | investigation target =>
      match r with
      | none => trivial
      | some row =>
        rintro rfl
        have found : db.investigationRow target = some row := (Prod.mk.inj (Except.ok.inj (exec_ok answer))).1
        exact (settled.rows row (List.mem_of_find?_eq_some found) (investigationRow_id found)).1
    | _ => trivial

theorem step_settled {p next : System} (step : SystemStep adminKey runtime p event next) (settled : Settled inv report p.shared)
    (alone : ∀ t x l, p.sessions t = some (x,l) → LetAlone inv x) :
    Settled inv report next.shared ∧ ∀ t x l, next.sessions t = some (x,l) → LetAlone inv x := by
  cases step with
  | begin _ starts =>
    refine ⟨settled,Pool.update_sessions (Q := fun _ x _ => LetAlone inv x) alone _ _ fun x l present => ?_⟩
    cases present
    exact starts_letAlone inv starts
  | act present =>
    obtain ⟨passesBy,later⟩ := alone _ _ _ present
    refine ⟨settled_effect settled passesBy (exec_effect _ _ _ _),Pool.update_sessions (Q := fun _ x _ => LetAlone inv x) alone _ _ ?_⟩
    intro x l present
    cases present
    exact later _ (settled_tells settled _ _ _)
  | answer => exact ⟨settled,Pool.update_sessions (Q := fun _ x _ => LetAlone inv x) alone _ none nofun⟩
  | kill => exact ⟨settled,Pool.update_sessions (Q := fun _ x _ => LetAlone inv x) alone _ none nofun⟩

-- The report stays through all requests and ticks after that, in any order.
theorem runs_settled {p : System} (settled : Settled inv report db) (run : SystemRuns adminKey runtime (Pool.idle db) p) :
    Settled inv report p.shared := by
  suffices both : Settled inv report p.shared ∧ ∀ t x l, p.sessions t = some (x,l) → LetAlone inv x from both.1
  induction run with
  | start => exact ⟨settled,nofun⟩
  | step _ step ih => exact step_settled step ih.1 ih.2

theorem leftover_settled (leftover : Leftover inv db db' added) (present : db.investigationRow inv = some i)
    (unsplit : ∀ r, ¬ Halfway inv r added) (member : e ∈ added) (stores : Stores inv report e) : Settled inv report db' := by
  cases leftover with
  | nothing unstored => exact absurd stores (unstored e member report)
  | report halfway => exact absurd halfway (unsplit _)
  | @both report' _ _ only same =>
    have own : report = report' := only e member report stores.1
    subst own same
    refine ⟨⟨published report i,?_⟩,fun j there isOwn => ?_⟩
    · rw [@investigationRow_edit inv db (published report) fun _ => rfl,present,Option.map_some]
    · obtain ⟨k,-,rfl⟩ := List.mem_map.mp there
      by_cases target : k.id = inv
      · rw [if_pos target]
        exact ⟨rfl,rfl⟩
      · rw [if_neg target] at isOwn
        exact absurd isOwn target

theorem consensus_all_or_nothing (runtime : Runtime) (inv : Uuid) (agents : Agents) (db : Database) (l : Session) :
    (run_consensus runtime inv).Adds exec (fun _ => True) (fun _ _ db' _ added =>
      (AllOrNothing inv added (db.investigationRow inv) (db'.investigationRow inv) ↔ Whole inv added (db.investigationRow inv)) ∧
      ((∀ r, ¬ Halfway inv r added) → ∀ e ∈ added, ∀ report, Stores inv report e → ∀ i, db.investigationRow inv = some i →
        ∀ adminKey later p, SystemRuns adminKey later (Pool.idle db') p →
          ∃ j, p.shared.investigationRow inv = some j ∧ j.report = some report)) agents db l := by
  apply (run_consensus_leaves runtime inv agents db l).imp
  intro _ _ db' _ added leftover
  refine ⟨leftover_whole leftover,fun unsplit e member report stores i present adminKey later p run => ?_⟩
  have settled := runs_settled (leftover_settled leftover present unsplit member stores) run
  obtain ⟨j,found⟩ := settled.present
  exact ⟨j,found,(settled.rows j (List.mem_of_find?_eq_some found) (investigationRow_id found)).2⟩

-- The report is the reply; the UPDATE of the status fails, and the next check asks again.
def Runtime.echoing : Runtime where
  registry := []
  generateReport := fun _ _ _ => query (.chat "llama3.2:3b" []) >>= fun reply => .done (match reply with
    | .ok text => .ok (.str text)
    | .error _ => .error .database)
  chats := fun _ _ _ => ⟨trivial,fun _ => trivial⟩

def Database.reportedAs (report : String) (status : InvestigationStatus) : Database :=
  {Database.concluding with investigations := [⟨21,"why",status,some (.str report),30,none⟩]}

def replying (content : String) : Choice := ⟨.answered,100,0,content⟩

theorem split_report_replaced : Database.concluding.Valid ∧
    (run_consensus .echoing 21 []).play exec (List.replicate 4 (replying "first") ++ [{replying "" with fate := .refused}]) .concluding .fresh =
      some ((.ok (),[]),.reportedAs "first" .consensus,.fresh) ∧
    (∀ added, ¬ AllOrNothing 21 added (Database.concluding.investigationRow 21)
      ((Database.reportedAs "first" .consensus).investigationRow 21)) ∧
    (handle_consensus_check .echoing []).play exec (List.replicate 7 (replying "second")) (.reportedAs "first" .consensus) .fresh =
      some ((.ok (),[]),.reportedAs "second" .complete,.fresh) := by
  refine ⟨Database.concluding_valid,rfl,fun added => ?_,rfl⟩
  rintro (unchanged | ⟨i,report,-,-,complete⟩)
  · cases unchanged
  · have status : some InvestigationStatus.consensus = some .complete := congrArg (Option.map InvestigationRow.status) complete
    cases status

end Trokk
