import Trokk.ConsensusAgent
import Trokk.FailureMessages
import Trokk.Library.DistinctNames

-- The documents of runtime/scheduler.py as json.dumps writes them and jsonb reads them,
-- beside the statements of the runtime's model, which hand the values over. `spell` is
-- how Python prints the number that it read from a literal.
namespace Trokk
open Jsonb (ordered)

-- json.dumps
def dumped (spell : String → String) (value : Json) : String := String.ofList (Python.dumps (Python.respell spell value))

def Scheduler.complete_task (spell : String → String) (db : Database) (now : Timestamptz) (task_id : Uuid) (result : Json) :
    Except PgError Database :=
  match jsonb (dumped spell result) with
  | none => .error .invalidText
  | some document => .ok (db.editTask task_id fun t => {t with status := .complete,result := some document,completedAt := some now})

def Scheduler.set_investigation_report (spell : String → String) (db : Database) (investigation_id : Uuid) (report : Json) :
    Except PgError Database :=
  match jsonb (dumped spell report) with
  | none => .error .invalidText
  | some document => .ok (db.editInvestigation investigation_id fun i => {i with report := some document})

-- A report that the agent made of a model's reply. A lone surrogate of the reply would
-- stand in the report as well, and no text here can hold it.
structure ReplyReported (nesting : Nat) (inv : Uuid) (question content : String) (report : ConsensusReport) : Prop where
  paired : Python.paired content.toList = true
  made : (replyData nesting content >>= reportOf inv question) = .ok report

-- The reports as jsonb keeps them.
def Database.inOrder (db : Database) : Database :=
  {db with investigations := db.investigations.map fun i => {i with report := i.report.map ordered}}

-- What the statements hand over is what their texts are read as, up to the order of
-- an object's members.
structure SendsValues (spell : String → String) (c : Choice) (db : Database) (session : Session) : Prop where
  fails : ∀ task error, perform c db session (.failTask task error) =
    (Scheduler.fail_task db c.now task error).map fun db => ((),db,session)
  completes : ∀ task finding, perform c db session (.completeTask task (findingResult finding)) =
    (Scheduler.complete_task spell db c.now task (findingResult finding)).map fun db => ((),db,session)
  reports : ∀ nesting inv question content report, ReplyReported nesting inv question content report →
    perform c db session (.setInvestigationReport inv (ordered (Python.respell spell report.to_dict))) =
      (Scheduler.set_investigation_report spell db inv report.to_dict).map fun db => ((),db,session)
  -- Such a literal is for instance every integer that does not read -0.
  verbatim : ∀ nesting inv question content report, ReplyReported nesting inv question content report →
    report.to_dict.EveryNumber (fun literal => spell literal = literal) = true →
    (perform c db session (.setInvestigationReport inv report.to_dict)).map (fun done => done.2.1.inOrder) =
      (Scheduler.set_investigation_report spell db inv report.to_dict).map Database.inOrder

theorem finite_storable (isSpelled : Python.spelled literal = true) : Python.finite literal = storableNumber literal := by
  rcases Python.spelled_cases isSpelled with isFinite | ⟨infinite,rfl | rfl | rfl⟩
  · rw [isFinite,storableNumber,eq_comm,Bool.not_eq_true',← Bool.not_eq_true]
    intro named
    simp only [List.contains_eq_mem,decide_eq_true_eq,List.mem_cons,List.not_mem_nil,or_false] at named
    rcases named with rfl | rfl | rfl <;> revert isFinite <;> decide
  all_goals exact infinite.trans rfl

theorem dumped_reads (spells : ∀ literal, Python.spelled (spell literal) = true) {v : Json} (named : Python.distinct v = true) :
    jsonb (dumped spell v) = bif storableJson (Python.respell spell v) then
      some (ordered (Python.respell spell v)) else none := by
  have numbers : (Python.respell spell v).EveryNumber Python.finite = (Python.respell spell v).EveryNumber storableNumber := by
    simp only [Python.respell_numbers]
    congr 1
    funext literal
    exact finite_storable (spells literal)
  rw [jsonb,dumped,String.toList_ofList,Python.read_respelled spell spells named,numbers,storableJson,Bool.and_comm]
  rfl

theorem member_distinct {members : List (String × Json)} (inner : Python.distinctMembers members = true) (key : String)
    (plain : Python.distinct default' = true) : Python.distinct (member members key default') = true := by
  unfold member
  cases found : members.lookup key with
  | none => exact plain
  | some v => exact Python.lookup_distinct inner found

theorem replyData_distinct (replied : replyData nesting content = .ok data) : Python.distinct data = true := by
  unfold replyData at replied
  split at replied
  · rename_i loaded
    cases replied
    exact Python.loads_distinct loaded
  · cases loaded : Python.loads nesting (extract_json content.toList) with
    | error failure => rw [loaded] at replied; cases replied
    | ok v =>
      rw [loaded] at replied
      cases replied
      exact Python.loads_distinct loaded
  · cases replied

theorem reported_distinct (reported : ReplyReported nesting inv question content report) : Python.distinct report.to_dict = true := by
  have made := reported.made
  cases replied : replyData nesting content with
  | error exc => rw [replied] at made; cases made
  | ok data =>
    rw [replied] at made
    have named := replyData_distinct replied
    cases data with
    | obj members =>
      cases made
      have inner := (Bool.and_eq_true_iff.mp named).2
      have own (key : String) {default' : Json} (plain : Python.distinct default' = true) := member_distinct inner key plain
      simp only [ConsensusReport.to_dict,reportOn,Python.distinct,Python.distinctMembers,Bool.and_eq_true,decide_eq_true_eq]
      refine ⟨by simp,trivial,trivial,own _ rfl,own _ rfl,own _ rfl,own _ rfl,own _ rfl,own _ rfl,trivial⟩
    | _ => cases made

theorem ordered_storable (v : Json) : storableJson (ordered v) = storableJson v := by
  rw [storableJson,Jsonb.ordered_texts,Jsonb.ordered_numbers]
  rfl

theorem inOrder_report (db : Database) (inv : Uuid) (v : Json) :
    (db.editInvestigation inv fun i => {i with report := some v}).inOrder =
      (db.editInvestigation inv fun i => {i with report := some (ordered v)}).inOrder := by
  simp only [Database.inOrder,Database.editInvestigation,List.map_map]
  congr 1
  apply List.map_congr_left
  intro i _
  by_cases own : i.id = inv
  · simp [own,Jsonb.ordered_twice]
  · simp [own]

theorem set_report_reads (spells : ∀ literal, Python.spelled (spell literal) = true)
    (reported : ReplyReported nesting inv question content report) (db : Database) :
    Scheduler.set_investigation_report spell db inv report.to_dict =
      bif storableJson (Python.respell spell report.to_dict) then
        .ok (db.editInvestigation inv fun i => {i with report := some (ordered (Python.respell spell report.to_dict))})
      else .error .invalidText := by
  unfold Scheduler.set_investigation_report
  rw [dumped_reads spells (reported_distinct reported)]
  cases storableJson (Python.respell spell report.to_dict) <;> rfl

theorem sends_values (spells : ∀ literal, Python.spelled (spell literal) = true) (c : Choice) (db : Database) (session : Session) :
    SendsValues spell c db session := by
  constructor
  case fails => exact perform_failTask c db session
  case completes =>
    intro task finding
    have named : Python.distinct (findingResult finding) = true := by cases finding <;> rfl
    have itself : ordered (Python.respell spell (findingResult finding)) = findingResult finding := by cases finding <;> rfl
    have unnumbered : Python.respell spell (findingResult finding) = findingResult finding := by cases finding <;> rfl
    unfold Scheduler.complete_task
    rw [dumped_reads spells named,itself,unnumbered]
    cases storable : storableJson (findingResult finding) <;> simp [perform,storable,Except.map]
  case reports =>
    intro nesting inv question content report reported
    rw [set_report_reads spells reported]
    have storable := ordered_storable (Python.respell spell report.to_dict)
    cases given : storableJson (Python.respell spell report.to_dict) <;> rw [given] at storable <;> simp [perform,storable,Except.map]
  case verbatim =>
    intro nesting inv question content report reported same
    rw [set_report_reads spells reported,Python.respell_same spell _ same]
    cases storable : storableJson report.to_dict with
    | false => simp [perform,storable,Except.map]
    | true => simpa [perform,storable,Except.map] using inOrder_report db inv report.to_dict

-- A reply whose score Python prints shorter than the model did.
def scored : String := "\x7b\"executive_summary\":\"it rains\",\"confidence_score\":0.50\x7d"

def printed (literal : String) : String := if literal = "0.50" then "0.5" else if Python.spelled literal then literal else "0"

theorem printed_spelled (literal : String) : Python.spelled (printed literal) = true := by
  unfold printed
  split
  · decide
  · split
    · assumption
    · decide

def scoredReport (score : String) : ConsensusReport where
  investigationId := 21
  question := "why"
  executiveSummary := .str "it rains"
  confidenceScore := .num score

theorem sends_values_sample :
    perform .sample .concluding .fresh (.setInvestigationReport 21 (ordered (Python.respell printed (scoredReport "0.50").to_dict))) =
      (Scheduler.set_investigation_report printed .concluding 21 (scoredReport "0.50").to_dict).map fun db => ((),db,.fresh) := by
  have read : replyData 900 scored = .ok (.obj [("executive_summary",.str "it rains"),("confidence_score",.num "0.50")]) := by decide +kernel
  have reported : ReplyReported 900 21 "why" scored (scoredReport "0.50") := by
    refine ⟨by decide +kernel,?_⟩
    rw [read]
    rfl
  exact (sends_values printed_spelled .sample .concluding .fresh).reports 900 21 "why" scored (scoredReport "0.50") reported

end Trokk
