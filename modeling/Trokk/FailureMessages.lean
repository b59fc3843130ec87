import Trokk.Library.Jsonb
import Trokk.TaskClaims
import Trokk.Statements

-- FailTask of internal/store/pg/investigations.go beside fail_task of
-- runtime/scheduler.py: the documents that the two send, and what becomes of the task.
namespace Trokk

def jsonb (text : String) : Option Json := Jsonb.read text.toList

-- A document that jsonb refuses fails the UPDATE.
def endFailed (db : Database) (now : Timestamptz) (taskId : Uuid) (document : String) : Except PgError Database :=
  match jsonb document with
  | none => .error .invalidText
  | some result => .ok (db.editTask taskId fun t => {t with status := .failed,result := some result,completedAt := some now})

-- json.dumps
def dumpedError (error : String) : String := "\x7b\"error\": \"" ++ String.ofList (error.toList.flatMap Jsonb.escape) ++ "\"\x7d"

def Store.FailTask (db : Database) (now : Timestamptz) (taskID : Uuid) (errorMsg : String) : Except PgError Database :=
  endFailed db now taskID ("\x7b\"error\":\"" ++ errorMsg ++ "\"\x7d")

def Scheduler.fail_task (db : Database) (now : Timestamptz) (task_id : Uuid) (error : String) : Except PgError Database :=
  endFailed db now task_id (dumpedError error)

def errorResult (message : String) : Json := .obj [("error",.str message)]

-- What recording a failure under a message owes.
structure FailureRecorded (message : String) : Prop where
  document : jsonb ("\x7b\"error\":\"" ++ message ++ "\"\x7d") = some (errorResult message)
  call : ∀ task, FailTask jsonb task message = some (fail_task task message)
  ends : ∀ db now, ∀ t ∈ db.investigationTasks, t.status = .running → ∃ after, Store.FailTask db now t.id message = .ok after ∧
    Scheduler.fail_task db now t.id message = .ok after ∧ after = db.editTask t.id fun t =>
      {t with status := .failed,result := some (errorResult message),completedAt := some now}

def errorKey : List Char := ['e','r','r','o','r']

theorem errorKey_plain : ∀ c ∈ errorKey, JsonText.selfSame c = true :=
  List.all_eq_true.mp (by decide : errorKey.all JsonText.selfSame = true)

theorem blank_plain : ∀ c ∈ [' '], JsonText.blank c = true := List.forall_mem_singleton.mpr rfl

theorem sent_document (message : String) :
    jsonb ("\x7b\"error\":\"" ++ message ++ "\"\x7d") = Jsonb.read (Jsonb.textMember errorKey [] message.toList) := by
  have front : ("\x7b\"error\":\"" : String).toList = ['{','"','e','r','r','o','r','"',':','"'] := by decide
  have back : ("\"\x7d" : String).toList = ['"','}'] := by decide
  simp [jsonb,front,back,Jsonb.textMember,errorKey]

theorem dumped_document (message : String) :
    jsonb (dumpedError message) = Jsonb.read (Jsonb.textMember errorKey [' '] (message.toList.flatMap Jsonb.escape)) := by
  have front : ("\x7b\"error\": \"" : String).toList = ['{','"','e','r','r','o','r','"',':',' ','"'] := by decide
  have back : ("\"\x7d" : String).toList = ['"','}'] := by decide
  simp [jsonb,dumpedError,front,back,Jsonb.textMember,errorKey]

theorem sent_read (message : String) : jsonb ("\x7b\"error\":\"" ++ message ++ "\"\x7d") = some (errorResult message) ↔
    ∀ c ∈ message.toList, JsonText.selfSame c = true := by
  rw [sent_document,← Jsonb.read_verbatim errorKey_plain,String.ofList_toList]
  rfl

theorem dumped_read (storable : storableText message = true) : jsonb (dumpedError message) = some (errorResult message) := by
  have nonzero : ∀ c ∈ message.toList, c.toNat ≠ 0 := by
    intro c member zero
    obtain rfl : c = Char.ofNat 0 := by rw [← zero,Char.ofNat_toNat]
    simp [storableText,member] at storable
  rw [dumped_document,Jsonb.read_escaped errorKey_plain blank_plain nonzero,String.ofList_toList]
  rfl

theorem dumped_refused (unstorable : storableText message = false) : jsonb (dumpedError message) = none := by
  have zero : ∃ c ∈ message.toList, c.toNat = 0 := ⟨Char.ofNat 0,by simpa [storableText] using unstorable,rfl⟩
  rw [dumped_document,Jsonb.read_zero errorKey_plain blank_plain zero]

-- The statement of the runtime's model is the one that json.dumps sends.
theorem perform_failTask (c : Choice) (db : Database) (session : Session) (task : Uuid) (error : String) :
    perform c db session (.failTask task error) = (Scheduler.fail_task db c.now task error).map fun db => ((),db,session) := by
  have performed : perform c db session (.failTask task error) = if storableText error then .ok ((),db.editTask task fun t =>
      {t with status := .failed,result := some (errorResult error),completedAt := some c.now},session) else .error .invalidText := rfl
  rw [performed]
  unfold Scheduler.fail_task endFailed
  cases storable : storableText error with
  | true => rw [dumped_read storable]; rfl
  | false => rw [dumped_refused storable]; rfl

-- A quote ends the text that FailTask opens; the database refuses the document.
theorem quoted_message_refused : ¬ ∀ message, storableText message = true → FailureRecorded message := by
  intro always
  have recorded := always "bad \"quote\"" (by decide)
  have plain := (sent_read _).mp recorded.document '"' (by decide)
  revert plain
  decide

-- Exactly the messages without a quote, a backslash or a control character are recorded.
theorem failure_recorded (message : String) : FailureRecorded message ↔ ∀ c ∈ message.toList, JsonText.selfSame c = true := by
  constructor
  · intro recorded
    exact (sent_read message).mp recorded.document
  · intro plain
    have sent := (sent_read message).mpr plain
    have storable : storableText message = true := by
      by_contra refused
      have zero : Char.ofNat 0 ∈ message.toList := by simpa [storableText] using refused
      exact absurd (plain _ zero) (by decide)
    refine ⟨sent,fun task => ?_,fun db now t _ _ => ⟨_,?_,?_,rfl⟩⟩
    · unfold FailTask
      rw [sent]
      rfl
    · unfold Store.FailTask endFailed
      rw [sent]
    · unfold Scheduler.fail_task endFailed
      rw [dumped_read storable]

end Trokk
