import Trokk.ClientTypes
import Trokk.MessageCounts

-- GetMessage of internal/handler/messages.go when its two queries may fail. The
-- error of the second one is dropped, and what the read left behind is answered.
namespace Trokk
open Relational

-- How the read of several rows comes out. It gives no rows when the query is
-- refused or a row does not scan, and the rows up to the break with the error.
inductive RowsFate where
  | whole
  | refused (error : PgError)
  | broken (rows : Nat) (error : PgError)
  deriving DecidableEq

def RowsFate.failed : RowsFate → Bool
  | .whole => false
  | _ => true

structure ThreadFaults where
  message : Option PgError
  responses : RowsFate
  deriving DecidableEq

def responseRows (db : Database) (parent : Uuid) : List StreamRow :=
  (streamRows db).filter (·.message.parentMsgId = some parent)

-- ORDER BY m.created_at DESC says nothing of rows of one instant.
def StreamRow.newest (row : StreamRow) : Timestamptzᵒᵈ := OrderDual.toDual row.message.createdAt

structure NewestFirst where
  arrange : List StreamRow → List StreamRow
  ordered : ∀ rows, OrderBy StreamRow.newest rows (arrange rows)

namespace Faulty

def GetMessageWithAgent (zone : Timestamptz → Int) (db : Database) (id : Uuid) :
    Option PgError → Except PgError (Option MessageWithAgent)
  | none => .ok (Trokk.GetMessageWithAgent zone db id)
  | some .noRows => .ok none
  | some e => .error e

-- The slice and the error that Go returns together; none is the nil slice.
def GetResponses (zone : Timestamptz → Int) (order : NewestFirst) (db : Database) (parentMsgID : Uuid) (fate : RowsFate) :
    Option (List MessageWithAgent) × Option PgError :=
  let rows := (order.arrange (responseRows db parentMsgID)).map (StreamRow.scan zone)
  match fate with
  | .whole => (some rows,none)
  | .refused e => (none,some e)
  | .broken n e => (some (rows.take n),some e)

-- A status and a message, or the thread under status 200.
def GetMessage (zone : Timestamptz → Int) (order : NewestFirst) (db : Database) (faults : ThreadFaults) (idStr : String) :
    Except (Nat × String) MessageWithThread :=
  match Uuid.Parse idStr.toList with
  | none => .error (400,"invalid_message_id")
  | some id => match GetMessageWithAgent zone db id faults.message with
    | .error _ => .error (404,"message_not_found")
    | .ok none => .error (404,"message_not_found")
    | .ok (some msg) =>
      let (responses,_) := GetResponses zone order db id faults.responses
      .ok ⟨msg,responses.getD []⟩

end Faulty

def written : Except (Nat × String) MessageWithThread → Written
  | .error (status,message) => Handler.writeError status message
  | .ok thread => ⟨200,thread.members.map .obj⟩

def NewestFirst.stable : NewestFirst where
  arrange rows := rows.insertionSort fun a b => b.message.createdAt ≤ a.message.createdAt
  ordered rows := ⟨List.perm_insertionSort _ rows,
    List.pairwise_insertionSort (fun a b : StreamRow => b.message.createdAt ≤ a.message.createdAt) rows⟩

-- Without faults, and in the one order, this is the handler of the rest of the model.
theorem getMessage_unfaulted (zone : Timestamptz → Int) (s : ServerState) (idStr : String) :
    written (Faulty.GetMessage zone .stable s.db ⟨none,.whole⟩ idStr) = Handler.GetMessage zone s idStr := by
  unfold Faulty.GetMessage Handler.GetMessage
  cases Uuid.Parse idStr.toList with
  | none => rfl
  | some id =>
    simp only [Faulty.GetMessageWithAgent]
    cases GetMessageWithAgent zone s.db id <;> rfl

-- The messages of which `id` is the parent.
def children (db : Database) (id : Uuid) : List MessageRow := db.messages.filter (·.parentMsgId = some id)

structure CompleteThread (zone : Timestamptz → Int) (db : Database) (id : Uuid) (thread : MessageWithThread) : Prop where
  own : thread.id = id
  exactly : thread.responses.Perm ((children db id).map (view zone db))
  once : (thread.responses.map fun m => m.id).Nodup
  newest : thread.responses.Pairwise fun a b => b.createdAt.column ≤ a.createdAt.column
  counted : thread.responses.length = thread.responseCount

-- Whatever is answered with 200 is complete, and not empty because a read failed.
def AnswersThreads (zone : Timestamptz → Int) (order : NewestFirst) (db : Database) (faults : ThreadFaults) (idStr : String) :
    Prop := ∀ thread, Faulty.GetMessage zone order db faults idStr = .ok thread →
  ∃ id, Uuid.Parse idStr.toList = some id ∧ CompleteThread zone db id thread ∧
    (faults.responses.failed = true → thread.responses ≠ [])

-- Of so many rows all are read; the read may break behind the last, if there is one.
def RowsFate.Reads (total : Nat) : RowsFate → Prop
  | .whole => True
  | .refused _ => False
  | .broken n _ => total ≤ n ∧ 0 < total

def RowsFate.received (total : Nat) : RowsFate → Nat
  | .whole => total
  | .refused _ => 0
  | .broken n _ => n

section
variable {zone : Timestamptz → Int} {order : NewestFirst} {db : Database} {faults : ThreadFaults} {id : Uuid} {idStr : String}

theorem reads_iff {fate : RowsFate} :
    fate.Reads total ↔ total ≤ fate.received total ∧ (fate.failed = true → 0 < min (fate.received total) total) := by
  cases fate with
  | whole => simp [RowsFate.Reads,RowsFate.received,RowsFate.failed]
  | refused e => simp [RowsFate.Reads,RowsFate.received,RowsFate.failed]
  | broken n e =>
    simp only [RowsFate.Reads,RowsFate.received,RowsFate.failed,forall_const]
    omega

theorem responseRows_map (valid : db.Valid) : responseRows db id = (children db id).map (messageRow db) := by
  rw [responseRows,streamRows_map valid,List.filter_map]
  rfl

theorem arranged_length (valid : db.Valid) : (order.arrange (responseRows db id)).length = (children db id).length := by
  rw [(order.ordered _).perm.length_eq,responseRows_map valid,List.length_map]

-- The slice that the handler goes on with.
theorem getResponses_received (zone : Timestamptz → Int) (order : NewestFirst) (db : Database) (id : Uuid) (fate : RowsFate) :
     (Faulty.GetResponses zone order db id fate).1.getD [] =
    ((order.arrange (responseRows db id)).map (StreamRow.scan zone)).take
      (fate.received (order.arrange (responseRows db id)).length) := by
  cases fate with
  | whole => exact (List.take_of_length_le (List.length_map _).le).symm
  | refused e => rfl
  | broken n e => rfl

theorem getMessage_answered (valid : db.Valid) : Faulty.GetMessage zone order db faults idStr = .ok thread ↔
    ∃ id, Uuid.Parse idStr.toList = some id ∧ faults.message = none ∧ ∃ m ∈ db.messages, m.id = id ∧
      thread = ⟨view zone db m,(Faulty.GetResponses zone order db id faults.responses).1.getD []⟩ := by
  unfold Faulty.GetMessage
  cases Uuid.Parse idStr.toList with
  | none => simp
  | some id =>
    simp only [Option.some.injEq,exists_eq_left']
    rcases faults with ⟨_ | e,fate⟩
    · simp only [Faulty.GetMessageWithAgent,single_view valid]
      constructor
      · intro answered
        cases found : db.messages.find? (·.id = id) with
        | none => simp [found] at answered
        | some m =>
          simp only [found,Option.map_some,Except.ok.injEq] at answered
          exact ⟨trivial,m,List.mem_of_find?_eq_some found,by simpa using List.find?_some found,answered.symm⟩
      · rintro ⟨_,m,present,rfl,rfl⟩
        rw [find_row valid.messageIds present,Option.map_some]
    · cases e <;> simp [Faulty.GetMessageWithAgent]

-- The count of the first query and the rows of the second are the same messages.
theorem view_counts (m : MessageRow) : (view zone db m).responseCount = (children db m.id).length := by
  simp only [view,StreamRow.scan,messageRow,streamRow,children,List.count_eq_countP,List.countP_map,← List.countP_eq_length_filter]
  exact List.countP_congr fun q _ => by simp [Function.comp]

theorem arranged_views (valid : db.Valid) : ((order.arrange (responseRows db id)).map (StreamRow.scan zone)).Perm
    ((children db id).map (view zone db)) := by
  refine ((order.ordered (responseRows db id)).perm.map (StreamRow.scan zone)).trans (.of_eq ?_)
  rw [responseRows_map valid,List.map_map]
  rfl

theorem arranged_newest : ((order.arrange (responseRows db id)).map (StreamRow.scan zone)).Pairwise
    fun a b => b.createdAt.column ≤ a.createdAt.column := by
  rw [List.pairwise_map]
  refine (order.ordered (responseRows db id)).sorted.imp fun {a b} newer => ?_
  have instants : b.message.createdAt ≤ a.message.createdAt := newer
  simpa [StreamRow.scan,MessageRow.scan] using instants

theorem children_once (valid : db.Valid) : (((children db id).map (view zone db)).map fun m => m.id).Nodup := by
  rw [List.map_map]
  exact (valid.messageIds.sublist (List.filter_sublist.map MessageRow.id))

-- A thread is complete when all rows came in, and only then its count is right.
theorem complete_iff (valid : db.Valid) (own : m.id = id) (received : Nat) :
    CompleteThread zone db id ⟨view zone db m,((order.arrange (responseRows db id)).map (StreamRow.scan zone)).take received⟩ ↔
      (children db id).length ≤ received := by
  have count : (view zone db m).responseCount = (children db m.id).length := view_counts m
  rw [own] at count
  have total : ((order.arrange (responseRows db id)).map (StreamRow.scan zone)).length = (children db id).length := by
    rw [List.length_map,arranged_length valid]
  constructor
  · intro complete
    have counted := complete.counted
    simp only [List.length_take,total,count] at counted
    omega
  · intro all
    rw [List.take_of_length_le (total.trans_le all)]
    refine ⟨own,arranged_views valid,?_,arranged_newest,total.trans count.symm⟩
    exact ((arranged_views valid).map _).nodup_iff.mpr (children_once valid)

-- No thread with fewer messages than it counts, unless the read of the responses
-- fails on the way to the last of them.
theorem answers_threads_iff (valid : db.Valid) (zone : Timestamptz → Int) (order : NewestFirst) (faults : ThreadFaults)
    (idStr : String) : AnswersThreads zone order db faults idStr ↔
      ∀ m ∈ db.messages, Uuid.Parse idStr.toList = some m.id → faults.message = none →
        faults.responses.Reads (children db m.id).length := by
  have responses (id : Uuid) := getResponses_received zone order db id faults.responses
  simp only [arranged_length valid] at responses
  have nonempty (id : Uuid) (n : Nat) : ((order.arrange (responseRows db id)).map (StreamRow.scan zone)).take n ≠ [] ↔
      0 < min n (children db id).length := by
    rw [← List.length_pos_iff,List.length_take,List.length_map,arranged_length valid]
  constructor
  · intro answers m present parsed read
    obtain ⟨id,same,complete,failed⟩ := answers _ ((getMessage_answered valid).mpr ⟨m.id,parsed,read,m,present,rfl,rfl⟩)
    cases Option.some.inj (parsed.symm.trans same)
    simp only [responses] at complete failed
    rw [nonempty] at failed
    exact reads_iff.mpr ⟨(complete_iff valid rfl _).mp complete,failed⟩
  · intro reads thread answered
    obtain ⟨id,parsed,read,m,present,rfl,rfl⟩ := (getMessage_answered valid).mp answered
    obtain ⟨all,failed⟩ := reads_iff.mp (reads m present parsed read)
    refine ⟨m.id,parsed,?_,?_⟩
    · rw [responses]
      exact (complete_iff valid rfl _).mpr all
    · rw [responses,nonempty]
      exact failed

end

-- The sample's second message, which has one response.
def secondMessage : String := "00000000-0000-0000-0000-00000000000c"

theorem answers_threads_iff_sample : AnswersThreads (fun _ => 0) .stable .sample ⟨none,.whole⟩ secondMessage :=
  (answers_threads_iff Database.sample_valid _ _ _ _).mpr fun _ _ _ _ => trivial

theorem refused_read_empties_thread :
    ¬ AnswersThreads (fun _ => 0) .stable .sample ⟨none,.refused .failed⟩ secondMessage := by
  intro answers
  obtain ⟨thread,answered,empty,count⟩ : ∃ thread,
      Faulty.GetMessage (fun _ => 0) .stable .sample ⟨none,.refused .failed⟩ secondMessage = .ok thread ∧
        thread.responses = [] ∧ thread.responseCount = 1 := ⟨_,rfl,rfl,by decide⟩
  obtain ⟨_,_,complete,_⟩ := answers thread answered
  have counted := complete.counted
  rw [empty,count] at counted
  cases counted

end Trokk
