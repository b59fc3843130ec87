import Mathlib.Data.Prod.Lex
import Trokk.Library.Keyset
import Trokk.Library.Relational
import Trokk.Model

-- The reads of internal/store/pg/messages.go.
namespace Trokk
open Relational

-- One row of the SELECT list that GetMessageWithAgent, ListMessages and
-- GetResponses share.
structure StreamRow where
  message : MessageRow
  username : String
  displayName : String
  endorsementCount : Nat
  propagationCount : Nat
  responseCount : Nat
  deriving DecidableEq, Repr

def MessageRow.scan (zone : Timestamptz → Int) (m : MessageRow) : Message :=
  ⟨m.id,m.agentId,m.content,m.parentMsgId,Time.scan zone m.createdAt⟩

def StreamRow.scan (zone : Timestamptz → Int) (row : StreamRow) : MessageWithAgent :=
  { row.message.scan zone with
    agentUsername := row.username
    agentDisplayName := row.displayName
    endorsementCount := row.endorsementCount
    propagationCount := row.propagationCount
    responseCount := row.responseCount }

-- FROM messages m JOIN agents a LEFT JOIN e LEFT JOIN p LEFT JOIN r, for one m.
def joinMessage (db : Database) (m : MessageRow) : List StreamRow :=
  let on := fun group : Option Uuid × Nat => decide (group.1 = some m.id)
  (db.agents.filter (fun a => a.id = m.agentId)).flatMap fun a =>
  (leftJoin on (groupCount (db.endorsements.map (some ·.messageId)))).flatMap fun e =>
  (leftJoin on (groupCount (db.propagations.map (some ·.messageId)))).flatMap fun p =>
  (leftJoin on (groupCount (db.messages.map (·.parentMsgId)))).map fun r =>
    ⟨m,a.username,a.displayName,coalesce e,coalesce p,coalesce r⟩

def streamRows (db : Database) : List StreamRow := db.messages.flatMap (joinMessage db)

def streamRow (db : Database) (m : MessageRow) (a : AgentRow) : StreamRow :=
  ⟨m,a.username,a.displayName,
   (db.endorsements.map (some ·.messageId)).count (some m.id),
   (db.propagations.map (some ·.messageId)).count (some m.id),
   (db.messages.map (·.parentMsgId)).count (some m.id)⟩

-- The author a join finds, for messages whose foreign key holds.
def author (db : Database) (m : MessageRow) : AgentRow :=
  (db.agents.find? (fun a => a.id = m.agentId)).getD default

def messageRow (db : Database) (m : MessageRow) : StreamRow := streamRow db m (author db m)

theorem author_unique (valid : db.Valid) (member : m ∈ db.messages) :
    author db m ∈ db.agents ∧ (author db m).id = m.agentId ∧
      db.agents.filter (fun a => a.id = m.agentId) = [author db m] := by
  obtain ⟨a,present,same⟩ := valid.authors m member
  have isAuthor : author db m = a := by
    rw [author,← same,find_row valid.agentIds present,Option.getD_some]
  rw [isAuthor,← same]
  exact ⟨present,rfl,filter_row valid.agentIds present⟩

-- The three groupings join one row each to every author that is found.
theorem joinMessage_authors (db : Database) (m : MessageRow) :
    joinMessage db m = (db.agents.filter fun a => a.id = m.agentId).map (streamRow db m) := by
  obtain ⟨e,joinE,countE⟩ := leftJoin_count (db.endorsements.map (some ·.messageId)) m.id
  obtain ⟨p,joinP,countP⟩ := leftJoin_count (db.propagations.map (some ·.messageId)) m.id
  obtain ⟨r,joinR,countR⟩ := leftJoin_count (db.messages.map (·.parentMsgId)) m.id
  simp only [joinMessage,joinE,joinP,joinR,List.flatMap_singleton,List.map_cons,List.map_nil,countE,countP,countR]
  exact List.map_eq_flatMap.symm

theorem joinMessage_one (valid : db.Valid) (member : m ∈ db.messages) :
    joinMessage db m = [messageRow db m] := by
  rw [joinMessage_authors,(author_unique valid member).2.2]
  rfl

theorem streamRows_map (valid : db.Valid) : streamRows db = db.messages.map (messageRow db) := by
  unfold streamRows
  rw [List.map_eq_flatMap]
  exact List.flatMap_congr fun m member => joinMessage_one valid member

-- The composite key of idx_messages_stream.
def MessageRow.key (m : MessageRow) : Timestamptz ×ₗ Uuid := toLex (m.createdAt,m.id)
def StreamRow.key (row : StreamRow) : Timestamptz ×ₗ Uuid := row.message.key
def Cursor.key (c : Cursor) : Timestamptz ×ₗ Uuid := toLex (c.createdAt.column,c.id)
def MessageWithAgent.key (m : MessageWithAgent) : Timestamptz ×ₗ Uuid := toLex (m.createdAt.column,m.id)

theorem keys_distinct {db : Database} (valid : db.Valid) : (db.messages.map MessageRow.key).Nodup := by
  refine List.Nodup.of_map (fun key : Timestamptz ×ₗ Uuid => (ofLex key).2) ?_
  rw [List.map_map]
  exact valid.messageIds

-- A bound argument, of the column type its placeholder stands for.
inductive Arg where
  | time (value : Timestamptz)
  | uuid (value : Uuid)
  | int (value : Nat)
  deriving DecidableEq, Repr

-- ListMessages assembles its text from these pieces; a number n is the
-- placeholder $n.
structure ListQuery where
  before : Option (Nat × Nat)  -- WHERE (m.created_at, m.id) < ($i, $j), else WHERE 1=1
  agent : Option Nat           -- AND m.agent_id = $i
  limit : Nat                  -- ORDER BY m.created_at DESC, m.id DESC LIMIT $i
  deriving DecidableEq, Repr

def listQuery (cursor : Option Cursor) (agentID : Option Uuid) (limit : Nat) : ListQuery × List Arg :=
  let (before,args) := match cursor with
    | some c => (some (1,2),[Arg.time c.createdAt.column,Arg.uuid c.id])
    | none => (none,[])
  let (agent,args) := match agentID with
    | some id =>
      if cursor.isSome then (some 3,args ++ [Arg.uuid id])
      else (some 1,args ++ [Arg.uuid id])
    | none => (none,args)
  if agentID.isSome && cursor.isSome then (⟨before,agent,4⟩,args ++ [.int (limit+1)])
  else if agentID.isSome then (⟨before,agent,2⟩,args ++ [.int (limit+1)])
  else if cursor.isSome then (⟨before,agent,3⟩,args ++ [.int (limit+1)])
  else (⟨before,agent,1⟩,args ++ [.int (limit+1)])

def ListQuery.placeholders (q : ListQuery) : List Nat :=
  (q.before.elim [] fun (i,j) => [i,j]) ++ q.agent.toList ++ [q.limit]

def timeArg (args : List Arg) (i : Nat) : Except PgError Timestamptz :=
  match args[i-1]? with
  | some (.time value) => .ok value
  | _ => .error .badParameters

def uuidArg (args : List Arg) (i : Nat) : Except PgError Uuid :=
  match args[i-1]? with
  | some (.uuid value) => .ok value
  | _ => .error .badParameters

def intArg (args : List Arg) (i : Nat) : Except PgError Nat :=
  match args[i-1]? with
  | some (.int value) => .ok value
  | _ => .error .badParameters

def MatchesAgent (agentID : Option Uuid) (m : MessageRow) : Prop := ∀ id ∈ agentID, m.agentId = id

instance (agentID : Option Uuid) : DecidablePred (MatchesAgent agentID) :=
  fun m => match agentID with
    | none => .isTrue (by simp [MatchesAgent])
    | some id => decidable_of_iff (m.agentId = id) (by simp [MatchesAgent])

-- Postgres refuses a statement whose placeholders are not exactly $1 to $n for
-- its n arguments, or stand where their argument's type does not fit.
def ListQuery.run (db : Database) (q : ListQuery) (args : List Arg) : Except PgError (List StreamRow) :=
  if (∀ i ∈ q.placeholders, i ∈ List.range' 1 args.length) ∧ ∀ i ∈ List.range' 1 args.length, i ∈ q.placeholders then do
    let before ← match q.before with
      | none => pure none
      | some (i,j) => do pure (some (toLex (← timeArg args i,← uuidArg args j)))
    let agent ← match q.agent with
      | none => pure none
      | some i => do pure (some (← uuidArg args i))
    let limit ← intArg args q.limit
    let rows := (streamRows db).filter fun row =>
      Keyset.Older StreamRow.key before row ∧ MatchesAgent agent row.message
    return (Keyset.newestFirst StreamRow.key rows).take limit
  else .error .badParameters

structure Page where
  messages : List MessageWithAgent
  nextCursor : Option Cursor
  hasMore : Bool
  deriving DecidableEq, Repr

def ListMessages (zone : Timestamptz → Int) (db : Database) (cursor : Option Cursor)
    (agentID : Option Uuid) (limit : Nat) : Except PgError Page := do
  let (query,args) := listQuery cursor agentID limit
  let rows ← query.run db args
  let messages := rows.map (StreamRow.scan zone)
  let hasMore := decide (limit < messages.length)
  let messages := if hasMore then messages.take limit else messages
  let nextCursor := messages.getLast?.map fun last => ⟨last.createdAt,last.id⟩
  return ⟨messages,nextCursor,hasMore⟩

-- WHERE m.id = $1; ErrNoRows becomes a nil message.
def GetMessageWithAgent (zone : Timestamptz → Int) (db : Database) (id : Uuid) : Option MessageWithAgent :=
  (((streamRows db).filter (·.message.id = id)).map (StreamRow.scan zone)).head?

-- WHERE m.parent_msg_id = $1 ORDER BY m.created_at DESC. Rows of one instant come
-- in any order; this is one of them.
def GetResponses (zone : Timestamptz → Int) (db : Database) (parentMsgID : Uuid) : List MessageWithAgent :=
  (((streamRows db).filter (·.message.parentMsgId = some parentMsgID)).insertionSort
    fun a b => b.message.createdAt ≤ a.message.createdAt).map (StreamRow.scan zone)

-- All four assembled texts run, and mean the same selection.
theorem listQuery_run (db : Database) (cursor : Option Cursor) (agentID : Option Uuid) (limit : Nat) :
    (listQuery cursor agentID limit).1.run db (listQuery cursor agentID limit).2 =
      .ok ((Keyset.newestFirst StreamRow.key ((streamRows db).filter fun row =>
        Keyset.Older StreamRow.key (cursor.map Cursor.key) row ∧
          MatchesAgent agentID row.message)).take (limit+1)) := by
  cases cursor <;> cases agentID <;> rfl

-- The rows that one call fetches, read off the messages table alone: one more
-- than the limit.
def fetched (db : Database) (cursor : Option Cursor) (agentID : Option Uuid) (limit : Nat) : List MessageRow :=
  (Keyset.newestFirst MessageRow.key ((db.messages.filter (MatchesAgent agentID ·)).filter
    (Keyset.Older MessageRow.key (cursor.map Cursor.key) ·))).take (limit+1)

theorem newestFirst_rows (db : Database) (rows : List MessageRow) :
    Keyset.newestFirst StreamRow.key (rows.map (messageRow db)) =
      (Keyset.newestFirst MessageRow.key rows).map (messageRow db) :=
  (List.map_insertionSort (r := fun a b : MessageRow => b.key ≤ a.key) (s := fun a b : StreamRow => b.key ≤ a.key)
    (messageRow db) rows fun _ _ _ _ => Iff.rfl).symm

-- Assembled text, joins, scan and truncation together: a page is its kept rows,
-- each seen through the joins of the current state.
theorem ListMessages_spec (valid : db.Valid) (zone : Timestamptz → Int) (cursor : Option Cursor)
    (agentID : Option Uuid) (limit : Nat) :
    let rows := fetched db cursor agentID limit
    ListMessages zone db cursor agentID limit = .ok
      ⟨(rows.take limit).map fun m => (messageRow db m).scan zone,
       (rows.take limit).getLast?.map fun m => ⟨Time.scan zone m.createdAt,m.id⟩,
       decide (limit < rows.length)⟩ := by
  intro rows
  have selected : (Keyset.newestFirst StreamRow.key ((streamRows db).filter fun row =>
      Keyset.Older StreamRow.key (cursor.map Cursor.key) row ∧
        MatchesAgent agentID row.message)).take (limit+1) = rows.map (messageRow db) := by
    rw [streamRows_map valid,List.filter_map]
    have same : db.messages.filter ((fun row => decide (Keyset.Older StreamRow.key (cursor.map Cursor.key) row ∧
        MatchesAgent agentID row.message)) ∘ messageRow db) = (db.messages.filter (MatchesAgent agentID ·)).filter
          (Keyset.Older MessageRow.key (cursor.map Cursor.key) ·) := by
      rw [List.filter_filter]
      refine List.filter_congr fun m _ => ?_
      rw [← Bool.decide_and]
      exact decide_eq_decide.mpr Iff.rfl
    rw [same,newestFirst_rows,← List.map_take]
    rfl
  have cut : (if decide (limit < rows.length) = true then (rows.map (fun m => (messageRow db m).scan zone)).take limit
      else rows.map (fun m => (messageRow db m).scan zone)) =
        (rows.take limit).map (fun m => (messageRow db m).scan zone) := by
    split
    · rw [List.map_take]
    · rename_i short
      rw [List.take_of_length_le (by simpa using short)]
  unfold ListMessages
  simp only [listQuery_run,selected,bind,Except.bind,pure,Except.pure,List.map_map,
    Function.comp_def,List.length_map,cut,List.getLast?_map,Option.map_map]
  rfl

end Trokk
