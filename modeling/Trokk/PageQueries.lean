import Trokk.Library.Placeholder
import Trokk.Library.Strconv
import Trokk.MessageQueries
import Trokk.Statements

-- The SELECT of a page of agents or of investigations, as internal/store/pg assembles
-- it, with its LIMIT and its OFFSET.
namespace Trokk
open Keyset Placeholder Relational Strconv

inductive SqlArg where
  | bool (b : Bool)
  | text (s : String)
  | int (n : Int)
  deriving DecidableEq

-- SELECT ... ORDER BY created_at DESC with the numbers of its LIMIT and OFFSET
-- placeholders. The WHERE clause, where there is one, compares a column to $1.
structure PageQuery where
  filtered : Bool
  limit : Nat
  offset : Nat
  args : List SqlArg

def PageQuery.used (q : PageQuery) : List Nat := (if q.filtered then [1] else []) ++ [q.limit,q.offset]

def SqlArg.storable : SqlArg → Bool
  | .text s => storableText s
  | _ => true

-- Rows of one instant come in any order; this is one of them. A NULL equals no argument,
-- and Postgres refuses a negative LIMIT or OFFSET.
def PageQuery.run [LinearOrder T] (q : PageQuery) (column : R → Option SqlArg) (created : R → T) (rows : List R) : Except PgError (List R) :=
  if ¬ LinesUp q.used q.args then .error .badParameters
  else if !q.args.all SqlArg.storable then .error .invalidText
  else match argument q.args q.limit,argument q.args q.offset with
  | some (.int limit),some (.int offset) =>
    if limit < 0 ∨ offset < 0 then .error .failed
    else .ok (window limit.toNat offset.toNat
      (newestFirst created (rows.filter fun r => !q.filtered || argument q.args 1 = column r)))
  | _,_ => .error .badParameters

-- The two shapes that the placeholders of a page query can have.
theorem two_lineUp (args : List SqlArg) (two : args.length = 2) : LinesUp [1,2] args := by
  unfold LinesUp
  rw [two]
  decide

theorem three_lineUp (args : List SqlArg) (three : args.length = 3) : LinesUp [1,2,3] args := by
  unfold LinesUp
  rw [three]
  decide

theorem run_window [LinearOrder T] {q : PageQuery} {limit offset : Nat} (linesUp : LinesUp q.used q.args)
    (storable : q.args.all SqlArg.storable = true) (isLimit : argument q.args q.limit = some (.int limit)) (isOffset : argument q.args q.offset = some (.int offset))
    (column : R → Option SqlArg) (created : R → T) (rows : List R) : q.run column created rows = .ok (window limit offset
      (newestFirst created (rows.filter fun r => !q.filtered || argument q.args 1 = column r))) := by
  have natural : ¬ ((limit : Int) < 0 ∨ (offset : Int) < 0) := by omega
  rw [PageQuery.run,if_neg (not_not_intro linesUp),if_neg (by simp [storable]),isLimit,isOffset]
  exact if_neg natural

-- (page - 1) * limit
def pageOffset (page limit : Int) : Int := int64 (int64 (page - 1) * limit)

-- internal/store/pg/agents.go
def agentsQuery (active : Option Bool) (page limit : Int) : PageQuery :=
  let offset := pageOffset page limit
  let args := (active.map SqlArg.bool).toList
  ⟨active.isSome,args.length + 1,args.length + 2,args ++ [.int limit,.int offset]⟩

-- Where the offset does not wrap, the rows are the page of its number.
theorem agents_read (db : Database) (active : Option Bool) {page limit : Nat} (exact : pageOffset page limit = ((page - 1) * limit : Nat)) :
    (agentsQuery active page limit).run (fun a : AgentRow => a.active.map SqlArg.bool) AgentRow.created db.agents =
      .ok (window limit ((page - 1) * limit) (newestFirst AgentRow.created (db.agents.filter fun a => ∀ b ∈ active, a.active = some b))) := by
  unfold agentsQuery
  rw [exact]
  cases active with
  | none =>
    refine (run_window (by exact two_lineUp _ rfl) rfl rfl rfl _ _ _).trans ?_
    congr 3
  | some b =>
    refine (run_window (by exact three_lineUp _ rfl) rfl rfl rfl _ _ _).trans ?_
    congr 3
    refine List.filter_congr fun a _ => ?_
    cases a.active <;> simp [argument,eq_comm]

end Trokk
