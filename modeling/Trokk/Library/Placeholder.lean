import Mathlib.Data.List.Basic

-- A statement with numbered placeholders, beside the list of its arguments.
namespace Placeholder
variable {C V : Type}

-- The placeholders of a statement are exactly $1 to $n for its n arguments; Postgres
-- refuses any other.
def LinesUp (used : List Nat) (args : List V) : Prop :=
  (∀ i ∈ used, i ∈ List.range' 1 args.length) ∧ ∀ i ∈ List.range' 1 args.length, i ∈ used

instance (used : List Nat) (args : List V) : Decidable (LinesUp used args) := inferInstanceAs (Decidable (_ ∧ _))

-- The argument that $i stands for.
def argument (args : List V) (i : Nat) : Option V := args[i-1]?

-- A list of assignments `column = $i` that grows together with the arguments.
structure Assembly (C V : Type) where
  sets : List (C × Nat)
  args : List V

namespace Assembly

def start : Assembly C V := ⟨[],[]⟩

-- The next placeholder is one more than the arguments so far.
def set (a : Assembly C V) (column : C) (value : V) : Assembly C V :=
  ⟨a.sets ++ [(column,a.args.length + 1)],a.args ++ [value]⟩

def setEach (a : Assembly C V) (fields : List (C × V)) : Assembly C V :=
  fields.foldl (fun a field => a.set field.1 field.2) a

structure Numbered (a : Assembly C V) : Prop where
  placeholders : a.sets.map Prod.snd = List.range' 1 a.args.length

theorem start_numbered : (start : Assembly C V).Numbered := ⟨rfl⟩

theorem set_numbered {a : Assembly C V} (numbered : a.Numbered) (column : C) (value : V) : (a.set column value).Numbered where
  placeholders := by
    rw [set,List.map_append,numbered.placeholders,List.length_append,List.length_singleton,List.range'_concat]
    simp [Nat.add_comm]

theorem setEach_numbered {a : Assembly C V} (numbered : a.Numbered) (fields : List (C × V)) : (a.setEach fields).Numbered := by
  induction fields generalizing a with
  | nil => exact numbered
  | cons field rest ih => exact ih (set_numbered numbered _ _)

theorem setEach_args (a : Assembly C V) (fields : List (C × V)) : (a.setEach fields).args = a.args ++ fields.map Prod.snd := by
  induction fields generalizing a with
  | nil => exact (List.append_nil _).symm
  | cons field rest ih =>
    refine (ih (a.set field.1 field.2)).trans ?_
    rw [set,List.append_assoc]
    rfl

-- The assignments with the values that their placeholders stand for.
def bound (a : Assembly C V) (more : List V) : List (C × Option V) :=
  a.sets.map fun (column,i) => (column,argument (a.args ++ more) i)

-- Arguments that are added later move none.
theorem bound_more {a : Assembly C V} (numbered : a.Numbered) (more : List V) : a.bound more = a.bound [] := by
  refine List.map_congr_left fun entry member => ?_
  obtain ⟨column,i⟩ := entry
  have there : i ∈ List.range' 1 a.args.length := by
    rw [← numbered.placeholders]
    exact List.mem_map_of_mem member
  obtain ⟨low,high⟩ := List.mem_range'_1.mp there
  have short : i - 1 < a.args.length := by omega
  have same : argument (a.args ++ more) i = argument a.args i := List.getElem?_append_left short
  rw [List.append_nil]
  exact congrArg (Prod.mk column) same

theorem set_bound {a : Assembly C V} (numbered : a.Numbered) (column : C) (value : V) :
    (a.set column value).bound [] = a.bound [] ++ [(column,some value)] := by
  rw [← bound_more numbered [value],bound,bound,set,List.map_append,List.append_nil]
  simp [argument]

-- Every value is bound to its own column.
theorem setEach_bound {a : Assembly C V} (numbered : a.Numbered) (fields : List (C × V)) :
    (a.setEach fields).bound [] = a.bound [] ++ fields.map fun (column,value) => (column,some value) := by
  induction fields generalizing a with
  | nil => exact (List.append_nil _).symm
  | cons field rest ih =>
    obtain ⟨column,value⟩ := field
    have own : (a.setEach ((column,value) :: rest)).bound [] = ((a.set column value).setEach rest).bound [] := rfl
    rw [own,ih (set_numbered numbered column value),set_bound numbered,List.append_assoc]
    rfl

-- One placeholder after them, for the argument that comes last.
theorem linesUp_last {a : Assembly C V} (numbered : a.Numbered) (last : V) :
    LinesUp (a.sets.map Prod.snd ++ [a.args.length + 1]) (a.args ++ [last]) := by
  unfold LinesUp
  rw [numbered.placeholders,List.length_append,List.length_singleton]
  constructor
  · intro i member
    rw [List.mem_append,List.mem_range'_1,List.mem_singleton] at member
    rw [List.mem_range'_1]
    omega
  · intro i member
    rw [List.mem_range'_1] at member
    rw [List.mem_append,List.mem_range'_1,List.mem_singleton]
    omega

theorem argument_last (args : List V) (last : V) : argument (args ++ [last]) (args.length + 1) = some last := by
  simp [argument]

end Assembly
end Placeholder
