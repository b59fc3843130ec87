import Trokk.ConsensusAgent
import Trokk.Library.PythonText

-- The replies that generate_report reads: a JSON document between blanks, bare or
-- inside a code fence.
namespace Trokk
open Python (space strip loads starter closer)

-- What the blanks, the fence and its tag leave of a document.
structure Recovers (nesting : Nat) (w₁ w₂ w₃ w₄ d : List Char) (v : Json) : Prop where
  bare : replyData nesting (String.ofList (w₁ ++ d ++ w₄)) = .ok v
  fenced : replyData nesting (String.ofList (w₁ ++ (fence ++ (w₂ ++ d ++ w₃) ++ fence) ++ w₄)) = .ok v
  tagged : replyData nesting (String.ofList (w₁ ++ (fence ++ "json".toList ++ (w₂ ++ d ++ w₃) ++ fence) ++ w₄)) = .ok v
  itself : extract_json d = d

section
variable {nesting : Nat} {d w₁ w₂ w₃ w₄ : List Char}

theorem fence_strips (tag inner : List Char) : strip (fence ++ tag ++ inner ++ fence) = fence ++ tag ++ inner ++ fence := by
  have ticks := Python.strip_between (a := fence.head (by decide)) (b := fence.head (by decide)) (by decide) (by decide)
    (['`','`'] ++ tag ++ inner ++ ['`','`'])
  simpa [fence] using ticks

-- The blanks around a reply make no difference to either reading.
theorem reply_padded {text : List Char} (left : ∀ c ∈ w₁, space c = true) (right : ∀ c ∈ w₄, space c = true)
    (solid : strip text = text) : replyData nesting (String.ofList (w₁ ++ text ++ w₄)) = replyData nesting (String.ofList text) := by
  have stripped := Python.strip_padded left right solid
  simp only [replyData,String.toList_ofList,extract_json,stripped,solid]

-- Neither a blank nor a document begins with a backtick or with the tag.
theorem padded_head (w₃ : List Char) (loaded : loads nesting d = .ok v) (solid : strip d = d)
    (left : ∀ c ∈ w₂, space c = true) : ∃ c rest, w₂ ++ d ++ w₃ = c :: rest ∧ c ≠ '`' ∧ c ≠ 'j' := by
  cases w₂ with
  | cons c rest =>
    have own := left c List.mem_cons_self
    refine ⟨c,rest ++ d ++ w₃,rfl,?_,?_⟩ <;> rintro rfl <;> revert own <;> decide
  | nil =>
    obtain ⟨⟨c,rest,rfl,starts⟩,_⟩ := Python.loads_ends loaded solid
    refine ⟨c,rest ++ w₃,rfl,?_,?_⟩ <;> rintro rfl <;> revert starts <;> decide

theorem not_fence (rest : List Char) (other : c ≠ '`') : ¬ fence <+: c :: rest := by
  rintro ⟨more,same⟩
  exact other (List.cons.inj same).1.symm

theorem not_tagged (rest : List Char) (other : c ≠ 'j') : ¬ fence ++ "json".toList <+: fence ++ c :: rest := by
  rw [List.prefix_append_right_inj]
  rintro ⟨more,same⟩
  exact other (List.cons.inj same).1.symm

-- The opening fence goes with its tag or without, and nothing else does.
theorem opening_dropped (tag inner : List Char) (known : tag = [] ∨ tag = "json".toList)
    (other : ∃ c rest, inner = c :: rest ∧ c ≠ '`' ∧ c ≠ 'j') :
    Python.dropStart fence (Python.dropStart (fence ++ "json".toList) (fence ++ tag ++ inner)) = inner := by
  obtain ⟨c,rest,rfl,tick,letter⟩ := other
  rcases known with rfl | rfl
  · rw [List.append_nil,Python.dropStart_other (not_tagged rest letter),Python.dropStart_own]
  · rw [Python.dropStart_own,Python.dropStart_other (not_fence rest tick)]

theorem extract_fenced (loaded : loads nesting d = .ok v) (solid : strip d = d) (left : ∀ c ∈ w₂, space c = true)
    (right : ∀ c ∈ w₃, space c = true) (known : tag = [] ∨ tag = "json".toList) :
    extract_json (fence ++ tag ++ (w₂ ++ d ++ w₃) ++ fence) = d := by
  obtain ⟨c,rest,head,tick,letter⟩ := padded_head w₃ loaded solid left
  have opened : Python.dropStart fence (Python.dropStart (fence ++ "json".toList)
      (fence ++ tag ++ (w₂ ++ d ++ w₃) ++ fence)) = w₂ ++ d ++ w₃ ++ fence := by
    rw [List.append_assoc (fence ++ tag)]
    exact opening_dropped tag _ known ⟨c,rest ++ fence,by rw [head,List.cons_append],tick,letter⟩
  rw [extract_json,fence_strips,opened,Python.dropEnd_own]
  exact Python.strip_padded left right solid

theorem extract_document (loaded : loads nesting d = .ok v) (solid : strip d = d) : extract_json d = d := by
  obtain ⟨⟨c,rest,same,starts⟩,front,last,ends,closes⟩ := Python.loads_ends loaded solid
  have tick : c ≠ '`' := by
    rintro rfl
    revert starts
    decide
  have noStart (tag : List Char) : ¬ fence ++ tag <+: d := by
    rintro ⟨more,whole⟩
    rw [same] at whole
    exact tick (List.cons.inj whole).1.symm
  have noEnd : ¬ fence <:+ d := by
    rintro ⟨more,whole⟩
    rw [ends] at whole
    have lasts := congrArg List.getLast? whole
    simp [fence] at lasts
    subst lasts
    revert closes
    decide
  rw [extract_json,solid,Python.dropStart_other (noStart _),Python.dropStart_other (by simpa using noStart []),
    Python.dropEnd_other noEnd,solid]

theorem reply_document (loaded : loads nesting d = .ok v) (solid : strip d = d) : replyData nesting (String.ofList d) = .ok v := by
  simp only [replyData,String.toList_ofList,solid,loaded]

-- A fenced reply is no JSON, so it is read again without its fence.
theorem reply_fenced (loaded : loads nesting d = .ok v) (solid : strip d = d) (left : ∀ c ∈ w₂, space c = true)
    (right : ∀ c ∈ w₃, space c = true) (known : tag = [] ∨ tag = "json".toList) :
    replyData nesting (String.ofList (fence ++ tag ++ (w₂ ++ d ++ w₃) ++ fence)) = .ok v := by
  have extracted := extract_fenced loaded solid left right known
  have refused : loads nesting (fence ++ tag ++ (w₂ ++ d ++ w₃) ++ fence) = .error .decode :=
    Python.loads_start (by decide) (by decide)
  simp only [replyData,String.toList_ofList,extracted,fence_strips,refused,loaded]
  rfl

theorem recovers_loaded (loaded : loads nesting d = .ok v) (solid : strip d = d)
    (blanks : ∀ w ∈ [w₁,w₂,w₃,w₄], ∀ c ∈ w, space c = true) : Recovers nesting w₁ w₂ w₃ w₄ d v := by
  simp only [List.forall_mem_cons] at blanks
  obtain ⟨first,second,third,fourth,_⟩ := blanks
  have fenced (tag : List Char) (known : tag = [] ∨ tag = "json".toList) :
      replyData nesting (String.ofList (w₁ ++ (fence ++ tag ++ (w₂ ++ d ++ w₃) ++ fence) ++ w₄)) = .ok v :=
    (reply_padded first fourth (fence_strips tag _)).trans (reply_fenced loaded solid second third known)
  refine ⟨?_,by simpa using fenced [] (.inl rfl),fenced _ (.inr rfl),extract_document loaded solid⟩
  exact (reply_padded first fourth solid).trans (reply_document loaded solid)

-- What stops the scanner is no JSONDecodeError, so the reply is not read a second time.
theorem reply_stopped {failure : Python.Failure} (document : JsonText.parse depth d = some tree) (solid : strip d = d)
    (stopped : Python.trouble nesting tree = some failure) : replyData nesting (String.ofList d) = .error (raised failure) := by
  have loaded := Python.loads_document nesting document
  rw [stopped,Python.outcome] at loaded
  have fatal : failure ≠ .decode := by
    rintro rfl
    exact Python.trouble_fatal nesting tree stopped
  simp only [replyData,String.toList_ofList,solid,loaded]

theorem recovers_untroubled (document : JsonText.parse depth d = some tree) (solid : strip d = d)
    (blanks : ∀ w ∈ [w₁,w₂,w₃,w₄], ∀ c ∈ w, space c = true) (recovers : Recovers nesting w₁ w₂ w₃ w₄ d (Python.meaning tree)) :
    Python.trouble nesting tree = none := by
  simp only [List.forall_mem_cons] at blanks
  have bare := recovers.bare
  rw [reply_padded blanks.1 blanks.2.2.2.1 solid] at bare
  cases stopped : Python.trouble nesting tree with
  | none => rfl
  | some failure =>
    rw [reply_stopped document solid stopped] at bare
    cases bare

-- Every document of the grammar comes back as its value, unless int() refuses one of
-- its integers or the interpreter its nesting: neither is a JSONDecodeError, and both raise.
theorem fences_stripped (document : JsonText.parse depth d = some tree) (solid : strip d = d)
    (blanks : ∀ w ∈ [w₁,w₂,w₃,w₄], ∀ c ∈ w, space c = true) :
    Recovers nesting w₁ w₂ w₃ w₄ d (Python.meaning tree) ↔ Python.short tree = true ∧ Python.nesting tree ≤ nesting := by
  rw [← Python.trouble_none]
  constructor
  · exact recovers_untroubled document solid blanks
  · intro untroubled
    have loaded := Python.loads_document nesting document
    rw [untroubled] at loaded
    exact recovers_loaded loaded solid blanks

end

-- A document with a fence of its own.
def fencing : List Char := ['[','"','`','`','`','"',',','4',']']

def fencingTree : JsonText.Tree := .arr [.str ['`','`','`'],.num ['4']]

theorem fences_stripped_sample : Recovers 900 [' '] ['\n'] [] ['\n','\n'] fencing (Python.meaning fencingTree) := by
  have document : JsonText.parse 1 fencing = some fencingTree := rfl
  have blanks : ∀ w ∈ [[' '],['\n'],[],['\n','\n']], ∀ c ∈ w, space c = true := by
    have gap : space ' ' = true ∧ space '\n' = true := by decide
    simp [gap]
  exact (fences_stripped document (by decide) blanks).mpr (by decide)

def ones (n : Nat) : List Char := List.replicate n '1'

theorem ones_digits (n : Nat) : ∀ c ∈ ones n, c.isDigit = true := by
  intro c member
  rw [List.eq_of_mem_replicate member]
  decide

theorem ones_number (n : Nat) : JsonText.number (ones (n+1)) = some (ones (n+1),[]) := by
  have digits : JsonText.takeDigits (ones (n+1)) = (ones (n+1),[]) := by
    simp only [JsonText.takeDigits,List.takeWhile_eq_self_iff.mpr (ones_digits _),List.dropWhile_eq_nil_iff.mpr (ones_digits _)]
  have unsigned : JsonText.takeMinus (ones (n+1)) = ([],ones (n+1)) := rfl
  have first : (ones (n+1)).head? = some '1' := rfl
  have some' : ones (n+1) ≠ [] := List.cons_ne_nil _ _
  simp [JsonText.number,unsigned,digits,first,some',JsonText.fraction,JsonText.exponent]

theorem ones_document (n : Nat) : JsonText.parse depth (ones (n+1)) = some (.num (ones (n+1))) := by
  have number := ones_number n
  have opened : JsonText.skip (ones (n+1)) = ones (n+1) := JsonText.skip_solid (by decide) _
  have read : JsonText.value (2 * (ones (n+1)).length + 1) depth (ones (n+1)) = some (.num (ones (n+1)),[]) := by
    simp only [ones,List.replicate_succ] at number ⊢
    simp [JsonText.value,number]
  rw [JsonText.parse,opened,read]
  rfl

theorem ones_solid (n : Nat) : strip (ones (n+1)) = ones (n+1) := by
  have solid : ∀ c ∈ ones (n+1), ¬ space c = true := by
    intro c member
    rw [List.eq_of_mem_replicate member]
    decide
  have starts : (ones (n+1)).dropWhile space = ones (n+1) :=
    List.dropWhile_eq_self_iff.mpr fun _ => solid _ (List.getElem_mem _)
  rw [strip,starts]
  exact List.rdropWhile_eq_self_iff.mpr fun some' => solid _ (List.getLast_mem some')

theorem ones_short (n : Nat) : Python.short (.num (ones n)) = decide (n ≤ Python.maxDigits) := by
  have integer : (ones n).all (fun c => c = '-' || c.isDigit) = true :=
    List.all_eq_true.mpr fun c member => by simp [ones_digits n c member]
  have digits : (ones n).filter Char.isDigit = ones n := List.filter_eq_self.mpr (ones_digits n)
  rw [Python.short,Python.long,Python.integer,integer,digits,ones,List.length_replicate]
  by_cases few : n ≤ Python.maxDigits
  · simp [few]
  · simp [few,Nat.lt_of_not_le few]

-- One digit more than int() takes.
theorem long_integer_raises : ¬ ∀ w₁ w₂ w₃ w₄ d depth tree, JsonText.parse depth d = some tree → strip d = d →
    (∀ w ∈ [w₁,w₂,w₃,w₄], ∀ c ∈ w, space c = true) → Recovers 900 w₁ w₂ w₃ w₄ d (Python.meaning tree) := by
  intro always
  obtain ⟨n,long⟩ : ∃ n, n = Python.maxDigits := ⟨_,rfl⟩
  have blanks : ∀ w ∈ [([] : List Char),[],[],[]], ∀ c ∈ w, space c = true := by simp
  have document : JsonText.parse 0 (ones (n+1)) = some (.num (ones (n+1))) := ones_document n
  have recovers := always [] [] [] [] (ones (n+1)) 0 _ document (ones_solid n) blanks
  obtain ⟨short,-⟩ := (Python.trouble_none _ _).mp (recovers_untroubled document (ones_solid n) blanks recovers)
  rw [ones_short,long] at short
  exact Nat.not_succ_le_self _ (of_decide_eq_true short)

end Trokk
