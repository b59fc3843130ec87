import Trokk.CursorRoundTrip
import Trokk.Library.Evolution
import Trokk.Library.Relational
import Trokk.MockStore
import Trokk.StreamCache

-- The mock store over whole runs: the requests are handled one by one, in whatever
-- order their pauses end.
namespace Trokk.Mock
open Evolution Relational

-- What a dot can stand for: the ids that a path can carry.
def Named (id : String) : Prop := id ≠ "" ∧ id.toList.all dot = true

theorem capture_iff {start stop path id : String} : capture start stop path = some id ↔ path = start ++ id ++ stop ∧ Named id := by
  have taken (group : List Char) : ((start.toList ++ group ++ stop.toList).drop start.length).take
      ((start.toList ++ group ++ stop.toList).length - start.length - stop.length) = group := by
    rw [List.append_assoc,← String.length_toList,List.drop_left,← String.length_toList]
    apply List.take_left'
    simp only [List.length_append]
    omega
  constructor
  · intro found
    simp only [capture] at found
    split at found
    · rename_i fits
      cases found
      obtain ⟨same,nonempty,dots⟩ := fits
      refine ⟨String.toList_inj.mp ?_,fun empty => nonempty ?_,?_⟩
      · simpa [String.toList_append] using same
      · simpa using congrArg String.toList empty
      · rw [String.toList_ofList]
        exact dots
    · cases found
  · intro fits
    obtain ⟨rfl,nonempty,dots⟩ := fits
    have chars : (start ++ id ++ stop).toList = start.toList ++ id.toList ++ stop.toList := by simp
    have some' : id.toList ≠ [] := fun empty => nonempty (by simpa using empty)
    simp only [capture,chars,taken]
    rw [if_pos ⟨trivial,some',dots⟩,String.ofList_toList]

theorem capture_self (start stop : String) {id : String} (named : Named id) : capture start stop (start ++ id ++ stop) = some id :=
  capture_iff.mpr ⟨rfl,named⟩

theorem capture_other {start stop path : String} (other : ¬ start.toList <+: path.toList) : capture start stop path = none := by
  cases found : capture start stop path with
  | none => rfl
  | some id =>
    obtain ⟨rfl,-⟩ := capture_iff.mp found
    exact absurd (by simp) other

-- Another start, of which neither begins with the other.
theorem capture_apart {start stop start' : String} (one : ¬ start.toList <+: start'.toList) (two : ¬ start'.toList <+: start.toList)
    (rest : String) : capture start stop (start' ++ rest) = none := by
  apply capture_other
  intro begins
  have own : start'.toList <+: (start' ++ rest).toList := by simp
  exact (List.prefix_or_prefix_of_prefix begins own).elim one two

theorem capture_unnamed (start : String) {id : String} (unnamed : ¬ Named id) (stop : String) : capture start stop (start ++ id ++ stop) = none := by
  cases found : capture start stop (start ++ id ++ stop) with
  | none => rfl
  | some other =>
    obtain ⟨same,named⟩ := capture_iff.mp found
    have texts : id = other := by
      have lists := congrArg String.toList same
      simp only [String.toList_append,List.append_assoc] at lists
      exact String.toList_inj.mp (List.append_cancel_right (List.append_cancel_left lists))
    exact absurd (texts ▸ named) unnamed

-- Another end, likewise.
theorem capture_ends {start stop stop' : String} (one : ¬ stop.toList <:+ stop'.toList) (two : ¬ stop'.toList <:+ stop.toList)
    (rest : String) : capture start stop (rest ++ stop') = none := by
  cases found : capture start stop (rest ++ stop') with
  | none => rfl
  | some id =>
    obtain ⟨same,-⟩ := capture_iff.mp found
    have first : stop.toList <:+ (rest ++ stop').toList := ⟨(start ++ id).toList,by simp [same]⟩
    have second : stop'.toList <:+ (rest ++ stop').toList := ⟨rest.toList,by simp⟩
    exact (List.suffix_or_suffix_of_suffix first second).elim (absurd · one) (absurd · two)

theorem starts_ne {start path : String} (other : ¬ start.toList <+: path.toList) (id : String) : start ++ id ≠ path := by
  rintro rfl
  exact other (by simp)

instance (id : String) : Decidable (Named id) := inferInstanceAs (Decidable (id ≠ "" ∧ id.toList.all dot = true))

theorem capture_rest (start id : String) : capture start "" (start ++ id) = if Named id then some id else none := by
  split
  · rename_i named
    simpa using capture_self start "" named
  · rename_i unnamed
    simpa using capture_unnamed start unnamed ""

theorem route_agent (id : String) : route ("/agents/" ++ id) .GET = if Named id then .agent id else .unknown := by
  simp only [route]
  rw [if_neg (starts_ne (by decide) id),if_neg (starts_ne (by decide) id),capture_rest]
  by_cases named : Named id
  · simp only [if_pos named]
  · simp only [if_neg named]
    rw [if_neg (starts_ne (by decide) id),capture_apart (by decide) (by decide)]
    dsimp only
    rw [if_neg (starts_ne (by decide) id),if_neg (starts_ne (by decide) id)]

theorem route_message (id : String) : route ("/messages/" ++ id) .GET = if Named id then .message id else .unknown := by
  simp only [route]
  rw [if_neg (starts_ne (by decide) id),if_neg (starts_ne (by decide) id),capture_apart (by decide) (by decide)]
  dsimp only
  rw [if_neg (starts_ne (by decide) id),capture_rest]
  by_cases named : Named id
  · simp only [if_pos named]
  · simp only [if_neg named]
    rw [if_neg (starts_ne (by decide) id),if_neg (starts_ne (by decide) id)]

theorem route_update (id : String) : route ("/agents/" ++ id) .PATCH = if Named id then .updateAgent id else .unknown := by
  simp only [route]
  rw [capture_rest]
  by_cases named : Named id
  · simp only [if_pos named]
  · simp only [if_neg named]

theorem route_tick (id : String) : route ("/control/tick/" ++ id) .POST = if Named id then .tick id else .unknown := by
  simp only [route]
  rw [if_neg (starts_ne (by decide) id),capture_apart (by decide) (by decide)]
  dsimp only
  rw [capture_apart (by decide) (by decide)]
  dsimp only
  rw [capture_rest]
  by_cases named : Named id
  · simp only [if_pos named]
  · simp only [if_neg named]
    rw [if_neg (starts_ne (by decide) id),if_neg (starts_ne (by decide) id)]

theorem route_endorse {path id : String} : route path .POST = .endorse id ↔ path = "/messages/" ++ id ++ "/endorse" ∧ Named id := by
  rw [← capture_iff]
  simp only [route]
  constructor
  · intro routed
    split at routed
    · cases routed
    · split at routed
      · rename_i found
        cases routed
        exact found
      · repeat' split at routed
        all_goals cases routed
  · intro found
    have other : path ≠ "/agents" := by
      rintro rfl
      rw [capture_other (by decide)] at found
      cases found
    rw [if_neg other,found]

theorem route_propagate {path id : String} : route path .POST = .propagate id ↔ path = "/messages/" ++ id ++ "/propagate" ∧ Named id := by
  rw [← capture_iff]
  simp only [route]
  constructor
  · intro routed
    split at routed
    · cases routed
    · split at routed
      · cases routed
      · split at routed
        · rename_i found
          cases routed
          exact found
        · repeat' split at routed
          all_goals cases routed
  · intro found
    have other : path ≠ "/agents" := by
      rintro rfl
      rw [capture_other (by decide)] at found
      cases found
    have none' : capture "/messages/" "/endorse" path = none := by
      rw [(capture_iff.mp found).1]
      exact capture_ends (by decide) (by decide) _
    rw [if_neg other,none',found]

-- Without a name in it the path means nothing.
theorem route_nameless {id stop : String} (unnamed : ¬ Named id) (ends : stop = "/endorse" ∨ stop = "/propagate") :
    route ("/messages/" ++ id ++ stop) .POST = .unknown := by
  have neither : capture "/messages/" "/endorse" ("/messages/" ++ id ++ stop) = none ∧
      capture "/messages/" "/propagate" ("/messages/" ++ id ++ stop) = none := by
    cases ends with
    | inl same =>
      subst same
      exact ⟨capture_unnamed _ unnamed _,capture_ends (by decide) (by decide) _⟩
    | inr same =>
      subst same
      exact ⟨capture_ends (by decide) (by decide) _,capture_unnamed _ unnamed _⟩
  simp only [route]
  rw [neither.1,neither.2,String.append_assoc,if_neg (starts_ne (by decide) _)]
  dsimp only
  rw [capture_apart (by decide) (by decide)]
  dsimp only
  rw [if_neg (starts_ne (by decide) _),if_neg (starts_ne (by decide) _)]

-- Which requests add to a count of the message.
def Endorses (id : String) (r : Request) : Bool := r.method = .POST ∧ r.path = "/messages/" ++ id ++ "/endorse"
def Propagates (id : String) (r : Request) : Bool := r.method = .POST ∧ r.path = "/messages/" ++ id ++ "/propagate"

theorem endorses_iff {id : String} (named : Named id) (r : Request) : Endorses id r = true ↔ route r.path r.method = .endorse id := by
  obtain ⟨method,path,body⟩ := r
  cases method with
  | POST => simp [Endorses,route_endorse,named]
  | PATCH =>
    simp only [Endorses,route]
    split <;> simp
  | GET =>
    simp only [Endorses,route]
    repeat' split
    all_goals simp
  | PUT => simp [Endorses]
  | DELETE => simp [Endorses]

theorem propagates_iff {id : String} (named : Named id) (r : Request) : Propagates id r = true ↔ route r.path r.method = .propagate id := by
  obtain ⟨method,path,body⟩ := r
  cases method with
  | POST => simp [Propagates,route_propagate,named]
  | PATCH =>
    simp only [Propagates,route]
    split <;> simp
  | GET =>
    simp only [Propagates,route]
    repeat' split
    all_goals simp
  | PUT => simp [Propagates]
  | DELETE => simp [Propagates]

theorem edit_map {A : Type} {key : A → String} {rows : List A} (distinct : (rows.map key).Nodup) (id : String) (change : A → A) :
    edit key id change rows = rows.map fun a => if key a = id then change a else a := by
  induction rows with
  | nil => rfl
  | cons a rest ih =>
    obtain ⟨fresh,later⟩ := List.nodup_cons.mp distinct
    rw [edit,List.map_cons]
    split
    · rename_i same
      refine congrArg _ ((List.map_id' rest).symm.trans (List.map_congr_left fun b member => ?_))
      rw [if_neg fun other => fresh (by rw [same,← other]; exact List.mem_map_of_mem member)]
    · rw [ih later]

structure Listed (store : Store) : Prop where
  ids : (store.messages.map MessageResponse.id).Nodup
  named : ∀ m ∈ store.messages, Named m.id

def counted (endorsements propagations : Nat) (m : MessageResponse) : MessageResponse :=
  {m with endorsement_count := m.endorsement_count + endorsements,propagation_count := m.propagation_count + propagations}

theorem counted_zero (m : MessageResponse) : counted 0 0 m = m := rfl

-- One request, whatever it asks for.
theorem request_messages {store : Store} (listed : Listed store) (env : Env) (r : Request) :
    (handleRequest env store r).2.messages = store.messages.map fun m =>
      counted (if Endorses m.id r then 1 else 0) (if Propagates m.id r then 1 else 0) m := by
  have ways : ∀ m ∈ store.messages, counted (if Endorses m.id r then 1 else 0) (if Propagates m.id r then 1 else 0) m =
      counted (if route r.path r.method = .endorse m.id then 1 else 0) (if route r.path r.method = .propagate m.id then 1 else 0) m := by
    intro m member
    simp only [endorses_iff (listed.named m member),propagates_iff (listed.named m member)]
  rw [List.map_congr_left ways]
  unfold handleRequest
  generalize route r.path r.method = way
  have untouched (way : Route) (apart : ∀ id, way ≠ .endorse id ∧ way ≠ .propagate id) : store.messages =
      store.messages.map fun m => counted (if way = .endorse m.id then 1 else 0) (if way = .propagate m.id then 1 else 0) m := by
    refine (List.map_id' _).symm.trans (List.map_congr_left fun m _ => ?_)
    rw [if_neg (apart m.id).1,if_neg (apart m.id).2,counted_zero]
  have missing (id : String) (absent : store.messages.find? (·.id = id) = none) (m : MessageResponse) (member : m ∈ store.messages) : id ≠ m.id := by
    intro same
    simpa [same] using List.find?_eq_none.mp absent m member
  cases way with
  | endorse id =>
    simp only [handle]
    cases found : store.messages.find? (·.id = id) with
    | none =>
      refine (List.map_id' _).symm.trans (List.map_congr_left fun m member => ?_)
      simp [missing id found m member,counted_zero]
    | some message =>
      rw [edit_map listed.ids]
      refine List.map_congr_left fun m _ => ?_
      simp only [Route.endorse.injEq,eq_comm (a := id),reduceCtorEq]
      split <;> rfl
  | propagate id =>
    simp only [handle]
    cases found : store.messages.find? (·.id = id) with
    | none =>
      refine (List.map_id' _).symm.trans (List.map_congr_left fun m member => ?_)
      simp [missing id found m member,counted_zero]
    | some message =>
      rw [edit_map listed.ids]
      refine List.map_congr_left fun m _ => ?_
      simp only [Route.propagate.injEq,eq_comm (a := id),reduceCtorEq]
      split <;> rfl
  | _ =>
    refine Eq.trans ?_ (untouched _ fun id => ⟨nofun,nofun⟩)
    simp only [handle]
    repeat' split
    all_goals rfl

theorem request_listed {store : Store} (listed : Listed store) (env : Env) (r : Request) : Listed (handleRequest env store r).2 := by
  refine ⟨?_,fun m member => ?_⟩
  · rw [request_messages listed,List.map_map]
    exact listed.ids
  · rw [request_messages listed] at member
    obtain ⟨old,there,rfl⟩ := List.mem_map.mp member
    exact listed.named old there

-- Every count is what it was, and one more for each request for it.
theorem run_messages {store : Store} (listed : Listed store) (requests : List (Env × Request)) : Listed (run store requests) ∧
    (run store requests).messages = store.messages.map fun m =>
      counted (requests.countP fun (_,r) => Endorses m.id r) (requests.countP fun (_,r) => Propagates m.id r) m := by
  induction requests generalizing store with
  | nil => exact ⟨listed,(List.map_id' _).symm⟩
  | cons first rest ih =>
    obtain ⟨env,r⟩ := first
    obtain ⟨still,later⟩ := ih (request_listed listed env r)
    refine ⟨still,later.trans ?_⟩
    rw [request_messages listed,List.map_map]
    refine List.map_congr_left fun m _ => ?_
    simp only [Function.comp_apply,counted,List.countP_cons,Nat.add_assoc,Nat.add_comm (if Endorses m.id r = true then 1 else 0),
      Nat.add_comm (if Propagates m.id r = true then 1 else 0)]

theorem seed_ids (env : Env) : (seed env).messages.map MessageResponse.id = ["msg-001","msg-002","msg-003","msg-004","msg-005","msg-006",
    "msg-007","msg-008","msg-009","msg-010","msg-011","msg-012","msg-013","msg-014","msg-015","msg-016","msg-017","msg-018","msg-019",
    "msg-020","msg-021"] := by
  rfl

theorem seed_listed (env : Env) : Listed (seed env) := by
  refine ⟨?_,fun m member => ?_⟩
  · rw [seed_ids]
    decide
  · have id := List.mem_map_of_mem (f := MessageResponse.id) member
    rw [seed_ids] at id
    exact (by decide : ∀ id ∈ ["msg-001","msg-002","msg-003","msg-004","msg-005","msg-006","msg-007","msg-008","msg-009","msg-010",
      "msg-011","msg-012","msg-013","msg-014","msg-015","msg-016","msg-017","msg-018","msg-019","msg-020","msg-021"],
        id ≠ "" ∧ id.toList.all dot = true) _ id

theorem seed_top (env : Env) (member : m ∈ (seed env).messages) : m.parent_msg_id = none := by
  have none' : (seed env).messages.map MessageResponse.parent_msg_id = List.replicate 21 none := rfl
  have parent := List.mem_map_of_mem (f := MessageResponse.parent_msg_id) member
  rw [none'] at parent
  exact List.eq_of_mem_replicate parent

-- What endorse and propagate requests add up to, and that no message ever has responses.
theorem counts_add_up (env : Env) (requests : List (Env × Request)) :
    (run (seed env) requests).messages = (seed env).messages.map (fun m =>
      counted (requests.countP fun (_,r) => Endorses m.id r) (requests.countP fun (_,r) => Propagates m.id r) m) ∧
    ∀ m ∈ (run (seed env) requests).messages, ∀ env', (handleRequest env' (run (seed env) requests) ⟨.GET,"/messages/" ++ m.id,none⟩).1 =
      .ok (.obj (m.members ++ [("responses",.arr [])])) := by
  obtain ⟨listed,messages⟩ := run_messages (seed_listed env) requests
  refine ⟨messages,fun m member env' => ?_⟩
  have top (m : MessageResponse) (member : m ∈ (run (seed env) requests).messages) : m.parent_msg_id = none := by
    rw [messages] at member
    obtain ⟨old,there,rfl⟩ := List.mem_map.mp member
    exact (seed_top env there : old.parent_msg_id = none)
  have alone : (run (seed env) requests).messages.filter (·.parent_msg_id = some m.id) = [] :=
    List.filter_eq_nil_iff.mpr fun other present => by simp [top other present]
  simp only [handleRequest,route_message,if_pos (listed.named m member),handle,find_row listed.ids member,alone,List.map_nil]

-- What no request changes of an agent.
structure Agent.Keeps (a b : Agent) : Prop where
  id : b.id = a.id
  username : b.username = a.username
  api_key : b.api_key = a.api_key
  created_at : b.created_at = a.created_at

theorem Agent.Keeps.refl (a : Agent) : a.Keeps a := ⟨rfl,rfl,rfl,rfl⟩
theorem Agent.Keeps.trans (a b c : Agent) (one : a.Keeps b) (two : b.Keeps c) : a.Keeps c where
  id := two.id.trans one.id
  username := two.username.trans one.username
  api_key := two.api_key.trans one.api_key
  created_at := two.created_at.trans one.created_at

-- The agents are a1, a2 and so on.
def Numbered (agents : List Agent) : Prop := ∀ (n : Nat) a, agents[n]? = some a → a.id = "a" ++ toString (n+1)

theorem numbered_distinct {agents : List Agent} (numbered : Numbered agents) : (agents.map Agent.id).Nodup := by
  rw [List.nodup_iff_getElem?_ne_getElem?]
  intro i j before bound same
  rw [List.length_map] at bound
  have first := numbered i _ (List.getElem?_eq_getElem (Nat.lt_trans before bound))
  have second := numbered j _ (List.getElem?_eq_getElem bound)
  rw [List.getElem?_map,List.getElem?_map,List.getElem?_eq_getElem (Nat.lt_trans before bound),List.getElem?_eq_getElem bound] at same
  have texts : "a" ++ toString (i+1) = "a" ++ toString (j+1) := first.symm.trans ((Option.some.inj same).trans second)
  have number := toString_injective (String.toList_inj.mp (List.append_cancel_left
    (by simpa only [String.toList_append] using congrArg String.toList texts)))
  omega

theorem dot_digit {c : Char} (digit : c.isDigit = true) : dot c = true := by
  have small : c.toNat ≤ 57 := by
    simp only [Char.isDigit,Bool.and_eq_true,decide_eq_true_eq] at digit
    exact digit.2
  have other {d : Char} (none' : d.isDigit = false) : c ≠ d := by
    rintro rfl
    rw [none'] at digit
    cases digit
  simp only [dot,Bool.and_eq_true,decide_eq_true_eq]
  exact ⟨⟨⟨other (by decide),other (by decide)⟩,by omega⟩,by omega⟩

theorem numbered_named {agents : List Agent} (numbered : Numbered agents) (member : a ∈ agents) : Named a.id := by
  obtain ⟨n,found⟩ := List.mem_iff_getElem?.mp member
  rw [numbered n a found]
  refine ⟨fun empty => by simpa using congrArg String.toList empty,?_⟩
  have digits : ∀ c ∈ Nat.toDigits 10 (n+1), dot c = true := fun c there =>
    dot_digit (Nat.isDigit_of_mem_toDigits (b := 10) (by decide) (by decide) there)
  rw [String.toList_append,List.all_append]
  simpa using ⟨(by decide : dot 'a' = true),digits⟩

theorem edit_evolves {A : Type} {R : A → A → Prop} (key : A → String) (id : String) {change : A → A} (refl : ∀ a, R a a)
    (changes : ∀ a, R a (change a)) (rows : List A) : Evolves R rows (edit key id change rows) := by
  induction rows with
  | nil => exact fun n a found => by cases found
  | cons first rest ih =>
    intro n a found
    rw [edit]
    cases n with
    | zero =>
      cases found
      split
      · exact ⟨_,rfl,changes first⟩
      · exact ⟨_,rfl,refl first⟩
    | succ n =>
      split
      · exact ⟨a,found,refl a⟩
      · exact ih n a found

theorem edit_length {A : Type} (key : A → String) (id : String) (change : A → A) (rows : List A) :
    (edit key id change rows).length = rows.length := by
  induction rows with
  | nil => rfl
  | cons first rest ih =>
    rw [edit]
    split
    · rfl
    · rw [List.length_cons,ih,List.length_cons]

-- One request changes no agent's identity, and a new agent takes the next number.
theorem request_agents (env : Env) (store : Store) (r : Request) : Evolves Agent.Keeps store.agents (handleRequest env store r).2.agents ∧
    (Numbered store.agents → Numbered (handleRequest env store r).2.agents) := by
  have kept {agents : List Agent} (evolves : Evolves Agent.Keeps store.agents agents) (same : agents.length = store.agents.length) :
      Evolves Agent.Keeps store.agents agents ∧ (Numbered store.agents → Numbered agents) := by
    refine ⟨evolves,fun numbered n b found => ?_⟩
    obtain ⟨bound,-⟩ := List.getElem?_eq_some_iff.mp found
    obtain ⟨b',found',keeps⟩ := evolves n _ (List.getElem?_eq_getElem (same ▸ bound))
    cases found.symm.trans found'
    rw [keeps.id]
    exact numbered n _ (List.getElem?_eq_getElem (same ▸ bound))
  have same := kept (evolves_refl Agent.Keeps.refl _) rfl
  unfold handleRequest
  generalize route r.path r.method = way
  cases way with
  | createAgent =>
    simp only [handle]
    split
    · exact same
    · refine ⟨evolves_append Agent.Keeps.refl _ _,fun numbered n a found => ?_⟩
      by_cases old : n < store.agents.length
      · rw [List.getElem?_append_left old] at found
        exact numbered n a found
      · obtain ⟨bound,-⟩ := List.getElem?_eq_some_iff.mp found
        rw [List.length_append,List.length_singleton] at bound
        have last : n = store.agents.length := by omega
        rw [last,List.getElem?_concat_length] at found
        cases found
        rw [last]
        rfl
  | updateAgent id =>
    simp only [handle]
    split
    · exact same
    · split
      · exact same
      · refine kept (edit_evolves Agent.id id Agent.Keeps.refl (fun a => ?_) _) (edit_length _ _ _ _)
        exact ⟨rfl,rfl,rfl,rfl⟩
  | pauseAll => exact kept (evolves_map fun a _ => ⟨rfl,rfl,rfl,rfl⟩) (List.length_map _)
  | resumeAll => exact kept (evolves_map fun a _ => ⟨rfl,rfl,rfl,rfl⟩) (List.length_map _)
  | _ =>
    simp only [handle]
    repeat' split
    all_goals exact same

theorem run_agents (requests : List (Env × Request)) (store : Store) : Evolves Agent.Keeps store.agents (run store requests).agents ∧
    (Numbered store.agents → Numbered (run store requests).agents) := by
  induction requests generalizing store with
  | nil => exact ⟨evolves_refl Agent.Keeps.refl _,fun numbered => numbered⟩
  | cons first rest ih =>
    obtain ⟨env,r⟩ := first
    obtain ⟨evolves,numbers⟩ := request_agents env store r
    obtain ⟨evolves',numbers'⟩ := ih (handleRequest env store r).2
    exact ⟨evolves.trans Agent.Keeps.trans evolves',numbers' ∘ numbers⟩

theorem seed_numbered (env : Env) : Numbered (seed env).agents := by
  have ids : seedAgents.map Agent.id = (List.range 8).map fun n => "a" ++ toString (n+1) := by decide
  intro n a found
  obtain ⟨bound,rfl⟩ := List.getElem?_eq_some_iff.mp found
  have eight : n < 8 := bound
  have same := congrArg (·[n]?) ids
  simp only [List.getElem?_map,List.getElem?_range eight,Option.map_some] at same
  rw [show seedAgents[n]? = some (seed env).agents[n] from found] at same
  exact Option.some.inj same

-- The agent that a request creates answers to its id in every later state, with the
-- name, the key and the date that it was created with; no other agent has the id.
theorem created_agent_kept (env : Env) (before : List (Env × Request)) (env' : Env) (req : AgentCreateRequest) (after : List (Env × Request)) :
    ∃ a store, handleRequest env' (run (seed env) before) ⟨.POST,"/agents",some (.create req)⟩ = (.ok (.obj (Agent.members a)),store) ∧
      a.username = some req.username ∧ ((run store after).agents.map Agent.id).Nodup ∧ ∃ b ∈ (run store after).agents, a.Keeps b ∧
        ∀ later, (handleRequest later (run store after) ⟨.GET,"/agents/" ++ a.id,none⟩).1 =
          .ok (.obj (b.members ++ [("stats",getAgentStats (run store after) a.id)])) := by
  have numbered := (run_agents before (seed env)).2 (seed_numbered env)
  generalize run (seed env) before = store at numbered
  refine ⟨newAgent env' store (.create req),{store with agents := store.agents ++ [newAgent env' store (.create req)]},rfl,rfl,?_⟩
  have created : handleRequest env' store ⟨.POST,"/agents",some (.create req)⟩ =
      (.ok (.obj (newAgent env' store (.create req)).members),{store with agents := store.agents ++ [newAgent env' store (.create req)]}) := rfl
  have numbered' := (request_agents env' store ⟨.POST,"/agents",some (.create req)⟩).2 numbered
  rw [created] at numbered'
  obtain ⟨evolves,numbers⟩ := run_agents after {store with agents := store.agents ++ [newAgent env' store (.create req)]}
  have last := numbers numbered'
  obtain ⟨b,member,keeps⟩ := evolves.mem (List.mem_append_right _ (List.mem_singleton_self (newAgent env' store (.create req))))
  refine ⟨numbered_distinct last,b,member,keeps,fun later => ?_⟩
  rw [← keeps.id]
  simp only [handleRequest,route_agent,if_pos (numbered_named last member),handle,find_row (numbered_distinct last) member]

end Trokk.Mock
