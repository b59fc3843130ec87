import Mathlib.Logic.Relation
import Trokk.ClientTypes
import Trokk.PartialUpdates
import Trokk.PausedVoices

-- ferr/src/app/settings/page.tsx beside the API: the flags that the page shows, while its
-- requests and their answers are under way in any order.
namespace Trokk

-- What the list holds: an agent, or the body that came with a refused POST. That has no
-- id, and a flag only once its button was pressed.
inductive Entry where
  | agent (a : Agent)
  | error (error : String) (active : Option Bool)
  deriving DecidableEq

def Entry.id : Entry → Option Uuid
  | .agent a => some a.id
  | .error _ _ => none

def Entry.active : Entry → Bool
  | .agent a => a.active
  | .error _ active => active.getD false

def Entry.setActive (active : Bool) : Entry → Entry
  | .agent a => .agent {a with active := active}
  | .error text _ => .error text (some active)

-- A PATCH of toggleActive, and whether the API has carried it out or refused it.
structure Toggle where
  id : Option Uuid
  active : Bool
  handled : Option Bool
  deriving DecidableEq

-- What the page learns of a PATCH: that it was carried out, that it was refused, or
-- nothing, for the connection broke.
inductive PatchOutcome where
  | carriedOut
  | refused
  | unanswered (carriedOut : Bool)
  deriving DecidableEq

-- The request of the page's effect; `loading` until its answer is there.
inductive Loading where
  | sent
  | handled (agents : List Agent)
  | shown

-- `creating` is the POST under way, with the stored agent once there is one. `ended` is
-- history that nothing reads.
structure Settings where
  db : Database
  agents : List Entry
  listing : Loading
  creating : Option (Option Agent)
  toggles : List Toggle
  ended : List (Option Uuid × PatchOutcome)

def Settings.mounted (db : Database) : Settings := ⟨db,[],.sent,none,[],[]⟩

-- setAgents((prev) => prev.map(..)), once the answer to the PATCH is there.
def flip (t : Toggle) (e : Entry) : Entry := if e.id = t.id then e.setActive t.active else e

-- data.agents || []
def listedAgents (zone : Timestamptz → Int) (db : Database) : List Agent :=
  match ListAgents zone db none 1 20 with
  | .ok (agents,_) => agents
  | .error _ => []

-- The page looks at no status: it flips the switch for a refusal too, appends whatever
-- body a POST got, and lists nobody after a list that failed.
inductive SettingsStep (zone : Timestamptz → Int) (s : Settings) : Settings → Prop where
  | lists : s.listing = .sent → SettingsStep zone s {s with listing := .handled (listedAgents zone s.db)}
  | fails : s.listing = .sent → SettingsStep zone s {s with listing := .handled []}
  | listed : s.listing = .handled agents → SettingsStep zone s {s with listing := .shown,agents := agents.map .agent}
  | unlisted : s.listing ≠ .shown → SettingsStep zone s {s with listing := .shown}
  | createAgent : s.creating = none → SettingsStep zone s {s with creating := some none}
  | creates : s.creating = some none → perform c s.db session (.insertAgent req apiKey) = .ok (row,db',session') →
      row.scan zone = .ok a → SettingsStep zone s {s with db := db',creating := some (some {a with apiKey := row.apiKey})}
  | created : s.creating = some (some a) → SettingsStep zone s {s with creating := none,agents := s.agents ++ [.agent a]}
  | uncreated : s.creating = some made → SettingsStep zone s {s with creating := none}
  | refused : s.creating = some made → SettingsStep zone s {s with creating := none,agents := s.agents ++ [.error error none]}
  | toggleActive : s.listing = .shown → e ∈ s.agents →
      SettingsStep zone s {s with toggles := s.toggles ++ [⟨e.id,!e.active,none⟩]}
  -- agents/undefined is refused.
  | updates : s.toggles = before ++ t :: after → t.handled = none → t.id = some target → SettingsStep zone s
      {s with db := (Store.UpdateAgent zone s.db target ⟨none,none,none,some t.active⟩).2
              toggles := before ++ {t with handled := some true} :: after}
  | refuses : s.toggles = before ++ t :: after → t.handled = none →
      SettingsStep zone s {s with toggles := before ++ {t with handled := some false} :: after}
  | updated : s.toggles = before ++ t :: after → t.handled = some done → SettingsStep zone s
      {s with toggles := before ++ after,agents := s.agents.map (flip t),ended := s.ended ++ [(t.id,if done then .carriedOut else .refused)]}
  | broken : s.toggles = before ++ t :: after → SettingsStep zone s
      {s with toggles := before ++ after,ended := s.ended ++ [(t.id,.unanswered (t.handled = some true))]}
  -- Others may do anything but switch an agent.
  | elsewhere : (db'.agents.map AgentRow.id).Nodup →
      (∀ row ∈ s.db.agents, ∃ kept ∈ db'.agents, kept.id = row.id ∧ kept.active = row.active) → SettingsStep zone s {s with db := db'}

-- The agents about which an answer of the API is under way or a PATCH is.
def Settings.busy (s : Settings) : List Uuid := (s.creating.bind id).toList.map Agent.id ++ s.toggles.filterMap Toggle.id

-- The run of somebody who leaves an agent alone until the last answer about it is there.
def Settings.Runs (zone : Timestamptz → Int) : Settings → Settings → Prop :=
  Relation.ReflTransGen fun s s' => SettingsStep zone s s' ∧ s'.busy.Nodup

-- A refusal puts the switch wrong, or right again; a PATCH that was carried out
-- without an answer leaves it wrong.
def misleads (wrong : Bool) : PatchOutcome → Bool
  | .carriedOut => false
  | .refused => !wrong
  | .unanswered carriedOut => wrong || carriedOut

def Settings.wrong (s : Settings) (id : Uuid) : Bool := ((s.ended.filter (·.1 = some id)).map Prod.snd).foldl misleads false

structure Synced (s : Settings) : Prop where
  ids : (s.db.agents.map AgentRow.id).Nodup
  alone : s.busy.Nodup
  quiet : s.listing ≠ .shown → s.toggles = [] ∧ s.ended = []
  known : ∀ e ∈ s.ended, ∀ target, e.1 = some target → ∃ row ∈ s.db.agents, row.id = target
  listed : ∀ agents, s.listing = .handled agents → ∀ a ∈ agents, s.db.flagged a.id a.active
  created : ∀ a, s.creating = some (some a) → s.wrong a.id = false ∧ s.db.flagged a.id a.active
  -- While a PATCH is under way the switch shows what it had.
  showing : ∀ t ∈ s.toggles, ∀ a, .agent a ∈ s.agents → t.id = some a.id → a.active = !t.active
  sent : ∀ t ∈ s.toggles, ∀ target, t.id = some target →
    s.db.flagged target (if t.handled = some true then t.active else (!t.active).xor (s.wrong target))
  shown : ∀ a, .agent a ∈ s.agents → (∀ t ∈ s.toggles, t.id ≠ some a.id) → s.db.flagged a.id (a.active.xor (s.wrong a.id))

theorem flagged_own {db : Database} {row : AgentRow} (ids : (db.agents.map AgentRow.id).Nodup) (member : row ∈ db.agents)
    (flag : row.active = some active) : db.flagged row.id active :=
  ⟨⟨row,member,rfl⟩,fun other there same => by rw [List.inj_on_of_nodup_map ids there member same,flag]⟩

theorem flagged_only {db : Database} (flagged : db.flagged target active) (again : db.flagged target other) : active = other := by
  obtain ⟨⟨row,member,same⟩,all⟩ := flagged
  exact Option.some.inj ((all row member same).symm.trans (again.2 row member same))

theorem flagged_kept {db db' : Database} (ids : (db'.agents.map AgentRow.id).Nodup)
    (kept : ∀ row ∈ db.agents, ∃ own ∈ db'.agents, own.id = row.id ∧ own.active = row.active) (flagged : db.flagged target active) :
    db'.flagged target active := by
  obtain ⟨⟨row,member,same⟩,all⟩ := flagged
  obtain ⟨own,there,ownId,ownActive⟩ := kept row member
  have present := flagged_own ids there (ownActive.trans (all row member same))
  rwa [ownId,same] at present

theorem scan_agent {row : AgentRow} {a : Agent} (scans : row.scan zone = .ok a) : a.id = row.id ∧ row.active = some a.active := by
  unfold AgentRow.scan at scans
  split at scans
  · cases scans
    exact ⟨rfl,by assumption⟩
  · cases scans

theorem listed_row (member : a ∈ listedAgents zone db) : ∃ row ∈ db.agents, a.id = row.id ∧ row.active = some a.active := by
  unfold listedAgents at member
  split at member
  · rename_i agents total listed
    obtain ⟨n,at',rfl⟩ := List.getElem_of_mem member
    have rows := newest_listed listed
    have scans := rows.get (by rw [rows.length_eq]; exact at') at'
    exact ⟨_,(List.mem_insertionSort _).mp (List.mem_of_mem_take (List.get_mem _ _)),scan_agent scans⟩
  · cases member

-- Setting one agent's flag leaves the others' as they are.
theorem switched_agents (zone : Timestamptz → Int) (db : Database) (target : Uuid) (active : Bool) :
    (Store.UpdateAgent zone db target ⟨none,none,none,some active⟩).2.agents =
      db.agents.map fun b => if b.id = target then {b with active := some active} else b := by
  rw [updated_agents zone db target rfl]
  rfl

theorem flagged_switched (zone : Timestamptz → Int) {db : Database} (target : Uuid) (active : Bool) (flagged : db.flagged other old) :
    (Store.UpdateAgent zone db target ⟨none,none,none,some active⟩).2.flagged other (if other = target then active else old) := by
  obtain ⟨⟨row,member,same⟩,all⟩ := flagged
  unfold Database.flagged
  rw [switched_agents]
  refine ⟨⟨_,List.mem_map_of_mem member,by split <;> exact same⟩,fun edited there own => ?_⟩
  obtain ⟨b,present,rfl⟩ := List.mem_map.mp there
  by_cases hit : b.id = target
  · rw [if_pos hit] at own ⊢
    rw [if_pos (own.symm.trans hit)]
  · rw [if_neg hit] at own ⊢
    rw [if_neg (own ▸ hit)]
    exact all b present own

theorem creating_alone {s : Settings} (alone : s.busy.Nodup) (creating : s.creating = some (some a)) (member : t ∈ s.toggles) :
    t.id ≠ some a.id := by
  rw [Settings.busy,creating] at alone
  exact fun same => (List.nodup_append.mp alone).2.2 a.id (List.mem_singleton_self _) a.id (List.mem_filterMap.mpr ⟨t,member,same⟩) rfl

theorem toggles_alone {s : Settings} (alone : s.busy.Nodup) (toggles : s.toggles = before ++ t :: after) (own : t.id = some target)
    (other : u ∈ before ++ after) : u.id ≠ some target := by
  have ids := (List.nodup_append.mp alone).2.1
  rw [toggles,List.filterMap_append,List.filterMap_cons_some own,List.nodup_middle,← List.filterMap_append] at ids
  exact fun same => (List.nodup_cons.mp ids).1 (List.mem_filterMap.mpr ⟨u,other,same⟩)

theorem mem_middle {before after : List Toggle} (member : u ∈ before ++ t :: after) : u = t ∨ u ∈ before ++ after := by
  simp only [List.mem_append,List.mem_cons] at member ⊢
  tauto

theorem middle_mem {before after : List Toggle} (member : u ∈ before ++ after) : u ∈ before ++ t :: after := by
  simp only [List.mem_append,List.mem_cons] at member ⊢
  tauto

theorem wrong_own {s s' : Settings} (ended : s'.ended = s.ended ++ [(some target,outcome)]) :
    s'.wrong target = misleads (s.wrong target) outcome := by
  simp [Settings.wrong,ended]

theorem wrong_other {s s' : Settings} (ended : s'.ended = s.ended ++ [(about,outcome)]) (apart : about ≠ some other) :
    s'.wrong other = s.wrong other := by
  simp [Settings.wrong,ended,apart]

-- No PATCH ended before the list was there.
theorem loading_right {s : Settings} (synced : Synced s) (loading : s.listing ≠ .shown) (target : Uuid) : s.wrong target = false := by
  simp [Settings.wrong,(synced.quiet loading).2]

-- Agents are added, and none is switched.
theorem added_synced {s : Settings} (synced : Synced s) (db' : Database) (ids : (db'.agents.map AgentRow.id).Nodup)
    (kept : ∀ row ∈ s.db.agents, ∃ own ∈ db'.agents, own.id = row.id ∧ own.active = row.active) : Synced {s with db := db'} := by
  refine ⟨ids,synced.alone,synced.quiet,fun e member target named => ?_,
    fun agents same a member => flagged_kept ids kept (synced.listed agents same a member),
    fun a creating => ⟨(synced.created a creating).1,flagged_kept ids kept (synced.created a creating).2⟩,synced.showing,
    fun t member target named => flagged_kept ids kept (synced.sent t member target named),
    fun a member free => flagged_kept ids kept (synced.shown a member free)⟩
  obtain ⟨row,there,same⟩ := synced.known e member target named
  obtain ⟨own,present,ownId,-⟩ := kept row there
  exact ⟨own,present,ownId.trans same⟩

-- What carrying out a PATCH does to the others.
theorem updates_synced {s : Settings} (synced : Synced s) (toggles : s.toggles = before ++ t :: after) (waiting : t.handled = none)
    (named : t.id = some target) :
    Synced {s with db := (Store.UpdateAgent zone s.db target ⟨none,none,none,some t.active⟩).2,
                   toggles := before ++ {t with handled := some true} :: after} := by
  have present : t ∈ s.toggles := by simp [toggles]
  have kept {other : Uuid} {active : Bool} (apart : t.id ≠ some other) (flagged : s.db.flagged other active) := by
    have elsewhere : other ≠ target := fun same => apart (same ▸ named)
    simpa only [if_neg elsewhere] using flagged_switched zone target t.active flagged
  have shown : s.listing = .shown := by
    by_contra loading
    rw [(synced.quiet loading).1] at present
    cases present
  have alone : Settings.busy {s with toggles := before ++ {t with handled := some true} :: after} = s.busy := by
    simp [Settings.busy,toggles,List.filterMap_cons]
  refine ⟨?_,alone ▸ synced.alone,fun loading => absurd shown loading,fun e member other own => ?_,fun agents same => ?_,fun a creating => ?_,
    fun u member a there same => ?_,fun u member other own => ?_,fun a member free => ?_⟩
  · rw [switched_agents,List.map_map]
    refine (List.map_congr_left fun b _ => ?_) ▸ synced.ids
    simp only [Function.comp_apply]
    split <;> rfl
  · obtain ⟨row,there,same⟩ := synced.known e member other own
    rw [switched_agents]
    exact ⟨_,List.mem_map_of_mem there,by split <;> exact same⟩
  · cases shown.symm.trans same
  · obtain ⟨right,flagged⟩ := synced.created a creating
    exact ⟨right,kept (creating_alone synced.alone creating present) flagged⟩
  · rcases mem_middle member with rfl | others
    · exact synced.showing t present a there same
    · exact synced.showing u (toggles ▸ middle_mem others) a there same
  · rcases mem_middle member with rfl | others
    · cases named.symm.trans own
      simpa [waiting] using flagged_switched zone target t.active (synced.sent t present target named)
    · have apart : t.id ≠ some other := fun same => toggles_alone synced.alone toggles same others own
      exact kept apart (synced.sent u (toggles ▸ middle_mem others) other own)
  · have free (u : Toggle) (there : u ∈ s.toggles) : u.id ≠ some a.id := by
      rw [toggles] at there
      rcases mem_middle there with rfl | others
      · exact free {u with handled := some true} (by simp)
      · exact free u (middle_mem others)
    exact kept (free t present) (synced.shown a member free)

theorem refuses_synced {s : Settings} (synced : Synced s) (toggles : s.toggles = before ++ t :: after) (waiting : t.handled = none) :
    Synced {s with toggles := before ++ {t with handled := some false} :: after} := by
  have present : t ∈ s.toggles := by simp [toggles]
  have alone : Settings.busy {s with toggles := before ++ {t with handled := some false} :: after} = s.busy := by
    simp [Settings.busy,toggles,List.filterMap_cons]
  refine {synced with alone := alone ▸ synced.alone,quiet := fun loading => ?_,showing := fun u member a there same => ?_,
                      sent := fun u member target named => ?_,shown := fun a member free => synced.shown a member fun u there => ?_}
  · rw [(synced.quiet loading).1] at present
    cases present
  · rcases mem_middle member with rfl | other
    · exact synced.showing t present a there same
    · exact synced.showing u (toggles ▸ middle_mem other) a there same
  · rcases mem_middle member with rfl | other
    · simpa [waiting,Settings.wrong] using synced.sent t present target named
    · exact synced.sent u (toggles ▸ middle_mem other) target named
  · rw [toggles] at there
    rcases mem_middle there with rfl | other
    · exact free {u with handled := some false} (by simp)
    · exact free u (middle_mem other)

theorem flip_id (t : Toggle) (e : Entry) : (flip t e).id = e.id := by
  unfold flip
  split
  · cases e <;> rfl
  · rfl

theorem Entry.agent_of_id {e : Entry} (same : e.id = some target) : ∃ a, e = .agent a := by
  cases e with
  | agent a => exact ⟨a,rfl⟩
  | error => cases same

theorem untouched_id {shows : Entry → Entry} (named : ∀ e, (shows e).id = e.id) (shown : shows e = .agent a) (apart : about ≠ some a.id) :
    e.id ≠ about := by
  rw [← named e,shown]
  exact apart.symm

-- A PATCH ends; what its agent shows then is right unless the outcome misleads.
theorem ended_synced {s : Settings} (synced : Synced s) (toggles : s.toggles = before ++ t :: after) (outcome : PatchOutcome)
    (shows : Entry → Entry)
    (own : ∀ a, .agent a ∈ s.agents → t.id = some a.id → s.db.flagged a.id ((shows (.agent a)).active.xor (misleads (s.wrong a.id) outcome)))
    (others : ∀ e, e.id ≠ t.id → shows e = e) (named : ∀ e, (shows e).id = e.id) :
    Synced {s with toggles := before ++ after,agents := s.agents.map shows,ended := s.ended ++ [(t.id,outcome)]} := by
  have present : t ∈ s.toggles := by simp [toggles]
  have old {u : Toggle} (other : u ∈ before ++ after) : u ∈ s.toggles := toggles ▸ middle_mem other
  have shown : s.listing = .shown := by
    by_contra loading
    rw [(synced.quiet loading).1] at present
    cases present
  have apart {u : Toggle} {target : Uuid} (member : u ∈ before ++ after) (same : u.id = some target) : t.id ≠ some target :=
    fun hit => toggles_alone synced.alone toggles hit member same
  refine ⟨synced.ids,synced.alone.sublist ?_,fun loading => absurd shown loading,fun e member target same => ?_,synced.listed,fun a creating => ?_,
    fun u member a there same => ?_,fun u member target same => ?_,fun a member free => ?_⟩
  · simp only [Settings.busy,toggles]
    exact List.Sublist.append_left (List.Sublist.filterMap _ (List.Sublist.append_left (List.sublist_cons_self _ _) _)) _
  · rcases List.mem_append.mp member with before' | new
    · exact synced.known e before' target same
    · rw [List.mem_singleton.mp new] at same
      exact (synced.sent t present target same).1
  · rw [wrong_other rfl (creating_alone synced.alone creating present)]
    exact synced.created a creating
  · obtain ⟨e,member',shows⟩ := List.mem_map.mp there
    have untouched := others e (untouched_id named shows (apart member same))
    exact synced.showing u (old member) a (untouched.symm.trans shows ▸ member') same
  · rw [wrong_other rfl (apart member same)]
    exact synced.sent u (old member) target same
  · obtain ⟨e,member',shown⟩ := List.mem_map.mp member
    by_cases hit : t.id = some a.id
    · obtain ⟨b,rfl⟩ := Entry.agent_of_id ((named e).symm.trans (congrArg Entry.id shown))
      have same : b.id = a.id := Option.some.inj ((named (.agent b)).symm.trans (congrArg Entry.id shown))
      have flagged := own b member' (same ▸ hit)
      rw [shown,same] at flagged
      rwa [wrong_own (show s.ended ++ [(t.id,outcome)] = s.ended ++ [(some a.id,outcome)] by rw [hit])]
    · have untouched := others e (untouched_id named shown hit)
      rw [wrong_other rfl hit]
      refine synced.shown a (untouched.symm.trans shown ▸ member') fun u there => ?_
      rw [toggles] at there
      rcases mem_middle there with rfl | other
      · exact hit
      · exact free u other

theorem step_synced {s s' : Settings} (synced : Synced s) (step : SettingsStep zone s s') (alone : s'.busy.Nodup) : Synced s' := by
  cases step with
  | lists sent =>
    refine {synced with alone := alone,quiet := fun _ => synced.quiet (by rw [sent]; nofun),listed := fun agents same a member => ?_}
    cases same
    obtain ⟨row,there,id,active⟩ := listed_row member
    exact id ▸ flagged_own synced.ids there active
  | fails sent =>
    refine {synced with alone := alone,quiet := fun _ => synced.quiet (by rw [sent]; nofun),listed := fun agents same a member => ?_}
    cases same
    cases member
  | listed handled =>
    have loading : s.listing ≠ .shown := by rw [handled]; nofun
    refine {synced with alone := alone,quiet := fun other => absurd rfl other,listed := nofun,showing := fun t member => ?_,
                        shown := fun a member _ => ?_}
    · rw [(synced.quiet loading).1] at member
      cases member
    · change s.db.flagged a.id (a.active.xor (s.wrong a.id))
      rw [loading_right synced loading,Bool.xor_false]
      obtain ⟨b,there,same⟩ := List.mem_map.mp member
      cases same
      exact synced.listed _ handled a there
  | unlisted => exact {synced with alone := alone,quiet := fun other => absurd rfl other,listed := nofun}
  | createAgent => exact {synced with alone := alone,created := nofun}
  | creates waiting done scans =>
    obtain ⟨isRow,rfl,-,fresh⟩ := insertAgent_done done
    rename_i row _ a
    have apart : ∀ b ∈ s.db.agents, b.id ≠ row.id := by
      rw [isRow]
      exact fun b member => (fresh b member).1
    have ids : ((s.db.agents ++ [row]).map AgentRow.id).Nodup := by
      rw [List.map_append,List.nodup_append]
      refine ⟨synced.ids,List.nodup_singleton _,fun id old other new => ?_⟩
      obtain ⟨b,member,rfl⟩ := List.mem_map.mp old
      rw [List.mem_singleton.mp new]
      exact apart b member
    have added := added_synced synced {s.db with agents := s.db.agents ++ [row]} ids fun b member => ⟨b,List.mem_append_left _ member,rfl,rfl⟩
    refine {added with alone := alone,created := fun created same => ?_}
    cases same
    obtain ⟨id,active⟩ := scan_agent scans
    have own : Database.flagged {s.db with agents := s.db.agents ++ [row]} row.id a.active :=
      flagged_own ids (List.mem_append_right _ (List.mem_singleton_self row)) active
    refine ⟨?_,id ▸ own⟩
    have none' : s.ended.filter (·.1 = some a.id) = [] := by
      refine List.filter_eq_nil_iff.mpr fun e member same => ?_
      obtain ⟨b,there,same'⟩ := synced.known e member a.id (of_decide_eq_true same)
      exact apart b there (same'.trans id)
    simp [Settings.wrong,none']
  | created waiting =>
    obtain ⟨right,flagged⟩ := synced.created _ waiting
    refine {synced with alone := alone,created := nofun,showing := fun t member b there same => ?_,shown := fun b member unsent => ?_}
    · rcases List.mem_append.mp there with old | new
      · exact synced.showing t member b old same
      · cases List.mem_singleton.mp new
        exact absurd same (creating_alone synced.alone waiting member)
    · rcases List.mem_append.mp member with old | new
      · exact synced.shown b old unsent
      · cases List.mem_singleton.mp new
        change s.db.flagged _ (Bool.xor _ (s.wrong _))
        rwa [right,Bool.xor_false]
  | uncreated => exact {synced with alone := alone,created := nofun}
  | refused =>
    refine {synced with alone := alone,created := nofun,showing := fun t member b there => ?_,shown := fun b member => ?_}
    · exact synced.showing t member b (by simpa using there)
    · exact synced.shown b (by simpa using member)
  | toggleActive shown member =>
    rename_i e
    have unsent {t : Toggle} {target : Uuid} (own : e.id = some target) (there : t ∈ s.toggles) : t.id ≠ some target :=
      toggles_alone alone rfl own (by simpa using there)
    refine {synced with alone := alone,quiet := fun other => absurd shown other,showing := fun t there b present same => ?_,
                        sent := fun t there target own => ?_,shown := fun b present free => ?_}
    · rcases List.mem_append.mp there with old | new
      · exact synced.showing t old b present same
      · cases List.mem_singleton.mp new
        obtain ⟨a,rfl⟩ := Entry.agent_of_id same
        have own := synced.shown a member fun u => unsent rfl
        have again := synced.shown b present fun u => unsent same
        rw [Option.some.inj same] at own
        simpa [Entry.active] using flagged_only again own
    · rcases List.mem_append.mp there with old | new
      · exact synced.sent t old target own
      · cases List.mem_singleton.mp new
        obtain ⟨a,rfl⟩ := Entry.agent_of_id own
        cases own
        simpa [Settings.wrong,Entry.active] using synced.shown a member fun u => unsent rfl
    · exact synced.shown b present fun t there => free t (List.mem_append_left _ there)
  | updates toggles waiting named => exact updates_synced synced toggles waiting named
  | refuses toggles waiting => exact refuses_synced synced toggles waiting
  | updated toggles handled =>
    rename_i before t after done
    have present : t ∈ s.toggles := by simp [toggles]
    refine ended_synced synced toggles _ (flip t) (fun a _ hit => ?_) (fun e other => if_neg other) (flip_id t)
    have sent := synced.sent t present a.id hit
    rw [flip,if_pos (show (Entry.agent a).id = t.id from hit.symm)]
    cases done <;> simpa [handled,misleads,Entry.setActive,Entry.active] using sent
  | broken toggles =>
    rename_i before t after
    have present : t ∈ s.toggles := by simp [toggles]
    have ended := ended_synced synced toggles (.unanswered (t.handled = some true)) id (fun a member hit => ?_) (fun _ _ => rfl) fun _ => rfl
    · rwa [List.map_id] at ended
    have sent := synced.sent t present a.id hit
    rw [id,Entry.active,synced.showing t present a member hit]
    by_cases done : t.handled = some true <;> simpa [done,misleads] using sent
  | elsewhere ids kept => exact added_synced synced _ ids kept

-- While nobody presses twice before the answer is there, what the page shows of an agent is what the API
-- has, unless answers of PATCHes since its last right one misled it.
theorem settings_flags {db : Database} {s : Settings} (ids : (db.agents.map AgentRow.id).Nodup)
    (run : Settings.Runs zone (.mounted db) s) (member : .agent a ∈ s.agents) (idle : ∀ t ∈ s.toggles, t.id ≠ some a.id) :
    ∃ row ∈ s.db.agents, row.id = a.id ∧ row.active = some (a.active.xor (s.wrong a.id)) := by
  have synced : Synced s := by
    clear member idle
    induction run with
    | refl => exact ⟨ids,List.nodup_nil,fun _ => ⟨rfl,rfl⟩,nofun,nofun,nofun,nofun,nofun,nofun⟩
    | tail _ step ih => exact step_synced ih step.1 step.2
  obtain ⟨⟨row,there,same⟩,all⟩ := synced.shown a member idle
  exact ⟨row,there,same,all row there same⟩

-- Bob, the newest, is paused, and a PATCH that would wake him is refused.
def Settings.sample : Settings :=
  ⟨(Store.UpdateAgent (fun _ => 0) .sample 2 ⟨none,none,none,some false⟩).2,
   (((listedAgents (fun _ => 0) .sample).map .agent).map (flip ⟨some 2,false,some true⟩)).map (flip ⟨some 2,true,some false⟩),.shown,none,[],
   [(some 2,.carriedOut),(some 2,.refused)]⟩

def bobShown : Agent := ⟨2,"bob","Bob","",none,"",Time.scan (fun _ => 0) 20,true⟩

theorem Settings.sample_runs : Settings.Runs (fun _ => 0) (.mounted .sample) .sample := by
  have listed : .agent bobShown ∈ (listedAgents (fun _ => 0) .sample).map Entry.agent := by decide
  have flipped : .agent {bobShown with active := false} ∈
      ((listedAgents (fun _ => 0) .sample).map .agent).map (flip ⟨some 2,false,some true⟩) := by decide
  refine .tail (.tail (.tail (.tail (.tail (.tail (.tail (.tail .refl ⟨.lists rfl,?_⟩) ⟨.listed rfl,?_⟩) ⟨.toggleActive rfl listed,?_⟩)
    ⟨.updates (show _ = [] ++ _ from rfl) rfl rfl,?_⟩) ⟨.updated (show _ = [] ++ _ from rfl) (show _ = some true from rfl),?_⟩)
    ⟨.toggleActive rfl flipped,?_⟩)
    ⟨.refuses (show _ = [] ++ _ from rfl) rfl,?_⟩) ⟨.updated (show _ = [] ++ _ from rfl) (show _ = some false from rfl),?_⟩
  all_goals decide

theorem settings_flags_sample : ∃ row ∈ Settings.sample.db.agents, row.id = 2 ∧ row.active = some false :=
  settings_flags (a := bobShown) (by decide) Settings.sample_runs (by decide) nofun

end Trokk
