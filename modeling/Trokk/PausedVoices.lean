import Trokk.Voices

-- A paused agent, until somebody wakes it: it stays paused, and nothing comes to stand
-- under its name.
namespace Trokk
open Program

-- There is the agent, with that flag.
def Database.flagged (db : Database) (id : Uuid) (active : Bool) : Prop :=
  (∃ row ∈ db.agents, row.id = id) ∧ ∀ row ∈ db.agents, row.id = id → row.active = some active

def Statement.wakes (id : Uuid) : Statement → Prop
  | .updateAgent target req => target = id ∧ req.active = some true
  | .setAllActive active => active = true
  | _ => False

def Route.wakes (id : Uuid) : Route → Prop
  | .updateAgent text (some req) => Uuid.Parse text.toList = some id ∧ req.active = some true
  | .resumeAll => True
  | _ => False

variable {db db' : Database} {l : Session} {id : Uuid} {adminKey : String}

theorem flagged_map {f : AgentRow → AgentRow} (named : ∀ a, (f a).id = a.id)
    (asleep : ∀ a, a.id = id → a.active = some false → (f a).active = some false) (paused : db.flagged id false) :
    Database.flagged {db with agents := db.agents.map f} id false := by
  obtain ⟨⟨row,member,same⟩,all⟩ := paused
  refine ⟨⟨f row,List.mem_map_of_mem member,(named row).trans same⟩,fun a there own => ?_⟩
  obtain ⟨b,present,rfl⟩ := List.mem_map.mp there
  have hit := (named b).symm.trans own
  exact asleep b hit (all b present hit)

theorem effect_paused (effect : Effect c db l s db') (asleep : ¬ s.wakes id) (paused : db.flagged id false) : db'.flagged id false := by
  cases effect with
  | insertAgent fresh =>
    obtain ⟨⟨row,member,same⟩,all⟩ := paused
    refine ⟨⟨row,List.mem_append_left _ member,same⟩,fun a there own => ?_⟩
    rcases List.mem_append.mp there with old | new
    · exact all a old own
    · rw [List.mem_singleton.mp new] at own
      exact absurd (same.trans own.symm) (fresh row member).1
  | @updateAgent target req =>
    refine flagged_map (fun a => ?_) (fun a hit off => ?_) paused
    · split <;> rfl
    · split
      · rename_i edited
        have unset : req.active ≠ some true := fun set => asleep ⟨edited.symm.trans hit,set⟩
        cases given : req.active with
        | none => simpa [AgentRow.update,given] using off
        | some active =>
          cases active with
          | false => simp [AgentRow.update,given]
          | true => exact absurd given unset
      · exact off
  | @setAllActive active =>
    have off : active = false := by simpa [Statement.wakes] using asleep
    exact flagged_map (fun _ => rfl) (fun _ _ _ => congrArg some off) paused
  | toggle =>
    rw [toggled_eq]
    exact paused
  | _ => exact paused

-- GetAgentByAPIKey does not find it.
theorem paused_mute (id : Uuid) : Mute id (fun db => db.flagged id false) (fun s => s.silentFor id ∧ ¬ s.wakes id) fun _ => True where
  silent := fun _ quiet => quiet.1
  allows := fun s silent unswitched => ⟨silent,fun wakes => unswitched (by cases s <;> trivial)⟩
  keeps := fun _ _ _ _ _ quiet effect paused => effect_paused effect quiet.2 paused
  others := by
    intro token db _ paused a member _ active same
    rw [paused.2 a member same] at active
    cases active

theorem wakeless_discreet {route : Route} (asleep : ¬ route.wakes id) : Discreet id (fun s => s.silentFor id ∧ ¬ s.wakes id) route := by
  refine route_discreet (paused_mute id) (fun text body same => ?_) (fun _ => ⟨nofun,nofun⟩) fun same => ?_
  · subst same
    unfold UpdateAgent
    split
    · trivial
    · trivial
    · rename_i target req parsed
      have quiet : ¬ Statement.wakes id (.updateAgent target req) := fun ⟨own,set⟩ => asleep ⟨own ▸ parsed,set⟩
      refine Program.Only.bind ?_ fun result => ?_
      · refine Program.Only.bind ?_ fun _ => trivial
        split
        · exact Program.Only.issue ⟨nofun,nofun⟩
        · exact Program.Only.issue ⟨nofun,quiet⟩
      · cases result <;> trivial
  · subst same
    exact absurd trivial asleep

-- Requests that do not wake the agent, with whatever keys, and ticks of an orchestrator
-- whose specialists post with whatever keys.
inductive LetsSleep (adminKey : String) (id : Uuid) (runtime : Runtime) : Worker → Api Answer → Prop where
  | request : ¬ req.route.wakes id → LetsSleep adminKey id runtime (.request n) (serving adminKey req)
  | tick : LetsSleep adminKey id runtime (.orchestrator n) (ticking runtime (knownAgents adminKey known))

theorem paused_silent {p : System} {classes : List (String × Except PyError BaseAgent)} (paused : db.flagged id false)
    (registry : runtime.registry = registryOf adminKey classes)
    (run : Pool.Runs exec (LetsSleep adminKey id runtime) Session.fresh (Pool.idle db) p) :
    p.shared.flagged id false ∧ p.shared.voice id = db.voice id := by
  have mute := paused_mute id
  have begins (worker : Worker) (x : Api Answer) (db : Database) (lets : LetsSleep adminKey id runtime worker x)
      (holds : db.flagged id false) : Unvoiced id (fun db => db.flagged id false) (fun _ _ _ => True) x db .fresh := by
    cases lets with
    | request asleep => exact serving_unvoiced mute trivial (wakeless_discreet asleep) holds
    | tick => exact ticking_unvoiced mute registry (fun _ _ _ _ => trivial) (fun _ _ => trivial) holds
  obtain ⟨secured,same⟩ := Pool.runs_secured voice_refl voice_trans begins trivial (Pool.idle_secured paused) run
  exact ⟨secured.holds,same⟩

-- Ada is paused: her specialist's post is refused, so that its task fails, and so is hers.
def Database.hushed : Database := {Database.assigned with agents := Database.assigned.agents.map fun a => {a with active := some false}}
def hushing : System :=
  ⟨.hushed,Function.update (Function.update (fun _ => none) (.request 0) (some (serving "rp_admin" .adas,.fresh))) (.orchestrator 0)
    (some (ticking .adas (knownAgents "rp_admin" []),.fresh))⟩
def hushed : System :=
  hushing.acts exec (List.replicate 9 (.orchestrator 0,⟨.answered,310,8,"summary"⟩) ++ List.replicate 3 (.request 0,⟨.answered,320,7,""⟩))

theorem paused_silent_sample : hushed.shared.taskStatus 51 = some .failed ∧ hushed.shared.flagged 1 false ∧
    hushed.shared.voice 1 = Database.hushed.voice 1 := by
  have run : Pool.Runs exec (LetsSleep "rp_admin" 1 .adas) Session.fresh (Pool.idle .hushed) hushed :=
    Pool.acts_runs (.step (.step .start (.begin rfl (.request nofun))) (.begin rfl .tick)) _
  exact ⟨by decide +kernel,paused_silent ⟨by decide,by decide⟩ rfl run⟩

end Trokk
