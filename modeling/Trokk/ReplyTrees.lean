import Trokk.CursorText
import Trokk.Library.Forest
import Trokk.System
import Trokk.ThreadReads

-- Replies are inserted under messages that are there. What GET /messages/{id} shows
-- below one another are trees with a top-level post each, in every state.
namespace Trokk
open Program Forest Relation

abbrev Threaded (db : Database) : Prop := Grown MessageRow.id MessageRow.parentMsgId db.messages
abbrev RepliesTo (db : Database) : MessageRow → MessageRow → Prop := Under MessageRow.id MessageRow.parentMsgId db.messages

theorem effect_threaded (effect : Effect c db l s db') (threaded : Threaded db) : Threaded db' := by
  cases effect with
  | insertMessage _ _ parents => exact threaded.snoc parents
  | toggle =>
    rw [toggled_eq]
    exact threaded
  | _ => exact threaded

theorem runs_threaded {p : System} (threaded : Threaded start) (run : SystemRuns adminKey runtime (Pool.idle start) p) :
    Threaded p.shared := by
  have keeps : Keeps exec (fun _ => True) Threaded (fun _ _ => True) Session.fresh :=
    ⟨fun s c d l _ threaded _ => effect_threaded (exec_effect c d l s) threaded,fun _ _ _ _ _ _ _ => trivial,
      fun _ _ _ _ _ _ _ _ _ => trivial,fun _ _ => trivial⟩
  exact (Pool.runs_kept keeps (fun _ x _ => only_true x) (Pool.idle_kept threaded) run).holds

-- The thread of x, as it is answered, has y among its responses.
def Shows (zone : Timestamptz → Int) (order : NewestFirst) (db : Database) (x y : Uuid) : Prop :=
  ∃ idStr thread, Faulty.GetMessage zone order db ⟨none,.whole⟩ idStr = .ok thread ∧ thread.id = x ∧ ∃ r ∈ thread.responses, r.id = y

def TopLevel (db : Database) (id : Uuid) : Prop := ∃ m ∈ db.messages, m.id = id ∧ m.parentMsgId = none

variable {db : Database} {zone : Timestamptz → Int} {order : NewestFirst}

theorem shows_iff (valid : db.Valid) : Shows zone order db x y ↔ ∃ a b, RepliesTo db a b ∧ a.id = x ∧ b.id = y := by
  have responses (id : Uuid) (r : MessageWithAgent) :
      r ∈ (Faulty.GetResponses zone order db id .whole).1.getD [] ↔ ∃ b ∈ children db id, view zone db b = r := by
    exact ((arranged_views valid).mem_iff).trans List.mem_map
  constructor
  · rintro ⟨idStr,thread,answered,own,r,member,same⟩
    obtain ⟨id,-,-,a,present,named,rfl⟩ := (getMessage_answered valid).mp answered
    obtain ⟨b,child,rfl⟩ := (responses id r).mp member
    obtain ⟨there,parent⟩ := List.mem_filter.mp child
    exact ⟨a,b,⟨present,there,by rw [named]; exact of_decide_eq_true parent⟩,own,same⟩
  · rintro ⟨a,b,replies,rfl,rfl⟩
    have parsed : Uuid.Parse (String.ofList a.id.text).toList = some a.id := by rw [String.toList_ofList,Uuid.Parse_text]
    refine ⟨_,_,(getMessage_answered valid).mpr ⟨a.id,parsed,rfl,a,replies.above,rfl,rfl⟩,rfl,view zone db b,?_,rfl⟩
    exact (responses _ _).mpr ⟨b,List.mem_filter.mpr ⟨replies.below,decide_eq_true replies.parent⟩,rfl⟩

theorem shown_below (valid : db.Valid) (path : ReflTransGen (RepliesTo db) a b) : ReflTransGen (Shows zone order db) a.id b.id :=
  path.lift MessageRow.id fun x y replies => (shows_iff valid).mpr ⟨x,y,replies,rfl,rfl⟩

theorem below_shown (valid : db.Valid) (path : ReflTransGen (Shows zone order db) x y) (member : b ∈ db.messages) (named : b.id = y) :
    ∃ a ∈ db.messages, a.id = x ∧ ReflTransGen (RepliesTo db) a b := by
  induction path generalizing b with
  | refl => exact ⟨b,member,named,.refl⟩
  | tail _ shows' ih =>
    obtain ⟨a,c,replies,isA,isC⟩ := (shows_iff valid).mp shows'
    cases List.inj_on_of_nodup_map valid.messageIds replies.below member (isC.trans named.symm)
    obtain ⟨top,present,same,path⟩ := ih replies.above isA
    exact ⟨top,present,same,path.tail replies⟩

structure Trees (zone : Timestamptz → Int) (order : NewestFirst) (db : Database) : Prop where
  rooted : ∀ m ∈ db.messages, ∃! top, TopLevel db top ∧ ReflTransGen (Shows zone order db) top m.id
  acyclic : ∀ id, ¬ TransGen (Shows zone order db) id id
  counted : (db.messages.map fun m => (view zone db m).responseCount).sum = (db.messages.filter (·.parentMsgId ≠ none)).length

theorem threaded_trees (valid : db.Valid) (threaded : Threaded db) (zone : Timestamptz → Int) (order : NewestFirst) :
    Trees zone order db := by
  refine ⟨fun m member => ?_,fun id cycle => ?_,?_⟩
  · obtain ⟨top,present,top',path⟩ := threaded.rooted member
    refine ⟨top.id,⟨⟨top,present,rfl,top'⟩,shown_below valid path⟩,fun other found => ?_⟩
    obtain ⟨⟨a,there,named,above⟩,path'⟩ := found
    obtain ⟨b,there',named',path'⟩ := below_shown valid path' member rfl
    cases List.inj_on_of_nodup_map valid.messageIds there there' (named.trans named'.symm)
    rw [← named,root_unique valid.messageIds path' path above top']
  · obtain ⟨y,path,shows'⟩ := TransGen.tail'_iff.mp cycle
    obtain ⟨a,b,replies,isA,isB⟩ := (shows_iff valid).mp shows'
    obtain ⟨c,there,isC,path⟩ := below_shown valid path replies.above isA
    cases List.inj_on_of_nodup_map valid.messageIds there replies.below (isC.trans isB.symm)
    exact threaded.acyclic valid.messageIds b (TransGen.tail' path replies)
  · rw [← under_counted valid.messageIds db.messages fun a member => threaded.attached member]
    exact congrArg List.sum (List.map_congr_left fun m _ => view_counts m)

-- From the top-level posts every message is reached by its thread alone, however
-- requests and ticks interleave.
theorem threads_form_trees {p : System} (valid : start.Valid) (threaded : Threaded start)
    (run : SystemRuns adminKey runtime (Pool.idle start) p) (zone : Timestamptz → Int) (order : NewestFirst) :
    Trees zone order p.shared := by
  have valid' := (Pool.runs_kept (exec_keeps_valid fun _ => True) (fun _ x _ => only_true x) (Pool.idle_kept valid) run).holds
  exact threaded_trees valid' (runs_threaded threaded run) zone order

-- Bob answers the third message, which answers the second.
def Request.answers : Request :=
  ⟨"Bearer tk_agent_bob",.respond (String.ofList (Uuid.text 13)) (some (.obj [("content",.str "fourth")]))⟩
def discussing : System := ⟨.sample,Function.update (fun _ => none) (.request 0) (some (serving "rp_admin" .answers,.fresh))⟩
def discussed : System := discussing.acts exec (List.replicate 3 (.request 0,⟨.answered,300,14,""⟩))

theorem Database.sample_threaded : Threaded .sample := by
  change Grown _ _ ((([] ++ [MessageRow.mk 11 1 "first" none 100]) ++ [⟨12,2,"second",none,200⟩]) ++ [⟨13,1,"third",some 12,200⟩])
  refine .snoc (.snoc (.snoc .nil ?_) ?_) ?_ <;> simp

theorem threads_form_trees_sample : discussed.shared.messages.map MessageRow.parentMsgId = [none,none,some 12,some 13] ∧
    Trees (fun _ => 0) .stable discussed.shared := by
  have run : SystemRuns "rp_admin" .sample (Pool.idle .sample) discussed := Pool.acts_runs (.step .start (.begin rfl .request)) _
  exact ⟨by decide +kernel,threads_form_trees Database.sample_valid Database.sample_threaded run _ _⟩

end Trokk
