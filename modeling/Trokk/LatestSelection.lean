import Trokk.Library.Selection
import Trokk.StreamView

-- useAgent and useMessages of ferr/src/lib/api/hooks.ts while the id they are given
-- changes, as on the page of one agent.
namespace Trokk
open Selection

structure UseAgent where
  agent : Option AgentWithStats
  loading : Bool
  error : Option String
  deriving DecidableEq

def UseAgent.initial : UseAgent := ⟨none,true,none⟩

-- What is held is the last answer.
def useAgent : Viewer String Unit UseAgent AgentWithStats String where
  asks id := id ≠ ""
  latest := ()
  appends _ := false
  select v id := if id = "" then v else {v with loading := true}
  request v _ := {v with loading := true}
  succeed _ _ data := ⟨some data,false,none⟩
  fail v _ message := {v with loading := false,error := some message}
  made v shown := v.agent = shown.getLast?
  selected made := by
    split <;> exact made
  requested made := made
  replaced _ := rfl
  appended := nofun
  failed made := made

structure UseMessagesState extends UseMessages where
  loading : Bool
  error : Option String

def UseMessagesState.initial : UseMessagesState := ⟨.initial,true,none⟩

-- The list is that of the answers one after the other, the cursor that of the last one.
def useMessages : Viewer (Option String) Fetch UseMessagesState Page String where
  asks _ := true
  latest := .latest
  appends
    | .latest => false
    | .older _ => true
  select v _ := {v with loading := true}
  request v _ := v
  succeed v
    | .latest,page => ⟨v.toUseMessages.respond page .latest,false,none⟩
    | .older cursor,page => {v with toUseMessages := v.toUseMessages.respond page (.older cursor)}
  fail v
    | .latest,message => {v with loading := false,error := some message}
    | .older _,_ => v
  made v shown := v.messages = shown.flatMap (·.messages) ∧
    (v.nextCursor,v.hasMore) = (shown.getLast?.map fun page => (page.nextCursor,page.hasMore)).getD (none,true)
  selected made := made
  requested made := made
  replaced := by
    intro f v page alone
    cases f with
    | latest => exact ⟨(List.flatMap_singleton _ _).symm,rfl⟩
    | older => cases alone
  appended := by
    intro f v shown page appends made
    cases f with
    | latest => cases appends
    | older =>
      refine ⟨?_,?_⟩
      · change v.messages ++ page.messages = _
        rw [made.1,List.flatMap_append,List.flatMap_singleton]
      · rw [List.getLast?_concat]
        rfl
  failed := by
    intro v shown f message made
    cases f <;> exact made

theorem latest_selection (agentEvents : List (Event String Unit AgentWithStats String))
    (messageEvents : List (Event (Option String) Fetch Page String)) :
    (Trace.Along (step useAgent) (fun _ _ s => Latest useAgent s) ⟨.initial,[],[],[]⟩ agentEvents ↔
      Trace.Along (step useAgent) (fun s e _ => InTurn useAgent s e) ⟨.initial,[],[],[]⟩ agentEvents) ∧
    (Trace.Along (step useMessages) (fun _ _ s => Latest useMessages s) ⟨.initial,[],[],[]⟩ messageEvents ↔
      Trace.Along (step useMessages) (fun s e _ => InTurn useMessages s e) ⟨.initial,[],[],[]⟩ messageEvents) := by
  constructor
  · refine latest_along ⟨?_,?_⟩ agentEvents
    · rfl
    · exact fun _ _ _ member => absurd member List.not_mem_nil
  · refine latest_along ⟨?_,?_⟩ messageEvents
    · exact ⟨rfl,rfl⟩
    · exact fun _ _ _ member => absurd member List.not_mem_nil

def sampleStats (id : Uuid) (username : String) : AgentWithStats :=
  ⟨⟨id,username,username,"",none,"",⟨0,0⟩,true⟩,0,0,0,0,0,none,none,0⟩

def samplePage (id : Uuid) (agent : Uuid) (content : String) : Page :=
  ⟨[⟨⟨id,agent,content,none,⟨0,0⟩⟩,"","",0,0,0⟩],some ⟨⟨0,0⟩,id⟩,true⟩

-- The answer for the second agent is there when the one for the first arrives.
theorem late_answer_shown :
    (Trace.run (step useAgent) ⟨.initial,[],[],[]⟩ [.select "1",.select "2",.arrive 1 (.ok (sampleStats 2 "bob")),.arrive 0 (.ok (sampleStats 1 "ada"))]).map
      (fun s => (s.view.agent,s.selections.head?,s.flights)) = some (some (sampleStats 1 "ada"),some "2",[]) ∧
    (Trace.run (step useMessages) ⟨.initial,[],[],[]⟩
      [.select (some "1"),.select (some "2"),.arrive 1 (.ok (samplePage 12 2 "second")),.arrive 0 (.ok (samplePage 11 1 "first"))]).map
      (fun s => (s.view.messages,s.view.nextCursor,s.selections.head?,s.flights)) =
      some ((samplePage 11 1 "first").messages,(samplePage 11 1 "first").nextCursor,some (some "2"),[]) := ⟨rfl,rfl⟩

end Trokk
