import Trokk.ConsensusAgent
import Trokk.Library.JavaScript
import Trokk.TaskFindings

-- From the model's reply to the page of the report, ferr/src/app/reports/[id]/page.tsx:
-- what generate_report makes of any reply, and what the page can render.
namespace Trokk
open Program JavaScript

-- The types that the prompt asks for and the dataclass declares.
inductive FieldType where
  | text
  | unitInterval
  | objects
  | texts
  deriving DecidableEq

def isObject : Json → Bool
  | .obj _ => true
  | _ => false

def isText : Json → Bool
  | .str _ => true
  | _ => false

def FieldType.admits : FieldType → Json → Bool
  | .text,value => isText value
  | .unitInterval,.num literal => unitNumber literal
  | .objects,.arr items => items.all isObject
  | .texts,.arr items => items.all isText
  | _,_ => false

def reportFields : List (String × FieldType) :=
  [("executive_summary",.text),("key_findings",.objects),("contradictions",.objects),("confidence_score",.unitInterval),
   ("open_questions",.texts),("recommendations",.texts)]

-- The pages' map callbacks over the items, one after the other.
def rendersFinding (kf : Json) : Bool :=
  kf ≠ .null && convertible (get kf "confidence") && child (get kf "finding") &&
    (!truthy (get kf "agent") || child (get kf "agent") && convertible (get kf "verified"))

def rendersContradiction (c : Json) : Bool :=
  c ≠ .null && child (get c "claim_a") && child (get c "claim_b") && child (get c "resolution")

def rendersSection (positive : Json → Bool) (item : Json → Bool) (field : Json) : Bool := match listed positive field with
  | some items => items.all item
  | none => false

-- The part of the page under `report ?`.
def ReportPage (positive : Json → Bool) (report : Json) : Bool :=
  child (get report "executive_summary") && convertible (get report "confidence_score") &&
    rendersSection positive rendersFinding (get report "key_findings") &&
    rendersSection positive rendersContradiction (get report "contradictions") &&
    rendersSection positive child (get report "open_questions") && rendersSection positive child (get report "recommendations")

-- What a report promises those who read it.
structure Sound (positive : Json → Bool) (report : ConsensusReport) : Prop where
  fields : ∀ field ∈ reportFields, field.2.admits (get report.to_dict field.1) = true
  rendered : storableJson report.to_dict = true → ReportPage positive report.to_dict = true

-- What a reply has to have brought along.
structure Declared (question : String) (members : List (String × Json)) : Prop where
  fields : ∀ field ∈ reportFields, ∀ value, members.lookup field.1 = some value → field.2.admits value = true
  nested : storableText question = true → (∀ field ∈ reportFields, ∀ value, members.lookup field.1 = some value → storableJson value = true) →
    (∀ items, members.lookup "key_findings" = some (.arr items) → items.all rendersFinding = true) ∧
    ∀ items, members.lookup "contradictions" = some (.arr items) → items.all rendersContradiction = true

theorem get_field (inv : Uuid) (question : String) (members : List (String × Json)) :
    ∀ field ∈ reportFields, ∃ default, field.2.admits default = true ∧ storableJson default = true ∧
      get (reportOn inv question members).to_dict field.1 = (members.lookup field.1).getD default := by
  intro field member
  simp only [reportFields,List.mem_cons,List.not_mem_nil,or_false] at member
  rcases member with rfl | rfl | rfl | rfl | rfl | rfl
  · exact ⟨.str "",rfl,by decide,rfl⟩
  · exact ⟨.arr [],rfl,by decide,rfl⟩
  · exact ⟨.arr [],rfl,by decide,rfl⟩
  · exact ⟨.num "0.5",by decide +kernel,by decide,rfl⟩
  · exact ⟨.arr [],rfl,by decide,rfl⟩
  · exact ⟨.arr [],rfl,by decide,rfl⟩

theorem getD_given (p : Json → Bool) {found : Option Json} (holds : p default' = true) :
    p (found.getD default') = true ↔ ∀ value, found = some value → p value = true := by
  cases found with
  | none => exact iff_of_true holds nofun
  | some value =>
    constructor
    · rintro given _ ⟨⟩
      exact given
    · exact fun all => all value rfl

theorem fields_declared (inv : Uuid) (question : String) (members : List (String × Json)) :
    (∀ field ∈ reportFields, field.2.admits (get (reportOn inv question members).to_dict field.1) = true) ↔
      ∀ field ∈ reportFields, ∀ value, members.lookup field.1 = some value → field.2.admits value = true := by
  refine forall_congr' fun field => forall_congr' fun member => ?_
  obtain ⟨default',admitted,-,same⟩ := get_field inv question members field member
  rw [same]
  exact getD_given field.2.admits admitted

theorem id_text_storable (inv : Uuid) : storableText (String.ofList inv.text) = true := by
  have storable := id_storable inv
  simp only [storableJson,findingResult,Json.EveryText,Json.EveryMember,Bool.and_eq_true] at storable
  exact storable.1.1.2

theorem storable_members (members : List (String × Json)) :
    storableJson (.obj members) = true ↔ ∀ m ∈ members, storableText m.1 = true ∧ storableJson m.2 = true := by
  simp only [storableJson,Json.EveryText,Json.EveryNumber,Json.everyMember_all,Json.numberMember_all,Bool.and_eq_true,List.all_eq_true]
  constructor
  · rintro ⟨texts,numbers⟩ m member
    exact ⟨(texts m member).1,(texts m member).2,numbers m member⟩
  · intro each
    exact ⟨fun m member => ⟨(each m member).1,(each m member).2.1⟩,fun m member => (each m member).2.2⟩

theorem dict_storable (inv : Uuid) (question : String) (members : List (String × Json)) :
    storableJson (reportOn inv question members).to_dict = true ↔ storableText question = true ∧
      ∀ field ∈ reportFields, ∀ value, members.lookup field.1 = some value → storableJson value = true := by
  have document : (reportOn inv question members).to_dict = .obj (("investigation_id",.str (String.ofList inv.text)) :: ("question",.str question) ::
      reportFields.map fun field => (field.1,get (reportOn inv question members).to_dict field.1)) := rfl
  have text (value : String) : storableJson (.str value) = storableText value := Bool.and_true _
  have names : ∀ field ∈ reportFields, storableText field.1 = true := by decide
  have values : (∀ field ∈ reportFields, storableText field.1 = true ∧
      storableJson (get (reportOn inv question members).to_dict field.1) = true) ↔
      ∀ field ∈ reportFields, ∀ value, members.lookup field.1 = some value → storableJson value = true := by
    refine forall_congr' fun field => forall_congr' fun member => ?_
    obtain ⟨default',-,storable,same⟩ := get_field inv question members field member
    rw [same,and_iff_right (names field member)]
    exact getD_given storableJson storable
  rw [document,storable_members,List.forall_mem_cons,List.forall_mem_cons,List.forall_mem_map,values,text,text,id_text_storable]
  simp only [and_true]
  exact ⟨fun both => ⟨both.2.1.2,both.2.2⟩,fun both => ⟨by decide,⟨by decide,both.1⟩,both.2⟩⟩

theorem text_admitted (admits : FieldType.text.admits v = true) : ∃ text, v = .str text := by
  cases v with
  | str text => exact ⟨text,rfl⟩
  | _ => cases admits

theorem number_admitted (admits : FieldType.unitInterval.admits v = true) : ∃ literal, v = .num literal := by
  cases v with
  | num literal => exact ⟨literal,rfl⟩
  | _ => cases admits

theorem objects_admitted (admits : FieldType.objects.admits v = true) : ∃ items, v = .arr items := by
  cases v with
  | arr items => exact ⟨items,rfl⟩
  | _ => cases admits

theorem texts_admitted (admits : FieldType.texts.admits v = true) : ∃ items, v = .arr items ∧ items.all child = true := by
  cases v with
  | arr items =>
    refine ⟨items,rfl,List.all_eq_true.mpr fun item member => ?_⟩
    have isText := List.all_eq_true.mp admits item member
    cases item with
    | str => rfl
    | _ => cases isText
  | _ => cases admits

-- Of a report with the declared types only the nested values can break the page.
theorem page_typed (positive : Json → Bool) {report : Json} (fields : ∀ field ∈ reportFields, field.2.admits (get report field.1) = true) :
    ReportPage positive report = true ↔ (∀ items, get report "key_findings" = .arr items → items.all rendersFinding = true) ∧
      ∀ items, get report "contradictions" = .arr items → items.all rendersContradiction = true := by
  obtain ⟨summary,isSummary⟩ := text_admitted (fields ("executive_summary",.text) (by decide))
  obtain ⟨confidence,isConfidence⟩ := number_admitted (fields ("confidence_score",.unitInterval) (by decide))
  obtain ⟨found,areFindings⟩ := objects_admitted (fields ("key_findings",.objects) (by decide))
  obtain ⟨against,areContradictions⟩ := objects_admitted (fields ("contradictions",.objects) (by decide))
  obtain ⟨questions,areQuestions,asked⟩ := texts_admitted (fields ("open_questions",.texts) (by decide))
  obtain ⟨advice,areAdvice,given⟩ := texts_admitted (fields ("recommendations",.texts) (by decide))
  have shown : ReportPage positive report = (found.all rendersFinding && against.all rendersContradiction) := by
    have summarized : child (.str summary) = true := rfl
    have scored : convertible (.num confidence) = true := rfl
    have mapped (item : Json → Bool) (items : List Json) : rendersSection positive item (.arr items) = items.all item := rfl
    rw [ReportPage,isSummary,isConfidence,areFindings,areContradictions,areQuestions,areAdvice,summarized,scored,mapped,mapped,
      mapped,mapped,asked,given,Bool.true_and,Bool.true_and,Bool.and_true,Bool.and_true]
  rw [shown,Bool.and_eq_true,areFindings,areContradictions]
  simp only [Json.arr.injEq,forall_eq']

theorem nested_given {found : Option Json} (renders : Json → Bool) :
    (∀ items, found.getD (.arr []) = .arr items → items.all renders = true) ↔ ∀ items, found = some (.arr items) → items.all renders = true := by
  cases found with
  | none =>
    refine iff_of_true ?_ nofun
    rintro _ ⟨⟩
    rfl
  | some value => simp only [Option.getD_some,Option.some.injEq]

theorem sound_declared (positive : Json → Bool) (inv : Uuid) (question : String) (members : List (String × Json)) :
    Sound positive (reportOn inv question members) ↔ Declared question members := by
  have findings : get (reportOn inv question members).to_dict "key_findings" = (members.lookup "key_findings").getD (.arr []) := rfl
  have contradictions : get (reportOn inv question members).to_dict "contradictions" = (members.lookup "contradictions").getD (.arr []) := rfl
  constructor
  · rintro ⟨fields,rendered⟩
    refine ⟨(fields_declared inv question members).mp fields,fun storable values => ?_⟩
    have page := (page_typed positive fields).mp (rendered ((dict_storable inv question members).mpr ⟨storable,values⟩))
    rwa [findings,contradictions,nested_given,nested_given] at page
  · rintro ⟨fields,nested⟩
    have typed := (fields_declared inv question members).mpr fields
    refine ⟨typed,fun storable => (page_typed positive typed).mpr ?_⟩
    obtain ⟨question',values⟩ := (dict_storable inv question members).mp storable
    rw [findings,contradictions,nested_given,nested_given]
    exact nested question' values

section
variable {self : ConsensusAgent} {content : String}

-- Whatever becomes of the statements, the reply is the model's whole say.
theorem generate_report_given (has : "llm" ∈ self.attributes) (content : String) (inv : Uuid) (question : String) (found : List Finding)
    (db : Database) (l : Session) : (self.generate_report inv question found).Ensures exec (fun c => c.reply = content)
      (fun result db' _ => db' = db ∧
        ((∃ raised, result = .error raised) ∨ result = replyData self.nesting content >>= reportOf inv question)) db l := by
  have asks : self.attribute "llm" = .ok () := by rw [ConsensusAgent.attribute,if_pos has]
  simp only [ConsensusAgent.generate_report,asks]
  intro c given
  have still : ∀ d, Effect c db l (.chat "llama3.2:3b" (consensusMessages question found)) d → d = db := by
    intro d effect
    cases effect
    rfl
  have same := still _ (exec_effect c db l _)
  have answered (text : String) (ok : (exec (.chat "llama3.2:3b" (consensusMessages question found)) c db l).1 = .ok text) : text = content :=
    (Prod.mk.inj (Except.ok.inj (exec_ok ok))).1.symm.trans given
  generalize exec (.chat "llama3.2:3b" (consensusMessages question found)) c db l = out at same answered ⊢
  obtain ⟨answer,db',l'⟩ := out
  cases answer with
  | error => exact ⟨same,.inl ⟨_,rfl⟩⟩
  | ok text =>
    cases answered text rfl
    exact ⟨same,.inr rfl⟩

def Rejected (nesting : Nat) (content : String) : Prop := ∀ members, replyData nesting content ≠ .ok (.obj members)

theorem reply_given (made : replyData nesting content >>= reportOf inv question = .ok report) :
    ∃ members, replyData nesting content = .ok (.obj members) ∧ report = reportOn inv question members := by
  cases read : replyData nesting content with
  | error raised =>
    rw [read] at made
    cases made
  | ok data =>
    rw [read] at made
    cases data with
    | obj members =>
      cases made
      exact ⟨members,rfl,rfl⟩
    | _ => cases made

theorem rejected_raises (rejected : Rejected nesting content) (inv : Uuid) (question : String) :
    ∃ raised, replyData nesting content >>= reportOf inv question = .error raised := by
  cases read : replyData nesting content with
  | error raised => exact ⟨raised,rfl⟩
  | ok data => cases data with
    | obj members => exact absurd read (rejected members)
    | _ => exact ⟨_,rfl⟩

theorem rejected_generate (has : "llm" ∈ self.attributes) (rejected : Rejected self.nesting content) (inv : Uuid) (question : String)
    (found : List Finding) (db : Database) (l : Session) : (self.generate_report inv question found).Ensures exec
      (fun c => c.reply = content) (fun result db' _ => db' = db ∧ ∃ raised, result = .error raised) db l := by
  refine (generate_report_given has content inv question found db l).imp fun result db' _ given => ⟨given.1,?_⟩
  rcases given.2 with raised | same
  · exact raised
  · obtain ⟨raised,fails⟩ := rejected_raises rejected inv question
    exact ⟨raised,same.trans fails⟩

theorem fetch_still {may : Choice → Prop} {s : Statement} (still : ∀ c session d, Effect c db session s d → d = db) (agents : Agents) (l : Session) :
    (fetch s).Ensures exec may (fun _ _ db' _ => db' = db) agents db l := by
  apply Method.Ensures.lift
  intro c _
  have same := still c l _ (exec_effect c db l s)
  generalize exec s c db l = out at same ⊢
  obtain ⟨answer,db',l'⟩ := out
  cases answer <;> exact same

theorem rejected_publish (has : "llm" ∈ self.attributes) (rejected : Rejected self.nesting content) (registry : List (String × AgentClass))
    (inv : Uuid) (question : String) (found : List Finding) (agents : Agents) (db : Database) (l : Session) :
    (publishReport (self.runtime registry) inv question found).Ensures exec (fun c => c.reply = content)
      (fun result _ db' _ => db' = db ∧ ∃ raised, result = .error raised) agents db l := by
  have refuses : (Method.lift ((self.runtime registry).generateReport inv question found) : Py Json).Ensures exec (fun c => c.reply = content)
      (fun result _ db' _ => db' = db ∧ ∃ raised, result = .error raised) agents db l := by
    apply Method.Ensures.lift
    apply Program.Ensures.bind
    refine (rejected_generate has rejected inv question found db l).imp ?_
    rintro _ _ _ ⟨rfl,raised,rfl⟩
    exact ⟨rfl,raised,rfl⟩
  apply Method.Ensures.bind refuses
  · rintro _ _ _ _ ⟨-,_,⟨⟩⟩
  · rintro raised _ _ _ ⟨rfl,-⟩
    exact ⟨rfl,raised,rfl⟩

theorem rejected_unchanged (has : "llm" ∈ self.attributes) (rejected : Rejected self.nesting content) (registry : List (String × AgentClass))
    (inv : Uuid) (agents : Agents) (db : Database) (l : Session) : (run_consensus (self.runtime registry) inv).Ensures exec
      (fun c => c.reply = content) (fun _ _ db' _ => db' = db) agents db l := by
  apply Method.Ensures.bind (fetch_still (s := .investigationQuestion inv) (fun _ _ _ effect => by cases effect; rfl) agents l)
  · rintro question agents' _ l' rfl
    apply Method.Ensures.bind (fetch_still (s := .investigationFindings inv) (fun _ _ _ effect => by cases effect; rfl) agents' l')
    · rintro found agents'' _ l'' rfl
      split
      · exact rfl
      · apply Method.Ensures.attempt (rejected_publish has rejected registry inv question found agents'' _ l'')
        · rintro _ _ _ _ ⟨-,_,⟨⟩⟩
        · rintro raised _ _ _ ⟨rfl,-⟩
          exact rfl
    · exact fun _ _ _ _ same => same
  · exact fun _ _ _ _ same => same

-- What is promised of all reports holds of the one that the reply makes.
theorem sound_reply (has : "llm" ∈ self.attributes) (read : replyData self.nesting content = .ok (.obj members))
    (sound : (self.generate_report inv question found).Ensures exec (fun c => c.reply = content)
      (fun result _ _ => ∀ report, result = .ok report → Sound positive report) db l) :
    Sound positive (reportOn inv question members) := by
  have replies : Replies content ⟨.answered,0,0,content⟩ := ⟨rfl,rfl⟩
  obtain ⟨result,_,_,holds,⟨same,-,-⟩⟩ := Program.Ensures.meet replies (sound.narrow fun _ replies => replies.2)
    (generate_report_answers has read question found)
  exact holds _ same

theorem reports_declared (has : "llm" ∈ self.attributes) (registry : List (String × AgentClass)) (content : String)
    (positive : Json → Bool) (inv : Uuid) (question : String) (found : List Finding) (agents : Agents) (db : Database) (l : Session) :
    ((self.generate_report inv question found).Ensures exec (fun c => c.reply = content)
        (fun result _ _ => ∀ report, result = .ok report → Sound positive report) db l ∧
      (Rejected self.nesting content →
        (self.generate_report inv question found).Ensures exec (fun c => c.reply = content)
          (fun result _ _ => ∃ raised, result = .error raised) db l ∧
        (run_consensus (self.runtime registry) inv).Ensures exec (fun c => c.reply = content) (fun _ _ db' _ => db' = db) agents db l)) ↔
      ∀ members, replyData self.nesting content = .ok (.obj members) → Declared question members := by
  have refuses (rejected : Rejected self.nesting content) := rejected_generate has rejected inv question found db l
  rw [and_iff_left fun rejected => ⟨(refuses rejected).imp fun _ _ _ both => both.2,
    rejected_unchanged has rejected registry inv agents db l⟩]
  constructor
  · intro sound members read
    exact (sound_declared positive inv question members).mp (sound_reply has read sound)
  · intro declared
    refine (generate_report_given has content inv question found db l).imp fun result _ _ given report same => ?_
    rcases given.2 with ⟨raised,fails⟩ | made
    · cases same.symm.trans fails
    · obtain ⟨members,read,rfl⟩ := reply_given (made.symm.trans same)
      exact (sound_declared positive inv question members).mpr (declared members read)

end

-- With the client under the name that generate_report asks for.
def ConsensusAgent.connected : ConsensusAgent := ⟨⟨"rp_admin"⟩,["cfg","mesh","llm"],900⟩

theorem connected_has : "llm" ∈ ConsensusAgent.connected.attributes := by decide

-- A reply with all six fields, each of its type.
def typedReply : String := "\x7b\"executive_summary\":\"it rains\",\"key_findings\":[\x7b\"finding\":\"rain\",\"confidence\":1\x7d]," ++
  "\"contradictions\":[\x7b\"claim_a\":\"dry\"\x7d],\"confidence_score\":0.8,\"open_questions\":[\"when\"],\"recommendations\":[\"stay\"]\x7d"

def typedMembers : List (String × Json) :=
  [("executive_summary",.str "it rains"),("key_findings",.arr [.obj [("finding",.str "rain"),("confidence",.num "1")]]),
   ("contradictions",.arr [.obj [("claim_a",.str "dry")]]),("confidence_score",.num "0.8"),("open_questions",.arr [.str "when"]),
   ("recommendations",.arr [.str "stay"])]

theorem typed_declared (question : String) : Declared question typedMembers := by
  constructor
  · have given : ∀ field ∈ reportFields, (typedMembers.lookup field.1).all field.2.admits = true := by decide +kernel
    intro field member value found
    have own := given field member
    rwa [found] at own
  · intro _ _
    constructor
    · rintro items ⟨⟩
      rfl
    · rintro items ⟨⟩
      rfl

theorem reports_declared_sample :
    (ConsensusAgent.connected.generate_report 21 "why" []).Ensures exec (fun c => c.reply = typedReply)
        (fun result _ _ => ∀ report, result = .ok report → Sound (fun _ => false) report) .concluding .fresh ∧
      (Rejected 900 typedReply →
        (ConsensusAgent.connected.generate_report 21 "why" []).Ensures exec (fun c => c.reply = typedReply)
          (fun result _ _ => ∃ raised, result = .error raised) .concluding .fresh ∧
        (run_consensus (ConsensusAgent.connected.runtime []) 21).Ensures exec (fun c => c.reply = typedReply)
          (fun _ _ db' _ => db' = .concluding) [] .concluding .fresh) := by
  refine (reports_declared connected_has [] typedReply (fun _ => false) 21 "why" [] [] .concluding .fresh).mpr fun members read => ?_
  have own : replyData 900 typedReply = .ok (.obj typedMembers) := by decide +kernel
  cases read.symm.trans own
  exact typed_declared "why"

-- A percentage in place of the fraction, one text in place of the list.
def looseReply : String := "\x7b\"confidence_score\": 95, \"recommendations\": \"leave\"\x7d"

def looseMembers : List (String × Json) := [("confidence_score",.num "95"),("recommendations",.str "leave")]

theorem loose_report_stored :
    (run_consensus (ConsensusAgent.connected.runtime []) 21).Returns exec (Replies looseReply)
      (fun _ _ db' _ => Concluded db' 21 (reportOn 21 "why" looseMembers)) [] .concluding .fresh ∧
    FieldType.unitInterval.admits (get (reportOn 21 "why" looseMembers).to_dict "confidence_score") = false ∧
    ReportPage (fun _ => false) (reportOn 21 "why" looseMembers).to_dict = false ∧
    ¬ (ConsensusAgent.connected.generate_report 21 "why" []).Ensures exec (fun c => c.reply = looseReply)
      (fun result _ _ => ∀ report, result = .ok report → Sound (fun _ => false) report) .concluding .fresh := by
  have read : replyData 900 looseReply = .ok (.obj looseMembers) := by decide +kernel
  have outside : FieldType.unitInterval.admits (get (reportOn 21 "why" looseMembers).to_dict "confidence_score") = false := by
    decide +kernel
  refine ⟨run_consensus_publishes connected_has concluding_found rfl read (by decide),outside,rfl,fun sound => ?_⟩
  have admitted := (sound_reply connected_has read sound).fields ("confidence_score",.unitInterval) (by decide)
  rw [outside] at admitted
  cases admitted

end Trokk
