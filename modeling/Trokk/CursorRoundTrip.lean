import Trokk.Library.UrlQuery
import Trokk.CursorText
import Trokk.MessageQueries

-- A cursor on its way out of EncodeCursor, through getMessages of
-- ferr/src/lib/api/service.ts and the URL into DecodeCursor.
namespace Trokk

-- getMessages, as far as it writes the path; a cursor or agent id that is undefined or
-- empty is left out.
def getMessagesPath (cursor agentId : Option String) : String :=
  let params := ((cursor.filter (· ≠ "")).map ("cursor=" ++ ·)).toList ++ ((agentId.filter (· ≠ "")).map ("agent_id=" ++ ·)).toList
  if params = [] then "/messages" else "/messages" ++ "?" ++ "&".intercalate params

-- r.URL.Query().Get(name), empty where the name is missing. The base URL that config.ts
-- puts before the path has no query of its own.
def queryValue (name path : String) : String :=
  String.ofList ((UrlQuery.get name.toList (UrlQuery.sent (UrlQuery.cut '?' path.toList).2)).getD [])

-- A time that encoding/json can write: its year, in its own zone, has four digits, and
-- the zone is less than a day away from UTC.
structure Time.Printable (t : Time) : Prop where
  year : 0 ≤ (dateOfDays ((t.nanos / 1000000000 + t.offset * 60) / 86400)).1 ∧
    (dateOfDays ((t.nanos / 1000000000 + t.offset * 60) / 86400)).1 ≤ 9999
  zone : t.offset.natAbs < 24*60

structure RoundTrip (c : Cursor) : Prop where
  characters : ∀ letter ∈ (EncodeCursor (some c)).toList, letter ∈ UrlQuery.unreserved
  received : ∀ agentId, queryValue "cursor" (getMessagesPath (some (EncodeCursor (some c))) agentId) = EncodeCursor (some c)
  decoded : ∃ d, DecodeCursor (EncodeCursor (some c)) = .ok (some d) ∧
    d.createdAt.nanos = c.createdAt.nanos ∧ d.id = c.id ∧ ∀ zone (m : MessageRow), c = ⟨Time.scan zone m.createdAt,m.id⟩ →
      ∀ r : MessageRow, Keyset.Older MessageRow.key (some d.key) r ↔ r.key < m.key

-- A character that stands for itself in JSON and is one byte.
def asciiSelf (c : Char) : Bool := JsonText.selfSame c && c.toNat < 128

theorem decimal_ascii (width n : Nat) : ∀ c ∈ decimal width n, asciiSelf c = true := by
  intro c member
  obtain ⟨k,small,rfl⟩ := mem_decimal member
  have digits : ∀ k < 10, asciiSelf (decimalDigit k) = true := by decide
  exact digits k small

theorem fraction_ascii (nanos : Nat) : ∀ c ∈ fractionText nanos, asciiSelf c = true := by
  unfold fractionText
  split
  · exact fun _ => nofun
  · exact List.forall_mem_cons.mpr ⟨by decide,fun c member => decimal_ascii 9 nanos c ((List.rdropWhile_prefix _ _).subset member)⟩

theorem zone_ascii (offset : Int) : ∀ c ∈ zoneText offset, asciiSelf c = true := by
  unfold zoneText
  split
  · exact List.forall_mem_singleton.mpr (by decide)
  · simp only [List.forall_mem_append,List.forall_mem_cons]
    refine ⟨⟨⟨?_,decimal_ascii _ _⟩,by decide,nofun⟩,decimal_ascii _ _⟩
    split <;> decide

theorem text_ascii {t : Time} (printed : t.text = some written) : ∀ c ∈ written, asciiSelf c = true := by
  obtain ⟨-,rfl⟩ := Time.text_pieces printed
  simp only [List.forall_mem_append]
  and_intros
  all_goals first | exact decimal_ascii _ _ | exact fraction_ascii _ | exact zone_ascii _ | exact List.forall_mem_singleton.mpr (by decide)

theorem uuid_ascii (id : Uuid) : ∀ c ∈ id.text, asciiSelf c = true := by
  intro c member
  rcases Uuid.mem_text member with rfl | ⟨k,small,rfl⟩
  · decide
  · have digits : ∀ k < 16, asciiSelf (nibbleDigit k) = true := by decide
    exact digits k small

theorem bytes_back {text : List Char} (ascii : ∀ c ∈ text, c.toNat < 128) :
    (text.map fun c => c.toNat.toUInt8).map (fun b => Char.ofNat b.toNat) = text := by
  rw [List.map_map,List.map_congr_left (g := fun c => c)]
  · exact List.map_id' text
  · intro c member
    have small := ascii c member
    simp only [Function.comp_apply,Nat.toUInt8,UInt8.toNat_ofNat']
    rw [Nat.mod_eq_of_lt (by omega),Char.ofNat_toNat]

theorem cursorJson_members (printed : c.createdAt.text = some written) :
    cursorJson c = some ('{' :: (JsonText.textMembers [(['t'],written),(['i','d'],c.id.text)] ++ ['}'])) := by
  rw [cursorJson,printed,Option.map_some]
  simp [JsonText.textMembers]

theorem unmarshal_encoded (printed : c.createdAt.text = some written) :
    unmarshalCursor (((cursorJson c).getD []).map fun d => d.toNat.toUInt8) = some c := by
  have pairs : ∀ p ∈ [(['t'],written),(['i','d'],c.id.text)], (∀ d ∈ p.1, asciiSelf d = true) ∧ ∀ d ∈ p.2, asciiSelf d = true := by
    simp only [List.forall_mem_cons]
    exact ⟨⟨⟨by decide,nofun⟩,text_ascii printed⟩,⟨⟨by decide,by decide,nofun⟩,uuid_ascii c.id⟩,nofun⟩
  have itself : JsonText.SelfSame [(['t'],written),(['i','d'],c.id.text)] := fun p member =>
    ⟨fun d inKey => (Bool.and_eq_true_iff.mp ((pairs p member).1 d inKey)).1,
      fun d inText => (Bool.and_eq_true_iff.mp ((pairs p member).2 d inText)).1⟩
  have ascii : ∀ d ∈ '{' :: (JsonText.textMembers [(['t'],written),(['i','d'],c.id.text)] ++ ['}']), d.toNat < 128 := by
    have small {text : List Char} (all : ∀ d ∈ text, asciiSelf d = true) : ∀ d ∈ text, d.toNat < 128 :=
      fun d member => of_decide_eq_true (Bool.and_eq_true_iff.mp (all d member)).2
    have time := small (text_ascii printed)
    have uuid := small (uuid_ascii c.id)
    simp only [JsonText.textMembers,List.forall_mem_cons,List.forall_mem_append]
    refine ⟨?_,⟨?_,⟨?_,nofun⟩,?_,?_,?_,time,?_,?_,?_,⟨?_,?_,nofun⟩,?_,?_,?_,uuid,?_,nofun⟩,?_,nofun⟩ <;> decide
  rw [cursorJson_members printed,Option.getD_some,unmarshalCursor,bytes_back ascii,
    JsonText.parse_texts (List.cons_ne_nil _ _) itself (by decide)]
  have id := JsonText.unquote_plain (itself _ (List.mem_cons_of_mem _ List.mem_cons_self)).2
  simp only [Option.bind_some,List.map_cons,List.map_nil,List.foldlM_cons,List.foldlM_nil]
  simp [storeMember,JsonText.unquote,Time.read_text printed,id,Uuid.Parse_text]

theorem Time.Printable.text {t : Time} (printable : t.Printable) : ∃ written, t.text = some written := by
  exact ⟨_,if_pos ⟨printable.year.1,printable.year.2,printable.zone⟩⟩

theorem letters_unreserved : ∀ n < 64, Base64.letter n ∈ UrlQuery.unreserved := by decide +kernel

theorem encoded_letters (c : Option Cursor) : ∀ letter ∈ (EncodeCursor c).toList, letter ∈ UrlQuery.unreserved := by
  unfold EncodeCursor
  split
  · exact fun _ => nofun
  · rw [String.toList_ofList]
    intro letter member
    obtain ⟨n,small,rfl⟩ := Base64.mem_encode member
    exact letters_unreserved n small

theorem decode_encoded (printable : c.createdAt.Printable) :
    EncodeCursor (some c) ≠ "" ∧ DecodeCursor (EncodeCursor (some c)) = .ok (some c) := by
  obtain ⟨written,printed⟩ := printable.text
  have read := unmarshal_encoded printed
  have nonempty : EncodeCursor (some c) ≠ "" := by
    intro empty
    have letters : Base64.encode (((cursorJson c).getD []).map fun d => d.toNat.toUInt8) = [] := by
      simpa [EncodeCursor] using empty
    have bytes := Base64.decode_encode (((cursorJson c).getD []).map fun d => d.toNat.toUInt8)
    rw [letters] at bytes
    rw [← Option.some.inj bytes] at read
    cases read
  refine ⟨nonempty,?_⟩
  rw [DecodeCursor,if_neg nonempty,EncodeCursor,String.toList_ofList,Base64.decode_encode,Option.bind_some,read]

-- Whatever follows in the query, the handler reads the cursor that was written there.
theorem cursor_received (plain : ∀ letter ∈ cursor.toList, letter ∈ UrlQuery.unreserved) (nonempty : cursor ≠ "")
    (agentId : Option String) : queryValue "cursor" (getMessagesPath (some cursor) agentId) = cursor := by
  have path : ∃ rest, (getMessagesPath (some cursor) agentId).toList =
      "/messages".toList ++ '?' :: ("cursor".toList ++ '=' :: cursor.toList ++ rest) ∧ (rest = [] ∨ ∃ others, rest = '&' :: others) := by
    have present : (some cursor).filter (· ≠ "") = some cursor := by simp [nonempty]
    rw [getMessagesPath,present]
    cases (agentId.filter (· ≠ "")) with
    | none => exact ⟨[],by simp,.inl rfl⟩
    | some agent => exact ⟨'&' :: ("agent_id=" ++ agent).toList,by simp,.inr ⟨_,rfl⟩⟩
  obtain ⟨rest,path,more⟩ := path
  have query : (UrlQuery.cut '?' (getMessagesPath (some cursor) agentId).toList).2 =
      "cursor".toList ++ '=' :: cursor.toList ++ rest := by
    have before := List.all_eq_true.mp (by decide : "/messages".toList.all (· ≠ '?') = true)
    rw [path,UrlQuery.cut,List.dropWhile_append_of_pos before]
    rfl
  have name := List.all_eq_true.mp (by decide +kernel : "cursor".toList.all (· ∈ UrlQuery.unreserved) = true)
  rw [queryValue,query,UrlQuery.get_first (fun c member => of_decide_eq_true (name c member)) plain rest more,Option.getD_some,String.ofList_toList]

-- The four codecs undo each other, so a cursor resumes at the row it was made of and
-- none stands for two rows.
theorem cursor_round_trip (c : Cursor) (printable : c.createdAt.Printable) : RoundTrip c ∧
    ∀ d : Cursor, d.createdAt.Printable → EncodeCursor (some c) = EncodeCursor (some d) →
      c.createdAt.nanos = d.createdAt.nanos ∧ c.id = d.id := by
  obtain ⟨nonempty,decoded⟩ := decode_encoded printable
  refine ⟨⟨encoded_letters _,cursor_received (encoded_letters _) nonempty,c,decoded,rfl,rfl,?_⟩,?_⟩
  · rintro zone m rfl r
    have row : Cursor.key ⟨Time.scan zone m.createdAt,m.id⟩ = m.key := by simp [Cursor.key,MessageRow.key]
    rw [row]
    simp [Keyset.Older]
  · intro d printable' same
    rw [same,(decode_encoded printable').2] at decoded
    cases decoded
    exact ⟨rfl,rfl⟩

-- Nine sub-second digits and a zone of half an hour past the hour.
def Cursor.sample : Cursor := ⟨⟨1767225599123456789,-210⟩,11⟩

theorem cursor_round_trip_sample : Cursor.sample.createdAt.Printable ∧ RoundTrip .sample ∧
    ∀ d : Cursor, d.createdAt.Printable → EncodeCursor (some .sample) = EncodeCursor (some d) →
      Cursor.sample.createdAt.nanos = d.createdAt.nanos ∧ Cursor.sample.id = d.id := by
  have printable : Cursor.sample.createdAt.Printable := ⟨by decide,by decide⟩
  exact ⟨printable,cursor_round_trip .sample printable⟩

end Trokk
