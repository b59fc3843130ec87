import Trokk.CursorCodec

-- What the cursor's texts are read back as: digits of fixed width, UUIDs, dates of the
-- proleptic Gregorian calendar and RFC 3339 times.
namespace Trokk

theorem digit_facts : ∀ n < 10, digitValue (decimalDigit n) = some n ∧ (decimalDigit n).isDigit = true ∧
    (decimalDigit n).toNat - '0'.toNat = n := by
  decide

theorem decimalDigit_mod (n : Nat) : decimalDigit n = decimalDigit (n % 10) := by
  simp only [decimalDigit,Nat.mod_mod]

theorem readDecimal_succ (width acc : Nat) (text : List Char) :
    readDecimal (width+1) acc text = (readDecimal width acc text).bind fun (n,rest) => readDecimal 1 n rest := by
  induction width generalizing acc text with
  | zero => rfl
  | succ width ih =>
    cases text with
    | nil => rfl
    | cons c rest =>
      rw [readDecimal,readDecimal,Option.bind_assoc]
      exact congrArg _ (funext fun d => ih _ _)

-- As many digits as were written are read, and not one more.
theorem readDecimal_decimal (width n acc : Nat) (rest : List Char) :
    readDecimal width acc (decimal width n ++ rest) = some (acc * 10^width + n % 10^width,rest) := by
  induction width generalizing n rest with
  | zero => simp [readDecimal,decimal,Nat.mod_one]
  | succ width ih =>
    obtain ⟨read,-⟩ := digit_facts (n % 10) (Nat.mod_lt _ (by decide))
    rw [decimal,List.append_assoc,List.singleton_append,readDecimal_succ,ih,Option.bind_some,decimalDigit_mod]
    simp only [readDecimal,read,Option.bind_some]
    have split' : n % 10^(width+1) = n / 10 % 10^width * 10 + n % 10 := by
      rw [Nat.pow_succ,Nat.mul_comm (10^width),Nat.mod_mul]
      omega
    rw [split',Nat.pow_succ,Nat.add_mul,Nat.mul_assoc,Nat.add_assoc]

theorem readBetween_decimal (width n low high : Nat) (short : n < 10^width) (within : low ≤ n ∧ n ≤ high) (rest : List Char) :
    readBetween width low high (decimal width n ++ rest) = some (n,rest) := by
  rw [readBetween,readDecimal_decimal,Nat.mod_eq_of_lt short]
  simp [within]

theorem decimal_length (width n : Nat) : (decimal width n).length = width := by
  induction width generalizing n with
  | zero => rfl
  | succ width ih => rw [decimal,List.length_append,ih,List.length_singleton]

theorem mem_decimal {c : Char} (member : c ∈ decimal width n) : ∃ k < 10, c = decimalDigit k := by
  induction width generalizing n with
  | zero => exact absurd member List.not_mem_nil
  | succ width ih =>
    cases List.mem_append.mp member with
    | inl higher => exact ih higher
    | inr lowest =>
      rw [List.mem_singleton.mp lowest]
      exact ⟨n % 10,Nat.mod_lt _ (by decide),decimalDigit_mod n⟩

theorem decimal_value (width n : Nat) :
    (decimal width n).foldl (fun n c => n*10 + (c.toNat - '0'.toNat)) 0 = n % 10^width := by
  induction width generalizing n with
  | zero => simp [decimal,Nat.mod_one]
  | succ width ih =>
    obtain ⟨-,-,read⟩ := digit_facts (n % 10) (Nat.mod_lt _ (by decide))
    rw [decimal,List.foldl_append,ih,decimalDigit_mod]
    simp only [List.foldl_cons,List.foldl_nil,read]
    rw [Nat.pow_succ,Nat.mul_comm (10^width),Nat.mod_mul]
    omega

theorem takeDigits_append {digits rest : List Char} (all : ∀ c ∈ digits, c.isDigit = true)
    (closed : ∀ c ∈ rest.head?, c.isDigit = false) : JsonText.takeDigits (digits ++ rest) = (digits,rest) := by
  have stop : rest.takeWhile Char.isDigit = [] ∧ rest.dropWhile Char.isDigit = rest := by
    cases rest with
    | nil => exact ⟨rfl,rfl⟩
    | cons c more => simp [closed c rfl]
  rw [JsonText.takeDigits,List.takeWhile_append_of_pos all,List.dropWhile_append_of_pos all,stop.1,stop.2,List.append_nil]

-- The zeros that were dropped are the ones put back.
theorem fraction_padded (n : Nat) :
    ((decimal 9 n).rdropWhile (· = '0') ++ List.replicate 9 '0').take 9 = decimal 9 n := by
  have whole : (decimal 9 n).rdropWhile (· = '0') ++ (decimal 9 n).rtakeWhile (· = '0') = decimal 9 n :=
    List.rdropWhile_append_rtakeWhile
  have zeros : (decimal 9 n).rtakeWhile (· = '0') = List.replicate ((decimal 9 n).rtakeWhile (· = '0')).length '0' :=
    List.eq_replicate_of_mem fun c member => by simpa using List.mem_rtakeWhile_imp member
  have lengths := congrArg List.length whole
  rw [List.length_append,decimal_length] at lengths
  rw [List.take_append,List.take_of_length_le (by omega),List.take_replicate,
    (by omega : min (9 - ((decimal 9 n).rdropWhile (· = '0')).length) 9 = ((decimal 9 n).rtakeWhile (· = '0')).length),← zeros]
  exact whole

theorem fraction_digits (some' : n ≠ 0) (small : n < 10^9) : (decimal 9 n).rdropWhile (· = '0') ≠ [] := by
  intro empty
  have zeros : decimal 9 n = List.replicate 9 '0' := by
    rw [List.eq_replicate_iff,decimal_length]
    exact ⟨rfl,fun c member => by simpa using List.rdropWhile_eq_nil_iff.mp empty c member⟩
  have read := decimal_value 9 n
  rw [zeros,Nat.mod_eq_of_lt small] at read
  exact some' read.symm

theorem readFraction_text (small : n < 10^9) (closed : ∀ c ∈ rest.head?, c.isDigit = false ∧ c ≠ '.') :
    readFraction (fractionText n ++ rest) = (n,rest) := by
  by_cases whole : n = 0
  · rw [fractionText,if_pos whole,List.nil_append,readFraction.eq_def,whole]
    split
    · exact absurd rfl (closed '.' rfl).2
    · rfl
  · have digits : ∀ c ∈ (decimal 9 n).rdropWhile (· = '0'), c.isDigit = true := by
      intro c member
      obtain ⟨k,short,rfl⟩ := mem_decimal (List.IsPrefix.subset (List.rdropWhile_prefix _ _) member)
      exact (digit_facts k short).2.1
    have taken := takeDigits_append digits fun c first => (closed c first).1
    rw [fractionText,if_neg whole,List.cons_append,readFraction]
    simp only [taken,if_neg (fraction_digits whole small),fraction_padded,decimal_value,Nat.mod_eq_of_lt small]

theorem readZone_text (within : offset.natAbs < 24*60) : readZone (zoneText offset) = some offset := by
  by_cases utc : offset = 0
  · rw [zoneText,if_pos utc,utc]
    rfl
  · have hour := readBetween_decimal 2 (offset.natAbs / 60) 0 23 (by omega) ⟨Nat.zero_le _,by omega⟩
      (':' :: (decimal 2 (offset.natAbs % 60) ++ []))
    have minute := readBetween_decimal 2 (offset.natAbs % 60) 0 59 (by omega) ⟨Nat.zero_le _,by omega⟩ []
    have colon (rest : List Char) : readChar ':' (':' :: rest) = some rest := rfl
    have text (sign : Char) : sign :: decimal 2 (offset.natAbs / 60) ++ [':'] ++ decimal 2 (offset.natAbs % 60) =
        sign :: (decimal 2 (offset.natAbs / 60) ++ ':' :: (decimal 2 (offset.natAbs % 60) ++ [])) := by simp
    rw [zoneText,if_neg utc,text,readZone.eq_def]
    split
    · rename_i same
      have lengths := congrArg List.length same
      simp [decimal_length] at lengths
    · rename_i same
      cases same
      simp only [hour,minute,colon,Option.bind_eq_bind,Option.bind_some]
      have whole : offset.natAbs / 60 * 60 + offset.natAbs % 60 = offset.natAbs := Nat.div_add_mod' _ _
      rw [whole,if_neg (not_not.mpr rfl)]
      by_cases west : offset < 0
      · rw [if_pos west,if_neg (by decide),if_pos rfl]
        exact congrArg some (by omega)
      · rw [if_neg west,if_pos rfl]
        exact congrArg some (by omega)
    · contradiction

theorem hexValue_nibble : ∀ n < 16, JsonText.hexValue (nibbleDigit n) = some n := by decide

theorem nibbleDigit_mod (n : Nat) : nibbleDigit n = nibbleDigit (n % 16) := by
  simp only [nibbleDigit,Nat.mod_mod]

namespace Uuid

theorem readHex_append (acc : Nat) (front rest : List Char) :
    readHex acc (front ++ rest) = (readHex acc front).bind (readHex · rest) := by
  induction front generalizing acc with
  | nil => rfl
  | cons c front ih =>
    rw [List.cons_append,readHex,readHex,Option.bind_assoc]
    exact congrArg _ (funext fun d => ih _)

theorem readHex_hexadecimal (width n acc : Nat) : readHex acc (hexadecimal width n) = some (acc * 16^width + n % 16^width) := by
  induction width generalizing n with
  | zero => simp [readHex,hexadecimal,Nat.mod_one]
  | succ width ih =>
    rw [hexadecimal,readHex_append,ih,Option.bind_some,nibbleDigit_mod]
    simp only [readHex,hexValue_nibble _ (Nat.mod_lt n (by decide : 0 < 16)),Option.bind_some]
    have split' : n % 16^(width+1) = n / 16 % 16^width * 16 + n % 16 := by
      rw [Nat.pow_succ,Nat.mul_comm (16^width),Nat.mod_mul]
      omega
    rw [split',Nat.pow_succ,Nat.add_mul,Nat.mul_assoc,Nat.add_assoc]

theorem hexadecimal_length (width n : Nat) : (hexadecimal width n).length = width := by
  induction width generalizing n with
  | zero => rfl
  | succ width ih => rw [hexadecimal,List.length_append,ih,List.length_singleton]

theorem ofHex_hexadecimal (id : Uuid) : ofHex (hexadecimal 32 id.val) = some id := by
  have whole : id.val % 16^32 = id.val := Nat.mod_eq_of_lt (by have := id.isLt; omega)
  rw [ofHex,readHex_hexadecimal,whole,Nat.zero_mul,Nat.zero_add,Option.bind_some,dif_pos id.isLt]

-- The five groups between the hyphens.
theorem ofStandard_groups {a b c d e : List Char} (eight : a.length = 8) (four : b.length = 4) (four' : c.length = 4)
    (four'' : d.length = 4) (twelve : e.length = 12) :
    ofStandard (a ++ ['-'] ++ b ++ ['-'] ++ c ++ ['-'] ++ d ++ ['-'] ++ e) = ofHex (a ++ b ++ c ++ d ++ e) := by
  rw [ofStandard,if_pos]
  · simp [List.drop_append,List.drop_of_length_le,eight,four,four',four'']
  · simp [eight,four,four',four'',twelve]

theorem Parse_text (id : Uuid) : Parse id.text = some id := by
  have hex := hexadecimal_length 32 id.val
  have standard := ofStandard_groups (a := (hexadecimal 32 id.val).take 8) (b := ((hexadecimal 32 id.val).drop 8).take 4)
    (c := ((hexadecimal 32 id.val).drop 12).take 4) (d := ((hexadecimal 32 id.val).drop 16).take 4)
    (e := (hexadecimal 32 id.val).drop 20) (by simp [hex]) (by simp [hex]) (by simp [hex]) (by simp [hex]) (by simp [hex])
  have joined : (hexadecimal 32 id.val).take 8 ++ ((hexadecimal 32 id.val).drop 8).take 4 ++
      ((hexadecimal 32 id.val).drop 12).take 4 ++ ((hexadecimal 32 id.val).drop 16).take 4 ++ (hexadecimal 32 id.val).drop 20 =
        hexadecimal 32 id.val := by
    have group (n : Nat) : ((hexadecimal 32 id.val).drop n).take 4 ++ (hexadecimal 32 id.val).drop (n+4) =
        (hexadecimal 32 id.val).drop n := by
      rw [← List.drop_drop]
      exact List.take_append_drop _ _
    simp only [List.append_assoc]
    rw [group 16,group 12,group 8,List.take_append_drop]
  rw [joined,ofHex_hexadecimal] at standard
  rw [Parse,if_pos (by simp [text,hex])]
  exact standard

end Uuid

-- The year of an era that one of its days falls in, and the first day of a year.
def yearOfDay (day : Nat) : Nat := (day - day / 1460 + day / 36524 - day / 146096) / 365
def firstDay (year : Nat) : Nat := 365 * year + year / 4 - year / 100

theorem yearOfDay_mono (before : a ≤ b) : yearOfDay a ≤ yearOfDay b := by
  have fours (day : Nat) : day / 146096 = day / 36524 / 4 := by rw [Nat.div_div_eq_div_mul]
  have days : a - a / 1460 ≤ b - b / 1460 := by omega
  have centuries : a / 36524 ≤ b / 36524 := Nat.div_le_div_right before
  unfold yearOfDay
  rw [fours a,fours b]
  exact Nat.div_le_div_right (by omega)

-- The closed form is right where years begin and end, hence everywhere between.
theorem yearOfDay_borders : ∀ year < 400, yearOfDay (firstDay year) = year ∧ yearOfDay (firstDay year - 1) = year - 1 := by
  decide +kernel

theorem yearOfDay_last : yearOfDay 146096 = 399 := by decide

theorem yearOfDay_spec (bound : day < 146097) : yearOfDay day < 400 ∧ firstDay (yearOfDay day) ≤ day ∧
    (yearOfDay day < 399 → day < firstDay (yearOfDay day + 1)) := by
  have early : yearOfDay day ≤ 399 := yearOfDay_last ▸ yearOfDay_mono (by omega : day ≤ 146096)
  refine ⟨by omega,?_,?_⟩
  · by_contra late
    have year := (yearOfDay_borders (yearOfDay day) (by omega)).2
    have less := yearOfDay_mono (by omega : day ≤ firstDay (yearOfDay day) - 1)
    have positive : 0 < firstDay (yearOfDay day) := by omega
    have : yearOfDay day ≠ 0 := by
      intro first
      rw [first] at positive
      exact absurd positive (by decide)
    omega
  · intro notLast
    by_contra late
    have year := (yearOfDay_borders (yearOfDay day + 1) (by omega)).1
    have more := yearOfDay_mono (by omega : firstDay (yearOfDay day + 1) ≤ day)
    omega

-- Month and day of a day of the year, both counted from March.
def monthOf (day : Nat) : Nat :=
  let shifted := (5 * day + 2) / 153
  if shifted < 10 then shifted + 3 else shifted - 9
def dayOf (day : Nat) : Nat := day - (153 * ((5 * day + 2) / 153) + 2) / 5 + 1

theorem monthOf_spec : ∀ day < 366, (1 ≤ monthOf day ∧ monthOf day ≤ 12) ∧
    (153 * ((monthOf day + 9) % 12) + 2) / 5 + dayOf day - 1 = day ∧ 1 ≤ dayOf day ∧
      (dayOf day ≤ daysIn (monthOf day) 1 ∨ monthOf day = 2 ∧ dayOf day = 29 ∧ day = 365) := by
  decide +kernel

-- Only a year that ends in a leap day is that long.
theorem longYear_leap : ∀ year < 399, firstDay year + 365 < firstDay (year + 1) → (year + 1) % 4 = 0 ∧ (year + 1) % 100 ≠ 0 := by
  decide +kernel

theorem daysIn_common (month year : Nat) : daysIn month 1 ≤ daysIn month year := by
  unfold daysIn
  have common : leapYear 1 = false := by decide
  rw [common,if_neg Bool.false_ne_true]
  split
  · split <;> omega
  · exact Nat.le_refl _

structure Dated (days : Int) (year : Int) (month day : Nat) : Prop where
  inYear : 1 ≤ month ∧ month ≤ 12
  inMonth : 0 ≤ year → 1 ≤ day ∧ day ≤ daysIn month year.toNat
  exact : daysOfDate year month day = days

theorem firstDay_int (year : Nat) : (firstDay year : Int) = year * 365 + year / 4 - year / 100 := by
  unfold firstDay
  omega

theorem era_day (days : Int) :
    (days + 719468) / 146097 * 146097 + (((days + 719468) % 146097).toNat : Int) - 719468 = days := by
  omega

theorem dateOfDays_dated (days : Int) : Dated days (dateOfDays days).1 (dateOfDays days).2.1 (dateOfDays days).2.2 := by
  obtain ⟨doe,isDay⟩ : ∃ doe, doe = ((days + 719468) % 146097).toNat := ⟨_,rfl⟩
  obtain ⟨yoe,isYear⟩ : ∃ yoe, yoe = yearOfDay doe := ⟨_,rfl⟩
  obtain ⟨doy,inYear⟩ : ∃ doy, doy = doe - firstDay yoe := ⟨_,rfl⟩
  have date : dateOfDays days = (if monthOf doy ≤ 2 then (days + 719468) / 146097 * 400 + yoe + 1
      else (days + 719468) / 146097 * 400 + yoe,monthOf doy,dayOf doy) := by
    rw [inYear,isYear,isDay]
    rfl
  have bound : doe < 146097 := by omega
  obtain ⟨era,begun,ended⟩ := yearOfDay_spec bound
  rw [← isYear] at era begun ended
  have short : doy < 366 := by
    unfold firstDay at begun ended inYear
    omega
  obtain ⟨month,inverse,first,last⟩ := monthOf_spec doy short
  rw [date]
  refine ⟨month,fun common => ⟨first,?_⟩,?_⟩
  · rcases last with ordinary | ⟨february,leapDay,atEnd⟩
    · exact ordinary.trans (daysIn_common _ _)
    · rw [if_pos (by omega)] at common ⊢
      have leap : leapYear ((days + 719468) / 146097 * 400 + yoe + 1).toNat = true := by
        have divides : (yoe + 1) % 4 = 0 ∧ ((yoe + 1) % 100 ≠ 0 ∨ (yoe + 1) % 400 = 0) := by
          by_cases final : yoe < 399
          · have whole := longYear_leap yoe final (by have := ended final; omega)
            exact ⟨whole.1,.inl whole.2⟩
          · rw [(by omega : yoe = 399)]
            decide
        simp only [leapYear,Bool.and_eq_true,Bool.or_eq_true,decide_eq_true_eq]
        omega
      simp only [february,leapDay,daysIn,leap,if_true,Nat.le_refl]
  · have civil : (if monthOf doy ≤ 2 then (if monthOf doy ≤ 2 then (days + 719468) / 146097 * 400 + (yoe : Int) + 1
        else (days + 719468) / 146097 * 400 + yoe) - 1 else (if monthOf doy ≤ 2 then (days + 719468) / 146097 * 400 + (yoe : Int) + 1
        else (days + 719468) / 146097 * 400 + yoe)) = (days + 719468) / 146097 * 400 + yoe := by
      split <;> omega
    have ofEra : ((days + 719468) / 146097 * 400 + (yoe : Int)) % 400 = yoe := by omega
    have eras : ((days + 719468) / 146097 * 400 + (yoe : Int)) / 400 = (days + 719468) / 146097 := by omega
    have whole : firstDay yoe + doy = doe := inYear ▸ Nat.add_sub_of_le begun
    simp only [daysOfDate,civil,inverse,ofEra,eras]
    rw [← firstDay_int,← Int.natCast_add,whole,isDay]
    exact era_day days

theorem zone_head (offset : Int) : ∀ c ∈ (zoneText offset).head?, c.isDigit = false ∧ c ≠ '.' := by
  unfold zoneText
  intro c first
  split at first
  · cases first
    decide
  · split at first <;> cases first <;> decide

-- The pieces of a time's text, each behind the sign that announces it.
theorem Time.read_pieces {year month day hour minute second fraction : Nat} {offset : Int} (fourDigits : year ≤ 9999)
    (inYear : 1 ≤ month ∧ month ≤ 12) (inMonth : 1 ≤ day ∧ day ≤ daysIn month year) (hours : hour ≤ 23) (minutes : minute ≤ 59)
    (seconds : second ≤ 59) (small : fraction < 10^9) (within : offset.natAbs < 24*60) :
    Time.read (decimal 4 year ++ ['-'] ++ decimal 2 month ++ ['-'] ++ decimal 2 day ++ ['T'] ++ decimal 2 hour ++ [':'] ++
      decimal 2 minute ++ [':'] ++ decimal 2 second ++ fractionText fraction ++ zoneText offset) =
      some ⟨(daysOfDate year month day * 86400 + (hour*3600 + minute*60 + second : Nat) - offset * 60) * 1000000000 + fraction,
        offset⟩ := by
  have short : daysIn month year ≤ 31 := by
    unfold daysIn
    split
    · split <;> omega
    · split <;> omega
  have char (c : Char) (rest : List Char) : readChar c (c :: rest) = some rest := by simp [readChar]
  have readYear := readBetween_decimal 4 year 0 9999 (by omega) ⟨Nat.zero_le _,fourDigits⟩
  have readMonth := readBetween_decimal 2 month 1 12 (by omega) inYear
  have readDay := readBetween_decimal 2 day 1 (daysIn month year) (by omega) inMonth
  have readHour := readBetween_decimal 2 hour 0 23 (by omega) ⟨Nat.zero_le _,hours⟩
  have readMinute := readBetween_decimal 2 minute 0 59 (by omega) ⟨Nat.zero_le _,minutes⟩
  have readSecond := readBetween_decimal 2 second 0 59 (by omega) ⟨Nat.zero_le _,seconds⟩
  simp only [List.append_assoc,List.cons_append,List.nil_append]
  refine Option.bind_eq_some_iff.mpr ⟨_,readYear _,?_⟩
  refine Option.bind_eq_some_iff.mpr ⟨_,char '-' _,?_⟩
  refine Option.bind_eq_some_iff.mpr ⟨_,readMonth _,?_⟩
  refine Option.bind_eq_some_iff.mpr ⟨_,char '-' _,?_⟩
  refine Option.bind_eq_some_iff.mpr ⟨_,readDay _,?_⟩
  refine Option.bind_eq_some_iff.mpr ⟨_,char 'T' _,?_⟩
  refine Option.bind_eq_some_iff.mpr ⟨_,readHour _,?_⟩
  refine Option.bind_eq_some_iff.mpr ⟨_,char ':' _,?_⟩
  refine Option.bind_eq_some_iff.mpr ⟨_,readMinute _,?_⟩
  refine Option.bind_eq_some_iff.mpr ⟨_,char ':' _,?_⟩
  refine Option.bind_eq_some_iff.mpr ⟨_,readSecond _,?_⟩
  simp only [readFraction_text small (zone_head offset)]
  exact Option.bind_eq_some_iff.mpr ⟨_,readZone_text within,rfl⟩

-- The date and the second of the day that a time is printed with.
def Time.date (t : Time) : Int × Nat × Nat := dateOfDays ((t.nanos / 1000000000 + t.offset * 60) / 86400)
def Time.clock (t : Time) : Nat := ((t.nanos / 1000000000 + t.offset * 60) % 86400).toNat

theorem Time.text_pieces {t : Time} (printed : t.text = some written) :
    (0 ≤ t.date.1 ∧ t.date.1 ≤ 9999 ∧ t.offset.natAbs < 24*60) ∧
    decimal 4 t.date.1.toNat ++ ['-'] ++ decimal 2 t.date.2.1 ++ ['-'] ++ decimal 2 t.date.2.2 ++ ['T'] ++
      decimal 2 (t.clock / 3600) ++ [':'] ++ decimal 2 (t.clock / 60 % 60) ++ [':'] ++ decimal 2 (t.clock % 60) ++
      fractionText (t.nanos % 1000000000).toNat ++ zoneText t.offset = written :=
  (Option.ite_none_right_eq_some.mp printed).imp_right Option.some.inj

theorem Time.read_text {t : Time} (printed : t.text = some written) : Time.read written = some t := by
  obtain ⟨⟨positive,fourDigits,within⟩,rfl⟩ := Time.text_pieces printed
  obtain ⟨inYear,inMonth,exact'⟩ : Dated ((t.nanos / 1000000000 + t.offset * 60) / 86400) t.date.1 t.date.2.1 t.date.2.2 :=
    dateOfDays_dated _
  have year := Int.toNat_of_nonneg positive
  have clock : (t.clock : Int) = (t.nanos / 1000000000 + t.offset * 60) % 86400 := Int.toNat_of_nonneg (by omega)
  have inDay : t.clock < 86400 := by omega
  rw [Time.read_pieces (by omega) inYear (inMonth positive) (by omega) (by omega) (by omega) (by omega) within,year,exact']
  exact congrArg (fun nanos => some (Time.mk nanos t.offset)) (by omega : _ = t.nanos)

end Trokk
