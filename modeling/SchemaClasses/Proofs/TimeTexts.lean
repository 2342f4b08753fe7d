import Mathlib.Data.String.Basic
import SchemaClasses.Proofs.Assembly
import SchemaClasses.Proofs.CivilDates
import SchemaClasses.Proofs.Faults
import SchemaClasses.Proofs.FileLines
import SchemaClasses.Proofs.FlagSpellings
import SchemaClasses.Proofs.LineTexts

/-! The time in the first line of a file. Its fields are read back from the text, so that the second
of the run can be counted from it, and no two seconds have the same text. While years have four
digits, every field has one width, and the texts are in the order of the seconds. -/

namespace SchemaClasses

namespace Text

/-! ### Cutting -/

theorem cutLast?_of_not_mem {sep : Char} {cs : List Char} (h : sep ∉ cs) :
    cutLast? sep cs = none := by
  induction cs with
  | nil => rfl
  | cons c cs ih =>
      rw [List.mem_cons, not_or] at h
      rw [cutLast?, ih h.2]
      exact if_neg (Ne.symm h.1)

theorem cutLast?_append_cons {sep : Char} {behind : List Char} (h : sep ∉ behind)
    (before : List Char) : cutLast? sep (before ++ sep :: behind) = some (before, behind) := by
  induction before with
  | nil =>
      rw [List.nil_append, cutLast?, cutLast?_of_not_mem h]
      exact if_pos rfl
  | cons c before ih => rw [List.cons_append, cutLast?, ih]

end Text

namespace Calendar

/-! ### Numbers of a width -/

theorem digits?_zero_cons {cs : List Char} (h : cs ≠ []) : digits? ('0' :: cs) = digits? cs := by
  obtain ⟨c, cs, rfl⟩ := List.exists_cons_of_ne_nil h
  simp [digits?]

theorem digits?_padded (width n : Nat) : digits? (padded width n) = some n := by
  rw [padded]
  generalize width - (Nat.toDigits 10 n).length = zeros
  induction zeros with
  | zero => exact digits?_toDigits n
  | succ zeros ih =>
      rw [List.replicate_succ, List.cons_append, digits?_zero_cons, ih]
      exact List.append_ne_nil_of_right_ne_nil _ Nat.toDigits_ne_nil

/-- The last digit of a number, behind those of a tenth of it. -/
theorem padded_add_two (width n : Nat) :
    padded (width + 2) n = padded (width + 1) (n / 10) ++ [Nat.digitChar (n % 10)] := by
  rw [padded, padded, Nat.toDigits_eq_if (n := n) (by decide)]
  split
  · rename_i hdigit
    rw [Nat.div_eq_of_lt hdigit, Nat.mod_eq_of_lt hdigit, Nat.toDigits_of_lt_base (by decide)]
    simp [List.replicate_succ']
  · simp

theorem length_padded {width n : Nat} (h : n < 10 ^ (width + 1)) :
    (padded (width + 1) n).length = width + 1 := by
  induction width generalizing n with
  | zero =>
      have hdigit : n < 10 := h
      rw [padded, Nat.toDigits_of_lt_base hdigit]
      rfl
  | succ width ih =>
      rw [padded_add_two, List.length_append, ih (by omega)]
      rfl

/-! ### Order -/

theorem append_lt_append_iff {x y u v : List Char} (h : x.length = y.length) :
    x ++ u < y ++ v ↔ x < y ∨ x = y ∧ u < v := by
  induction x generalizing y with
  | nil =>
      rw [List.eq_nil_of_length_eq_zero h.symm]
      simp
  | cons c x ih =>
      obtain ⟨d, y, rfl⟩ := List.exists_cons_of_length_eq_add_one h.symm
      rw [List.cons_append, List.cons_append, List.cons_lt_cons_iff, List.cons_lt_cons_iff,
        ih (Nat.succ.inj h), List.cons.injEq]
      tauto

theorem padded_inj {width m n : Nat} : padded width m = padded width n ↔ m = n := by
  refine ⟨fun h => ?_, fun h => h ▸ rfl⟩
  have hdigits := congrArg digits? h
  rw [digits?_padded, digits?_padded] at hdigits
  exact Option.some.inj hdigits

theorem padded_lt_padded_iff {width m n : Nat} (hm : m < 10 ^ (width + 1))
    (hn : n < 10 ^ (width + 1)) : padded (width + 1) m < padded (width + 1) n ↔ m < n := by
  have hdigits : ∀ m < 10, ∀ n < 10, [Nat.digitChar m] < [Nat.digitChar n] ↔ m < n := by decide
  induction width generalizing m n with
  | zero =>
      have hm' : m < 10 := hm
      have hn' : n < 10 := hn
      rw [padded, padded, Nat.toDigits_of_lt_base hm', Nat.toDigits_of_lt_base hn']
      exact hdigits m hm' n hn'
  | succ width ih =>
      have hm' : m / 10 < 10 ^ (width + 1) := by omega
      have hn' : n / 10 < 10 ^ (width + 1) := by omega
      have htenth : padded (width + 1) (m / 10) < padded (width + 1) (n / 10) ↔ m / 10 < n / 10 :=
        ih hm' hn'
      rw [padded_add_two, padded_add_two,
        append_lt_append_iff (by rw [length_padded hm', length_padded hn']), htenth,
        padded_inj, hdigits _ (by omega) _ (by omega)]
      omega

/-- Fields of one width are compared before what stands behind them. -/
theorem padded_append_lt_iff (width : Nat) {m n : Nat} (hm : m < 10 ^ (width + 1))
    (hn : n < 10 ^ (width + 1)) (u v : List Char) :
    padded (width + 1) m ++ u < padded (width + 1) n ++ v ↔ m < n ∨ m = n ∧ u < v := by
  rw [append_lt_append_iff (by rw [length_padded hm, length_padded hn]), padded_lt_padded_iff hm hn,
    padded_inj]

theorem padded_append_cons_lt_iff (width : Nat) {m n : Nat} (hm : m < 10 ^ (width + 1))
    (hn : n < 10 ^ (width + 1)) (c : Char) (u v : List Char) :
    padded (width + 1) m ++ c :: u < padded (width + 1) n ++ c :: v ↔ m < n ∨ m = n ∧ u < v := by
  rw [padded_append_lt_iff width hm hn, List.cons_lt_cons_iff]
  simp only [Char.lt_irrefl, false_or, true_and]

theorem yearText_eq {year : Int} (h : 0 ≤ year ∧ year ≤ 9999) :
    yearText year = padded 4 year.natAbs := by
  rw [yearText, if_neg (by omega), if_neg (by omega)]
  rfl

theorem monthLength_le (year : Int) (month : Nat) : monthLength year month ≤ 31 := by
  unfold monthLength
  split
  · split <;> decide
  · split <;> decide

namespace DateTime

/-- With four digits for the year, the texts are in the order of the fields. -/
theorem text_lt_text_iff {t t' : DateTime} (h : t.IsValid) (h' : t'.IsValid)
    (hyear : 0 ≤ t.year ∧ t.year ≤ 9999) (hyear' : 0 ≤ t'.year ∧ t'.year ≤ 9999) :
    t.text < t'.text ↔ t.Earlier t' := by
  have hbounds : ∀ {t : DateTime}, t.IsValid → t.month < 100 ∧ t.day < 100 ∧ t.hour < 100 ∧
      t.minute < 100 ∧ t.second < 100 := by
    intro t h
    have hmonth := h.month.2
    have hday := h.day.2.trans (monthLength_le t.year t.month)
    have hhour := h.hour
    have hminute := h.minute
    have hsecond := h.second
    omega
  obtain ⟨hmonth, hday, hhour, hminute, hsecond⟩ := hbounds h
  obtain ⟨hmonth', hday', hhour', hminute', hsecond'⟩ := hbounds h'
  rw [String.lt_iff_toList_lt, text, text, String.toList_ofList, String.toList_ofList,
    yearText_eq hyear, yearText_eq hyear', Earlier]
  simp only [List.append_assoc, List.cons_append]
  rw [padded_append_cons_lt_iff 3 (by omega) (by omega), padded_append_cons_lt_iff 1 hmonth hmonth',
    padded_append_cons_lt_iff 1 hday hday', padded_append_cons_lt_iff 1 hhour hhour',
    padded_append_cons_lt_iff 1 hminute hminute', padded_append_lt_iff 1 hsecond hsecond']
  simp only [List.lt_irrefl, and_false, or_false]
  omega

end DateTime

/-! ### Reading -/

/-- The year that is written with digits, and perhaps a sign. -/
def yearOfText? : List Char → Option Int
  | '-' :: cs => Option.map (fun n : Nat => -(n : Int)) (digits? cs)
  | '+' :: cs => Option.map (fun n : Nat => (n : Int)) (digits? cs)
  | cs => Option.map (fun n : Nat => (n : Int)) (digits? cs)

/-- The date and the time of day, of the zone UTC, with numbers between the signs. -/
def DateTime.ofText? (text : String) : Option DateTime :=
  match text.toList.splitOn ' ' with
  | [date, time, ['U', 'T', 'C']] =>
    match time.splitOn ':' with
    | [hour, minute, second] => do
      let (beforeDay, day) ← Text.cutLast? '-' date
      let (year, month) ← Text.cutLast? '-' beforeDay
      return {
        year := ← yearOfText? year
        month := ← digits? month
        day := ← digits? day
        hour := ← digits? hour
        minute := ← digits? minute
        second := ← digits? second }
    | _ => none
  | _ => none

theorem yearOfText?_yearText (year : Int) : yearOfText? (yearText year) = some year := by
  rw [yearText]
  split
  · rw [List.singleton_append, yearOfText?, digits?_padded, Option.map_some]
    exact congrArg some (by omega)
  · split
    · rw [List.singleton_append, yearOfText?, digits?_padded, Option.map_some]
      exact congrArg some (by omega)
    · rw [List.nil_append]
      unfold yearOfText?
      split
      · rename_i heq
        exact absurd (heq ▸ List.mem_cons_self) (not_mem_padded rfl 4 year.natAbs)
      · rename_i heq
        exact absurd (heq ▸ List.mem_cons_self) (not_mem_padded rfl 4 year.natAbs)
      · rw [digits?_padded, Option.map_some]
        exact congrArg some (by omega)

theorem DateTime.ofText?_text (t : DateTime) : ofText? t.text = some t := by
  have hspace : ∀ n, ' ' ∉ padded 2 n := not_mem_padded rfl 2
  have hcolon : ∀ n, ':' ∉ padded 2 n := not_mem_padded rfl 2
  have hdash : ∀ n, '-' ∉ padded 2 n := not_mem_padded rfl 2
  have hyear : ' ' ∉ yearText t.year := not_mem_yearText rfl (by decide) (by decide) t.year
  have hparts : t.text.toList.splitOn ' ' =
      [(yearText t.year ++ '-' :: padded 2 t.month) ++ '-' :: padded 2 t.day,
        padded 2 t.hour ++ ':' :: (padded 2 t.minute ++ ':' :: padded 2 t.second),
        ['U', 'T', 'C']] := by
    have htext : t.text.toList =
        ((yearText t.year ++ '-' :: padded 2 t.month) ++ '-' :: padded 2 t.day) ++ ' ' ::
          ((padded 2 t.hour ++ ':' :: (padded 2 t.minute ++ ':' :: padded 2 t.second)) ++ ' ' ::
            ['U', 'T', 'C']) := by
      rw [text, String.toList_ofList]
      simp only [List.append_assoc, List.cons_append]
    rw [htext, List.splitOn_append_cons_self_of_not_mem,
      List.splitOn_append_cons_self_of_not_mem, List.splitOn_eq_singleton]
    · decide
    · simp [hspace]
    · simp [hspace, hyear]
  have htime : (padded 2 t.hour ++ ':' :: (padded 2 t.minute ++ ':' ::
      padded 2 t.second)).splitOn ':' = [padded 2 t.hour, padded 2 t.minute, padded 2 t.second] := by
    rw [List.splitOn_append_cons_self_of_not_mem (hcolon _),
      List.splitOn_append_cons_self_of_not_mem (hcolon _), List.splitOn_eq_singleton (hcolon _)]
  rw [ofText?, hparts]
  simp only [htime, Option.bind_eq_bind, Option.bind_some, Text.cutLast?_append_cons (hdash _),
    yearOfText?_yearText, digits?_padded]
  rfl

end Calendar

/-! ### The first line of a file -/

theorem exists_code_eq_stampLine_append {schema : Schema} {options : Options} {g : Generated}
    (h : generate schema options = .ok g) :
    ∃ rest, g.code = stampLine options ++ "\n" ++ rest := by
  rw [eq_generatedOf_of_generate h]
  have hhead : options.fileHead = stampLine options ++ "\n" ++
      renderLines options.indent ((options.dialect.header options).tail.map (⟨0, ·⟩)) := by
    have hrender : (Line.mk 0 (stampLine options)).render options.indent =
        stampLine options ++ "\n" := congrArg (· ++ "\n") String.empty_append
    rw [Options.fileHead, ← hrender]
    cases hlanguage : options.language <;> rw [Options.dialect, hlanguage] <;>
      exact String.join_cons
  rw [Options.generatedOf, hhead, String.append_assoc, String.append_assoc]
  exact ⟨_, rfl⟩

/-- The first line of a file is found again by a reader of lines. -/
theorem head?_endedLines_code {schema : Schema} {options : Options} {g : Generated}
    (h : generate schema options = .ok g) :
    (Text.endedLines g.code.toList).head? = some (stampLine options).toList := by
  obtain ⟨rest, hrest⟩ := exists_code_eq_stampLine_append h
  have hcode : g.code.toList = (stampLine options).toList ++ '\n' :: rest.toList := by
    rw [hrest, String.toList_append, String.toList_append, List.append_assoc]
    rfl
  rw [hcode, Text.endedLines_append_newline (newline_not_mem_stampLine options)]
  rfl

namespace Options

theorem ofText?_timestamp (o : Options) :
    Calendar.DateTime.ofText? o.timestamp = some (Calendar.ofUnix o.generatedAt) :=
  Calendar.DateTime.ofText?_text _

theorem generatedAt_eq_of_timestamp_eq {o o' : Options} (h : o.timestamp = o'.timestamp) :
    o.generatedAt = o'.generatedAt := by
  have hread := congrArg Calendar.DateTime.ofText? h
  rw [ofText?_timestamp, ofText?_timestamp, Option.some.injEq] at hread
  rw [← Calendar.unix_ofUnix o.generatedAt, hread, Calendar.unix_ofUnix]

end Options

theorem generatedAt_eq_of_code_eq {schema schema' : Schema} {o o' : Options} {g g' : Generated}
    (h : generate schema o = .ok g) (h' : generate schema' o' = .ok g') (hcode : g.code = g'.code) :
    o.generatedAt = o'.generatedAt := by
  have hline := head?_endedLines_code h
  rw [hcode, head?_endedLines_code h', Option.some.injEq, toList_stampLine, toList_stampLine,
    List.append_right_inj, String.toList_inj] at hline
  exact (Options.generatedAt_eq_of_timestamp_eq hline).symm

/-- The time in a file is read back as a date of the calendar, the only one with the second of the
run. So different seconds have different texts, and different files. With years of four digits the
texts are in the order of the seconds. -/
theorem timestamp_identifies_second :
    (∀ o : Options, ∃ t : Calendar.DateTime,
      Calendar.DateTime.ofText? o.timestamp = some t ∧ t.IsValid ∧ t.unix = o.generatedAt ∧
      ∀ t' : Calendar.DateTime, t'.IsValid → t'.unix = o.generatedAt → t' = t) ∧
    (∀ o o' : Options, o.timestamp = o'.timestamp ↔ o.generatedAt = o'.generatedAt) ∧
    (∀ (o o' : Options) (t t' : Calendar.DateTime),
      Calendar.DateTime.ofText? o.timestamp = some t →
      Calendar.DateTime.ofText? o'.timestamp = some t' →
      0 ≤ t.year ∧ t.year ≤ 9999 → 0 ≤ t'.year ∧ t'.year ≤ 9999 →
      (o.timestamp < o'.timestamp ↔ o.generatedAt < o'.generatedAt)) ∧
    (∀ (schema : Schema) (o : Options) (g : Generated), generate schema o = .ok g →
      ∃ rest, g.code = "// This file was generated by a tool on " ++ o.timestamp ++ "\n" ++ rest) ∧
    ∀ (schema schema' : Schema) (o o' : Options) (g g' : Generated),
      generate schema o = .ok g → generate schema' o' = .ok g' → g.code = g'.code →
      o.generatedAt = o'.generatedAt := by
  refine ⟨fun o => ⟨_, o.ofText?_timestamp, Calendar.isValid_ofUnix _, Calendar.unix_ofUnix _, ?_⟩,
    fun o o' => ⟨Options.generatedAt_eq_of_timestamp_eq, fun h => ?_⟩, ?_,
    fun schema o g => exists_code_eq_stampLine_append,
    fun schema schema' o o' g g' => generatedAt_eq_of_code_eq⟩
  · intro t' hvalid hunix
    exact Calendar.DateTime.eq_of_unix_eq hvalid (Calendar.isValid_ofUnix _)
      (hunix.trans (Calendar.unix_ofUnix _).symm)
  · rw [Options.timestamp, h]
    rfl
  · intro o o' t t' ht ht' hyear hyear'
    rw [o.ofText?_timestamp] at ht
    rw [o'.ofText?_timestamp] at ht'
    cases ht
    cases ht'
    have hvalid := Calendar.isValid_ofUnix o.generatedAt
    have hvalid' := Calendar.isValid_ofUnix o'.generatedAt
    have hseconds := Calendar.DateTime.unix_lt_iff hvalid hvalid'
    rw [Calendar.unix_ofUnix, Calendar.unix_ofUnix] at hseconds
    rw [hseconds]
    exact Calendar.DateTime.text_lt_text_iff hvalid hvalid' hyear hyear'

namespace LeapDays

def order : FullType :=
  { FullType.plain .enumeration "Order" with enumValues := some [.plain "up"] }

def schema : Schema := ⟨none, none, none, [order], []⟩

/-- The first second of the leap day of the year 0. -/
def earlier : Options := .ofLanguage "Content" .csharp (-62162121600)

/-- The last second of the leap day of the year 2000, which ends a century. -/
def later : Options := .ofLanguage "Content" .csharp 951868799

theorem timestamp_identifies_second_of_leap_days :
    earlier.timestamp = "0000-02-29 00:00:00 UTC" ∧ later.timestamp = "2000-02-29 23:59:59 UTC" ∧
    earlier.timestamp < later.timestamp ∧
    generate schema earlier = .ok (earlier.generatedOf schema.types) ∧
    generate schema later = .ok (later.generatedOf schema.types) ∧
    (∃ rest, (later.generatedOf schema.types).code =
      "// This file was generated by a tool on " ++ later.timestamp ++ "\n" ++ rest) ∧
    (earlier.generatedOf schema.types).code ≠ (later.generatedOf schema.types).code := by
  obtain ⟨-, -, horder, hline, hcode⟩ := timestamp_identifies_second
  have hearlier : generate schema earlier = .ok (earlier.generatedOf schema.types) :=
    (generate_eq_ok_iff schema earlier _).mpr ⟨by decide, rfl⟩
  have hlater : generate schema later = .ok (later.generatedOf schema.types) :=
    (generate_eq_ok_iff schema later _).mpr ⟨by decide, rfl⟩
  have hyears : (Calendar.ofUnix earlier.generatedAt).year = 0 ∧
      (Calendar.ofUnix later.generatedAt).year = 2000 := by decide
  have hlt : earlier.timestamp < later.timestamp :=
    (horder earlier later _ _ earlier.ofText?_timestamp later.ofText?_timestamp
      (by omega) (by omega)).mpr (by decide)
  have hne : (earlier.generatedOf schema.types).code ≠ (later.generatedOf schema.types).code := by
    intro hsame
    have hsecond := hcode schema schema earlier later _ _ hearlier hlater hsame
    exact absurd hsecond (by decide)
  exact ⟨by decide +kernel, by decide +kernel, hlt, hearlier, hlater,
    hline schema later _ hlater, hne⟩

end LeapDays

end SchemaClasses
