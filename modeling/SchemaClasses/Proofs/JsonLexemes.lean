import Mathlib.Data.List.TakeWhile
import SchemaClasses.Json.Reader
import SchemaClasses.Proofs.JsonGrammar
import SchemaClasses.Proofs.Traversal

/-! What reading makes of a JSON text, lexeme by lexeme. A lexeme that is refused is of some kind
all the same; where lexemes of their kinds can be taken one after the other, reading comes to the
first that is refused, or to the end. -/

namespace SchemaClasses.Json

/-- The number that is written, or zero where there is none. -/
def NumberText.value (n : NumberText) : JsonNumber :=
  match n.read with
  | .ok value => value
  | .error _ => .integer 0

/-- The characters that are written, or none where the string is refused. -/
def StringText.chars (s : StringText) : List Char :=
  match s.read with
  | .ok chars => chars
  | .error _ => []

/-- The name that is written, unless it is refused. -/
def StringText.name? (s : StringText) : Option String :=
  match s.read with
  | .ok chars => some (String.ofList chars)
  | .error _ => none

/-! ### Lexemes -/

inductive Lexeme where
  | arrayOpen
  | arrayClose
  | objectOpen
  | objectClose
  | comma
  | colon
  | null
  | bool (value : Bool)
  | number (text : NumberText)
  | string (text : StringText)

namespace Lexeme

def text : Lexeme → List Char
  | arrayOpen => ['[']
  | arrayClose => [']']
  | objectOpen => ['\x7b']
  | objectClose => ['\x7d']
  | comma => [',']
  | colon => [':']
  | null => ['n', 'u', 'l', 'l']
  | bool true => ['t', 'r', 'u', 'e']
  | bool false => ['f', 'a', 'l', 's', 'e']
  | number n => n.val
  | string s => '"' :: s.val

/-- Why the lexeme is refused, although the grammar allows it. -/
def fault? : Lexeme → Option Reason
  | number n => match n.read with
    | .error reason => some reason
    | .ok _ => none
  | string s => match s.read with
    | .error reason => some reason
    | .ok _ => none
  | _ => none

/-- What the lexeme is read as. One that is refused has a token of its kind here. -/
def token : Lexeme → Token
  | arrayOpen => .arrayOpen
  | arrayClose => .arrayClose
  | objectOpen => .objectOpen
  | objectClose => .objectClose
  | comma => .comma
  | colon => .colon
  | null => .literal .null
  | bool b => .literal (.bool b)
  | number n => .number n.value
  | string s => .string s.chars

/-- What may stand directly behind a lexeme: nothing that would go on with a number. -/
def EndsBefore : Lexeme → List Char → Prop
  | number _, rest => EndsNumber rest
  | _, _ => True

end Lexeme

theorem IsNumber.exists_cons {cs : List Char} (h : IsNumber cs) :
    ∃ c rest, cs = c :: rest ∧ (c = '-' ∨ c.isDigit) := by
  cases h with
  | positive h =>
      obtain ⟨c, rest, rfl, hc⟩ := h.whole.exists_cons
      exact ⟨c, _, rfl, .inr hc⟩
  | negative h => exact ⟨'-', _, rfl, .inl rfl⟩

theorem token_of_number {c : Char} (hc : c = '-' ∨ c.isDigit) (cs : List Char) :
    token (c :: cs) = (decimal (c :: cs)).map fun (value, tail) => (.number value, tail) := by
  unfold token
  split
  case h_11 => rfl
  all_goals
    rename_i heq
    rw [(List.cons.inj heq).1] at hc
    exact absurd hc (by decide)

theorem Lexeme.outcome_token (l : Lexeme) {rest : List Char} (hrest : l.EndsBefore rest) :
    outcome (Json.token (l.text ++ rest)) = match l.fault? with
      | some reason => .error reason
      | none => .ok (l.token, rest) := by
  match l with
  | .arrayOpen | .arrayClose | .objectOpen | .objectClose | .comma | .colon | .null => rfl
  | .bool true | .bool false => rfl
  | .number n =>
      obtain ⟨c, cs, heq, hc⟩ := n.property.exists_cons
      have hread := n.outcome_decimal hrest
      have htoken : Json.token (n.val ++ rest) =
          (decimal (n.val ++ rest)).map fun p => (.number p.1, p.2) := by
        rw [heq, List.cons_append, token_of_number hc]
      simp only [text, token, fault?, NumberText.value]
      rw [htoken, outcome_map hread]
      cases n.read <;> rfl
  | .string s =>
      have hread := s.readsAs.outcome_eq rest
      have htoken : Json.token ('"' :: s.val ++ rest) =
          (stringBody (s.val ++ rest)).map fun p => (.string p.1, p.2) := rfl
      simp only [text, token, fault?, StringText.chars]
      rw [htoken, outcome_map hread]
      cases s.read <;> rfl

/-! ### Texts -/

/-- The text consists of the lexemes, with any white space around them. -/
inductive Laid : List Lexeme → List Char → Prop where
  | nil {space : List Char} (hspace : ∀ c ∈ space, isSpace c) : Laid [] space
  | cons {space rest : List Char} {l : Lexeme} {ls : List Lexeme} (hspace : ∀ c ∈ space, isSpace c)
      (hrest : Laid ls rest) : Laid (l :: ls) (space ++ (l.text ++ rest))

/-- Lexemes can stand one behind the other. -/
theorem laid_flatMap (ls : List Lexeme) : Laid ls (ls.flatMap Lexeme.text) := by
  induction ls with
  | nil => exact .nil (List.forall_mem_nil _)
  | cons l ls ih =>
      rw [List.flatMap_cons]
      exact .cons (List.forall_mem_nil _) ih

/-! ### Reading -/

/-- The character that a token begins with. -/
def Token.BeginsWith (c : Char) : Token → Prop
  | .arrayOpen => c = '['
  | .arrayClose => c = ']'
  | .objectOpen => c = '\x7b'
  | .objectClose => c = '\x7d'
  | .comma => c = ','
  | .colon => c = ':'
  | .literal _ | .number _ => startsValue c
  | .string _ => c = '"'

theorem startsValue_of_number {c : Char} (hc : c = '-' ∨ c.isDigit) : startsValue c := by
  rcases hc with rfl | hc
  · rfl
  · simp [startsValue, digit?_of_isDigit hc]

theorem not_isSpace_of_startsValue {c : Char} (hc : startsValue c) : isSpace c = false := by
  rw [← Bool.not_eq_true]
  intro hspace
  simp only [isSpace, Bool.or_eq_true, decide_eq_true_eq] at hspace
  rcases hspace with ((rfl | rfl) | rfl) | rfl
  all_goals cases hc

theorem Lexeme.exists_text_eq_cons (l : Lexeme) :
    ∃ c cs, l.text = c :: cs ∧ isSpace c = false ∧ l.token.BeginsWith c := by
  match l with
  | .arrayOpen | .arrayClose | .objectOpen | .objectClose | .comma | .colon | .string _ =>
      exact ⟨_, _, rfl, rfl, rfl⟩
  | .null => exact ⟨'n', _, rfl, rfl, rfl⟩
  | .bool true => exact ⟨'t', _, rfl, rfl, rfl⟩
  | .bool false => exact ⟨'f', _, rfl, rfl, rfl⟩
  | .number n =>
      obtain ⟨c, cs, heq, hc⟩ := n.property.exists_cons
      have hvalue := startsValue_of_number hc
      exact ⟨c, cs, heq, not_isSpace_of_startsValue hvalue, hvalue⟩

namespace Reading

theorem startsValue_of_startValue {frames : List Frame} {t : Token} {c : Char} {r : Reading}
    (hc : t.BeginsWith c) (h : startValue frames t = some r) : startsValue c := by
  cases t with
  | arrayClose | objectClose | comma | colon => cases h
  | literal _ | number _ => exact hc
  | arrayOpen | objectOpen | string =>
      rw [show c = _ from hc]
      rfl

theorem eq_quote_of_startMember {frames : List Frame} {t : Token} {c : Char} {r : Reading}
    (hc : t.BeginsWith c) (h : startMember frames t = some r) : c = '"' := by
  unfold startMember at h
  split at h
  · exact hc
  · cases h

theorem cases_of_closeBracket {frames : List Frame} {t : Token} {r : Reading}
    (h : closeBracket frames t = some r) :
    (∃ items more, t = .arrayClose ∧ frames = .array items :: more) ∨
      ∃ members more, t = .objectClose ∧ frames = .object members :: more := by
  unfold closeBracket at h
  split at h
  · exact .inl ⟨_, _, rfl, rfl⟩
  · exact .inr ⟨_, _, rfl, rfl⟩
  · cases h

/-- A token is only taken where its first character may come next. -/
theorem fault?_eq_none {r next : Reading} {t : Token} {c : Char} (hc : t.BeginsWith c)
    (h : r.step t = some next) : r.fault? c = none := by
  obtain ⟨frames, expected, result⟩ := r
  unfold step at h
  split at h
  case h_1 hvalue =>
    have hstart := startsValue_of_startValue hc h
    have hclose : c ≠ ']' := by
      rintro rfl
      cases hstart
    rw [show expected = _ from hvalue]
    rcases frames with _ | ⟨_ | _ | _, frames⟩
    all_goals simp [fault?, hstart, hclose]
  case h_2 hvalue => simp [fault?, show expected = _ from hvalue, show c = ']' from hc]
  case h_3 hvalue _ =>
    simp [fault?, show expected = _ from hvalue, startsValue_of_startValue hc h]
  case h_4 hvalue => simp [fault?, show expected = _ from hvalue, show c = '\x7d' from hc]
  case h_5 hvalue _ =>
    simp [fault?, show expected = _ from hvalue, eq_quote_of_startMember hc h]
  case h_6 hvalue => simp [fault?, show expected = _ from hvalue, eq_quote_of_startMember hc h]
  case h_7 hvalue => simp [fault?, show expected = _ from hvalue, show c = ':' from hc]
  case h_8 hvalue =>
    rw [show expected = _ from hvalue]
    rcases frames with _ | ⟨_ | _ | _, frames⟩
    all_goals simp [fault?, show c = ',' from hc]
  case h_9 hvalue _ =>
    rw [show expected = _ from hvalue]
    rcases cases_of_closeBracket h with ⟨items, more, rfl, rfl⟩ | ⟨members, more, rfl, rfl⟩
    · simp [fault?, show c = ']' from hc]
    · simp [fault?, show c = '\x7d' from hc]
  case h_10 => cases h

/-- Where a value is complete, only a comma or a closing bracket may come. -/
theorem eq_mark_of_step {r next : Reading} {t : Token} {c : Char} (hc : t.BeginsWith c)
    (hr : r.expected = .separator ∨ r.expected = .nothing) (h : r.step t = some next) :
    c = ',' ∨ c = ']' ∨ c = '\x7d' := by
  obtain ⟨frames, expected, result⟩ := r
  rcases hr with hr | hr
  · cases hr
    cases t with
    | comma => exact .inl hc
    | arrayClose => exact .inr (.inl hc)
    | objectClose => exact .inr (.inr hc)
    | _ =>
        rcases cases_of_closeBracket h with ⟨_, _, ht, _⟩ | ⟨_, _, ht, _⟩
        all_goals cases ht
  · cases hr
    cases h

theorem expected_of_close {v : Json} {frames : List Frame} {next : Reading}
    (h : close v frames = some next) : next.expected = .separator ∨ next.expected = .nothing := by
  unfold close at h
  split at h
  · cases h
    exact .inr rfl
  · cases h
    exact .inl rfl
  · cases h
    exact .inl rfl
  · cases h

/-- A number is a complete value. -/
theorem expected_of_number {r next : Reading} {n : JsonNumber}
    (h : r.step (.number n) = some next) :
    next.expected = .separator ∨ next.expected = .nothing := by
  obtain ⟨frames, expected, result⟩ := r
  cases expected with
  | value | valueOrClose => exact expected_of_close h
  | nameOrClose | name =>
      change startMember frames (.number n) = some next at h
      unfold startMember at h
      split at h
      · rename_i ht
        cases ht
      · cases h
  | separator =>
      rcases cases_of_closeBracket h with ⟨_, _, ht, _⟩ | ⟨_, _, ht, _⟩
      all_goals cases ht
  | colon | nothing => cases h

end Reading

theorem endsNumber_cons {c : Char} (hc : isSpace c ∨ c = ',' ∨ c = ']' ∨ c = '\x7d')
    (cs : List Char) : EndsNumber (c :: cs) := by
  simp only [isSpace, Bool.or_eq_true, decide_eq_true_eq] at hc
  rcases hc with (((rfl | rfl) | rfl) | rfl) | rfl | rfl | rfl
  all_goals
    refine ⟨⟨?_, by simp⟩, by simp, by simp⟩
    rintro _ ⟨⟩
    rfl

/-- A number ends in front of any lexemes that may come behind a complete value. -/
theorem endsNumber_of_laid {ls : List Lexeme} {rest : List Char} (h : Laid ls rest)
    {r final : Reading} (hr : r.expected = .separator ∨ r.expected = .nothing)
    (hrun : (ls.map Lexeme.token).foldlM Reading.step r = some final) : EndsNumber rest := by
  cases h with
  | nil hspace =>
      cases rest with
      | nil => exact endsNumber_nil
      | cons c cs => exact endsNumber_cons (.inl (hspace c List.mem_cons_self)) cs
  | @cons space rest l ls hspace hrest =>
      cases space with
      | cons c space => exact endsNumber_cons (.inl (hspace c List.mem_cons_self)) _
      | nil =>
          obtain ⟨c, cs, htext, -, hbegins⟩ := l.exists_text_eq_cons
          rw [List.map_cons, List.foldlM_cons] at hrun
          obtain ⟨next, hnext, -⟩ := Option.bind_eq_some_iff.mp hrun
          rw [htext]
          exact endsNumber_cons (.inr (Reading.eq_mark_of_step hbegins hr hnext)) _

theorem readFrom_of_blank {cs : List Char} (h : ∀ c ∈ cs, isSpace c) {r : Reading}
    (hr : r.expected = .nothing) : readFrom r cs = .ok r.result := by
  have hdrop : cs.dropWhile isSpace = [] := List.dropWhile_eq_nil_iff.mpr h
  rw [readFrom]
  split
  · have hend : r.endReason? = none := by
      unfold Reading.endReason?
      rw [hr]
    rw [hend]
  · rename_i hcons
    rw [hdrop] at hcons
    cases hcons

theorem dropWhile_isSpace_append_cons {space : List Char} (hspace : ∀ c ∈ space, isSpace c)
    {c : Char} (hc : isSpace c = false) (rest : List Char) :
    (space ++ c :: rest).dropWhile isSpace = c :: rest := by
  rw [List.dropWhile_append_of_pos hspace, List.dropWhile_cons_of_neg (by simp [hc])]

section NextToken

variable {r : Reading} {cs rest : List Char} {c : Char} (hdrop : cs.dropWhile isSpace = c :: rest)
  (hr : r.fault? c = none)
include hdrop hr

/-- A token with a fault in it ends the reading. -/
theorem readFrom_of_fault {fault : Fault} (htoken : token (c :: rest) = .error fault) :
    readFrom r cs = .error fault := by
  fun_cases readFrom r cs with
  | case1 hnil | case2 hnil => cases hdrop.symm.trans hnil
  | case3 c' rest' hcons reason hfault =>
      cases hdrop.symm.trans hcons
      cases hr.symm.trans hfault
  | case4 c' rest' hcons hfault fault' htoken' =>
      cases hdrop.symm.trans hcons
      cases htoken'.symm.trans htoken
      rfl
  | case5 c' rest' hcons hfault t tail htoken' | case6 c' rest' hcons hfault t tail htoken' =>
      cases hdrop.symm.trans hcons
      cases htoken'.symm.trans htoken

/-- A token that is taken leads on, to what comes behind it. -/
theorem readFrom_of_step {t : Token} {tail : List Char} {next : Reading}
    (htoken : token (c :: rest) = .ok (t, tail)) (hnext : r.step t = some next) :
    readFrom r cs = readFrom next tail := by
  fun_cases readFrom r cs with
  | case1 hnil | case2 hnil => cases hdrop.symm.trans hnil
  | case3 c' rest' hcons reason hfault =>
      cases hdrop.symm.trans hcons
      cases hr.symm.trans hfault
  | case4 c' rest' hcons hfault fault' htoken' =>
      cases hdrop.symm.trans hcons
      cases htoken'.symm.trans htoken
  | case5 c' rest' hcons hfault t' tail' htoken' hstep =>
      cases hdrop.symm.trans hcons
      cases htoken'.symm.trans htoken
      cases hstep.symm.trans hnext
  | case6 c' rest' hcons hfault t' tail' htoken' next' hstep =>
      cases hdrop.symm.trans hcons
      cases htoken'.symm.trans htoken
      cases hstep.symm.trans hnext
      rfl

end NextToken

/-- The value, unless something is refused: then the reason for the first. -/
def valueOrFault (v : Json) : List Reason → Except Reason Json
  | [] => .ok v
  | reason :: _ => .error reason

/-- Reading a text whose lexemes are of the right kinds ends with the value that the lexemes lead
to, or with the first of them that is refused. -/
theorem outcome_readFrom {ls : List Lexeme} {cs : List Char} (h : Laid ls cs) {r : Reading}
    {frames : List Frame} {v : Json}
    (hrun : (ls.map Lexeme.token).foldlM Reading.step r = some ⟨frames, .nothing, v⟩) :
    outcome (readFrom r cs) = valueOrFault v (ls.filterMap Lexeme.fault?) := by
  induction h generalizing r with
  | nil hspace =>
      cases hrun
      rw [readFrom_of_blank hspace rfl]
      rfl
  | @cons space rest l ls hspace hrest ih =>
      rw [List.map_cons, List.foldlM_cons] at hrun
      obtain ⟨next, hnext, hbehind⟩ := Option.bind_eq_some_iff.mp hrun
      obtain ⟨c, cs, htext, hc, hbegins⟩ := l.exists_text_eq_cons
      have hends : l.EndsBefore rest := by
        cases l with
        | number n => exact endsNumber_of_laid hrest (Reading.expected_of_number hnext) hbehind
        | _ => trivial
      have hdrop : (space ++ (l.text ++ rest)).dropWhile isSpace = c :: (cs ++ rest) := by
        rw [htext]
        exact dropWhile_isSpace_append_cons hspace hc _
      have hfault := Reading.fault?_eq_none hbegins hnext
      have htoken := l.outcome_token hends
      rw [htext, List.cons_append] at htoken
      cases hrefused : l.fault? with
      | none =>
          rw [hrefused] at htoken
          have hread : token (c :: (cs ++ rest)) = .ok (l.token, rest) :=
            mapError_eq_ok_iff.mp htoken
          rw [readFrom_of_step hdrop hfault hread hnext, List.filterMap_cons_none hrefused]
          exact ih hbehind
      | some reason =>
          rw [hrefused] at htoken
          obtain ⟨fault, hread, hreason⟩ := exists_of_outcome htoken
          rw [readFrom_of_fault hdrop hfault hread, List.filterMap_cons_some hrefused]
          exact congrArg Except.error hreason

end SchemaClasses.Json
