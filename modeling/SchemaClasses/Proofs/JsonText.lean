import SchemaClasses.Json.Writer
import SchemaClasses.Proofs.JsonTrees

/-! Written JSON values are read back. What is written for a value is a text of the grammar, with
the lexemes one behind the other and no white space, and nothing in it is refused. Numbers are left
out: no value of a schema has one. -/

namespace SchemaClasses.Json

/-! ### Strings -/

theorem hexUnit?_of_lt {n : Nat} (h : n < 0x20) :
    hexUnit? '0' '0' (Nat.digitChar (n / 16)) (Nat.digitChar (n % 16)) = some n := by
  revert h
  revert n
  decide

theorem IsStringBody.writeChar {cs : List Char} (h : IsStringBody cs) (c : Char) :
    IsStringBody (Json.writeChar c ++ cs) := by
  unfold Json.writeChar
  split
  case h_8 hquote hslash hb hf hn hr ht =>
    split
    · rename_i hcontrol
      exact .number (hexUnit?_of_lt hcontrol) h
    · rename_i hcontrol
      exact .plain hquote hslash hcontrol h
  all_goals exact .short rfl h

/-- No character is half of a surrogate pair. -/
theorem not_surrogate (c : Char) :
    isHighSurrogate c.toNat = false ∧ isLowSurrogate c.toNat = false := by
  have hvalid := c.valid
  unfold UInt32.isValidChar Nat.isValidChar at hvalid
  unfold isHighSurrogate isLowSurrogate
  simp only [Char.toNat, Bool.and_eq_false_iff, decide_eq_false_iff_not]
  omega

theorem escape_self {a b d e c : Char} (h : hexUnit? a b d e = some c.toNat) (rest : List Char) :
    escape ('u' :: a :: b :: d :: e :: rest) = .ok (c, rest) := by
  obtain ⟨hhigh, hlow⟩ := not_surrogate c
  rw [escape_number h, if_neg (by simp [hlow]), if_neg (by simp [hhigh]), Char.ofNat_toNat]

theorem stringBody_writeChar (c : Char) (rest : List Char) :
    stringBody (writeChar c ++ rest) = (stringBody rest).map fun p => (c :: p.1, p.2) := by
  unfold writeChar
  split
  case h_8 hquote hslash hb hf hn hr ht =>
    split
    · rename_i hcontrol
      exact stringBody_of_escape (escape_self (hexUnit?_of_lt hcontrol) rest)
    · rename_i hcontrol
      exact stringBody_plain hquote hslash hcontrol rest
  all_goals exact stringBody_of_escape (escape_short rfl rest)

theorem isStringBody_flatMap_writeChar (cs : List Char) :
    IsStringBody (cs.flatMap writeChar ++ ['"']) := by
  induction cs with
  | nil => exact .quote
  | cons c cs ih =>
      rw [List.flatMap_cons, List.append_assoc]
      exact ih.writeChar c

theorem stringBody_flatMap_writeChar (cs : List Char) :
    stringBody (cs.flatMap writeChar ++ ['"']) = .ok (cs, []) := by
  induction cs with
  | nil =>
      rw [List.flatMap_nil, List.nil_append, stringBody]
  | cons c cs ih =>
      rw [List.flatMap_cons, List.append_assoc, stringBody_writeChar, ih]
      rfl

/-- The text of a string as it is written. -/
def StringText.ofString (s : String) : StringText :=
  ⟨s.toList.flatMap writeChar ++ ['"'], isStringBody_flatMap_writeChar s.toList⟩

theorem StringText.read_ofString (s : String) : (ofString s).read = .ok s.toList := by
  rw [read, ofString, stringBody_flatMap_writeChar]
  rfl

theorem fault?_ofString (s : String) : (Lexeme.string (.ofString s)).fault? = none := by
  rw [Lexeme.fault?, StringText.read_ofString]

theorem StringText.chars_ofString (s : String) : (ofString s).chars = s.toList := by
  rw [chars, read_ofString]

theorem value_ofString (s : String) : (Tree.string (.ofString s)).value = .string s := by
  rw [Tree.value, StringText.chars_ofString, String.ofList_toList]

/-! ### Values -/

mutual

/-- A value without numbers. -/
def IsTextual : Json → Prop
  | .number _ => False
  | .array items => ItemsTextual items
  | .object members => MembersTextual members
  | _ => True

def ItemsTextual : List Json → Prop
  | [] => True
  | v :: items => v.IsTextual ∧ ItemsTextual items

def MembersTextual : List (String × Json) → Prop
  | [] => True
  | (_, v) :: members => v.IsTextual ∧ MembersTextual members

end

/-- Nothing is refused in the lexemes, and one behind the other they are the text. -/
structure Spell (ls : List Lexeme) (cs : List Char) : Prop where
  faults_eq : ls.filterMap Lexeme.fault? = []
  text_eq : ls.flatMap Lexeme.text = cs

theorem Spell.append {ls ls' : List Lexeme} {cs cs' : List Char} (h : Spell ls cs)
    (h' : Spell ls' cs') : Spell (ls ++ ls') (cs ++ cs') := by
  refine ⟨?_, ?_⟩
  · rw [List.filterMap_append, h.faults_eq, h'.faults_eq]
    rfl
  · rw [List.flatMap_append, h.text_eq, h'.text_eq]

theorem spell_singleton {l : Lexeme} (h : l.fault? = none) : Spell [l] l.text :=
  ⟨by rw [List.filterMap_cons_none h, List.filterMap_nil], List.flatMap_singleton ..⟩

theorem spell_name (name : String) :
    Spell [.string (.ofString name), .colon] (writeString name ++ [':']) :=
  (spell_singleton (fault?_ofString name)).append (spell_singleton rfl)

mutual

/-- What is written for a value is a text of the grammar for it. -/
theorem exists_tree (v : Json) (hv : v.IsTextual) :
    ∃ t : Tree, t.value = v ∧ Spell t.lexemes (write v) := by
  match v with
  | .null => exact ⟨.null, rfl, spell_singleton rfl⟩
  | .bool true => exact ⟨.bool true, rfl, spell_singleton rfl⟩
  | .bool false => exact ⟨.bool false, rfl, spell_singleton rfl⟩
  | .number n => exact hv.elim
  | .string s =>
      exact ⟨.string (.ofString s), value_ofString s, spell_singleton (fault?_ofString s)⟩
  | .array [] => exact ⟨.array [], rfl, (spell_singleton rfl).append (spell_singleton rfl)⟩
  | .array (w :: items) =>
      obtain ⟨hw, hitems⟩ := hv
      obtain ⟨t, rfl, htext⟩ := exists_tree w hw
      obtain ⟨ts, rfl, htexts⟩ := exists_items items hitems
      exact ⟨.array (t :: ts), rfl, (((spell_singleton rfl).append htext).append htexts).append
        (spell_singleton rfl)⟩
  | .object [] => exact ⟨.object [], rfl, (spell_singleton rfl).append (spell_singleton rfl)⟩
  | .object ((name, w) :: members) =>
      obtain ⟨hw, hmembers⟩ := hv
      obtain ⟨t, rfl, htext⟩ := exists_tree w hw
      obtain ⟨ts, rfl, htexts⟩ := exists_members members hmembers
      refine ⟨.object ((.ofString name, t) :: ts), ?_, ?_⟩
      · rw [Tree.value, Tree.memberValues, StringText.chars_ofString, String.ofList_toList]
      · have hopen := (spell_singleton (l := .objectOpen) rfl).append (spell_name name)
        have hobject := ((hopen.append htext).append htexts).append
          (spell_singleton (l := .objectClose) rfl)
        simpa [Tree.lexemes, write, Lexeme.text] using hobject

theorem exists_items (items : List Json) (hitems : ItemsTextual items) :
    ∃ ts, Tree.itemValues ts = items ∧ Spell (Tree.itemLexemes ts) (writeItems items) := by
  match items with
  | [] => exact ⟨[], rfl, rfl, rfl⟩
  | w :: items =>
      obtain ⟨hw, hitems⟩ := hitems
      obtain ⟨t, rfl, htext⟩ := exists_tree w hw
      obtain ⟨ts, rfl, htexts⟩ := exists_items items hitems
      exact ⟨t :: ts, rfl, ((spell_singleton rfl).append htext).append htexts⟩

theorem exists_members (members : List (String × Json)) (hmembers : MembersTextual members) :
    ∃ ts, Tree.memberValues ts = members ∧
      Spell (Tree.memberLexemes ts) (writeMembers members) := by
  match members with
  | [] => exact ⟨[], rfl, rfl, rfl⟩
  | (name, w) :: members =>
      obtain ⟨hw, hmembers⟩ := hmembers
      obtain ⟨t, rfl, htext⟩ := exists_tree w hw
      obtain ⟨ts, rfl, htexts⟩ := exists_members members hmembers
      refine ⟨(.ofString name, t) :: ts, ?_, ?_⟩
      · rw [Tree.memberValues, StringText.chars_ofString, String.ofList_toList]
      · have hcomma := (spell_singleton (l := .comma) rfl).append (spell_name name)
        have hmember := (hcomma.append htext).append htexts
        simpa [Tree.memberLexemes, writeMembers, Lexeme.text] using hmember

end

/-- The text of a value is read back if the value keeps to the limit. -/
theorem read?_render {v : Json} (hv : v.IsTextual) (hdepth : v.depth ≤ nestingLimit) :
    read? (render v) = some v := by
  obtain ⟨t, rfl, htext⟩ := exists_tree v hv
  have hwrites : t.Writes (render t.value) := by
    rw [render, ← htext.text_eq]
    exact t.writes_compact
  exact read?_eq_some_iff.mpr (read_of_faults_eq_nil hwrites hdepth htext.faults_eq)

end SchemaClasses.Json
