import SchemaClasses.Proofs.JsonLexemes
import SchemaClasses.Proofs.JsonTokens

/-! What reading makes of the JSON texts of RFC 8259. The lexemes of such a text are those of a
value with its numbers and strings as they are written. Within the limit of nesting the value is
read, unless some number or string is refused: then the text is refused for the first of them. -/

namespace SchemaClasses.Json

/-- The syntax tree of a text: a value with its numbers and strings as they are written. -/
inductive Tree where
  | null
  | bool (value : Bool)
  | number (text : NumberText)
  | string (text : StringText)
  | array (items : List Tree)
  | object (members : List (StringText × Tree))

namespace Tree

mutual

def lexemes : Tree → List Lexeme
  | .null => [.null]
  | .bool b => [.bool b]
  | .number n => [.number n]
  | .string s => [.string s]
  | .array [] => [.arrayOpen, .arrayClose]
  | .array (v :: items) => .arrayOpen :: lexemes v ++ itemLexemes items ++ [.arrayClose]
  | .object [] => [.objectOpen, .objectClose]
  | .object ((name, v) :: members) =>
    .objectOpen :: .string name :: .colon :: lexemes v ++ memberLexemes members ++ [.objectClose]

/-- Every item behind a comma. -/
def itemLexemes : List Tree → List Lexeme
  | [] => []
  | v :: items => .comma :: lexemes v ++ itemLexemes items

def memberLexemes : List (StringText × Tree) → List Lexeme
  | [] => []
  | (name, v) :: members => .comma :: .string name :: .colon :: lexemes v ++ memberLexemes members

end

mutual

/-- The value that is written. What is refused counts as zero or as the empty text here. -/
def value : Tree → Json
  | .null => .null
  | .bool b => .bool b
  | .number n => .number n.value
  | .string s => .string (String.ofList s.chars)
  | .array items => .array (itemValues items)
  | .object members => .object (memberValues members)

def itemValues : List Tree → List Json
  | [] => []
  | v :: items => value v :: itemValues items

def memberValues : List (StringText × Tree) → List (String × Json)
  | [] => []
  | (name, v) :: members => (String.ofList name.chars, value v) :: memberValues members

end

/-- Why numbers and strings of the value are refused, in the order in which they are written. -/
def faults (v : Tree) : List Reason :=
  v.lexemes.filterMap Lexeme.fault?

/-- The text is JSON for the value, by the grammar alone. -/
def Writes (v : Tree) (text : String) : Prop :=
  Laid v.lexemes text.toList

/-- The text without any white space. -/
def compact (v : Tree) : String :=
  String.ofList (v.lexemes.flatMap Lexeme.text)

theorem writes_compact (v : Tree) : v.Writes v.compact := by
  rw [Writes, compact, String.toList_ofList]
  exact laid_flatMap v.lexemes

mutual

theorem map_token_lexemes (v : Tree) : v.lexemes.map Lexeme.token = v.value.tokens := by
  match v with
  | .null | .bool _ | .number _ => rfl
  | .string s => simp [lexemes, value, tokens, Lexeme.token]
  | .array [] => rfl
  | .array (w :: items) =>
      simp [lexemes, value, itemValues, tokens, Lexeme.token, map_token_lexemes w,
        map_token_itemLexemes items]
  | .object [] => rfl
  | .object ((name, w) :: members) =>
      simp [lexemes, value, memberValues, tokens, Lexeme.token, map_token_lexemes w,
        map_token_memberLexemes members]

theorem map_token_itemLexemes (items : List Tree) :
    (itemLexemes items).map Lexeme.token = itemTokens (itemValues items) := by
  match items with
  | [] => rfl
  | w :: items =>
      simp [itemLexemes, itemValues, itemTokens, Lexeme.token, map_token_lexemes w,
        map_token_itemLexemes items]

theorem map_token_memberLexemes (members : List (StringText × Tree)) :
    (memberLexemes members).map Lexeme.token = memberTokens (memberValues members) := by
  match members with
  | [] => rfl
  | (name, w) :: members =>
      simp [memberLexemes, memberValues, memberTokens, Lexeme.token, map_token_lexemes w,
        map_token_memberLexemes members]

end

end Tree

/-! ### Reading -/

/-- A text of the grammar within the limit of nesting is read as the value that it writes, or
refused for the first number or string in it that is. -/
theorem outcome_read {v : Tree} {text : String} (h : v.Writes text)
    (hdepth : v.value.depth ≤ nestingLimit) :
    (read text).mapError SyntaxError.reason = valueOrFault v.value v.faults := by
  have hrun : (v.lexemes.map Lexeme.token).foldlM Reading.step .start =
      some ⟨[], .nothing, v.value⟩ := by
    rw [Tree.map_token_lexemes]
    exact Reading.foldlM_tokens v.value [] (by simpa using hdepth)
  rw [Tree.faults, ← outcome_readFrom h hrun, read]
  cases readFrom .start text.toList <;> rfl

theorem read_of_faults_eq_nil {v : Tree} {text : String} (h : v.Writes text)
    (hdepth : v.value.depth ≤ nestingLimit) (hfaults : v.faults = []) :
    read text = .ok v.value := by
  have hread := outcome_read h hdepth
  rw [hfaults] at hread
  exact mapError_eq_ok_iff.mp hread

end SchemaClasses.Json
