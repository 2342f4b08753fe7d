import SchemaClasses.Proofs.JsonNesting

/-! The tokens that write a JSON value, and what taking them one by one leads to: the value itself,
as long as it keeps to the limit of nesting. -/

namespace SchemaClasses.Json

mutual

def tokens : Json → List Token
  | .null => [.literal .null]
  | .bool b => [.literal (.bool b)]
  | .number n => [.number n]
  | .string s => [.string s.toList]
  | .array [] => [.arrayOpen, .arrayClose]
  | .array (v :: items) => .arrayOpen :: tokens v ++ itemTokens items ++ [.arrayClose]
  | .object [] => [.objectOpen, .objectClose]
  | .object ((name, v) :: members) =>
    .objectOpen :: .string name.toList :: .colon :: tokens v ++ memberTokens members ++
      [.objectClose]

/-- Every item behind a comma. -/
def itemTokens : List Json → List Token
  | [] => []
  | v :: items => .comma :: tokens v ++ itemTokens items

def memberTokens : List (String × Json) → List Token
  | [] => []
  | (name, v) :: members =>
    .comma :: .string name.toList :: .colon :: tokens v ++ memberTokens members

end

namespace Reading

/-- What may come behind an opening bracket is a value or the closing bracket, and no value begins
with that. -/
theorem foldlM_tokens_valueOrClose (v : Json) (frames : List Frame) :
    v.tokens.foldlM step ⟨frames, .valueOrClose, .null⟩ =
      v.tokens.foldlM step ⟨frames, .value, .null⟩ := by
  rcases v with _ | _ | _ | _ | (_ | _) | (_ | _)
  all_goals
    rw [tokens]
    rfl

mutual

/-- Behind its tokens a value is complete, whatever brackets are open around it. -/
theorem foldlM_tokens (v : Json) (frames : List Frame)
    (hdepth : frames.length + v.depth ≤ nestingLimit) :
    v.tokens.foldlM step ⟨frames, .value, .null⟩ = close v frames := by
  match v with
  | .null => simp [tokens, step, startValue]
  | .bool b => simp [tokens, step, startValue]
  | .number n => simp [tokens, step, startValue]
  | .string s => simp [tokens, step, startValue]
  | .array [] =>
      rw [depth] at hdepth
      have hopen : openFrame (.array []) .valueOrClose frames = some _ := if_pos (by omega)
      simp only [tokens, List.foldlM_cons, List.foldlM_nil, step, startValue, hopen,
        Option.bind_eq_bind, Option.bind_some, closeBracket, List.reverse_nil]
      exact bind_pure (close (.array []) frames)
  | .array (w :: items) =>
      rw [depth, itemsDepth] at hdepth
      have hopen : openFrame (.array []) .valueOrClose frames = some _ := if_pos (by omega)
      have hfirst := foldlM_tokens w (.array [] :: frames) (by rw [List.length_cons]; omega)
      have hclose : close w (.array [] :: frames) = some _ := rfl
      have hitems := foldlM_itemTokens items [w] frames (by omega)
      simp only [tokens, List.cons_append, List.foldlM_cons, List.foldlM_append, step, startValue,
        hopen, Option.bind_eq_bind, Option.bind_some, foldlM_tokens_valueOrClose, hfirst, hclose,
        hitems]
      simp [closeBracket]
  | .object [] =>
      rw [depth] at hdepth
      have hopen : openFrame (.object []) .nameOrClose frames = some _ := if_pos (by omega)
      simp only [tokens, List.foldlM_cons, List.foldlM_nil, step, startValue, hopen,
        Option.bind_eq_bind, Option.bind_some, closeBracket, List.reverse_nil]
      exact bind_pure (close (.object []) frames)
  | .object ((name, w) :: members) =>
      rw [depth, membersDepth] at hdepth
      have hopen : openFrame (.object []) .nameOrClose frames = some _ := if_pos (by omega)
      have hfirst := foldlM_tokens w (.member [] name :: frames) (by rw [List.length_cons]; omega)
      have hclose : close w (.member [] name :: frames) = some _ := rfl
      have hmembers := foldlM_memberTokens members [(name, w)] frames (by omega)
      simp only [tokens, List.cons_append, List.foldlM_cons, List.foldlM_append, step, startValue,
        startMember, hopen, Option.bind_eq_bind, Option.bind_some, String.ofList_toList, hfirst,
        hclose, hmembers]
      simp [closeBracket]

theorem foldlM_itemTokens (items : List Json) (before : List Json) (frames : List Frame)
    (hdepth : frames.length + 1 + itemsDepth items ≤ nestingLimit) :
    (itemTokens items).foldlM step ⟨.array before :: frames, .separator, .null⟩ =
      some ⟨.array (items.reverse ++ before) :: frames, .separator, .null⟩ := by
  match items with
  | [] => rfl
  | w :: items =>
      rw [itemsDepth] at hdepth
      have hfirst := foldlM_tokens w (.array before :: frames) (by rw [List.length_cons]; omega)
      have hitems := foldlM_itemTokens items (w :: before) frames (by omega)
      simp only [itemTokens, List.cons_append, List.foldlM_cons, List.foldlM_append, step,
        Option.bind_eq_bind, Option.bind_some, hfirst, close, hitems]
      simp

theorem foldlM_memberTokens (members before : List (String × Json)) (frames : List Frame)
    (hdepth : frames.length + 1 + membersDepth members ≤ nestingLimit) :
    (memberTokens members).foldlM step ⟨.object before :: frames, .separator, .null⟩ =
      some ⟨.object (members.reverse ++ before) :: frames, .separator, .null⟩ := by
  match members with
  | [] => rfl
  | (name, w) :: members =>
      rw [membersDepth] at hdepth
      have hfirst := foldlM_tokens w (.member before name :: frames)
        (by rw [List.length_cons]; omega)
      have hmembers := foldlM_memberTokens members ((name, w) :: before) frames (by omega)
      simp only [memberTokens, List.cons_append, List.foldlM_cons, List.foldlM_append, step,
        startMember, Option.bind_eq_bind, Option.bind_some, String.ofList_toList, hfirst, close,
        hmembers]
      simp

end

end Reading

end SchemaClasses.Json
