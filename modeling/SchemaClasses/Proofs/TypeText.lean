import SchemaClasses.Model.Generate

/-! The text of a type, told a second time by recursion on the reference to it. Generation first
counts the lists around the named type and then writes them from the inside; here every wrapper is
written where it stands. Main statement: both are the same text, and fail for the same reason. -/

namespace SchemaClasses

/-- What a built-in scalar is called where it may be null, and where it may not. -/
structure ScalarForms where
  object : String
  primitive : String

namespace Language

/-- The built-in scalars of a language. -/
def scalars : Language → List (String × ScalarForms)
  | csharp =>
    [("String", ⟨"string", "string"⟩), ("ID", ⟨"string", "string"⟩), ("Int", ⟨"int", "int"⟩),
      ("Long", ⟨"long", "long"⟩), ("Float", ⟨"double", "double"⟩), ("Boolean", ⟨"bool", "bool"⟩)]
  | java =>
    [("String", ⟨"String", "String"⟩), ("ID", ⟨"String", "String"⟩), ("Int", ⟨"Integer", "int"⟩),
      ("Long", ⟨"Long", "long"⟩), ("Float", ⟨"Double", "double"⟩),
      ("Boolean", ⟨"Boolean", "boolean"⟩)]

/-- All languages build in the same scalars. -/
theorem lookup_scalars_eq_none (language : Language) {name : String} (hString : name ≠ "String")
    (hID : name ≠ "ID") (hInt : name ≠ "Int") (hLong : name ≠ "Long") (hFloat : name ≠ "Float")
    (hBoolean : name ≠ "Boolean") : language.scalars.lookup name = none := by
  rw [List.lookup_eq_none_iff]
  cases language <;> simp [scalars, hString, hID, hInt, hLong, hFloat, hBoolean]

theorem scalar?_eq_lookup (language : Language) (name : String) (boxed : Bool) :
    language.dialect.scalar? name boxed =
      (language.scalars.lookup name).map fun forms =>
        if boxed then forms.object else forms.primitive := by
  cases language with
  | csharp =>
      change CSharp.scalar? name boxed = _
      unfold CSharp.scalar?
      split
      case h_7 hString hID hInt hLong hFloat hBoolean =>
        rw [lookup_scalars_eq_none csharp hString hID hInt hLong hFloat hBoolean]
        rfl
      all_goals cases boxed <;> rfl
  | java =>
      change Java.scalar? name boxed = _
      unfold Java.scalar?
      split
      case h_7 hString hID hInt hLong hFloat hBoolean =>
        rw [lookup_scalars_eq_none java hString hID hInt hLong hFloat hBoolean]
        rfl
      all_goals cases boxed <;> rfl

/-- A named type. Of the scalars only those that are built in have another name in the language. -/
def namedText (language : Language) (kind : TypeKind) (name : String) (boxed : Bool) : String :=
  match kind, language.scalars.lookup name with
  | .scalar, some forms => if boxed then forms.object else forms.primitive
  | _, _ => name

theorem typeText_eq_namedText (language : Language) (s : TypeShape) (alwaysBoxed : Bool) :
    language.dialect.typeText s alwaysBoxed =
      Dialect.listOf s.lists
        (language.namedText s.kind s.name (alwaysBoxed || decide (0 < s.lists) || !s.nonNull)) := by
  unfold Dialect.typeText TypeShape.isBoxed namedText
  rw [scalar?_eq_lookup, Bool.or_assoc]
  cases s.kind with
  | scalar => cases language.scalars.lookup s.name <;> rfl
  | _ => rfl

end Language

namespace TypeRef

/-- The text that generation writes for a reference. -/
def text (language : Language) (alwaysBoxed : Bool) (t : TypeRef) : Except ShapeError String :=
  (TypeShape.ofRef t).map fun s => language.dialect.typeText s alwaysBoxed

/-- The text of a reference by recursion on it, with `budget` references left on the way. The object
form is asked for if `boxed`, and `marked` is a reference directly inside a wrapper that excludes
null. -/
def expression (language : Language) (budget : Nat) (boxed marked : Bool) (t : TypeRef) :
    Except ShapeError String :=
  match budget with
  | 0 => .error .tooDeep
  | budget + 1 =>
    match t.kind, t.ofType with
    | .nonNull, none => .error (.noInner .nonNull)
    | .nonNull, some inner => expression language budget boxed true inner
    | .list, none => .error (.noInner .list)
    | .list, some inner =>
      (expression language budget true false inner).map fun element => "List<" ++ element ++ ">"
    | kind, _ =>
      match t.name with
      | none | some "" => .error (.noName kind)
      | some name => .ok (language.namedText kind name (boxed || !marked))

/-- The reference without the wrappers that exclude null. One without a reference inside stays. -/
def withoutNonNull : TypeRef → TypeRef
  | ⟨.nonNull, _, some inner⟩ => inner.withoutNonNull
  | ⟨kind, name, some inner⟩ => ⟨kind, name, some inner.withoutNonNull⟩
  | ⟨kind, name, none⟩ => ⟨kind, name, none⟩

end TypeRef

namespace TypeShape

/-- The shape, but for whether the named type excludes null. -/
def nullable (s : TypeShape) : TypeShape :=
  { s with nonNull := false }

theorem peel_withoutNonNull {budget lists : Nat} {nonNull : Bool} {t : TypeRef} {s : TypeShape}
    (h : peel budget lists nonNull t = .ok s) {larger : Nat} (hlarger : budget ≤ larger) :
    peel larger lists false t.withoutNonNull = .ok s.nullable := by
  induction budget generalizing lists nonNull t larger with
  | zero => cases h
  | succ budget ih =>
      obtain ⟨larger, rfl⟩ : ∃ n, larger = n + 1 := ⟨larger - 1, by omega⟩
      rcases t with ⟨kind, name, inner⟩
      cases kind with
      -- the wrapper is gone, so what it cost of the budget is left over
      | nonNull =>
          cases inner with
          | none => cases h
          | some inner => exact ih h (by omega)
      | list =>
          cases inner with
          | none => cases h
          | some inner => exact ih h (by omega)
      | _ =>
          rcases name with _ | name
          · cases h
          · simp only [peel] at h
            split at h
            · cases h
            · rename_i hname
              cases h
              cases inner <;> simp only [TypeRef.withoutNonNull, peel, if_neg hname, nullable]

theorem ofRef_withoutNonNull {t : TypeRef} {s : TypeShape} (h : ofRef t = .ok s) :
    ofRef t.withoutNonNull = .ok s.nullable :=
  peel_withoutNonNull h (Nat.le_refl wrapperLimit)

end TypeShape

namespace Dialect

theorem typeText_nullable_of_boxed (d : Dialect) (s : TypeShape) :
    d.typeText s.nullable true = d.typeText s true := rfl

end Dialect

theorem map_peel_eq_expression (language : Language) (alwaysBoxed : Bool) (budget lists : Nat)
    (nonNull : Bool) (t : TypeRef) :
    (TypeShape.peel budget lists nonNull t).map
        (fun s => language.dialect.typeText s alwaysBoxed) =
      (t.expression language budget (alwaysBoxed || decide (0 < lists)) nonNull).map
        (Dialect.listOf lists) := by
  induction budget generalizing lists nonNull t with
  | zero => rfl
  | succ budget ih =>
      rcases t with ⟨kind, name, inner⟩
      cases kind with
      | nonNull =>
          cases inner with
          | none => rfl
          | some inner => exact ih lists true inner
      | list =>
          cases inner with
          | none => rfl
          | some inner =>
              -- inside a list the object form is asked for, whatever stands around the list
              have h := ih (lists + 1) false inner
              rw [decide_eq_true (Nat.succ_pos lists), Bool.or_true] at h
              refine h.trans ?_
              simp only [TypeRef.expression]
              cases inner.expression language budget true false <;> rfl
      | _ =>
          rcases name with _ | name
          · rfl
          · by_cases hname : name = ""
            · rw [hname]
              rfl
            · simp only [TypeShape.peel, TypeRef.expression, if_neg hname]
              exact congrArg Except.ok (language.typeText_eq_namedText _ alwaysBoxed)

example : TypeRef.text .java false (.nonNullOf (.listOf (.nonNullOf (.scalar "Int")))) =
    .ok "List<Integer>" := rfl

/-- Generation writes a reference as the recursion on it does, with 32 references at most on the way
to the named type. A text in C# is the same whether or not the object form is asked for, and with or
without the wrappers that exclude null. -/
theorem text_eq_expression_and_csharp_text_eq :
    (∀ (language : Language) (alwaysBoxed : Bool) (t : TypeRef),
      t.text language alwaysBoxed = t.expression language 32 alwaysBoxed false) ∧
    ∀ (alwaysBoxed otherwise : Bool) (t : TypeRef),
      t.text .csharp alwaysBoxed = t.text .csharp otherwise ∧
      ∀ text, t.text .csharp alwaysBoxed = .ok text →
        t.withoutNonNull.text .csharp otherwise = .ok text := by
  refine ⟨?_, ?_⟩
  · intro language alwaysBoxed t
    rw [TypeRef.text, TypeShape.ofRef, wrapperLimit, map_peel_eq_expression,
      decide_eq_false (Nat.lt_irrefl 0), Bool.or_false]
    cases t.expression language 32 alwaysBoxed false <;> rfl
  · intro alwaysBoxed otherwise t
    refine ⟨rfl, ?_⟩
    intro text h
    unfold TypeRef.text at h ⊢
    cases hshape : TypeShape.ofRef t with
    | error reason =>
        rw [hshape] at h
        cases h
    | ok s =>
        rw [hshape] at h
        rw [TypeShape.ofRef_withoutNonNull hshape]
        exact h

theorem text_eq_expression_and_csharp_text_eq_of_list :
    let ids : TypeRef := .nonNullOf (.listOf (.nonNullOf (.scalar "Int")))
    ids.text .csharp true = .ok "List<int>" ∧
      ids.text .csharp true = ids.expression .csharp 32 true false ∧
      ids.withoutNonNull = .listOf (.scalar "Int") ∧
      ids.withoutNonNull.text .csharp false = .ok "List<int>" := by
  intro ids
  have htext : ids.text .csharp true = .ok "List<int>" := rfl
  obtain ⟨hexpression, hcsharp⟩ := text_eq_expression_and_csharp_text_eq
  exact ⟨htext, hexpression .csharp true ids, rfl, (hcsharp true false ids).2 _ htext⟩

end SchemaClasses
