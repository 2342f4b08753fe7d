import SchemaClasses.Proofs.Reporting
import SchemaClasses.Proofs.Traversal

/-! What a type becomes, and what is reported on the way, apart from each other. Both are functions
of the type and the rules alone: no type leaves anything behind for the next one. -/

namespace SchemaClasses

/-- A field or an input field, as far as a member depends on it. -/
structure Declared where
  name : String
  description : Option String
  type : TypeRef

namespace Declared

def ofField (f : Field) : Declared := ⟨f.name, f.description, f.type⟩

def ofInputValue (f : InputValue) : Declared := ⟨f.name, f.description, f.type⟩

end Declared

namespace Rules

/-- The shape of the type that a member of a name gets. -/
def shape (rules : Rules) (name : String) (declared : TypeRef) : Except ShapeError TypeShape :=
  TypeShape.ofRef (rules.remap.apply name declared)

def replaces (rules : Rules) (name : String) : Bool :=
  (rules.remap.get? name).isSome

end Rules

namespace FullType

open Reporting

/-- The fields that become members. -/
def declared (t : FullType) : List Declared :=
  match t.kind with
  | .object => (t.fields.getD []).map Declared.ofField
  | .inputObject => (t.inputFields.getD []).map Declared.ofInputValue
  | .interface => if t.hasImplementors then (t.fields.getD []).map Declared.ofField else []
  | _ => []

def memberOf (rules : Rules) (t : FullType) (s : Declared) : Except GenerationError Member :=
  match rules.shape s.name s.type with
  | .error reason => .error (.unresolvedType t.name s.name reason)
  | .ok type =>
    .ok { name := s.name, comment := commentOf s.description, type, alwaysBoxed := t.alwaysBoxes }

def membersOf (rules : Rules) (t : FullType) : Except GenerationError (List Member) :=
  t.declared.mapM (t.memberOf rules)

def bodyOf (rules : Rules) (t : FullType) : Except GenerationError (Option Body) :=
  match t.kind with
  | .scalar => .ok none
  | .object => do
    let _ ← required t.fields (.missingFields t.name t.kind)
    let members ← t.membersOf rules
    let interfaces ← t.interfaceNames 0 t.implemented
    return some (.dataClass interfaces members)
  | .inputObject => do
    let _ ← required t.inputFields (.missingInputFields t.name)
    let members ← t.membersOf rules
    return some (.dataClass [] members)
  | .interface =>
    if t.hasImplementors && t.fields.isNone then .error (.missingFields t.name t.kind)
    else do
      let members ← t.membersOf rules
      return some (.interface members)
  | .enumeration => do
    let values ← required t.enumValues (.missingEnumValues t.name)
    return some (.enumeration (constants values))
  | .union | .list | .nonNull | .unknown =>
    if rules.skipUnsupported then .ok none else .error (.unsupportedKind t.name t.kind)

def withBody (t : FullType) (body : Body) : Definition :=
  ⟨t.name, commentOf t.description, body⟩

/-- What a type becomes: a definition, nothing, or an error. -/
def outcome (rules : Rules) (t : FullType) : Except GenerationError (Option Definition) := do
  if t.isIntrospection then return none
  let body ← t.bodyOf rules
  return body.map t.withBody

/-- The definition that a type becomes, if it becomes one. -/
def definition? (rules : Rules) (t : FullType) : Option Definition :=
  match t.outcome rules with
  | .ok d => d
  | .error _ => none

def remapNotes (rules : Rules) (t : FullType) (s : Declared) : List Diagnostic :=
  if rules.replaces s.name then [.remapped t s.name] else []

def bodyNotes (rules : Rules) (t : FullType) : List Diagnostic :=
  match t.kind with
  | .scalar | .enumeration => []
  | .object | .inputObject => t.declared.flatMap (t.remapNotes rules)
  | .interface =>
    if t.hasImplementors then t.declared.flatMap (t.remapNotes rules) else [.noImplementors t]
  | .union | .list | .nonNull | .unknown => [.skippedKind t]

/-- What is reported about a type if it becomes something. -/
def notes (rules : Rules) (t : FullType) : List Diagnostic :=
  if t.isIntrospection then [] else t.bodyNotes rules

theorem gives_member (rules : Rules) (t : FullType) (s : Declared) :
    Gives (t.member rules s.name s.description s.type) (t.memberOf rules s)
      (t.remapNotes rules s) := by
  unfold member memberOf remapNotes Rules.replaces Rules.shape
  by_cases hrule : (rules.remap.get? s.name).isSome
  · simp only [if_pos hrule]
    cases TypeShape.ofRef (rules.remap.apply s.name s.type) with
    | error reason => exact Gives.after_note (gives_throw _ [])
    | ok type => exact Gives.after_note (gives_pure _)
  · simp only [if_neg hrule]
    cases TypeShape.ofRef (rules.remap.apply s.name s.type) with
    | error reason => exact gives_throw _ []
    | ok type => exact gives_pure _

theorem gives_members {α : Type} (rules : Rules) (t : FullType) (view : α → Declared)
    (fields : List α) :
    Gives (fields.mapM fun f => t.member rules (view f).name (view f).description (view f).type)
      ((fields.map view).mapM (t.memberOf rules))
      ((fields.map view).flatMap (t.remapNotes rules)) := by
  rw [List.mapM_map, List.flatMap_map]
  exact Gives.mapM (fun f => t.gives_member rules (view f)) fields

/-- A collection that is required is the one that is there. -/
theorem eq_of_required {items : Option (List α)} {missing : GenerationError} {found : List α}
    (h : required items missing = .ok found) : items = some found ∧ found ≠ [] := by
  unfold required at h
  split at h
  · cases h
  · cases h
  · cases h
    exact ⟨rfl, by assumption⟩

theorem gives_body? (rules : Rules) (t : FullType) :
    Gives (t.body? rules) (t.bodyOf rules) (t.bodyNotes rules) := by
  unfold body? bodyOf bodyNotes membersOf declared
  cases hkind : t.kind with
  | scalar => exact gives_pure none
  | object =>
      apply Gives.after_ofExcept
      intro fields hfields
      rw [(eq_of_required hfields).1]
      apply (t.gives_members rules Declared.ofField fields).bind_silent
      intro members _
      apply Gives.after_ofExcept
      intro interfaces _
      exact gives_pure _
  | inputObject =>
      apply Gives.after_ofExcept
      intro fields hfields
      rw [(eq_of_required hfields).1]
      apply (t.gives_members rules Declared.ofInputValue fields).bind_silent
      intro members _
      exact gives_pure _
  | interface =>
      cases himplementors : t.hasImplementors with
      | false => exact Gives.after_note (gives_pure _)
      | true =>
          cases hfields : t.fields with
          | none => exact gives_throw _ _
          | some fields =>
              apply (t.gives_members rules Declared.ofField fields).bind_silent
              intro members _
              exact gives_pure _
  | enumeration =>
      apply Gives.after_ofExcept
      intro values _
      exact gives_pure _
  | union | list | nonNull | unknown =>
      cases hskip : rules.skipUnsupported with
      | false => exact gives_throw _ _
      | true => exact Gives.after_note (gives_pure none)

theorem gives_define? (rules : Rules) (t : FullType) :
    Gives (t.define? rules) (t.outcome rules) (t.notes rules) := by
  unfold define? outcome notes
  cases hintrospection : t.isIntrospection with
  | true => exact gives_pure none
  | false =>
      apply (t.gives_body? rules).bind_silent
      intro body _
      exact gives_pure _

/-- A type that becomes something has a body, or is left out with its definition. -/
theorem bodyOf_of_outcome {rules : Rules} {t : FullType} {o : Option Definition}
    (hnamed : t.isIntrospection = false) (h : t.outcome rules = .ok o) :
    ∃ body, t.bodyOf rules = .ok body ∧ t.definition? rules = body.map t.withBody := by
  have hdefinition : t.definition? rules = o := by rw [definition?, h]
  rw [outcome, hnamed, if_neg Bool.false_ne_true] at h
  obtain ⟨body, hbody, h⟩ := eq_ok_of_bind h
  cases h
  exact ⟨body, hbody, hdefinition⟩

theorem bodyOf_object {rules : Rules} {t : FullType} {body : Option Body} (hkind : t.kind = .object)
    (h : t.bodyOf rules = .ok body) : ∃ interfaces members,
      body = some (.dataClass interfaces members) ∧
      t.interfaceNames 0 t.implemented = .ok interfaces ∧ t.membersOf rules = .ok members := by
  rw [bodyOf, hkind] at h
  obtain ⟨_, _, h⟩ := eq_ok_of_bind h
  obtain ⟨members, hmembers, h⟩ := eq_ok_of_bind h
  obtain ⟨interfaces, hinterfaces, h⟩ := eq_ok_of_bind h
  cases h
  exact ⟨interfaces, members, rfl, hinterfaces, hmembers⟩

theorem bodyOf_interface {rules : Rules} {t : FullType} {body : Option Body}
    (hkind : t.kind = .interface) (h : t.bodyOf rules = .ok body) : ∃ members,
      body = some (.interface members) ∧ t.membersOf rules = .ok members := by
  rw [bodyOf, hkind] at h
  by_cases hmissing : t.hasImplementors && t.fields.isNone
  · simp only [if_pos hmissing] at h
    cases h
  · simp only [if_neg hmissing] at h
    obtain ⟨members, hmembers, h⟩ := eq_ok_of_bind h
    cases h
    exact ⟨members, rfl, hmembers⟩

theorem memberOf_eq_ok {rules : Rules} {t : FullType} {s : Declared} {m : Member}
    (h : t.memberOf rules s = .ok m) : ∃ shape, rules.shape s.name s.type = .ok shape ∧
      m = ⟨s.name, commentOf s.description, shape, t.alwaysBoxes⟩ := by
  unfold memberOf at h
  split at h
  · cases h
  · rename_i shape hshape
    cases h
    exact ⟨shape, hshape, rfl⟩

/-- The members stand in the order of the fields that they come from. -/
theorem member_at {rules : Rules} {t : FullType} {members : List Member}
    (h : t.membersOf rules = .ok members) {i : Nat} {s : Declared} (hs : t.declared[i]? = some s) :
    ∃ shape, rules.shape s.name s.type = .ok shape ∧
      members[i]? = some ⟨s.name, commentOf s.description, shape, t.alwaysBoxes⟩ := by
  obtain ⟨m, hm, hmember⟩ := getElem?_of_forall₂ (forall₂_of_mapM h) hs
  obtain ⟨shape, hshape, rfl⟩ := memberOf_eq_ok hmember
  exact ⟨shape, hshape, hm⟩

/-- Of the type that lists the references only its name is told. -/
theorem interfaceNames_congr {t t' : FullType} (hname : t.name = t'.name) (index : Nat)
    (refs : List TypeRef) : t.interfaceNames index refs = t'.interfaceNames index refs := by
  induction refs generalizing index with
  | nil => rfl
  | cons ref refs ih => rw [interfaceNames, interfaceNames, ih, hname]

theorem mem_of_interfaceNames {t : FullType} {index : Nat} {refs : List TypeRef}
    {names : List String} (h : t.interfaceNames index refs = .ok names) {ref : TypeRef}
    (href : ref ∈ refs) {name : String} (hname : ref.name = some name) : name ∈ names := by
  induction refs generalizing index names with
  | nil => cases href
  | cons first rest ih =>
      rw [interfaceNames] at h
      split at h
      · cases h
      · cases h
      · rename_i firstName _ hfirst
        cases hrest : t.interfaceNames (index + 1) rest with
        | error e =>
            rw [hrest] at h
            cases h
        | ok restNames =>
            rw [hrest] at h
            cases h
            rcases List.mem_cons.mp href with rfl | href
            · rw [hname] at hfirst
              cases hfirst
              exact List.mem_cons_self
            · exact List.mem_cons_of_mem firstName (ih hrest href)

end FullType

theorem gives_defineAll (rules : Rules) (types : List FullType) :
    Reporting.Gives (defineAll rules types)
      ((types.mapM (FullType.outcome rules)).map (List.filterMap id))
      (types.flatMap (FullType.notes rules)) := by
  have h := (Reporting.Gives.mapM (·.gives_define? rules) types).bind_silent fun definitions _ =>
    Reporting.gives_pure (definitions.filterMap id)
  exact h

end SchemaClasses
