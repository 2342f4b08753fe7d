import SchemaClasses.Proofs.Outcome

/-! What a definition is made from: the body that a type of each kind becomes, and the names in it,
which all come from the schema or from a rule. -/

namespace SchemaClasses

/-- How a type of a kind is declared, if it is. -/
def TypeKind.role : TypeKind → Role
  | interface => .interface
  | enumeration => .enumeration
  | _ => .dataClass

/-- The names of a reference and of all references inside it. -/
def TypeRef.names : TypeRef → List String
  | ⟨_, name, none⟩ => name.toList
  | ⟨_, name, some inner⟩ => name.toList ++ inner.names

/-- The name inside all lists and inside all wrappers that exclude null. -/
def TypeRef.base : TypeRef → Option String
  | ⟨kind, name, some inner⟩ => if kind = .list ∨ kind = .nonNull then inner.base else name
  | ⟨_, name, none⟩ => name

/-- The names in the types that the rules give. -/
def Rules.names (rules : Rules) : List String :=
  rules.remap.rules.flatMap fun rule => rule.2.names

def Member.names (m : Member) : List String :=
  [m.name, m.type.name]

namespace Body

def names : Body → List String
  | dataClass interfaces members => interfaces ++ members.flatMap Member.names
  | interface members => members.flatMap Member.names
  | enumeration constants => constants.map Constant.name

theorem interfaces_subset_names (body : Body) : body.interfaces ⊆ body.names := by
  cases body with
  | dataClass interfaces members => exact List.subset_append_left interfaces _
  | _ => exact List.nil_subset _

end Body

def Definition.names (d : Definition) : List String :=
  d.name :: d.body.names

namespace FullType

/-- The names of a type, and those of its fields, interfaces, values and references. -/
def names (t : FullType) : List String :=
  t.name :: ((t.fields.getD []).flatMap (fun f => f.name :: f.type.names) ++
    (t.inputFields.getD []).flatMap (fun v => v.name :: v.type.names) ++
    t.implemented.filterMap TypeRef.name ++ (t.enumValues.getD []).map EnumValue.name)

/-- The body that a type becomes, by its kind. -/
inductive Becomes (rules : Rules) (t : FullType) : Body → Prop where
  | object {interfaces : List String} {members : List Member} (kind : t.kind = .object)
      (interfaces_eq : t.implemented.filterMap TypeRef.name = interfaces)
      (members_eq : t.membersOf rules = .ok members) : Becomes rules t (.dataClass interfaces members)
  | inputObject {members : List Member} (kind : t.kind = .inputObject)
      (members_eq : t.membersOf rules = .ok members) : Becomes rules t (.dataClass [] members)
  | interface {members : List Member} (kind : t.kind = .interface)
      (members_eq : t.membersOf rules = .ok members) : Becomes rules t (.interface members)
  | enumeration {values : List EnumValue} (kind : t.kind = .enumeration)
      (values_eq : t.enumValues = some values) : Becomes rules t (.enumeration (constants values))

variable {rules : Rules} {t : FullType}

theorem Becomes.role_eq {body : Body} (h : t.Becomes rules body) : body.role = t.kind.role := by
  cases h with | _ hkind => rw [hkind]; rfl

/-- Every interface that is listed has a name. -/
theorem filterMap_name_of_interfaceNames {index : Nat} {refs : List TypeRef} {names : List String}
    (h : t.interfaceNames index refs = .ok names) : refs.filterMap TypeRef.name = names := by
  induction refs generalizing index names with
  | nil =>
      cases h
      rfl
  | cons ref refs ih =>
      rw [interfaceNames] at h
      split at h
      · cases h
      · cases h
      · rename_i name _ hname
        cases hrest : t.interfaceNames (index + 1) refs with
        | error e =>
            rw [hrest] at h
            cases h
        | ok rest =>
            rw [hrest] at h
            cases h
            rw [List.filterMap_cons, hname, ih hrest]

theorem becomes_of_bodyOf {body : Body} (h : t.bodyOf rules = .ok (some body)) :
    t.Becomes rules body := by
  cases hkind : t.kind with
  | object =>
      obtain ⟨interfaces, members, hbody, hinterfaces, hmembers⟩ := bodyOf_object hkind h
      cases hbody
      exact .object hkind (filterMap_name_of_interfaceNames hinterfaces) hmembers
  | interface =>
      obtain ⟨members, hbody, hmembers⟩ := bodyOf_interface hkind h
      cases hbody
      exact .interface hkind hmembers
  | inputObject =>
      rw [bodyOf, hkind] at h
      obtain ⟨_, _, h⟩ := eq_ok_of_bind h
      obtain ⟨members, hmembers, h⟩ := eq_ok_of_bind h
      cases h
      exact .inputObject hkind hmembers
  | enumeration =>
      rw [bodyOf, hkind] at h
      obtain ⟨values, hvalues, h⟩ := eq_ok_of_bind h
      cases h
      exact .enumeration hkind (eq_of_required hvalues).1
  | scalar =>
      rw [bodyOf, hkind] at h
      cases h
  | union | list | nonNull | unknown =>
      rw [bodyOf, hkind] at h
      cases hskip : rules.skipUnsupported with
      | false =>
          simp only [hskip, Bool.false_eq_true, if_false] at h
          cases h
      | true =>
          simp only [hskip, if_true] at h
          cases h

theorem becomes_of_definition? {d : Definition} (h : t.definition? rules = some d) :
    t.isIntrospection = false ∧ ∃ body, t.Becomes rules body ∧ d = t.withBody body := by
  rw [definition?] at h
  cases houtcome : t.outcome rules with
  | error e =>
      rw [houtcome] at h
      cases h
  | ok o =>
      rw [houtcome] at h
      subst h
      cases hintrospection : t.isIntrospection with
      | true =>
          rw [outcome, hintrospection] at houtcome
          cases houtcome
      | false =>
          rw [outcome, hintrospection, if_neg Bool.false_ne_true] at houtcome
          obtain ⟨body, hbody, h⟩ := eq_ok_of_bind houtcome
          cases body with
          | none => cases h
          | some body =>
              cases h
              exact ⟨rfl, body, becomes_of_bodyOf hbody, rfl⟩

theorem declared_names_subset {s : Declared} (hs : s ∈ t.declared) :
    ∀ name ∈ s.name :: s.type.names, name ∈ t.names := by
  intro name hname
  have hfield : s ∈ (t.fields.getD []).map Declared.ofField → name ∈ t.names := by
    intro hs
    obtain ⟨f, hf, rfl⟩ := List.mem_map.mp hs
    simp only [names, List.mem_cons, List.mem_append, List.mem_flatMap]
    exact Or.inr (Or.inl (Or.inl (Or.inl ⟨f, hf, List.mem_cons.mp hname⟩)))
  have hinputField : s ∈ (t.inputFields.getD []).map Declared.ofInputValue → name ∈ t.names := by
    intro hs
    obtain ⟨v, hv, rfl⟩ := List.mem_map.mp hs
    simp only [names, List.mem_cons, List.mem_append, List.mem_flatMap]
    exact Or.inr (Or.inl (Or.inl (Or.inr ⟨v, hv, List.mem_cons.mp hname⟩)))
  unfold declared at hs
  split at hs
  · exact hfield hs
  · exact hinputField hs
  · split at hs
    · exact hfield hs
    · cases hs
  · cases hs

end FullType

theorem mem_names_of_base {name : String} :
    ∀ {ref : TypeRef}, ref.base = some name → name ∈ ref.names
  | ⟨kind, own, some inner⟩, h => by
      rw [TypeRef.base] at h
      split at h
      · exact List.mem_append_right _ (mem_names_of_base h)
      · exact List.mem_append_left _ (Option.mem_toList.mpr h)
  | ⟨_, own, none⟩, h => Option.mem_toList.mpr h

theorem base_of_peel {budget lists : Nat} {nonNull : Bool} {ref : TypeRef} {s : TypeShape}
    (h : TypeShape.peel budget lists nonNull ref = .ok s) : ref.base = some s.name := by
  induction budget generalizing lists nonNull ref with
  | zero => cases h
  | succ budget ih =>
      rcases ref with ⟨kind, name, inner⟩
      cases kind with
      | nonNull | list =>
          cases inner with
          | none => cases h
          | some inner =>
              show inner.base = some s.name
              exact ih h
      | _ =>
          rcases name with _ | name
          · cases h
          · simp only [TypeShape.peel] at h
            split at h
            · cases h
            · cases h
              cases inner <;> rfl

theorem name_mem_of_shape {rules : Rules} {name : String} {declared : TypeRef} {s : TypeShape}
    (h : rules.shape name declared = .ok s) : s.name ∈ declared.names ∨ s.name ∈ rules.names := by
  have hname : s.name ∈ (rules.remap.apply name declared).names :=
    mem_names_of_base (base_of_peel h)
  unfold RemapTable.apply at hname
  cases hrule : rules.remap.get? name with
  | none =>
      rw [hrule] at hname
      exact Or.inl hname
  | some type =>
      rw [hrule] at hname
      right
      rw [Rules.names, List.mem_flatMap]
      exact ⟨(name, type), Entries.mem_of_get? hrule, hname⟩

namespace FullType

variable {rules : Rules} {t : FullType}

theorem member_names_subset {members : List Member} (h : t.membersOf rules = .ok members) :
    ∀ name ∈ members.flatMap Member.names, name ∈ t.names ∨ name ∈ rules.names := by
  intro name hname
  obtain ⟨m, hm, hname⟩ := List.mem_flatMap.mp hname
  obtain ⟨s, hs, hmember⟩ := exists_mem_of_forall₂ (forall₂_of_mapM h) hm
  obtain ⟨shape, hshape, rfl⟩ := memberOf_eq_ok hmember
  have hdeclared := declared_names_subset hs
  rcases List.mem_cons.mp hname with rfl | hname
  · exact Or.inl (hdeclared s.name List.mem_cons_self)
  · rw [List.mem_singleton.mp hname]
    rcases name_mem_of_shape hshape with htype | hrule
    · exact Or.inl (hdeclared _ (List.mem_cons_of_mem s.name htype))
    · exact Or.inr hrule

/-- The names in a definition are names of the schema or of a rule. -/
theorem definition_names_subset {d : Definition} (h : t.definition? rules = some d) :
    ∀ name ∈ d.names, name ∈ t.names ∨ name ∈ rules.names := by
  obtain ⟨_, body, hbody, rfl⟩ := becomes_of_definition? h
  rw [Definition.names, List.forall_mem_cons]
  refine ⟨Or.inl List.mem_cons_self, ?_⟩
  cases hbody with
  | object _ hinterfaces hmembers =>
      rw [withBody, Body.names, List.forall_mem_append]
      refine ⟨?_, member_names_subset hmembers⟩
      intro name hname
      left
      rw [← hinterfaces] at hname
      simp only [names, List.mem_cons, List.mem_append]
      exact Or.inr (Or.inl (Or.inr hname))
  | inputObject _ hmembers => exact member_names_subset hmembers
  | interface _ hmembers => exact member_names_subset hmembers
  | enumeration _ hvalues =>
      intro name hname
      left
      simp only [withBody, Body.names, constants, List.map_map, List.mem_map] at hname
      obtain ⟨v, hv, rfl⟩ := hname
      simp only [names, hvalues, List.mem_cons, List.mem_append, List.mem_map]
      exact Or.inr (Or.inr ⟨v, hv, rfl⟩)

end FullType

end SchemaClasses
