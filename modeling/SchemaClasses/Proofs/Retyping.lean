import SchemaClasses.Proofs.Comparison

/-! Declared types that are replaced. A rule may be applied to the schema beforehand, so that the
fields are declared with the types that they get: then generation needs no rules, and only what it
reports about replaced types is lost. What was declared in place of such a type has no influence. -/

namespace SchemaClasses

def Field.retyped (table : RemapTable) (f : Field) : Field :=
  { f with type := table.apply f.name f.type }

def InputValue.retyped (table : RemapTable) (v : InputValue) : InputValue :=
  { v with type := table.apply v.name v.type }

def Declared.retyped (table : RemapTable) (d : Declared) : Declared :=
  { d with type := table.apply d.name d.type }

def FullType.retyped (table : RemapTable) (t : FullType) : FullType :=
  { t with
    fields := t.fields.map (List.map (Field.retyped table))
    inputFields := t.inputFields.map (List.map (InputValue.retyped table)) }

/-- The schema in which every field and input field is declared with the type that it gets. -/
def Schema.retyped (table : RemapTable) (s : Schema) : Schema :=
  { s with types := s.types.map (FullType.retyped table) }

namespace FullType

theorem declared_retyped (table : RemapTable) (t : FullType) :
    (t.retyped table).declared = t.declared.map (Declared.retyped table) := by
  have hfields : ((t.retyped table).fields.getD []).map Declared.ofField =
      ((t.fields.getD []).map Declared.ofField).map (Declared.retyped table) := by
    rcases hf : t.fields with _ | fields
    · simp [retyped, hf]
    · simp [retyped, hf, Declared.ofField, Declared.retyped, Field.retyped]
  have hinputFields : ((t.retyped table).inputFields.getD []).map Declared.ofInputValue =
      ((t.inputFields.getD []).map Declared.ofInputValue).map (Declared.retyped table) := by
    rcases hf : t.inputFields with _ | fields
    · simp [retyped, hf]
    · simp [retyped, hf, Declared.ofInputValue, Declared.retyped, InputValue.retyped]
  have hkind : (t.retyped table).kind = t.kind := rfl
  have himplementors : (t.retyped table).hasImplementors = t.hasImplementors := rfl
  unfold declared
  rw [hkind, himplementors, hfields, hinputFields]
  cases t.kind with
  | interface => cases t.hasImplementors <;> rfl
  | _ => rfl

/-- Whether a collection is there and has something in it is not a matter of what it has. -/
theorem required_map_bind {α β γ : Type} (f : α → β) (items : Option (List α))
    (missing : GenerationError) (next : Except GenerationError γ) :
    (do let _ ← required (items.map (List.map f)) missing; next) =
      (do let _ ← required items missing; next) := by
  rcases items with _ | _ | ⟨first, rest⟩ <;> rfl

variable {rules rules' : Rules} {table : RemapTable} {t : FullType}

theorem retyped_empty : retyped .empty = id := by
  have hfield : Field.retyped .empty = id := rfl
  have hinputValue : InputValue.retyped .empty = id := rfl
  funext t
  rw [retyped, hfield, hinputValue, List.map_id_fun, List.map_id_fun, Option.map_id, Option.map_id]
  rfl

theorem membersOf_retyped (happly : ∀ d ∈ t.declared,
      rules'.remap.apply d.name (table.apply d.name d.type) = rules.remap.apply d.name d.type) :
    (t.retyped table).membersOf rules' = t.membersOf rules := by
  rw [membersOf, declared_retyped, List.mapM_map, membersOf]
  apply mapM_congr
  intro d hd
  have hshape : rules'.shape d.name (table.apply d.name d.type) = rules.shape d.name d.type :=
    congrArg TypeShape.ofRef (happly d hd)
  show (t.retyped table).memberOf rules' (d.retyped table) = t.memberOf rules d
  unfold memberOf Declared.retyped
  rw [hshape]
  rfl

/-- Applying the rules beforehand makes no difference to what a type becomes. -/
theorem outcome_retyped (hskip : rules'.skipUnsupported = rules.skipUnsupported)
    (happly : ∀ d ∈ t.declared,
      rules'.remap.apply d.name (table.apply d.name d.type) = rules.remap.apply d.name d.type) :
    (t.retyped table).outcome rules' = t.outcome rules := by
  have hbody : (t.retyped table).bodyOf rules' = t.bodyOf rules := by
    have hfields : (t.retyped table).fields.isNone = t.fields.isNone := Option.isNone_map
    have hkind : (t.retyped table).kind = t.kind := rfl
    have himplementors : (t.retyped table).hasImplementors = t.hasImplementors := rfl
    have hname : (t.retyped table).name = t.name := rfl
    unfold bodyOf
    rw [membersOf_retyped happly, interfaceNames_congr hname, hfields, hskip, hkind, himplementors]
    cases t.kind with
    | object => exact required_map_bind (Field.retyped table) t.fields _ _
    | inputObject => exact required_map_bind (InputValue.retyped table) t.inputFields _ _
    | _ => rfl
  unfold outcome
  rw [hbody]
  rfl

theorem flatMap_remapNotes_retyped (table : RemapTable) (rules : Rules) (t : FullType) :
    (t.retyped table).declared.flatMap ((t.retyped table).remapNotes rules) =
      t.declared.flatMap (t.remapNotes rules) := by
  rw [declared_retyped, List.flatMap_map]
  rfl

/-- What is reported of a type tells nothing of the types that its fields are declared with. -/
theorem notes_retyped (table : RemapTable) (rules : Rules) (t : FullType) :
    (t.retyped table).notes rules = t.notes rules := by
  have hkind : (t.retyped table).kind = t.kind := rfl
  have himplementors : (t.retyped table).hasImplementors = t.hasImplementors := rfl
  unfold notes bodyNotes
  rw [flatMap_remapNotes_retyped, hkind, himplementors]
  rfl

/-- Without rules the report is that with rules, but for the replaced types. -/
theorem notes_eq_filter (hnone : ∀ name, rules'.replaces name = false) :
    t.notes rules' = (t.notes rules).filter (·.code ≠ "I0002") := by
  have hbare : t.declared.flatMap (t.remapNotes rules') = [] := by
    rw [List.flatMap_eq_nil_iff]
    intro d _
    rw [remapNotes, hnone, if_neg Bool.false_ne_true]
  have hreplaced : (t.declared.flatMap (t.remapNotes rules)).filter (·.code ≠ "I0002") = [] := by
    rw [List.filter_flatMap, List.flatMap_eq_nil_iff]
    intro d _
    unfold remapNotes
    cases rules.replaces d.name <;> rfl
  unfold notes bodyNotes
  rw [hbare]
  cases t.isIntrospection with
  | true => rfl
  | false =>
      cases t.kind with
      | object | inputObject => exact hreplaced.symm
      | interface =>
          cases t.hasImplementors with
          | true => exact hreplaced.symm
          | false => rfl
      | _ => rfl

end FullType

namespace RemapTable

theorem apply_apply (table : RemapTable) (name : String) (declared : TypeRef) :
    table.apply name (table.apply name declared) = table.apply name declared := by
  unfold apply
  cases table.get? name <;> rfl

/-- For a name with a rule the declared type plays no part. -/
theorem apply_eq_apply (table : RemapTable) {name : String} (h : name ∈ table.names)
    (declared other : TypeRef) : table.apply name declared = table.apply name other := by
  obtain ⟨type, htype⟩ := Option.isSome_iff_exists.mp ((table.isSome_get?_iff name).mpr h)
  rw [apply, apply, htype]
  rfl

end RemapTable

section Runs

variable {schema : Schema} {options : Options} {rules : Rules} {table : RemapTable}

/-- Generation by other rules from the retyped schema, where every field gets the same type. -/
theorem generate_retyped_noting (hskip : rules.skipUnsupported = options.skipUnsupported)
    (happly : ∀ t ∈ schema.types, ∀ d ∈ t.declared,
      rules.remap.apply d.name (table.apply d.name d.type) = options.remap.apply d.name d.type) :
    generate (schema.retyped table) { options with toRules := rules } =
      (generate schema options).map
        (Generated.noting (schema.types.flatMap (FullType.notes rules))) := by
  have houtcomes : List.Forall₂ (fun t t' => t.outcome options.toRules = t'.outcome rules)
      schema.types (schema.retyped table).types := by
    rw [Schema.retyped, List.forall₂_map_right_iff, List.forall₂_same]
    intro t ht
    exact (FullType.outcome_retyped hskip (happly t ht)).symm
  have hnames : List.Forall₂ (fun t t' => t.name = t'.name) schema.types
      (schema.retyped table).types := by
    rw [Schema.retyped, List.forall₂_map_right_iff, List.forall₂_same]
    exact fun _ _ => rfl
  have hnotes : (schema.retyped table).types.flatMap (FullType.notes rules) =
      schema.types.flatMap (FullType.notes rules) := by
    rw [Schema.retyped, List.flatMap_map]
    exact List.flatMap_congr fun t _ => t.notes_retyped table rules
  apply generate_eq_map_noting
  · exact head?_schemaFaults_eq hnames (houtcomes.imp fun _ _ => FullType.head?_faults_eq)
  · rw [generatedOf_eq_of_forall₂ options houtcomes, hnotes]

theorem generate_retyped (schema : Schema) (options : Options) :
    generate (schema.retyped options.remap) { options with remap := .empty } =
      (generate schema options).map (Generated.without "I0002") := by
  have hnotes : schema.types.flatMap (FullType.notes ⟨.empty, options.skipUnsupported⟩) =
      schema.types.flatMap fun t => (t.notes options.toRules).filter (·.code ≠ "I0002") :=
    List.flatMap_congr fun t _ => FullType.notes_eq_filter fun _ => rfl
  rw [map_without_generate, ← hnotes]
  exact generate_retyped_noting rfl fun _ _ _ _ => rfl

theorem generate_retyped_eq (hskip : rules.skipUnsupported = options.skipUnsupported)
    (happly : ∀ t ∈ schema.types, ∀ d ∈ t.declared,
      rules.remap.apply d.name (table.apply d.name d.type) = options.remap.apply d.name d.type)
    (hreplaces : ∀ t ∈ schema.types, ∀ d ∈ t.declared,
      rules.replaces d.name = options.replaces d.name) :
    generate (schema.retyped table) { options with toRules := rules } =
      generate schema options := by
  have hnotes : schema.types.flatMap (FullType.notes rules) =
      schema.types.flatMap (FullType.notes options.toRules) :=
    List.flatMap_congr fun t ht => t.notes_congr (hreplaces t ht)
  rw [generate_retyped_noting hskip happly, hnotes, map_noting_generate]

/-- Where every field gets another type than its own, its own is not looked at. -/
theorem generate_eq_of_retyped_eq {other : Schema}
    (htypes : other.types.map (FullType.retyped options.remap) =
      schema.types.map (FullType.retyped options.remap)) :
    generate other options = generate schema options := by
  have hself : ∀ s : Schema,
      generate (s.retyped options.remap) options = generate s options := by
    intro s
    apply generate_retyped_eq
    · rfl
    · exact fun _ _ d _ => options.remap.apply_apply d.name d.type
    · exact fun _ _ _ _ => rfl
  have hboth : generate (other.retyped options.remap) options =
      generate (schema.retyped options.remap) options := by
    unfold generate Schema.retyped
    rw [htypes]
  rw [← hself other, hboth, hself schema]

/-- Rules may change wherever no field bears their name. -/
theorem generate_congr_rules (hget : ∀ t ∈ schema.types, ∀ d ∈ t.declared,
      table.get? d.name = options.remap.get? d.name) :
    generate schema { options with remap := table } = generate schema options := by
  have hretyped : schema.retyped .empty = schema := by
    unfold Schema.retyped
    rw [FullType.retyped_empty, List.map_id]
  have h : generate (schema.retyped .empty) { options with remap := table } =
      generate schema options := by
    apply generate_retyped_eq
    · rfl
    · intro t ht d hd
      show (table.get? d.name).getD d.type = (options.remap.get? d.name).getD d.type
      rw [hget t ht d hd]
    · intro t ht d hd
      exact congrArg Option.isSome (hget t ht d hd)
  rwa [hretyped] at h

end Runs

/-- The fields are the same, but for the type of one whose name has a rule. -/
def Field.AgreesUpTo (table : RemapTable) (f g : Field) : Prop :=
  { g with type := f.type } = f ∧ (f.name ∈ table.names ∨ f.type = g.type)

def InputValue.AgreesUpTo (table : RemapTable) (v w : InputValue) : Prop :=
  { w with type := v.type } = v ∧ (v.name ∈ table.names ∨ v.type = w.type)

/-- The types are the same, but for the declared types of fields whose names have a rule. -/
def FullType.AgreesUpTo (table : RemapTable) (t u : FullType) : Prop :=
  { u with fields := t.fields, inputFields := t.inputFields } = t ∧
    Option.Rel (List.Forall₂ (Field.AgreesUpTo table)) t.fields u.fields ∧
    Option.Rel (List.Forall₂ (InputValue.AgreesUpTo table)) t.inputFields u.inputFields

theorem Field.AgreesUpTo.retyped_eq {table : RemapTable} {f g : Field} (h : f.AgreesUpTo table g) :
    f.retyped table = g.retyped table := by
  obtain ⟨hrest, hruled | htype⟩ := h
  · rw [← hrest] at hruled ⊢
    exact congrArg (fun type => { g with type }) (table.apply_eq_apply hruled f.type g.type)
  · rw [← hrest, htype]

theorem InputValue.AgreesUpTo.retyped_eq {table : RemapTable} {v w : InputValue}
    (h : v.AgreesUpTo table w) : v.retyped table = w.retyped table := by
  obtain ⟨hrest, hruled | htype⟩ := h
  · rw [← hrest] at hruled ⊢
    exact congrArg (fun type => { w with type }) (table.apply_eq_apply hruled v.type w.type)
  · rw [← hrest, htype]

theorem map_eq_map_of_rel {α β : Type} {R : α → α → Prop} (f : α → β)
    (hf : ∀ a b, R a b → f a = f b) {as bs : Option α} (h : Option.Rel R as bs) :
    as.map f = bs.map f := by
  cases h with
  | none => rfl
  | some hhead => exact congrArg some (hf _ _ hhead)

theorem FullType.AgreesUpTo.retyped_eq {table : RemapTable} {t u : FullType}
    (h : t.AgreesUpTo table u) : t.retyped table = u.retyped table := by
  obtain ⟨hrest, hfields, hinputFields⟩ := h
  have hfields := map_eq_map_of_rel (List.map (Field.retyped table))
    (fun _ _ => map_eq_map_of_forall₂ (Field.retyped table) fun _ _ h => h.retyped_eq) hfields
  have hinputFields := map_eq_map_of_rel (List.map (InputValue.retyped table))
    (fun _ _ => map_eq_map_of_forall₂ (InputValue.retyped table) fun _ _ h => h.retyped_eq)
    hinputFields
  rw [FullType.retyped, hfields, hinputFields, ← hrest]
  rfl

namespace Schema

/-- The names of all fields and input fields, whether or not they become members. -/
def memberNames (s : Schema) : List String :=
  s.types.flatMap fun t =>
    (t.fields.getD []).map Field.name ++ (t.inputFields.getD []).map InputValue.name

theorem mem_memberNames {s : Schema} {t : FullType} (ht : t ∈ s.types) {d : Declared}
    (hd : d ∈ t.declared) : d.name ∈ s.memberNames := by
  rw [memberNames, List.mem_flatMap]
  refine ⟨t, ht, ?_⟩
  rw [List.mem_append]
  have hfield : d ∈ (t.fields.getD []).map Declared.ofField →
      d.name ∈ (t.fields.getD []).map Field.name := by
    intro h
    obtain ⟨f, hf, rfl⟩ := List.mem_map.mp h
    exact List.mem_map_of_mem hf
  have hinputField : d ∈ (t.inputFields.getD []).map Declared.ofInputValue →
      d.name ∈ (t.inputFields.getD []).map InputValue.name := by
    intro h
    obtain ⟨v, hv, rfl⟩ := List.mem_map.mp h
    exact List.mem_map_of_mem hv
  unfold FullType.declared at hd
  cases hkind : t.kind with
  | object =>
      rw [hkind] at hd
      exact Or.inl (hfield hd)
  | inputObject =>
      rw [hkind] at hd
      exact Or.inr (hinputField hd)
  | interface =>
      simp only [hkind] at hd
      cases himplementors : t.hasImplementors with
      | true => exact Or.inl (hfield (by simpa [himplementors] using hd))
      | false => simp [himplementors] at hd
  | _ =>
      rw [hkind] at hd
      cases hd

end Schema

/-- Rules may be applied to a schema beforehand, which loses the notes on replaced types and nothing
else. So schemas that differ in types with a rule only generate the same, whether or not those types
lead anywhere; and so do rules that differ in their order, or for names that no field bears. -/
theorem generate_retyped_and_redeclared_and_rules (schema : Schema) (options : Options) :
    generate (schema.retyped options.remap) { options with remap := .empty } =
      (generate schema options).map (Generated.without "I0002") ∧
    (∀ other : Schema, List.Forall₂ (FullType.AgreesUpTo options.remap) other.types schema.types →
      generate other options = generate schema options) ∧
    (∀ table : RemapTable,
      (∀ name ∈ schema.memberNames, table.get? name = options.remap.get? name) →
      generate schema { options with remap := table } = generate schema options) ∧
    ∀ table : RemapTable, table.names.Nodup → table.rules.Perm options.remap.rules →
      generate schema { options with remap := table } = generate schema options := by
  refine ⟨generate_retyped schema options, ?_, ?_, ?_⟩
  · intro other hagree
    exact generate_eq_of_retyped_eq
      (map_eq_map_of_forall₂ (FullType.retyped options.remap) (fun _ _ h => h.retyped_eq) hagree)
  · intro table hget
    exact generate_congr_rules fun t ht d hd => hget d.name (Schema.mem_memberNames ht hd)
  · intro table hnodup hperm
    exact generate_congr_rules fun t _ d _ => Entries.get?_perm hperm hnodup d.name

namespace Redeclared

/-- A class with a rule for one of its fields, which is declared as a list of nothing. -/
def page : FullType :=
  { FullType.plain .object "Page" with
    fields := some [.plain "itemType" ⟨.list, none, none⟩, .plain "title" (.scalar "String")] }

def otherPage : FullType :=
  { FullType.plain .object "Page" with
    fields := some [.plain "itemType" (.scalar "Int"), .plain "title" (.scalar "String")] }

def schema : Schema := ⟨none, none, none, [page], []⟩

def other : Schema := ⟨none, none, none, [otherPage], []⟩

def options : Options := .ofLanguage "Content" .java 0

theorem generate_retyped_and_redeclared_and_rules_in_page :
    let longer := options.remap.insert "pageType" (.scalar "Int")
    let reversed : RemapTable := ⟨options.remap.rules.reverse⟩
    generate schema options = .ok (options.generatedOf schema.types) ∧
    generate (schema.retyped options.remap) { options with remap := .empty } =
      (generate schema options).map (Generated.without "I0002") ∧
    generate other options = generate schema options ∧
    generate schema { options with remap := longer } = generate schema options ∧
    generate schema { options with remap := reversed } = generate schema options := by
  intro longer reversed
  obtain ⟨hretyped, hredeclared, hnames, horder⟩ :=
    generate_retyped_and_redeclared_and_rules schema options
  have hfields : Option.Rel (List.Forall₂ (Field.AgreesUpTo options.remap)) otherPage.fields
      page.fields :=
    .some (.cons ⟨rfl, .inl (by decide)⟩ (.cons ⟨rfl, .inr rfl⟩ .nil))
  have hagree : List.Forall₂ (FullType.AgreesUpTo options.remap) other.types schema.types :=
    .cons ⟨rfl, hfields, .none⟩ .nil
  exact ⟨(generate_eq_ok_iff schema options _).mpr ⟨by decide, rfl⟩, hretyped,
    hredeclared other hagree, hnames longer (by decide),
    horder reversed (by decide) (List.reverse_perm _)⟩

end Redeclared

end SchemaClasses
