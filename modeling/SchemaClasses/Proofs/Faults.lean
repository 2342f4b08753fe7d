import SchemaClasses.Proofs.Assembly

/-! The faults of a schema, listed in the order in which generation comes upon them, as if it went
on behind the first: those of the names of all types, then type by type those of its own. Generation
ends well for a schema without faults, and otherwise with the first of them. -/

namespace SchemaClasses

/-- Every type has a name with more in it than blanks, and no two types have the same. -/
def NamesValid (types : List FullType) : Prop :=
  (∀ t ∈ types, ∃ c ∈ t.name.toList, ¬ Text.isBlank c) ∧ (types.map FullType.name).Nodup

instance (types : List FullType) : Decidable (NamesValid types) :=
  inferInstanceAs (Decidable (_ ∧ _))

/-- The faults of the name of the type at an index: it may be blank, and it may stand before. -/
def nameFaultsAt (types : List FullType) (entry : FullType × Nat) : List GenerationError :=
  (if Text.isBlankText entry.1.name then [.emptyTypeName entry.2] else []) ++
    if entry.1.name ∈ (types.take entry.2).map FullType.name then [.duplicateType entry.1.name]
    else []

def nameFaults (types : List FullType) : List GenerationError :=
  types.zipIdx.flatMap (nameFaultsAt types)

/-- The faults of the names of types that stand behind others. -/
def nameFaultsBehind (before types : List FullType) : List GenerationError :=
  (types.zipIdx before.length).flatMap (nameFaultsAt (before ++ types))

theorem nameFaultsBehind_cons (before : List FullType) (t : FullType) (types : List FullType) :
    nameFaultsBehind before (t :: types) =
      (if Text.isBlankText t.name then [.emptyTypeName before.length] else []) ++
        (if t.name ∈ before.map FullType.name then [.duplicateType t.name] else []) ++
        nameFaultsBehind (before ++ [t]) types := by
  rw [nameFaultsBehind, List.zipIdx_cons, List.flatMap_cons, nameFaultsAt, List.take_left,
    nameFaultsBehind, List.length_append, ← List.append_cons]
  rfl

/-- The check keeps the names of the types before, in whatever order. -/
theorem stops_checkNames (before types : List FullType) (seen : List String)
    (hseen : ∀ name, name ∈ seen ↔ name ∈ before.map FullType.name) :
    Stops (checkNames before.length seen types) (nameFaultsBehind before types) := by
  induction types generalizing before seen with
  | nil => exact Stops.ok ()
  | cons t types ih =>
      rw [nameFaultsBehind_cons, checkNames]
      by_cases hblank : Text.isBlankText t.name
      · rw [if_pos hblank, if_pos hblank]
        exact Stops.error _ _
      · rw [if_neg hblank, if_neg hblank, List.nil_append]
        -- the check knows the names by its list, the faults by the types before
        by_cases hmem : t.name ∈ seen
        · rw [if_pos hmem, if_pos ((hseen t.name).mp hmem)]
          exact Stops.error _ _
        · rw [if_neg hmem, if_neg fun h => hmem ((hseen t.name).mpr h), List.nil_append]
          have hbehind : ∀ name, name ∈ t.name :: seen ↔ name ∈ (before ++ [t]).map FullType.name := by
            intro name
            rw [List.mem_cons, hseen, List.map_append, List.mem_append, or_comm]
            simp
          have h := ih (before ++ [t]) (t.name :: seen) hbehind
          rwa [List.length_append] at h

theorem namesValid_cons (t : FullType) (types : List FullType) :
    NamesValid (t :: types) ↔ (∃ c ∈ t.name.toList, ¬ Text.isBlank c) ∧
      t.name ∉ types.map FullType.name ∧ NamesValid types := by
  simp only [NamesValid, List.forall_mem_cons, List.map_cons, List.nodup_cons]
  tauto

theorem not_isBlankText_iff (s : String) :
    ¬ Text.isBlankText s ↔ ∃ c ∈ s.toList, ¬ Text.isBlank c := by
  simp [Text.isBlankText]

theorem nameFaultsBehind_eq_nil_iff (before types : List FullType) :
    nameFaultsBehind before types = [] ↔
      NamesValid types ∧ ∀ t ∈ types, t.name ∉ before.map FullType.name := by
  induction types generalizing before with
  | nil => simp [nameFaultsBehind, NamesValid]
  | cons t types ih =>
      have hblank : (if Text.isBlankText t.name then
          [GenerationError.emptyTypeName before.length] else []) = [] ↔
          ∃ c ∈ t.name.toList, ¬ Text.isBlank c := by
        rw [← not_isBlankText_iff]
        simp
      have hbefore : (if t.name ∈ before.map FullType.name then
          [GenerationError.duplicateType t.name] else []) = [] ↔
          t.name ∉ before.map FullType.name := by
        simp
      rw [nameFaultsBehind_cons, List.append_eq_nil_iff, List.append_eq_nil_iff, hblank, hbefore,
        ih (before ++ [t]), namesValid_cons]
      constructor
      · rintro ⟨⟨hvisible, hfresh⟩, hvalid, hothers⟩
        refine ⟨⟨hvisible, ?_, hvalid⟩, ?_⟩
        · intro hmem
          obtain ⟨t', ht', hname⟩ := List.mem_map.mp hmem
          exact hothers t' ht' (by simp [hname])
        · intro t' ht'
          rcases List.mem_cons.mp ht' with rfl | ht'
          · exact hfresh
          · exact fun h => hothers t' ht' (by rw [List.map_append]; exact List.mem_append_left _ h)
      · rintro ⟨⟨hvisible, hfresh, hvalid⟩, hbehind⟩
        refine ⟨⟨hvisible, hbehind t List.mem_cons_self⟩, hvalid, ?_⟩
        intro t' ht' hmem
        rw [List.map_append, List.mem_append] at hmem
        rcases hmem with hmem | hmem
        · exact hbehind t' (List.mem_cons_of_mem t ht') hmem
        · have hname : t'.name = t.name := by simpa using hmem
          exact hfresh (hname ▸ List.mem_map_of_mem ht')

theorem nameFaults_eq_nil_iff (types : List FullType) :
    nameFaults types = [] ↔ NamesValid types := by
  rw [show nameFaults types = nameFaultsBehind [] types from rfl, nameFaultsBehind_eq_nil_iff]
  simp

/-- A collection that is required may be missing, or be there without anything in it. -/
def absentFaults (items : Option (List α)) (missing : GenerationError) : List GenerationError :=
  match items with
  | none | some [] => [missing]
  | some (_ :: _) => []

theorem stops_required (items : Option (List α)) (missing : GenerationError) :
    Stops (FullType.required items missing) (absentFaults items missing) := by
  rcases items with _ | _ | _
  · exact Stops.error missing []
  · exact Stops.error missing []
  · exact Stops.ok _

theorem absentFaults_eq_nil_iff (items : Option (List α)) (missing : GenerationError) :
    absentFaults items missing = [] ↔ ∃ found, items = some found ∧ found ≠ [] := by
  rcases items with _ | _ | ⟨first, rest⟩ <;> simp [absentFaults]

/-- The type that a member of a name gets leads to a named type. -/
def Rules.Resolves (rules : Rules) (name : String) (declared : TypeRef) : Prop :=
  ∃ shape, TypeShape.ofRef (rules.remap.apply name declared) = .ok shape

/-- Whether a reference names a type. -/
def TypeRef.IsNamed (ref : TypeRef) : Prop :=
  ∃ name, ref.name = some name ∧ name ≠ ""

namespace FullType

/-- The fault of a member: what it gets for a type may lead nowhere. -/
def shapeFaults (rules : Rules) (t : FullType) (s : Declared) : List GenerationError :=
  match rules.shape s.name s.type with
  | .error reason => [.unresolvedType t.name s.name reason]
  | .ok _ => []

def interfaceFaultsAt (t : FullType) (entry : TypeRef × Nat) : List GenerationError :=
  if entry.1.name.getD "" = "" then [.unresolvedInterface t.name entry.2] else []

def bodyFaults (rules : Rules) (t : FullType) : List GenerationError :=
  match t.kind with
  | .scalar => []
  | .object =>
    absentFaults t.fields (.missingFields t.name t.kind) ++
      t.declared.flatMap (t.shapeFaults rules) ++
      t.implemented.zipIdx.flatMap t.interfaceFaultsAt
  | .inputObject =>
    absentFaults t.inputFields (.missingInputFields t.name) ++
      t.declared.flatMap (t.shapeFaults rules)
  | .interface =>
    if t.hasImplementors then
      (if t.fields.isNone then [.missingFields t.name t.kind] else []) ++
        t.declared.flatMap (t.shapeFaults rules)
    else []
  | .enumeration => absentFaults t.enumValues (.missingEnumValues t.name)
  | .union | .list | .nonNull | .unknown =>
    if rules.skipUnsupported then [] else [.unsupportedKind t.name t.kind]

/-- The faults of a type, its name apart. -/
def faults (rules : Rules) (t : FullType) : List GenerationError :=
  if t.isIntrospection then [] else t.bodyFaults rules

theorem stops_memberOf (rules : Rules) (t : FullType) (s : Declared) :
    Stops (t.memberOf rules s) (t.shapeFaults rules s) := by
  unfold memberOf shapeFaults
  cases rules.shape s.name s.type with
  | error reason => exact Stops.error _ []
  | ok type => exact Stops.ok _

theorem stops_membersOf (rules : Rules) (t : FullType) :
    Stops (t.membersOf rules) (t.declared.flatMap (t.shapeFaults rules)) :=
  Stops.mapM t.declared fun s _ => t.stops_memberOf rules s

theorem stops_interfaceNames (t : FullType) (index : Nat) (refs : List TypeRef) :
    Stops (t.interfaceNames index refs) ((refs.zipIdx index).flatMap t.interfaceFaultsAt) := by
  induction refs generalizing index with
  | nil => exact Stops.ok []
  | cons ref refs ih =>
      rw [List.zipIdx_cons, List.flatMap_cons, interfaceNames, interfaceFaultsAt]
      split
      · rename_i hname
        rw [hname]
        exact Stops.error _ _
      · rename_i hname
        rw [hname]
        exact Stops.error _ _
      · rename_i name hempty hname
        rw [hname, if_neg (show ¬ (some name).getD "" = "" from hempty)]
        exact (ih (index + 1)).map (name :: ·)

theorem stops_bodyOf (rules : Rules) (t : FullType) :
    Stops (t.bodyOf rules) (t.bodyFaults rules) := by
  unfold bodyOf bodyFaults
  cases hkind : t.kind with
  | scalar => exact Stops.ok none
  | object =>
      rw [List.append_assoc]
      apply (stops_required _ _).bind
      intro _ _
      apply (t.stops_membersOf rules).bind
      intro members _
      exact (t.stops_interfaceNames 0 t.implemented).map _
  | inputObject =>
      apply (stops_required _ _).bind
      intro _ _
      exact (t.stops_membersOf rules).map _
  | interface =>
      cases himplementors : t.hasImplementors with
      | false =>
          have hnone : t.declared = [] := by
            rw [declared, hkind]
            exact if_neg (by rw [himplementors]; exact Bool.false_ne_true)
          have h := t.stops_membersOf rules
          rw [hnone] at h
          exact h.map _
      | true =>
          cases hfields : t.fields.isNone with
          | true => exact Stops.error _ _
          | false => exact (t.stops_membersOf rules).map _
  | enumeration => exact (stops_required _ _).map _
  | union | list | nonNull | unknown =>
      cases hskip : rules.skipUnsupported with
      | false => exact Stops.error _ []
      | true => exact Stops.ok none

theorem stops_outcome (rules : Rules) (t : FullType) :
    Stops (t.outcome rules) (t.faults rules) := by
  unfold outcome faults
  cases hintrospection : t.isIntrospection with
  | true => exact Stops.ok none
  | false => exact (t.stops_bodyOf rules).map _

/-- What a type has to be, by its kind, to become something under the rules. -/
def WellFormed (rules : Rules) (t : FullType) : Prop :=
  match t.kind with
  | .scalar => True
  | .object =>
    (∃ fields, t.fields = some fields ∧ fields ≠ [] ∧ ∀ f ∈ fields, rules.Resolves f.name f.type) ∧
      ∀ ref ∈ t.implemented, ref.IsNamed
  | .inputObject =>
    ∃ fields, t.inputFields = some fields ∧ fields ≠ [] ∧ ∀ f ∈ fields, rules.Resolves f.name f.type
  | .interface =>
    t.possibleTypes.getD [] = [] ∨
      ∃ fields, t.fields = some fields ∧ ∀ f ∈ fields, rules.Resolves f.name f.type
  | .enumeration => ∃ values, t.enumValues = some values ∧ values ≠ []
  | .union | .list | .nonNull | .unknown => rules.skipUnsupported

theorem shapeFaults_eq_nil_iff (rules : Rules) (t : FullType) (ds : List Declared) :
    ds.flatMap (t.shapeFaults rules) = [] ↔ ∀ s ∈ ds, rules.Resolves s.name s.type := by
  rw [List.flatMap_eq_nil_iff]
  apply forall₂_congr
  intro s _
  unfold shapeFaults Rules.Resolves Rules.shape
  cases TypeShape.ofRef (rules.remap.apply s.name s.type) <;> simp

theorem interfaceFaults_eq_nil_iff (t : FullType) (index : Nat) (refs : List TypeRef) :
    (refs.zipIdx index).flatMap t.interfaceFaultsAt = [] ↔ ∀ ref ∈ refs, ref.IsNamed := by
  induction refs generalizing index with
  | nil => simp
  | cons ref refs ih =>
      rw [List.zipIdx_cons, List.flatMap_cons, List.append_eq_nil_iff, ih, List.forall_mem_cons]
      apply and_congr_left
      intro _
      rw [interfaceFaultsAt, TypeRef.IsNamed]
      cases ref.name <;> simp

theorem hasImplementors_eq_false_iff (t : FullType) :
    t.hasImplementors = false ↔ t.possibleTypes.getD [] = [] := by
  unfold hasImplementors
  rcases t.possibleTypes with _ | _ | ⟨first, rest⟩ <;> simp

theorem present_and_all_iff (items : Option (List α)) (view : α → Declared)
    (P : Declared → Prop) :
    ((∃ found, items = some found ∧ found ≠ []) ∧ ∀ s ∈ (items.getD []).map view, P s) ↔
      ∃ found, items = some found ∧ found ≠ [] ∧ ∀ a ∈ found, P (view a) := by
  cases items <;> simp

theorem bodyFaults_eq_nil_iff (rules : Rules) (t : FullType) :
    t.bodyFaults rules = [] ↔ t.WellFormed rules := by
  unfold bodyFaults WellFormed declared
  cases hkind : t.kind with
  | scalar => simp
  | object =>
      simp only [List.append_eq_nil_iff, absentFaults_eq_nil_iff, shapeFaults_eq_nil_iff,
        interfaceFaults_eq_nil_iff]
      rw [present_and_all_iff]
      rfl
  | inputObject =>
      simp only [List.append_eq_nil_iff, absentFaults_eq_nil_iff, shapeFaults_eq_nil_iff]
      rw [present_and_all_iff]
      rfl
  | interface =>
      simp only [← hasImplementors_eq_false_iff]
      cases himplementors : t.hasImplementors with
      | false => simp
      | true =>
          simp only [if_true, List.append_eq_nil_iff, shapeFaults_eq_nil_iff]
          cases t.fields <;> simp [Declared.ofField]
  | enumeration => exact absentFaults_eq_nil_iff _ _
  | union | list | nonNull | unknown => simp

theorem faults_eq_nil_iff (rules : Rules) (t : FullType) :
    t.faults rules = [] ↔ (t.isIntrospection = false → t.WellFormed rules) := by
  rw [faults, ← bodyFaults_eq_nil_iff]
  cases t.isIntrospection <;> simp

end FullType

def schemaFaults (rules : Rules) (types : List FullType) : List GenerationError :=
  nameFaults types ++ types.flatMap (FullType.faults rules)

theorem stops_generate (schema : Schema) (options : Options) :
    Stops (generate schema options) (schemaFaults options.toRules schema.types) := by
  rw [generate_eq]
  apply (stops_checkNames [] schema.types [] fun _ => Iff.rfl).bind
  intro _ _
  exact (Stops.mapM schema.types fun t _ => t.stops_outcome options.toRules).map _

/-- A blank name counts before anything that is wrong with the types before it. -/
example : (schemaFaults (Options.ofLanguage "Content" .csharp 0).toRules
    [.plain .object "Page", .plain .scalar " "]).head? = some (.emptyTypeName 1) := by decide

theorem generate_eq_ok_iff (schema : Schema) (options : Options) (generated : Generated) :
    generate schema options = .ok generated ↔
      schemaFaults options.toRules schema.types = [] ∧
        generated = options.generatedOf schema.types := by
  constructor
  · intro h
    exact ⟨(stops_generate schema options).ok_iff.mp ⟨generated, h⟩, eq_generatedOf_of_generate h⟩
  · rintro ⟨hfaults, rfl⟩
    obtain ⟨generated, h⟩ := (stops_generate schema options).ok_iff.mpr hfaults
    rw [h, eq_generatedOf_of_generate h]

theorem faults_of_generate {schema : Schema} {options : Options} {generated : Generated}
    (h : generate schema options = .ok generated) :
    ∀ t ∈ schema.types, t.faults options.toRules = [] := by
  have hfaults := ((generate_eq_ok_iff schema options generated).mp h).1
  rw [schemaFaults, List.append_eq_nil_iff, List.flatMap_eq_nil_iff] at hfaults
  exact hfaults.2

/-- Where generation ends well, every type but those of introspection has its body. -/
theorem body_of_generate {schema : Schema} {options : Options} {generated : Generated}
    (h : generate schema options = .ok generated) {t : FullType} (ht : t ∈ schema.types)
    (hnamed : t.isIntrospection = false) : ∃ body, t.bodyOf options.toRules = .ok body ∧
      t.definition? options.toRules = body.map t.withBody := by
  obtain ⟨o, ho⟩ := (t.stops_outcome options.toRules).ok_iff.mpr (faults_of_generate h t ht)
  exact FullType.bodyOf_of_outcome hnamed ho

/-- Generation ends well exactly when the names are valid and every type that is not one of
introspection itself is well formed, and it fails exactly with the first fault of the schema. -/
theorem generate_ok_iff_and_error_iff (schema : Schema) (options : Options) :
    ((∃ generated, generate schema options = .ok generated) ↔
      NamesValid schema.types ∧
        ∀ t ∈ schema.types, ¬ "__".toList <+: t.name.toList → t.WellFormed options.toRules) ∧
    ∀ e, generate schema options = .error e ↔
      (schemaFaults options.toRules schema.types).head? = some e := by
  have hstops := stops_generate schema options
  refine ⟨?_, hstops.error_iff⟩
  rw [hstops.ok_iff, schemaFaults, List.append_eq_nil_iff, nameFaults_eq_nil_iff,
    List.flatMap_eq_nil_iff]
  apply and_congr_right
  intro _
  apply forall₂_congr
  intro t _
  rw [t.faults_eq_nil_iff, FullType.isIntrospection, ← Bool.not_eq_true, List.isPrefixOf_iff_prefix]

end SchemaClasses
