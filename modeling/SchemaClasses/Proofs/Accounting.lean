import SchemaClasses.Proofs.Concatenation

/-! What a report accounts for. Where generation ends well, every type is one of three: it is
ignored, it is skipped with a warning, or it becomes a definition. The report has the warnings, the
interfaces without implementors and the members whose type was replaced, in the order of the schema,
and nothing else. -/

namespace SchemaClasses

/-- The kinds that have no definition in a model. -/
def TypeKind.unsupported : List TypeKind :=
  [.union, .list, .nonNull, .unknown]

namespace FullType

instance (t : FullType) : Decidable t.Idle :=
  inferInstanceAs (Decidable (_ ∨ _))

/-- A type that is left out of a model with a warning. -/
def Skipped (t : FullType) : Prop :=
  t.kind ∈ TypeKind.unsupported ∧ ¬ "__".toList <+: t.name.toList

instance (t : FullType) : Decidable t.Skipped :=
  inferInstanceAs (Decidable (_ ∧ _))

/-- The names of the fields that a type of its kind may have, in the order of their declaration. -/
def fieldNames (t : FullType) : List String :=
  match t.kind with
  | .object | .interface => (t.fields.getD []).map Field.name
  | .inputObject => (t.inputFields.getD []).map InputValue.name
  | _ => []

/-- One piece of information for each field whose name has a rule. -/
def replacements (table : RemapTable) (t : FullType) : List Diagnostic :=
  (t.fieldNames.filter (· ∈ table.names)).map fun name =>
    ⟨.info, "I0002", "Field type remapped",
      [⟨t.name ++ "." ++ name, "declared type replaced by a remap rule"⟩]⟩

/-- What is reported about a type that is not ignored. -/
def account (table : RemapTable) (t : FullType) : List Diagnostic :=
  match t.kind with
  | .scalar | .enumeration => []
  | .union | .list | .nonNull | .unknown =>
    [⟨.warning, "W0001", "Skipped " ++ t.kind.spelling ++ " type",
      [⟨t.name, "no definition is generated for this kind"⟩]⟩]
  | .interface =>
    if t.possibleTypes.getD [] = [] then
      [⟨.info, "I0001", "Interface has no implementors", [⟨t.name, "emitted with an empty body"⟩]⟩]
    else t.replacements table
  | .object | .inputObject => t.replacements table

theorem flatMap_remapNotes (rules : Rules) (t : FullType) (ds : List Declared) :
    ds.flatMap (t.remapNotes rules) =
      ((ds.map Declared.name).filter (· ∈ rules.remap.names)).map (.remapped t) := by
  induction ds with
  | nil => rfl
  | cons d ds ih =>
      have hrule : rules.replaces d.name = decide (d.name ∈ rules.remap.names) := by
        rw [Bool.eq_iff_iff, decide_eq_true_iff]
        exact rules.remap.isSome_get?_iff d.name
      rw [List.flatMap_cons, ih, remapNotes, hrule, List.map_cons, List.filter_cons]
      by_cases hmem : d.name ∈ rules.remap.names
      · simp only [hmem, decide_true, if_true, List.map_cons, List.singleton_append]
      · simp only [hmem, decide_false, Bool.false_eq_true, if_false, List.nil_append]

/-- The members of a type come from the fields of its kind. -/
theorem flatMap_declared (rules : Rules) {t : FullType}
    (hnames : t.declared.map Declared.name = t.fieldNames) :
    t.declared.flatMap (t.remapNotes rules) = t.replacements rules.remap := by
  rw [flatMap_remapNotes, hnames]
  rfl

theorem bodyNotes_eq_account (rules : Rules) (t : FullType) :
    t.bodyNotes rules = t.account rules.remap := by
  unfold bodyNotes account
  cases hkind : t.kind with
  | object =>
      apply flatMap_declared
      simp only [declared, fieldNames, hkind, List.map_map]
      rfl
  | inputObject =>
      apply flatMap_declared
      simp only [declared, fieldNames, hkind, List.map_map]
      rfl
  | interface =>
      simp only [← hasImplementors_eq_false_iff]
      cases himplementors : t.hasImplementors with
      | false => rfl
      | true =>
          apply flatMap_declared
          simp only [declared, fieldNames, hkind, himplementors, if_true, List.map_map]
          rfl
  | union | list | nonNull | unknown =>
      rw [Diagnostic.skippedKind, hkind]
      rfl
  | _ => rfl

theorem named_of_not_idle {t : FullType} (hidle : ¬ t.Idle) : t.isIntrospection = false := by
  rw [← Bool.not_eq_true, isIntrospection, List.isPrefixOf_iff_prefix]
  exact fun hprefix => hidle (Or.inr hprefix)

theorem Idle.not_skipped {t : FullType} (hidle : t.Idle) : ¬ t.Skipped := by
  rintro ⟨hkind, hname⟩
  rcases hidle with hscalar | hintrospection
  · rw [hscalar] at hkind
    exact absurd hkind (by decide)
  · exact hname hintrospection

theorem notes_eq_account {t : FullType} (hidle : ¬ t.Idle) (rules : Rules) :
    t.notes rules = t.account rules.remap := by
  rw [notes, named_of_not_idle hidle, if_neg Bool.false_ne_true, bodyNotes_eq_account]

theorem not_warning_of_mem_replacements {table : RemapTable} {t : FullType} {d : Diagnostic}
    (hd : d ∈ t.replacements table) : d.severity ≠ .warning := by
  obtain ⟨name, _, rfl⟩ := List.mem_map.mp hd
  exact Severity.noConfusion

theorem warnings_account (table : RemapTable) (t : FullType) :
    ((t.account table).filter (·.severity = .warning)).length =
      if t.kind ∈ TypeKind.unsupported then 1 else 0 := by
  have hreplacements : (t.replacements table).filter (·.severity = .warning) = [] := by
    rw [List.filter_eq_nil_iff]
    intro d hd
    rw [decide_eq_true_iff]
    exact not_warning_of_mem_replacements hd
  unfold account
  cases t.kind with
  | object | inputObject => exact congrArg List.length hreplacements
  | interface =>
      by_cases hempty : t.possibleTypes.getD [] = []
      · rw [if_pos hempty]
        rfl
      · rw [if_neg hempty]
        exact congrArg List.length hreplacements
  | _ => rfl

/-- Only what is skipped is warned of, and once. -/
theorem warnings_notes (rules : Rules) (t : FullType) :
    ((t.notes rules).filter (·.severity = .warning)).length = if t.Skipped then 1 else 0 := by
  by_cases hidle : t.Idle
  · rw [hidle.notes_eq, if_neg hidle.not_skipped]
    rfl
  · have hskipped : t.Skipped ↔ t.kind ∈ TypeKind.unsupported :=
      and_iff_left fun hname => hidle (Or.inr hname)
    rw [notes_eq_account hidle, warnings_account]
    exact if_congr hskipped.symm rfl rfl

/-- The kinds that have a definition are those that are neither ignored nor skipped. -/
theorem isSome_bodyOf {rules : Rules} {t : FullType} {body : Option Body}
    (h : t.bodyOf rules = .ok body) :
    body.isSome ↔ t.kind ≠ .scalar ∧ t.kind ∉ TypeKind.unsupported := by
  cases hkind : t.kind with
  | object =>
      obtain ⟨_, _, rfl, _⟩ := bodyOf_object hkind h
      simp [TypeKind.unsupported]
  | interface =>
      obtain ⟨_, rfl, _⟩ := bodyOf_interface hkind h
      simp [TypeKind.unsupported]
  | inputObject =>
      rw [bodyOf, hkind] at h
      obtain ⟨_, _, h⟩ := eq_ok_of_bind h
      obtain ⟨_, _, h⟩ := eq_ok_of_bind h
      cases h
      simp [TypeKind.unsupported]
  | enumeration =>
      rw [bodyOf, hkind] at h
      obtain ⟨_, _, h⟩ := eq_ok_of_bind h
      cases h
      simp [TypeKind.unsupported]
  | scalar =>
      rw [bodyOf, hkind] at h
      cases h
      decide
  | union | list | nonNull | unknown =>
      rw [bodyOf, hkind] at h
      cases hskip : rules.skipUnsupported with
      | false =>
          simp only [hskip, Bool.false_eq_true, if_false] at h
          cases h
      | true =>
          simp only [hskip, if_true] at h
          cases h
          decide

theorem isSome_definition? {rules : Rules} {t : FullType} (h : t.faults rules = []) :
    (t.definition? rules).isSome ↔ ¬ t.Idle ∧ ¬ t.Skipped := by
  by_cases hidle : t.Idle
  · rw [definition?, hidle.outcome_eq]
    simp [hidle]
  · obtain ⟨o, ho⟩ := (t.stops_outcome rules).ok_iff.mpr h
    obtain ⟨body, hbody, hdefinition⟩ := bodyOf_of_outcome (named_of_not_idle hidle) ho
    rw [hdefinition, Option.isSome_map, isSome_bodyOf hbody, Skipped]
    unfold Idle at hidle ⊢
    tauto

/-- Every type is defined, skipped or ignored, and only one of these. -/
theorem account_once {rules : Rules} {t : FullType} (h : t.faults rules = []) :
    (if (t.definition? rules).isSome then 1 else 0) + (if t.Skipped then 1 else 0) +
      (if t.Idle then 1 else 0) = 1 := by
  rw [if_congr (isSome_definition? h) rfl rfl]
  by_cases hidle : t.Idle
  · simp [hidle, hidle.not_skipped]
  · by_cases hskipped : t.Skipped <;> simp [hidle, hskipped]

end FullType

/-- The definitions are those of the types that are neither ignored nor skipped, in their order. -/
theorem forall₂_definitions_of_generate {schema : Schema} {options : Options}
    {generated : Generated} (h : generate schema options = .ok generated) :
    List.Forall₂ (fun t d => t.definition? options.toRules = some d)
      (schema.types.filter fun t => ¬ t.Idle ∧ ¬ t.Skipped) (options.definitions schema.types) := by
  apply forall₂_filter_filterMap
  intro t ht
  rw [Bool.eq_iff_iff, decide_eq_true_iff]
  exact (FullType.isSome_definition? (faults_of_generate h t ht)).symm

theorem warnings_flatMap_notes (rules : Rules) (types : List FullType) :
    ((types.flatMap (FullType.notes rules)).filter (·.severity = .warning)).length =
      types.countP fun t => t.Skipped := by
  induction types with
  | nil => rfl
  | cons t types ih =>
      rw [List.flatMap_cons, List.filter_append, List.length_append, FullType.warnings_notes, ih,
        List.countP_cons, Nat.add_comm]
      simp only [decide_eq_true_eq]

theorem length_eq_defined_add_skipped_add_ignored {rules : Rules} {types : List FullType}
    (h : ∀ t ∈ types, t.faults rules = []) :
    types.length = types.countP (fun t => (t.definition? rules).isSome) +
      types.countP (fun t => t.Skipped) + types.countP fun t => t.Idle := by
  induction types with
  | nil => rfl
  | cons t types ih =>
      have hhead := FullType.account_once (h t List.mem_cons_self)
      have htail := ih fun t' ht' => h t' (List.mem_cons_of_mem t ht')
      rw [List.length_cons, List.countP_cons, List.countP_cons, List.countP_cons, htail]
      simp only [decide_eq_true_eq]
      omega

/-- Where generation ends well, its report is what the types account for, in their order. There is
one warning to a type that is skipped, and every type is defined, warned of or ignored. -/
theorem report_eq_and_warnings_and_count {schema : Schema} {options : Options}
    {generated : Generated} (h : generate schema options = .ok generated) :
    generated.report.toList = (schema.types.filter fun t => ¬ t.Idle).flatMap
      (FullType.account options.remap) ∧
    generated.report.warnings.length = schema.types.countP (fun t => t.Skipped) ∧
    schema.types.length = generated.emitted + generated.report.warnings.length +
      schema.types.countP fun t => t.Idle := by
  obtain rfl := eq_generatedOf_of_generate h
  have hreport : (options.generatedOf schema.types).report.toList =
      schema.types.flatMap (FullType.notes options.toRules) := by
    rw [Options.generatedOf, Report.toList_addAll, Report.toList_empty, List.nil_append]
  have hwarnings : (options.generatedOf schema.types).report.warnings.length =
      schema.types.countP fun t => t.Skipped := by
    rw [Report.warnings, Report.ofSeverity, hreport, warnings_flatMap_notes]
  have hemitted : (options.generatedOf schema.types).emitted =
      schema.types.countP fun t => (t.definition? options.toRules).isSome := by
    rw [Options.generatedOf, Options.blocks, List.length_filterMap_eq_countP]
    simp only [Options.block?, Option.isSome_map]
  have hfilter : (schema.types.filter fun t => ¬ t.Idle).flatMap
      (FullType.notes options.toRules) = schema.types.flatMap (FullType.notes options.toRules) := by
    apply flatMap_filter_of_nil
    intro t _ hkeep
    have hidle : t.Idle := by simpa using hkeep
    exact hidle.notes_eq options.toRules
  refine ⟨?_, hwarnings, ?_⟩
  · rw [hreport, ← hfilter]
    apply List.flatMap_congr
    intro t ht
    have hidle : ¬ t.Idle := by simpa using (List.mem_filter.mp ht).2
    exact FullType.notes_eq_account hidle options.toRules
  · rw [hwarnings, hemitted]
    exact length_eq_defined_add_skipped_add_ignored (faults_of_generate h)

namespace Findings

/-- A class with two fields that have a rule, the later one first. -/
def page : FullType :=
  { FullType.plain .object "Page" with
    fields := some [.plain "itemType" (.scalar "Int"), .plain "title" (.scalar "String"),
      .plain "namespaceId" (.scalar "Int")] }

/-- An interface whose field has a rule, but that no class implements. -/
def orphan : FullType :=
  { FullType.plain .interface "Orphan" with fields := some [.plain "itemType" (.scalar "Int")] }

/-- A type of introspection whose field has a rule. -/
def introspection : FullType :=
  { FullType.plain .object "__Type" with fields := some [.plain "itemType" (.scalar "Int")] }

def schema : Schema :=
  ⟨none, none, none,
    [.plain .scalar "String", page, .plain .union "Result", orphan, introspection], []⟩

def options : Options :=
  { Options.ofLanguage "Content" .csharp 0 with skipUnsupported := true }

theorem report_eq_and_warnings_and_count_in_schema :
    let generated := options.generatedOf schema.types
    generate schema options = .ok generated ∧
    (generated.report.toList = (schema.types.filter fun t => ¬ t.Idle).flatMap
        (FullType.account options.remap) ∧
      generated.report.warnings.length = schema.types.countP (fun t => t.Skipped) ∧
      schema.types.length = generated.emitted + generated.report.warnings.length +
        schema.types.countP fun t => t.Idle) ∧
    (generated.report.toList.map fun d => (d.code, d.primaryPath?)) =
      [("I0002", some "Page.itemType"), ("I0002", some "Page.namespaceId"),
        ("W0001", some "Result"), ("I0001", some "Orphan")] := by
  intro generated
  have hgenerated : generate schema options = .ok generated :=
    (generate_eq_ok_iff schema options generated).mpr ⟨by decide, rfl⟩
  exact ⟨hgenerated, report_eq_and_warnings_and_count hgenerated, by decide⟩

end Findings

end SchemaClasses
