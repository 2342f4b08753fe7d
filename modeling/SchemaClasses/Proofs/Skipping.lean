import SchemaClasses.Proofs.Accounting

/-! Types that are skipped. To skip the types of unsupported kinds is to generate from a schema that
never had them, but for one warning to each, which stands where the type stands. Where nothing needs
to be skipped, it makes no difference whether it is allowed. -/

namespace SchemaClasses

/-- The options that skip unsupported types, or that fail for them. -/
def Options.skipping (options : Options) (skip : Bool) : Options :=
  { options with skipUnsupported := skip }

/-- The schema without the types of kinds that have no definition. -/
def Schema.supported (s : Schema) : Schema :=
  { s with types := s.types.filter fun t => t.kind ∉ TypeKind.unsupported }

namespace FullType

/-- The warning for a type that is left out, unless it is one of introspection itself. -/
def skipWarning (t : FullType) : List Diagnostic :=
  if "__".toList <+: t.name.toList then [] else
    [⟨.warning, "W0001", "Skipped " ++ t.kind.spelling ++ " type",
      [⟨t.name, "no definition is generated for this kind"⟩]⟩]

variable {t : FullType}

theorem kind_or_name_of_not_skipped (h : ¬ t.Skipped) :
    t.kind ∉ TypeKind.unsupported ∨ t.isIntrospection = true := by
  rw [Skipped, not_and_not_right] at h
  by_cases hkind : t.kind ∈ TypeKind.unsupported
  · exact Or.inr (List.isPrefixOf_iff_prefix.mpr (h hkind))
  · exact Or.inl hkind

/-- What is not skipped becomes the same whether or not skipping is allowed. -/
theorem outcome_eq_of_not_skipped (h : ¬ t.Skipped) (remap : RemapTable) (skip other : Bool) :
    t.outcome ⟨remap, skip⟩ = t.outcome ⟨remap, other⟩ := by
  unfold outcome
  rcases kind_or_name_of_not_skipped h with hkind | hintrospection
  · have hbody : t.bodyOf ⟨remap, skip⟩ = t.bodyOf ⟨remap, other⟩ := by
      unfold bodyOf
      cases hk : t.kind with
      | union | list | nonNull | unknown =>
          rw [hk] at hkind
          exact absurd (by decide) hkind
      | _ => rfl
    rw [hbody]
  · rw [hintrospection]
    rfl

/-- An unsupported type comes to nothing where it may be skipped. -/
theorem outcome_eq_none_of_unsupported (h : t.kind ∈ TypeKind.unsupported) (remap : RemapTable) :
    t.outcome ⟨remap, true⟩ = .ok none := by
  have hbody : t.bodyOf ⟨remap, true⟩ = .ok none := by
    unfold bodyOf
    cases hk : t.kind with
    | scalar | union | list | nonNull | unknown => rfl
    | _ =>
        rw [hk] at h
        exact absurd h (by decide)
  unfold outcome
  rw [hbody]
  cases t.isIntrospection <;> rfl

theorem notes_of_unsupported (h : t.kind ∈ TypeKind.unsupported) (rules : Rules) :
    t.notes rules = t.skipWarning := by
  have hbody : t.bodyNotes rules = [.skippedKind t] := by
    unfold bodyNotes
    cases hk : t.kind with
    | union | list | nonNull | unknown => rfl
    | _ =>
        rw [hk] at h
        exact absurd h (by decide)
  unfold notes skipWarning isIntrospection
  rw [hbody]
  exact if_congr List.isPrefixOf_iff_prefix rfl rfl

theorem code_ne_of_mem_notes (h : t.kind ∉ TypeKind.unsupported) {rules : Rules} {d : Diagnostic}
    (hd : d ∈ t.notes rules) : d.code ≠ "W0001" := by
  have hremap : d ∈ t.declared.flatMap (t.remapNotes rules) → d.code ≠ "W0001" := by
    intro hd
    obtain ⟨m, _, hm⟩ := List.mem_flatMap.mp hd
    unfold remapNotes at hm
    split at hm
    · rw [List.mem_singleton.mp hm]
      exact of_decide_eq_true rfl
    · cases hm
  unfold notes at hd
  split at hd
  · cases hd
  · unfold bodyNotes at hd
    cases hk : t.kind with
    | object | inputObject =>
        rw [hk] at hd
        exact hremap hd
    | interface =>
        rw [hk] at hd
        cases himplementors : t.hasImplementors with
        | true =>
            simp only [himplementors, if_true] at hd
            exact hremap hd
        | false =>
            simp only [himplementors, Bool.false_eq_true, if_false] at hd
            rw [List.mem_singleton.mp hd]
            exact of_decide_eq_true rfl
    | scalar | enumeration =>
        rw [hk] at hd
        cases hd
    | union | list | nonNull | unknown =>
        rw [hk] at h
        exact absurd (by decide) h

theorem filter_skipWarning (t : FullType) :
    t.skipWarning.filter (·.code ≠ "W0001") = [] := by
  unfold skipWarning
  split <;> rfl

theorem not_skipped_of_faults_eq_nil {remap : RemapTable} (h : t.faults ⟨remap, false⟩ = []) :
    ¬ t.Skipped := by
  rintro ⟨hkind, hname⟩
  have hnamed : ¬ t.isIntrospection = true := fun hp => hname (List.isPrefixOf_iff_prefix.mp hp)
  rw [faults, if_neg hnamed, bodyFaults_eq_nil_iff] at h
  unfold WellFormed at h
  cases hk : t.kind with
  | union | list | nonNull | unknown =>
      rw [hk] at h
      cases h
  | _ =>
      rw [hk] at hkind
      exact absurd hkind (by decide)

end FullType

/-- Without the warnings the report is that on the supported types. -/
theorem flatMap_notes_supported (types : List FullType) (rules : Rules) :
    (types.filter fun t => t.kind ∉ TypeKind.unsupported).flatMap (FullType.notes rules) =
      types.flatMap fun t => (t.notes rules).filter (·.code ≠ "W0001") := by
  have hkept : ∀ t ∈ types.filter fun t => t.kind ∉ TypeKind.unsupported,
      t.notes rules = (t.notes rules).filter (·.code ≠ "W0001") := by
    intro t ht
    have hkind : t.kind ∉ TypeKind.unsupported := by simpa using (List.mem_filter.mp ht).2
    rw [eq_comm, List.filter_eq_self]
    exact fun d hd => decide_eq_true (FullType.code_ne_of_mem_notes hkind hd)
  have hremoved : ∀ t ∈ types, decide (t.kind ∉ TypeKind.unsupported) = false →
      (t.notes rules).filter (·.code ≠ "W0001") = [] := by
    intro t _ hkind
    rw [FullType.notes_of_unsupported (by simpa using hkind), FullType.filter_skipWarning]
  rw [List.flatMap_congr hkept]
  exact flatMap_filter_of_nil hremoved

section Runs

variable {schema : Schema} (options : Options)

/-- Where nothing would be skipped, the options that allow it make no difference. -/
theorem generate_skipping_eq (h : ∀ t ∈ schema.types, ¬ t.Skipped) (skip other : Bool) :
    generate schema (options.skipping skip) = generate schema (options.skipping other) := by
  have houtcomes : List.Forall₂ (fun t t' => t.outcome (options.skipping other).toRules =
      t'.outcome ⟨options.remap, skip⟩) schema.types schema.types := by
    rw [List.forall₂_same]
    exact fun t ht => FullType.outcome_eq_of_not_skipped (h t ht) options.remap other skip
  have hnames : List.Forall₂ (fun t t' => FullType.name t = FullType.name t') schema.types
      schema.types := List.forall₂_same.mpr fun _ _ => rfl
  have hnotes : schema.types.flatMap (FullType.notes ⟨options.remap, skip⟩) =
      schema.types.flatMap (FullType.notes (options.skipping other).toRules) :=
    List.flatMap_congr fun t _ => t.notes_congr fun _ _ => rfl
  rw [← map_noting_generate schema (options.skipping other), ← hnotes]
  apply generate_eq_map_noting
  · exact head?_schemaFaults_eq hnames (houtcomes.imp fun _ _ => FullType.head?_faults_eq)
  · exact generatedOf_eq_of_forall₂ (options.skipping other) houtcomes

theorem not_skipped_of_mem_supported {t : FullType} (ht : t ∈ schema.supported.types) :
    ¬ t.Skipped := by
  have hkind : t.kind ∉ TypeKind.unsupported := by simpa using (List.mem_filter.mp ht).2
  exact fun hskipped => hkind hskipped.1

/-- Skipping is generating from the supported types alone, but for the warnings. -/
theorem generate_supported (hvalid : NamesValid schema.types) :
    generate schema.supported (options.skipping false) =
      (generate schema (options.skipping true)).map (Generated.without "W0001") := by
  have hnothing : ∀ t ∈ schema.types, decide (t.kind ∉ TypeKind.unsupported) = false →
      t.outcome (options.skipping true).toRules = .ok none := by
    intro t _ hkind
    exact FullType.outcome_eq_none_of_unsupported (by simpa using hkind) options.remap
  calc generate schema.supported (options.skipping false)
      = generate schema.supported (options.skipping true) :=
        generate_skipping_eq options (fun _ ht => not_skipped_of_mem_supported ht) false true
    _ = (generate schema (options.skipping true)).map (Generated.noting
          (schema.supported.types.flatMap (FullType.notes (options.skipping true).toRules))) :=
        generate_filter_noting (options.skipping true) hvalid rfl hnothing
    _ = (generate schema (options.skipping true)).map (Generated.without "W0001") := by
        rw [map_without_generate, Schema.supported, flatMap_notes_supported]

/-- The place of a warning in the report is that of the type among the types. -/
theorem notes_eq_skipWarning_or_notes (types : List FullType) (rules : Rules) :
    types.flatMap (FullType.notes rules) = types.flatMap fun t =>
      if t.kind ∈ TypeKind.unsupported then t.skipWarning else t.notes rules := by
  apply List.flatMap_congr
  intro t _
  by_cases hkind : t.kind ∈ TypeKind.unsupported
  · rw [if_pos hkind, FullType.notes_of_unsupported hkind]
  · rw [if_neg hkind]

end Runs

/-- To skip the unsupported types is to generate from the supported types alone: it fails for the
same reason, or gives the same code with as many definitions, and one warning more for each type
that is left out and not one of introspection, where the type stands. What is generated without
skipping is generated with it. -/
theorem skipping_eq_supported_and_ok_of_ok (schema : Schema) (options : Options) :
    (NamesValid schema.types →
      generate schema.supported (options.skipping false) =
        (generate schema (options.skipping true)).map (Generated.without "W0001") ∧
      ∀ g h, generate schema (options.skipping true) = .ok g →
        generate schema.supported (options.skipping false) = .ok h →
        h.report.toList = schema.supported.types.flatMap (FullType.notes options.toRules) ∧
        g.report.toList = schema.types.flatMap fun t =>
          if t.kind ∈ TypeKind.unsupported then t.skipWarning else t.notes options.toRules) ∧
    ∀ g, generate schema (options.skipping false) = .ok g →
      generate schema (options.skipping true) = .ok g := by
  have hnotes : ∀ (skip : Bool) (t : FullType),
      t.notes (options.skipping skip).toRules = t.notes options.toRules :=
    fun _ t => t.notes_congr fun _ _ => rfl
  refine ⟨fun hvalid => ⟨generate_supported options hvalid, ?_⟩, ?_⟩
  · intro g h hg hh
    rw [toList_report_of_generate hg, toList_report_of_generate hh,
      ← notes_eq_skipWarning_or_notes]
    exact ⟨List.flatMap_congr fun t _ => hnotes false t,
      List.flatMap_congr fun t _ => hnotes true t⟩
  · intro g hg
    have hnone : ∀ t ∈ schema.types, ¬ t.Skipped :=
      fun t ht => FullType.not_skipped_of_faults_eq_nil (faults_of_generate hg t ht)
    rw [generate_skipping_eq options hnone true false, hg]

namespace Unsupported

def page : FullType :=
  { FullType.plain .object "Page" with
    fields := some [.plain "itemType" (.scalar "Int"), .plain "title" (.scalar "String")] }

/-- A class between unsupported types, of which one has a name of introspection. -/
def schema : Schema :=
  ⟨none, none, none,
    [.plain .union "Result", .plain .union "__Hidden", page, .plain .unknown "Extra"], []⟩

/-- The same without the two that have to be skipped. -/
def calm : Schema := ⟨none, none, none, [.plain .union "__Hidden", page], []⟩

def options : Options := .ofLanguage "Content" .csharp 0

theorem skipping_eq_supported_and_ok_of_ok_in_schema :
    let strict := options.skipping false
    let lenient := options.skipping true
    let skipped := lenient.generatedOf schema.types
    let supported := strict.generatedOf schema.supported.types
    NamesValid schema.types ∧
    generate schema lenient = .ok skipped ∧
    generate schema.supported strict = (generate schema lenient).map (Generated.without "W0001") ∧
    (supported.report.toList = schema.supported.types.flatMap (FullType.notes options.toRules) ∧
      skipped.report.toList = schema.types.flatMap fun t =>
        if t.kind ∈ TypeKind.unsupported then t.skipWarning else t.notes options.toRules) ∧
    (skipped.report.toList.map fun d => (d.code, d.primaryPath?)) =
      [("W0001", some "Result"), ("I0002", some "Page.itemType"), ("W0001", some "Extra")] ∧
    generate calm lenient = .ok (strict.generatedOf calm.types) := by
  intro strict lenient skipped supported
  have hvalid : NamesValid schema.types := (nameFaults_eq_nil_iff schema.types).mp (by decide)
  have hskipped : generate schema lenient = .ok skipped :=
    (generate_eq_ok_iff schema lenient skipped).mpr ⟨by decide, rfl⟩
  have hsupported : generate schema.supported strict = .ok supported :=
    (generate_eq_ok_iff schema.supported strict supported).mpr ⟨by decide, rfl⟩
  have hcalm : generate calm strict = .ok (strict.generatedOf calm.types) :=
    (generate_eq_ok_iff calm strict _).mpr ⟨by decide, rfl⟩
  obtain ⟨hremoved, hreports⟩ := (skipping_eq_supported_and_ok_of_ok schema options).1 hvalid
  exact ⟨hvalid, hskipped, hremoved, hreports skipped supported hskipped hsupported, by decide,
    (skipping_eq_supported_and_ok_of_ok calm options).2 _ hcalm⟩

end Unsupported

end SchemaClasses
