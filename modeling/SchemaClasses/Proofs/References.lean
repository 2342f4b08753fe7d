import SchemaClasses.Proofs.DefinitionNames
import SchemaClasses.Proofs.Descriptions
import SchemaClasses.Proofs.Skipping

/-! What definitions refer to: the types of their members, and the interfaces that they implement. A
type is skipped by itself, and the references to it stay in the definitions of the others. -/

namespace SchemaClasses

def Body.members : Body → List Member
  | .dataClass _ members => members
  | .interface members => members
  | .enumeration _ => []

/-- The interfaces that a definition implements, and the named types of its members. -/
def Definition.references (d : Definition) : List String :=
  d.body.interfaces ++ d.body.members.map (·.type.name)

/-- The same, read off the type that the definition is made from. -/
def FullType.references (rules : Rules) (t : FullType) : List String :=
  (if t.kind = .object then t.implemented.filterMap TypeRef.name else []) ++
    t.declared.filterMap fun s => (rules.remap.apply s.name s.type).base

namespace FullType

variable {rules : Rules} {t : FullType}

theorem bases_of_membersOf {members : List Member} (h : t.membersOf rules = .ok members) :
    (t.declared.filterMap fun s => (rules.remap.apply s.name s.type).base) =
      members.map (·.type.name) := by
  apply filterMap_eq_map_of_forall₂
  refine (forall₂_of_mapM h).imp ?_
  intro s m hmember
  obtain ⟨shape, hshape, rfl⟩ := memberOf_eq_ok hmember
  exact base_of_peel hshape

theorem references_of_becomes {body : Body} (h : t.Becomes rules body) :
    (t.withBody body).references = t.references rules := by
  unfold references
  cases h with
  | object hkind hinterfaces hmembers =>
      rw [if_pos hkind, hinterfaces, bases_of_membersOf hmembers]
      rfl
  | inputObject hkind hmembers | interface hkind hmembers =>
      rw [hkind, if_neg (by decide), bases_of_membersOf hmembers]
      rfl
  | enumeration hkind _ =>
      rw [hkind, declared, hkind, if_neg (by decide)]
      rfl

/-- A definition refers to what its type refers to, whatever becomes of the other types. -/
theorem references_of_definition? {d : Definition} (h : t.definition? rules = some d) :
    d.name = t.name ∧ d.references = t.references rules := by
  obtain ⟨_, body, hbody, rfl⟩ := becomes_of_definition? h
  exact ⟨rfl, references_of_becomes hbody⟩

theorem warned_paths_notes (rules : Rules) (t : FullType) :
    ((t.notes rules).filter (·.code = "W0001")).map Diagnostic.primaryPath? =
      if t.Skipped then [some t.name] else [] := by
  by_cases hkind : t.kind ∈ TypeKind.unsupported
  · have hskipped : t.Skipped ↔ ¬ "__".toList <+: t.name.toList := and_iff_right hkind
    rw [notes_of_unsupported hkind, skipWarning, if_congr hskipped rfl rfl]
    by_cases hname : "__".toList <+: t.name.toList
    · rw [if_pos hname, if_neg (not_not_intro hname)]
      rfl
    · rw [if_neg hname, if_pos hname]
      rfl
  · rw [if_neg fun hskipped => hkind hskipped.1, List.map_eq_nil_iff, List.filter_eq_nil_iff]
    intro d hd
    rw [decide_eq_true_iff]
    exact code_ne_of_mem_notes hkind hd

end FullType

/-- The warnings of a run name the types that are skipped, in their order. -/
theorem warned_paths_eq {schema : Schema} {options : Options} {generated : Generated}
    (h : generate schema options = .ok generated) :
    (generated.report.toList.filter (·.code = "W0001")).map Diagnostic.primaryPath? =
      (schema.types.filter fun t => t.Skipped).map fun t => some t.name := by
  have hkept : ∀ t ∈ schema.types, decide t.Skipped = false →
      (if t.Skipped then [some t.name] else []) = [] := by
    intro t _ hskipped
    rw [if_neg (of_decide_eq_false hskipped)]
  have hskipped : ∀ t ∈ schema.types.filter fun t => t.Skipped,
      (if t.Skipped then [some t.name] else []) = [some t.name] := by
    intro t ht
    rw [if_pos (of_decide_eq_true (List.mem_filter.mp ht).2)]
  rw [toList_report_of_generate h, List.filter_flatMap, List.map_flatMap]
  simp only [FullType.warned_paths_notes]
  rw [← flatMap_filter_of_nil hkept, List.flatMap_congr hskipped]
  exact List.flatMap_pure_eq_map _ _

/-- A definition refers to what its type refers to, whether or not that is skipped. So no definition
refers to a type that is warned of just where no type with a definition does. -/
theorem references_eq_and_dangling_iff {schema : Schema} {options : Options}
    {generated : Generated} (h : generate schema options = .ok generated) :
    ∃ definitions,
      (defineAll options.toRules schema.types).run .empty = .ok (definitions, generated.report) ∧
      generated.code =
        renderLines options.indent (options.dialect.fileLines options definitions) ∧
      generated.emitted = definitions.length ∧
      (generated.report.toList.filter (·.code = "W0001")).map Diagnostic.primaryPath? =
        ((schema.types.filter fun t => t.Skipped).map fun t => some t.name) ∧
      (definitions.map fun d => (d.name, d.references)) =
        ((schema.types.filter fun t => ¬ t.Idle ∧ ¬ t.Skipped).map fun t =>
          (t.name, t.references options.toRules)) ∧
      ((∀ t ∈ schema.types, t.Skipped → ∀ d ∈ definitions, t.name ∉ d.references) ↔
        ∀ t ∈ schema.types, t.Skipped → ∀ u ∈ schema.types, ¬ u.Idle → ¬ u.Skipped →
          t.name ∉ u.references options.toRules) := by
  obtain ⟨hrun, hcode, hemitted⟩ := definitions_of_generate h
  have hreferences : (options.definitions schema.types).map (fun d => (d.name, d.references)) =
      (schema.types.filter fun t => ¬ t.Idle ∧ ¬ t.Skipped).map fun t =>
        (t.name, t.references options.toRules) := by
    rw [eq_comm, ← List.forall₂_eq_eq_eq, List.forall₂_map_left_iff, List.forall₂_map_right_iff]
    refine (forall₂_definitions_of_generate h).imp ?_
    intro t d hd
    obtain ⟨hname, hreferences⟩ := FullType.references_of_definition? hd
    rw [hname, hreferences]
  have hnowhere (name : String) :
      (∀ d ∈ options.definitions schema.types, name ∉ d.references) ↔
        ∀ u ∈ schema.types, ¬ u.Idle → ¬ u.Skipped → name ∉ u.references options.toRules := by
    have hpairs := List.forall_mem_map (f := fun d : Definition => (d.name, d.references))
      (l := options.definitions schema.types) (P := fun pair => name ∉ pair.2)
    rw [← hpairs, hreferences, List.forall_mem_map]
    simp only [List.mem_filter, decide_eq_true_eq, and_imp]
  refine ⟨_, hrun, hcode, hemitted, warned_paths_eq h, hreferences, ?_⟩
  exact forall₂_congr fun t _ => imp_congr_right fun _ => hnowhere t.name

namespace Dangling

/-- A class that implements a type of an unknown kind, with a list of values of a union. -/
def page : FullType :=
  { FullType.plain .object "Page" with
    fields := some [.plain "title" (.scalar "String"),
      .plain "results" (.listOf (.nonNullOf (.named .union "SearchResult")))]
    interfaces := some [.named .interface "Extra"] }

def schema : Schema :=
  ⟨none, none, none,
    [.plain .scalar "String", page, .plain .union "SearchResult", .plain .unknown "Extra"], []⟩

def options : Options :=
  { Options.ofLanguage "Content" .csharp 0 with skipUnsupported := true }

theorem references_eq_and_dangling_iff_in_schema :
    let generated := options.generatedOf schema.types
    generate schema options = .ok generated ∧
    (∃ definitions,
      (defineAll options.toRules schema.types).run .empty = .ok (definitions, generated.report) ∧
      generated.code =
        renderLines options.indent (options.dialect.fileLines options definitions) ∧
      generated.emitted = definitions.length ∧
      (generated.report.toList.filter (·.code = "W0001")).map Diagnostic.primaryPath? =
        ((schema.types.filter fun t => t.Skipped).map fun t => some t.name) ∧
      (definitions.map fun d => (d.name, d.references)) =
        ((schema.types.filter fun t => ¬ t.Idle ∧ ¬ t.Skipped).map fun t =>
          (t.name, t.references options.toRules)) ∧
      ((∀ t ∈ schema.types, t.Skipped → ∀ d ∈ definitions, t.name ∉ d.references) ↔
        ∀ t ∈ schema.types, t.Skipped → ∀ u ∈ schema.types, ¬ u.Idle → ¬ u.Skipped →
          t.name ∉ u.references options.toRules)) ∧
    (generated.report.toList.map fun d => (d.code, d.primaryPath?)) =
      [("W0001", some "SearchResult"), ("W0001", some "Extra")] ∧
    page.references options.toRules = ["Extra", "String", "SearchResult"] := by
  intro generated
  have hgenerated : generate schema options = .ok generated :=
    (generate_eq_ok_iff schema options generated).mpr ⟨by decide, rfl⟩
  exact ⟨hgenerated, references_eq_and_dangling_iff hgenerated, by decide, rfl⟩

/-- Both types that are warned of are still referred to in the code. -/
theorem page_refers_to_skipped :
    options.skipUnsupported = true ∧
    ∃ generated, generate schema options = .ok generated ∧
      (generated.report.toList.map fun d => (d.code, d.primaryPath?)) =
        [("W0001", some "SearchResult"), ("W0001", some "Extra")] ∧
      (∃ definitions,
        (defineAll options.toRules schema.types).run .empty =
          .ok (definitions, generated.report) ∧
        ∃ d ∈ definitions, "SearchResult" ∈ d.references ∧ "Extra" ∈ d.body.interfaces) ∧
      options.Prints generated.code .dataClass "Page" ["Extra"]
        [[⟨2, "public string Title \x7b get; set; \x7d"⟩],
          [⟨2, "public List<SearchResult> Results \x7b get; set; \x7d"⟩]] := by
  let body : Body := .dataClass ["Extra"]
    [⟨"title", none, ⟨0, .scalar, "String", false⟩, true⟩,
      ⟨"results", none, ⟨1, .union, "SearchResult", true⟩, true⟩]
  have hgenerated : generate schema options = .ok (options.generatedOf schema.types) :=
    (generate_eq_ok_iff schema options _).mpr ⟨by decide, rfl⟩
  have hpage : page.definition? options.toRules = some (page.withBody body) := rfl
  have hblocks : options.dialect.bodyBlocks body =
      [[⟨2, "public string Title \x7b get; set; \x7d"⟩],
        [⟨2, "public List<SearchResult> Results \x7b get; set; \x7d"⟩]] := by
    decide +kernel
  have hmem : page ∈ schema.types := List.mem_cons_of_mem _ List.mem_cons_self
  have hprints := prints_of_mem hmem hpage
  refine ⟨rfl, _, hgenerated, by decide, ?_, hblocks ▸ hprints⟩
  exact ⟨_, (definitions_of_generate hgenerated).1, page.withBody body,
    List.mem_filterMap.mpr ⟨page, hmem, hpage⟩, by decide, by decide⟩

end Dangling

end SchemaClasses
