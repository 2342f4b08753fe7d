import SchemaClasses.Proofs.Comparison

/-! What of a schema and of the options has an influence. Two schemas whose types agree in what is
taken from types of their kind have the same model, whatever else there is in them; and the name of
the namespace, the holder and the time stand in the head of a file and nowhere else. -/

namespace SchemaClasses

namespace FullType

/-- Two types of a kind agree in the collections that count for it. A collection that is left out
counts as an empty one, but for the fields of an interface with implementors. -/
def ContentsMatch (t t' : FullType) : Prop :=
  match t.kind with
  | .object =>
    (t.fields.getD []).map Declared.ofField = (t'.fields.getD []).map Declared.ofField ∧
      (t.interfaces.getD []).map TypeRef.name = (t'.interfaces.getD []).map TypeRef.name
  | .inputObject =>
    (t.inputFields.getD []).map Declared.ofInputValue =
        (t'.inputFields.getD []).map Declared.ofInputValue ∧
      (t.interfaces.getD [] = [] ↔ t'.interfaces.getD [] = [])
  | .interface =>
    (t.possibleTypes.getD [] = [] ↔ t'.possibleTypes.getD [] = []) ∧
      (t.possibleTypes.getD [] ≠ [] → t.fields.isNone = t'.fields.isNone ∧
        (t.fields.getD []).map Declared.ofField = (t'.fields.getD []).map Declared.ofField)
  | .enumeration =>
    (t.enumValues.getD []).map (fun v => (v.name, v.description)) =
      (t'.enumValues.getD []).map fun v => (v.name, v.description)
  | _ => True

/-- Two types agree in all that counts. Of a scalar and of a type of introspection nothing counts
but the kind and the name. -/
structure Matches (t t' : FullType) : Prop where
  kind : t.kind = t'.kind
  name : t.name = t'.name
  description : ¬ "__".toList <+: t.name.toList → t.kind ≠ .scalar →
    t.description = t'.description
  contents : ¬ "__".toList <+: t.name.toList → t.kind ≠ .scalar → t.ContentsMatch t'

variable {t t' : FullType}

theorem hasImplementors_eq_of_iff
    (h : t.possibleTypes.getD [] = [] ↔ t'.possibleTypes.getD [] = []) :
    t.hasImplementors = t'.hasImplementors := by
  rw [← hasImplementors_eq_false_iff, ← hasImplementors_eq_false_iff] at h
  cases ht : t.hasImplementors with
  | false => exact (h.mp ht).symm
  | true =>
      cases ht' : t'.hasImplementors with
      | false => rw [h.mpr ht'] at ht; cases ht
      | true => rfl

/-- A collection that is required may be replaced by one with the same in it, as far as it is used.
One that is left out is as good as an empty one. -/
theorem required_bind_congr {α β γ δ : Type} {view : α → γ} {view' : β → γ} {items : Option (List α)}
    {items' : Option (List β)} (h : (items.getD []).map view = (items'.getD []).map view')
    (missing : GenerationError) (next : List γ → Except GenerationError δ) :
    (do let found ← required items missing; next (found.map view)) =
      (do let found ← required items' missing; next (found.map view')) := by
  rcases items with _ | _ | ⟨first, rest⟩ <;> rcases items' with _ | _ | ⟨first', rest'⟩
  case some.cons.some.cons => exact congrArg next h
  all_goals first | rfl | cases h

/-- Of the references that a type lists, only the names are told. -/
theorem interfaceNames_eq_of_map_eq (hname : t.name = t'.name) (index : Nat) {refs refs' : List TypeRef}
    (h : refs.map TypeRef.name = refs'.map TypeRef.name) :
    t.interfaceNames index refs = t'.interfaceNames index refs' := by
  induction refs generalizing index refs' with
  | nil =>
      rw [List.map_nil, eq_comm, List.map_eq_nil_iff] at h
      rw [h]
      rfl
  | cons ref refs ih =>
      cases refs' with
      | nil => cases h
      | cons ref' refs' =>
          obtain ⟨hhead, htail⟩ := List.cons.inj h
          rw [interfaceNames, interfaceNames, ih (index + 1) htail, hhead, hname]

theorem constants_eq_map (values : List EnumValue) :
    constants values =
      (values.map fun v => (v.name, v.description)).map fun p => ⟨p.1, commentOf p.2⟩ := by
  rw [List.map_map]
  rfl

section Contents

variable (h : t.ContentsMatch t')
include h

theorem fields_of_contentsMatch (hk : t.kind = .interface) :
    t.hasImplementors = t'.hasImplementors ∧ (t.hasImplementors = true →
      t.fields.isNone = t'.fields.isNone ∧
      (t.fields.getD []).map Declared.ofField = (t'.fields.getD []).map Declared.ofField) := by
  rw [ContentsMatch, hk] at h
  obtain ⟨hpossible, hfields⟩ := h
  refine ⟨hasImplementors_eq_of_iff hpossible, fun himplementors => hfields ?_⟩
  rw [Ne, ← hasImplementors_eq_false_iff, himplementors]
  exact Bool.noConfusion

variable (hkind : t.kind = t'.kind)
include hkind

theorem declared_eq_of_contentsMatch : t.declared = t'.declared := by
  unfold declared
  rw [← hkind]
  cases hk : t.kind with
  | object | inputObject =>
      rw [ContentsMatch, hk] at h
      exact h.1
  | interface =>
      obtain ⟨himplementors, hfields⟩ := fields_of_contentsMatch h hk
      rw [← himplementors]
      cases ht : t.hasImplementors with
      | false => rfl
      | true => exact (hfields ht).2
  | _ => rfl

theorem alwaysBoxes_eq_of_contentsMatch (hk : t.kind ∈ [.object, .inputObject, .interface]) :
    t.alwaysBoxes = t'.alwaysBoxes := by
  unfold alwaysBoxes implemented
  rw [← hkind]
  cases hkt : t.kind with
  | object =>
      rw [ContentsMatch, hkt] at h
      rw [← List.isEmpty_map, h.2, List.isEmpty_map]
  | inputObject =>
      rw [ContentsMatch, hkt] at h
      rw [Bool.eq_iff_iff.mpr (List.isEmpty_iff.trans (h.2.trans List.isEmpty_iff.symm))]
  | interface => rfl
  | _ =>
      rw [hkt] at hk
      exact absurd hk (by decide)

variable (hname : t.name = t'.name) (rules : Rules)
include hname

theorem membersOf_eq_of_contentsMatch (hk : t.kind ∈ [.object, .inputObject, .interface]) :
    t.membersOf rules = t'.membersOf rules := by
  rw [membersOf, membersOf, declared_eq_of_contentsMatch h hkind]
  apply mapM_congr
  intro d _
  unfold memberOf
  rw [alwaysBoxes_eq_of_contentsMatch h hkind hk, hname]

theorem bodyOf_eq_of_contentsMatch : t.bodyOf rules = t'.bodyOf rules := by
  have hmembers := membersOf_eq_of_contentsMatch h hkind hname rules
  unfold bodyOf
  rw [← hkind]
  cases hk : t.kind with
  | object =>
      rw [hk] at hmembers
      rw [ContentsMatch, hk] at h
      simp only [hmembers (by decide), hname]
      rw [implemented, interfaceNames_eq_of_map_eq hname 0 h.2]
      exact required_bind_congr h.1 _ fun _ => _
  | inputObject =>
      rw [hk] at hmembers
      rw [ContentsMatch, hk] at h
      simp only [hmembers (by decide), hname]
      exact required_bind_congr h.1 _ fun _ => _
  | interface =>
      rw [hk] at hmembers
      obtain ⟨himplementors, hfields⟩ := fields_of_contentsMatch h hk
      simp only [hmembers (by decide), hname, ← himplementors]
      cases ht : t.hasImplementors with
      | false => rfl
      | true => rw [(hfields ht).1]
  | enumeration =>
      rw [ContentsMatch, hk] at h
      simp only [hname, constants_eq_map]
      exact required_bind_congr h _ fun pairs =>
        .ok (some (Body.enumeration (pairs.map fun p => ⟨p.1, commentOf p.2⟩)))
  | scalar => rfl
  | union | list | nonNull | unknown => simp only [hname]

theorem bodyNotes_eq_of_contentsMatch : t.bodyNotes rules = t'.bodyNotes rules := by
  have hremap : t.remapNotes rules = t'.remapNotes rules := by
    funext d
    unfold remapNotes Diagnostic.remapped
    rw [hname]
  have hdeclared := declared_eq_of_contentsMatch h hkind
  unfold bodyNotes
  rw [← hkind, hremap, hdeclared]
  cases hk : t.kind with
  | interface =>
      simp only [← (fields_of_contentsMatch h hk).1]
      unfold Diagnostic.noImplementors
      rw [hname]
  | union | list | nonNull | unknown =>
      simp only [Diagnostic.skippedKind, hname, ← hkind]
  | _ => rfl

end Contents

section Matches

variable (h : t.Matches t') (rules : Rules)
include h

theorem isIntrospection_eq_of_matches : t.isIntrospection = t'.isIntrospection := by
  rw [isIntrospection, isIntrospection, h.name]

theorem contentsMatch_of_matches (hnamed : t.isIntrospection = false) (hk : t.kind ≠ .scalar) :
    t.description = t'.description ∧ t.ContentsMatch t' := by
  have hprefix : ¬ "__".toList <+: t.name.toList := by
    rw [← List.isPrefixOf_iff_prefix, Bool.not_eq_true]
    exact hnamed
  exact ⟨h.description hprefix hk, h.contents hprefix hk⟩

/-- Types that match become the same. -/
theorem outcome_eq_of_matches : t.outcome rules = t'.outcome rules := by
  unfold outcome
  rw [← isIntrospection_eq_of_matches h]
  cases hnamed : t.isIntrospection with
  | true => rfl
  | false =>
      by_cases hk : t.kind = .scalar
      · have hbody : t.bodyOf rules = .ok none := by rw [bodyOf, hk]
        have hbody' : t'.bodyOf rules = .ok none := by rw [bodyOf, ← h.kind, hk]
        rw [hbody, hbody']
        rfl
      · obtain ⟨hdescription, hcontents⟩ := contentsMatch_of_matches h hnamed hk
        have hwith : t.withBody = t'.withBody := by
          funext body
          rw [withBody, withBody, h.name, hdescription]
        rw [bodyOf_eq_of_contentsMatch hcontents h.kind h.name, hwith]

/-- The same is reported about types that match. -/
theorem notes_eq_of_matches : t.notes rules = t'.notes rules := by
  unfold notes
  rw [← isIntrospection_eq_of_matches h]
  cases hnamed : t.isIntrospection with
  | true => rfl
  | false =>
      by_cases hk : t.kind = .scalar
      · rw [bodyNotes, bodyNotes, ← h.kind, hk]
      · obtain ⟨-, hcontents⟩ := contentsMatch_of_matches h hnamed hk
        rw [bodyNotes_eq_of_contentsMatch hcontents h.kind h.name]

end Matches

end FullType

section Runs

variable {options options' : Options} (hrules : options.toRules = options'.toRules)
include hrules

theorem schemaFaults_eq_of_matches {types types' : List FullType}
    (h : List.Forall₂ FullType.Matches types types') :
    (schemaFaults options.toRules types).head? = (schemaFaults options'.toRules types').head? := by
  rw [← hrules]
  apply head?_schemaFaults_eq
  · exact h.imp fun _ _ hmatch => hmatch.name
  · exact h.imp fun _ _ hmatch =>
      FullType.head?_faults_eq (FullType.outcome_eq_of_matches hmatch options.toRules)

theorem notes_flatMap_eq_of_matches {types types' : List FullType}
    (h : List.Forall₂ FullType.Matches types types') :
    types.flatMap (FullType.notes options.toRules) =
      types'.flatMap (FullType.notes options'.toRules) := by
  rw [← hrules, List.flatMap_def, List.flatMap_def]
  exact congrArg List.flatten (map_eq_map_of_forall₂ (FullType.notes options.toRules)
    (fun _ _ hmatch => FullType.notes_eq_of_matches hmatch options.toRules) h)

theorem blocks_eq_of_matches (hlanguage : options.language = options'.language)
    (hindent : options.indent = options'.indent) {types types' : List FullType}
    (h : List.Forall₂ FullType.Matches types types') :
    options.blocks types = options'.blocks types' := by
  have hdefinition : ∀ t t' : FullType, t.Matches t' →
      t.definition? options.toRules = t'.definition? options.toRules := by
    intro t t' hmatch
    rw [FullType.definition?, FullType.definition?, FullType.outcome_eq_of_matches hmatch]
  have hdefinitions : options.definitions types = options'.definitions types' := by
    have hmap := map_eq_map_of_forall₂ (FullType.definition? options.toRules) hdefinition h
    have hid := congrArg (List.filterMap id) hmap
    rw [List.filterMap_map, List.filterMap_map] at hid
    rw [Options.definitions, Options.definitions, ← hrules]
    exact hid
  have htext : options.definitionText = options'.definitionText := by
    funext d
    rw [Options.definitionText, Options.definitionText, Options.dialect, Options.dialect, hlanguage,
      hindent]
  rw [Options.blocks_eq_map, Options.blocks_eq_map, hdefinitions, htext]

end Runs

/-- Generation depends on nothing but the kinds and names of the types and, where a type is neither
a scalar nor one of introspection, its description and the collections that count for its kind; and,
of the options, on the language, the indentation, the rules and whether types are skipped. All else
of the options is told in the head of the file only. -/
theorem generate_of_matches (schema schema' : Schema) (options options' : Options)
    (htypes : List.Forall₂ FullType.Matches schema.types schema'.types)
    (hlanguage : options.language = options'.language) (hindent : options.indent = options'.indent)
    (hremap : options.remap = options'.remap)
    (hskip : options.skipUnsupported = options'.skipUnsupported) :
    (∀ e, generate schema options = .error e ↔ generate schema' options' = .error e) ∧
    ∀ g, generate schema options = .ok g → ∃ g' rest, generate schema' options' = .ok g' ∧
      g'.emitted = g.emitted ∧ g'.report = g.report ∧
      g.code = renderLines options.indent
        ((options.language.dialect.header options).map (Line.mk 0)) ++ rest ∧
      g'.code = renderLines options'.indent
        ((options'.language.dialect.header options').map (Line.mk 0)) ++ rest := by
  have hrules : options.toRules = options'.toRules := by
    rcases options with ⟨⟨_, _⟩, _⟩
    rcases options' with ⟨⟨_, _⟩, _⟩
    cases hremap
    cases hskip
    rfl
  have hfaults := schemaFaults_eq_of_matches hrules htypes
  constructor
  · intro e
    rw [(stops_generate schema options).error_iff, (stops_generate schema' options').error_iff,
      hfaults]
  · intro g hg
    obtain ⟨hnone, rfl⟩ := (generate_eq_ok_iff schema options g).mp hg
    have hnone' : schemaFaults options'.toRules schema'.types = [] := by
      rw [← List.head?_eq_none_iff, ← hfaults, hnone]
      rfl
    have hblocks := blocks_eq_of_matches hrules hlanguage hindent htypes
    refine ⟨options'.generatedOf schema'.types,
      String.join (options.blocks schema.types) ++ Options.fileFoot,
      (generate_eq_ok_iff _ _ _).mpr ⟨hnone', rfl⟩, ?_, ?_, ?_, ?_⟩
    · exact congrArg List.length hblocks.symm
    · exact congrArg Report.empty.addAll (notes_flatMap_eq_of_matches hrules htypes).symm
    · exact String.append_assoc
    · rw [hblocks]
      exact String.append_assoc

namespace Crowded

def page : FullType :=
  { FullType.plain .object "Page" with fields := some [.plain "title" (.scalar "String")] }

/-- The same class with arguments, deprecations and all the collections that count for no class. -/
def crowdedPage : FullType :=
  { page with
    fields := some [{ Field.plain "title" (.scalar "String") with
      args := [.plain "first" ⟨.list, none, none⟩]
      isDeprecated := true
      deprecationReason := some "renamed" }]
    inputFields := some [.plain "id" ⟨.list, none, none⟩]
    interfaces := some []
    enumValues := some [.plain "NONE"]
    possibleTypes := some [.object "Page"] }

def schema : Schema :=
  ⟨none, none, none, [page, .plain .scalar "Date", .plain .object "__Type"], []⟩

def crowded : Schema :=
  ⟨some ⟨"Page"⟩, some ⟨"Change"⟩, none,
    [crowdedPage, { FullType.plain .scalar "Date" with fields := some [] },
      { FullType.plain .object "__Type" with description := some "A type" }],
    [⟨"skip", none, ["FIELD"], []⟩]⟩

def options : Options := .ofLanguage "com.content" .java 0

def options' : Options :=
  { Options.ofLanguage "com.delivery" .java 1700000000 with holder := "Delivery" }

theorem generate_of_matches_in_crowded :
    List.Forall₂ FullType.Matches schema.types crowded.types ∧
    generate schema options = .ok (options.generatedOf schema.types) ∧
    options.fileHead ≠ options'.fileHead ∧
    ∃ g' rest, generate crowded options' = .ok g' ∧ g'.emitted = 1 ∧ g'.report = .empty ∧
      (options.generatedOf schema.types).code = options.fileHead ++ rest ∧
      g'.code = options'.fileHead ++ rest := by
  have hpage : page.Matches crowdedPage := ⟨rfl, rfl, fun _ _ => rfl, fun _ _ => ⟨rfl, rfl⟩⟩
  have hdate : FullType.Matches (.plain .scalar "Date")
      { FullType.plain .scalar "Date" with fields := some [] } :=
    ⟨rfl, rfl, fun _ h => absurd rfl h, fun _ h => absurd rfl h⟩
  have htype : FullType.Matches (.plain .object "__Type")
      { FullType.plain .object "__Type" with description := some "A type" } :=
    ⟨rfl, rfl, fun h => absurd (by decide) h, fun h => absurd (by decide) h⟩
  have hmatch : List.Forall₂ FullType.Matches schema.types crowded.types :=
    .cons hpage (.cons hdate (.cons htype .nil))
  have hgenerated : generate schema options = .ok (options.generatedOf schema.types) :=
    (generate_eq_ok_iff schema options _).mpr ⟨by decide, rfl⟩
  obtain ⟨g', rest, hother, hemitted, hreport, hcode, hcode'⟩ :=
    (generate_of_matches schema crowded options options' hmatch rfl rfl rfl rfl).2 _ hgenerated
  exact ⟨hmatch, hgenerated, by decide, g', rest, hother, hemitted, hreport, hcode, hcode'⟩

end Crowded

end SchemaClasses
