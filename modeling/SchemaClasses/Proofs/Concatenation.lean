import SchemaClasses.Proofs.Comparison

/-! Generation from types one behind the other. No type has an influence on what another becomes, so
a file can be cut between any two types, and its parts be generated by themselves and rearranged. -/

namespace SchemaClasses

theorem NamesValid.perm {types permuted : List FullType} (h : NamesValid types)
    (hperm : types.Perm permuted) : NamesValid permuted := by
  refine ⟨fun t ht => h.1 t (hperm.mem_iff.mpr ht), ?_⟩
  exact (hperm.map FullType.name).nodup_iff.mp h.2

theorem NamesValid.sublist {types fewer : List FullType} (h : NamesValid types)
    (hfewer : fewer.Sublist types) : NamesValid fewer := by
  refine ⟨fun t ht => h.1 t (hfewer.subset ht), ?_⟩
  exact (hfewer.map FullType.name).nodup h.2

theorem schemaFaults_of_namesValid {types : List FullType} (h : NamesValid types) (rules : Rules) :
    schemaFaults rules types = types.flatMap (FullType.faults rules) := by
  rw [schemaFaults, (nameFaults_eq_nil_iff types).mpr h, List.nil_append]

theorem Options.blocks_append (options : Options) (first second : List FullType) :
    options.blocks (first ++ second) = options.blocks first ++ options.blocks second :=
  List.filterMap_append

/-- A type of a kind or a name that never becomes a definition. -/
def FullType.Idle (t : FullType) : Prop :=
  t.kind = .scalar ∨ "__".toList <+: t.name.toList

instance (t : FullType) : Decidable t.Idle :=
  inferInstanceAs (Decidable (_ ∨ _))

namespace FullType

variable {t : FullType}

theorem Idle.kind_or_name (h : t.Idle) : t.isIntrospection = true ∨ t.kind = .scalar := by
  rcases h with hscalar | hname
  · exact Or.inr hscalar
  · exact Or.inl (List.isPrefixOf_iff_prefix.mpr hname)

theorem Idle.outcome_eq (h : t.Idle) (rules : Rules) : t.outcome rules = .ok none := by
  unfold outcome
  rcases h.kind_or_name with hintrospection | hscalar
  · rw [hintrospection]
    rfl
  · rw [bodyOf, hscalar]
    cases t.isIntrospection <;> rfl

theorem Idle.notes_eq (h : t.Idle) (rules : Rules) : t.notes rules = [] := by
  unfold notes
  rcases h.kind_or_name with hintrospection | hscalar
  · rw [hintrospection]
    rfl
  · rw [bodyNotes, hscalar]
    cases t.isIntrospection <;> rfl

end FullType

section Filter

variable {α β : Type} {keep : α → Bool} {as : List α}

theorem flatMap_filter_of_nil {f : α → List β} (h : ∀ a ∈ as, keep a = false → f a = []) :
    (as.filter keep).flatMap f = as.flatMap f := by
  induction as with
  | nil => rfl
  | cons a as ih =>
      have htail := ih fun a' ha' => h a' (List.mem_cons_of_mem a ha')
      cases hkeep : keep a with
      | true => rw [List.filter_cons_of_pos hkeep, List.flatMap_cons, List.flatMap_cons, htail]
      | false =>
          rw [List.filter_cons_of_neg (by rw [hkeep]; exact Bool.false_ne_true), htail,
            List.flatMap_cons, h a List.mem_cons_self hkeep, List.nil_append]

theorem filterMap_filter_of_none {f : α → Option β} (h : ∀ a ∈ as, keep a = false → f a = none) :
    (as.filter keep).filterMap f = as.filterMap f := by
  rw [List.filterMap_eq_flatMap_toList, List.filterMap_eq_flatMap_toList]
  apply flatMap_filter_of_nil
  intro a ha hkeep
  rw [h a ha hkeep]
  rfl

end Filter

section Append

variable {options : Options} {first second both : Schema}

theorem generate_append_of_error (htypes : both.types = first.types ++ second.types)
    (hvalid : NamesValid both.types) {e : GenerationError}
    (h : generate first options = .error e) : generate both options = .error e := by
  rw [htypes] at hvalid
  rw [(stops_generate _ options).error_iff] at h ⊢
  rw [schemaFaults_of_namesValid (hvalid.sublist (List.sublist_append_left _ _))] at h
  rw [htypes, schemaFaults_of_namesValid hvalid, List.flatMap_append, List.head?_append, h]
  rfl

theorem generate_append_of_ok_of_error (htypes : both.types = first.types ++ second.types)
    (hvalid : NamesValid both.types) {g : Generated} {e : GenerationError}
    (hfirst : generate first options = .ok g) (h : generate second options = .error e) :
    generate both options = .error e := by
  rw [htypes] at hvalid
  have hnone := ((generate_eq_ok_iff first options g).mp hfirst).1
  rw [schemaFaults_of_namesValid (hvalid.sublist (List.sublist_append_left _ _))] at hnone
  rw [(stops_generate _ options).error_iff] at h ⊢
  rw [schemaFaults_of_namesValid (hvalid.sublist (List.sublist_append_right _ _))] at h
  rw [htypes, schemaFaults_of_namesValid hvalid, List.flatMap_append, hnone, List.nil_append, h]

theorem generate_append_of_ok (htypes : both.types = first.types ++ second.types)
    (hvalid : NamesValid both.types) {g h : Generated}
    (hfirst : generate first options = .ok g) (hsecond : generate second options = .ok h) :
    generate both options = .ok (options.generatedOf (first.types ++ second.types)) := by
  have hnone := ((generate_eq_ok_iff first options g).mp hfirst).1
  have hnone' := ((generate_eq_ok_iff second options h).mp hsecond).1
  rw [generate_eq_ok_iff, htypes]
  rw [htypes] at hvalid
  rw [schemaFaults_of_namesValid (hvalid.sublist (List.sublist_append_left _ _))] at hnone
  rw [schemaFaults_of_namesValid (hvalid.sublist (List.sublist_append_right _ _))] at hnone'
  rw [schemaFaults_of_namesValid hvalid, List.flatMap_append, hnone, hnone']
  exact ⟨rfl, rfl⟩

end Append

theorem generate_perm {schema permuted : Schema} {options : Options} {g : Generated}
    (hperm : schema.types.Perm permuted.types) (h : generate schema options = .ok g) :
    generate permuted options = .ok (options.generatedOf permuted.types) := by
  have hnone := ((generate_eq_ok_iff schema options g).mp h).1
  rw [schemaFaults, List.append_eq_nil_iff, nameFaults_eq_nil_iff, List.flatMap_eq_nil_iff] at hnone
  rw [generate_eq_ok_iff, schemaFaults_of_namesValid (hnone.1.perm hperm), List.flatMap_eq_nil_iff]
  exact ⟨fun t ht => hnone.2 t (hperm.mem_iff.mpr ht), rfl⟩

/-- Types that come to nothing may be left out, which loses what is reported of them. -/
theorem generate_filter_noting {schema larger : Schema} {keep : FullType → Bool} (options : Options)
    (hvalid : NamesValid larger.types) (htypes : schema.types = larger.types.filter keep)
    (hnothing : ∀ t ∈ larger.types, keep t = false → t.outcome options.toRules = .ok none) :
    generate schema options = (generate larger options).map
      (Generated.noting (schema.types.flatMap (FullType.notes options.toRules))) := by
  have hfaults : schemaFaults options.toRules larger.types =
      schemaFaults options.toRules schema.types := by
    rw [htypes, schemaFaults_of_namesValid (hvalid.sublist List.filter_sublist),
      schemaFaults_of_namesValid hvalid, eq_comm]
    apply flatMap_filter_of_nil
    intro t ht hkeep
    exact (t.stops_outcome options.toRules).ok_iff.mp ⟨none, hnothing t ht hkeep⟩
  have hblocks : options.blocks schema.types = options.blocks larger.types := by
    rw [Options.blocks, htypes]
    apply filterMap_filter_of_none
    intro t ht hkeep
    rw [Options.block?, FullType.definition?, hnothing t ht hkeep]
    rfl
  apply generate_eq_map_noting
  · rw [hfaults]
  · rw [Options.generatedOf, Options.generatedOf, hblocks]
    rfl

theorem generate_filter {schema larger : Schema} {keep : FullType → Bool} (options : Options)
    (hvalid : NamesValid larger.types) (htypes : schema.types = larger.types.filter keep)
    (hidle : ∀ t ∈ larger.types, keep t = false → t.Idle) :
    generate larger options = generate schema options := by
  have hnothing := fun t ht hkeep => (hidle t ht hkeep).outcome_eq options.toRules
  have hnotes : schema.types.flatMap (FullType.notes options.toRules) =
      larger.types.flatMap (FullType.notes options.toRules) := by
    rw [htypes]
    exact flatMap_filter_of_nil fun t ht hkeep => (hidle t ht hkeep).notes_eq options.toRules
  rw [generate_filter_noting options hvalid htypes hnothing, hnotes, map_noting_generate]

/-- Generation from types one behind the other fails as that from the first part does, or else as
that from the second part does, or ends well with both parts one behind the other. So it ends well
for the types in any order, each with the same text; and types that never become a definition may
be put in anywhere. -/
theorem generate_append_and_perm_and_filter (options : Options) :
    (∀ first second both : Schema, both.types = first.types ++ second.types →
      NamesValid both.types →
      (∀ e, generate first options = .error e → generate both options = .error e) ∧
      (∀ g e, generate first options = .ok g → generate second options = .error e →
        generate both options = .error e) ∧
      ∀ g h, generate first options = .ok g → generate second options = .ok h →
        ∃ k before behind, generate both options = .ok k ∧
          g.code = options.fileHead ++ before ++ Options.fileFoot ∧
          h.code = options.fileHead ++ behind ++ Options.fileFoot ∧
          k.code = options.fileHead ++ (before ++ behind) ++ Options.fileFoot ∧
          k.emitted = g.emitted + h.emitted ∧
          k.report.toList = g.report.toList ++ h.report.toList) ∧
    (∀ (schema permuted : Schema) (g : Generated), schema.types.Perm permuted.types →
      generate schema options = .ok g →
      g.code = options.fileHead ++ String.join (options.blocks schema.types) ++ Options.fileFoot ∧
      ∃ p, generate permuted options = .ok p ∧
        p.code = options.fileHead ++ String.join (options.blocks permuted.types) ++
          Options.fileFoot ∧
        p.emitted = g.emitted ∧ p.report.toList.Perm g.report.toList) ∧
    ∀ (schema larger : Schema) (keep : FullType → Bool), NamesValid larger.types →
      schema.types = larger.types.filter keep →
      (∀ t ∈ larger.types, keep t = false → t.Idle) →
      generate larger options = generate schema options := by
  refine ⟨?_, ?_, ?_⟩
  · intro first second both htypes hvalid
    refine ⟨fun e => generate_append_of_error htypes hvalid,
      fun g e => generate_append_of_ok_of_error htypes hvalid, ?_⟩
    intro g h hfirst hsecond
    refine ⟨_, String.join (options.blocks first.types), String.join (options.blocks second.types),
      generate_append_of_ok htypes hvalid hfirst hsecond, ?_⟩
    rw [eq_generatedOf_of_generate hfirst, eq_generatedOf_of_generate hsecond]
    refine ⟨rfl, rfl, ?_, ?_, ?_⟩
    · rw [Options.generatedOf, options.blocks_append, String.join_append]
    · simp only [Options.generatedOf, options.blocks_append, List.length_append]
    · simp only [Options.generatedOf, Report.toList_addAll, Report.toList_empty, List.nil_append,
        List.flatMap_append]
  · intro schema permuted g hperm h
    rw [eq_generatedOf_of_generate h]
    refine ⟨rfl, _, generate_perm hperm h, rfl, ?_, ?_⟩
    · exact (hperm.filterMap options.block?).length_eq.symm
    · simp only [Options.generatedOf, Report.toList_addAll, Report.toList_empty, List.nil_append]
      exact (hperm.flatMap_right _).symm
  · intro schema larger keep hvalid htypes hidle
    exact generate_filter options hvalid htypes hidle

namespace Sections

def page : FullType :=
  { FullType.plain .object "Page" with fields := some [.plain "itemType" (.scalar "Int")] }

def order : FullType :=
  { FullType.plain .enumeration "Order" with enumValues := some [.plain "up"] }

/-- A class without fields, which has no definition. -/
def empty : FullType := .plain .object "Empty"

/-- A type of a kind that has no definition. -/
def result : FullType := .plain .union "Result"

def url : FullType := .plain .scalar "Url"

def hidden : FullType := .plain .union "__Hidden"

def schema (types : List FullType) : Schema := ⟨none, none, none, types, []⟩

def options : Options := .ofLanguage "com.content" .java 0

theorem generate_append_and_perm_and_filter_of_types :
    (NamesValid [empty, result] ∧
      generate (schema [empty]) options = .error (.missingFields "Empty" .object) ∧
      generate (schema [empty, result]) options = .error (.missingFields "Empty" .object)) ∧
    (NamesValid [page, result] ∧
      generate (schema [page]) options = .ok (options.generatedOf [page]) ∧
      generate (schema [result]) options = .error (.unsupportedKind "Result" .union) ∧
      generate (schema [page, result]) options = .error (.unsupportedKind "Result" .union)) ∧
    (NamesValid [page, order] ∧
      generate (schema [order]) options = .ok (options.generatedOf [order]) ∧
      ∃ k before behind, generate (schema [page, order]) options = .ok k ∧
        k.code = options.fileHead ++ (before ++ behind) ++ Options.fileFoot ∧ k.emitted = 2) ∧
    ([page, order].Perm [order, page] ∧
      ∃ p, generate (schema [order, page]) options = .ok p ∧ p.emitted = 2) ∧
    NamesValid [url, page, hidden, order] ∧
    generate (schema [url, page, hidden, order]) options =
      generate (schema [page, order]) options := by
  have hempty : generate (schema [empty]) options = .error (.missingFields "Empty" .object) :=
    ((stops_generate _ _).error_iff _).mpr (by decide)
  have hresult : generate (schema [result]) options = .error (.unsupportedKind "Result" .union) :=
    ((stops_generate _ _).error_iff _).mpr (by decide)
  have hpage : generate (schema [page]) options = .ok (options.generatedOf [page]) :=
    (generate_eq_ok_iff _ _ _).mpr ⟨by decide, rfl⟩
  have horder : generate (schema [order]) options = .ok (options.generatedOf [order]) :=
    (generate_eq_ok_iff _ _ _).mpr ⟨by decide, rfl⟩
  have hboth : generate (schema [page, order]) options = .ok (options.generatedOf [page, order]) :=
    (generate_eq_ok_iff _ _ _).mpr ⟨by decide, rfl⟩
  have hfirst : NamesValid [empty, result] := (nameFaults_eq_nil_iff _).mp (by decide)
  have hsecond : NamesValid [page, result] := (nameFaults_eq_nil_iff _).mp (by decide)
  have happended : NamesValid [page, order] := (nameFaults_eq_nil_iff _).mp (by decide)
  have hlarger : NamesValid [url, page, hidden, order] := (nameFaults_eq_nil_iff _).mp (by decide)
  obtain ⟨hsections, hpermuted, hinserted⟩ := generate_append_and_perm_and_filter options
  have hswap : [page, order].Perm [order, page] := .swap order page []
  have hidle : ∀ t ∈ [url, page, hidden, order], decide (t ∈ [page, order]) = false → t.Idle := by
    decide
  refine ⟨⟨hfirst, hempty, ?_⟩, ⟨hsecond, hpage, hresult, ?_⟩, ⟨happended, horder, ?_⟩,
    ⟨hswap, ?_⟩, hlarger, ?_⟩
  · exact (hsections (schema [empty]) (schema [result]) (schema [empty, result]) rfl hfirst).1 _ hempty
  · exact (hsections (schema [page]) (schema [result]) (schema [page, result]) rfl hsecond).2.1 _ _
      hpage hresult
  · obtain ⟨k, before, behind, hk, -, -, hcode, hemitted, -⟩ :=
      (hsections (schema [page]) (schema [order]) (schema [page, order]) rfl happended).2.2 _ _
        hpage horder
    exact ⟨k, before, behind, hk, hcode, hemitted⟩
  · obtain ⟨-, p, hp, -, hemitted, -⟩ :=
      hpermuted (schema [page, order]) (schema [order, page]) _ hswap hboth
    exact ⟨p, hp, hemitted⟩
  · exact hinserted (schema [page, order]) _ (· ∈ [page, order]) hlarger (by decide) hidle

end Sections

end SchemaClasses
