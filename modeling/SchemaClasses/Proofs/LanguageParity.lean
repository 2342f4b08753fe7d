import SchemaClasses.Proofs.Accounting
import SchemaClasses.Proofs.Comparison

/-! What a run comes to besides its code: the error that ends it, or the number of definitions and
the report. None of this depends on the language, nor on anything else of the options but the rules,
and of these only on which members they replace and whether the types of members lead anywhere. So
the built-in rules of one language are as good as those of another. -/

namespace SchemaClasses

/-- The number of definitions and the report. -/
def Generated.summary (g : Generated) : Nat × List Diagnostic :=
  (g.emitted, g.report.toList)

/-- Rules that replace members of the same names, and that fail for the same types. -/
structure Rules.Alike (rules rules' : Rules) : Prop where
  skips : rules.skipUnsupported = rules'.skipUnsupported
  replaces : ∀ name, rules.replaces name = rules'.replaces name
  resolves : ∀ name declared, (rules.shape name declared).map (fun _ => ()) =
    (rules'.shape name declared).map fun _ => ()

namespace FullType

variable {rules rules' : Rules}

theorem shapeFaults_eq_of_alike (h : rules.Alike rules') (t : FullType) (d : Declared) :
    t.shapeFaults rules d = t.shapeFaults rules' d := by
  have hresolves := h.resolves d.name d.type
  unfold shapeFaults
  cases hshape : rules.shape d.name d.type with
  | error reason =>
      cases hshape' : rules'.shape d.name d.type with
      | error reason' =>
          rw [hshape, hshape'] at hresolves
          cases hresolves
          rfl
      | ok shape' =>
          rw [hshape, hshape'] at hresolves
          cases hresolves
  | ok shape =>
      cases hshape' : rules'.shape d.name d.type with
      | error reason' =>
          rw [hshape, hshape'] at hresolves
          cases hresolves
      | ok shape' => rfl

theorem faults_eq_of_alike (h : rules.Alike rules') (t : FullType) :
    t.faults rules = t.faults rules' := by
  have hshapes : t.shapeFaults rules = t.shapeFaults rules' :=
    funext fun d => t.shapeFaults_eq_of_alike h d
  unfold faults bodyFaults
  rw [hshapes, h.skips]

end FullType

/-- Where there is no fault, what is neither ignored nor skipped is defined. -/
theorem emitted_generatedOf {options : Options} {types : List FullType}
    (h : ∀ t ∈ types, t.faults options.toRules = []) :
    (options.generatedOf types).emitted = types.countP fun t => ¬ t.Idle ∧ ¬ t.Skipped := by
  rw [Options.generatedOf, Options.blocks, List.length_filterMap_eq_countP]
  apply List.countP_congr
  intro t ht
  rw [Options.block?, Option.isSome_map, FullType.isSome_definition? (h t ht), decide_eq_true_iff]

theorem schemaFaults_eq_of_alike {rules rules' : Rules} (h : rules.Alike rules')
    (types : List FullType) : schemaFaults rules types = schemaFaults rules' types := by
  unfold schemaFaults
  congr 1
  exact List.flatMap_congr fun t _ => t.faults_eq_of_alike h

theorem generate_summary_of_alike (schema : Schema) {options options' : Options}
    (h : options.toRules.Alike options'.toRules) :
    (generate schema options).map Generated.summary =
      (generate schema options').map Generated.summary := by
  have hfaults := schemaFaults_eq_of_alike h schema.types
  apply generate_map_eq_map
  · rw [hfaults]
  · intro hnone
    have hnone' := hnone
    rw [hfaults] at hnone'
    rw [schemaFaults, List.append_eq_nil_iff, List.flatMap_eq_nil_iff] at hnone hnone'
    have hnotes : schema.types.flatMap (FullType.notes options.toRules) =
        schema.types.flatMap (FullType.notes options'.toRules) :=
      List.flatMap_congr fun t _ => FullType.notes_congr t fun d _ => h.replaces d.name
    have hreport : (options.generatedOf schema.types).report =
        (options'.generatedOf schema.types).report := congrArg Report.empty.addAll hnotes
    rw [Generated.summary, Generated.summary, emitted_generatedOf hnone.2,
      emitted_generatedOf hnone'.2, hreport]

namespace RemapTable

theorem names_builtIn (language : Language) :
    (builtIn language).names = ["namespaceIds", "namespaceId", "itemType"] := by
  cases language <;> rfl

/-- Every type that a built-in rule gives is that of a named type, and of lists of one. -/
theorem alike_builtIn (skipUnsupported : Bool) (language other : Language) :
    Rules.Alike ⟨builtIn language, skipUnsupported⟩ ⟨builtIn other, skipUnsupported⟩ := by
  have hget : ∀ (l : Language) {name : String}, name ∉ (builtIn l).names →
      (builtIn l).get? name = none := by
    intro l name hname
    rw [← isSome_get?_iff] at hname
    simpa using hname
  refine ⟨rfl, ?_, ?_⟩
  · intro name
    rw [Bool.eq_iff_iff]
    show ((builtIn language).get? name).isSome ↔ ((builtIn other).get? name).isSome
    rw [isSome_get?_iff, isSome_get?_iff, names_builtIn, names_builtIn]
  · intro name declared
    by_cases hname : name ∈ (builtIn language).names
    · rw [names_builtIn] at hname
      simp only [List.mem_cons, List.not_mem_nil, or_false] at hname
      rcases hname with rfl | rfl | rfl
      all_goals cases language <;> cases other <;> rfl
    · have hother : name ∉ (builtIn other).names := by
        rwa [names_builtIn, ← names_builtIn language]
      unfold Rules.shape apply
      rw [hget language hname, hget other hother]

end RemapTable

/-- Two runs on a schema end with the same error, or with as many definitions and the same report,
whatever the languages and all other options are, if the rules are the same or if each language has
those that it starts with. -/
theorem summary_eq_of_same_rules_or_builtIn (schema : Schema) (options options' : Options)
    (hskip : options.skipUnsupported = options'.skipUnsupported)
    (hremap : options.remap = options'.remap ∨
      options.remap = .builtIn options.language ∧ options'.remap = .builtIn options'.language) :
    (generate schema options).map Generated.summary =
      (generate schema options').map Generated.summary := by
  apply generate_summary_of_alike
  rcases hremap with hsame | ⟨hbuiltIn, hbuiltIn'⟩
  · have hrules : options.toRules = options'.toRules := by
      rcases options with ⟨⟨_, _⟩, _⟩
      rcases options' with ⟨⟨_, _⟩, _⟩
      cases hsame
      cases hskip
      rfl
    rw [hrules]
    exact ⟨rfl, fun _ => rfl, fun _ _ => rfl⟩
  · have h := RemapTable.alike_builtIn options.skipUnsupported options.language options'.language
    rw [← hbuiltIn, ← hbuiltIn'] at h
    rw [show options'.toRules = ⟨options'.remap, options.skipUnsupported⟩ by rw [hskip]]
    exact h

namespace Parity

/-- A class with two members that every language has a rule for, and one between them without. -/
def page : FullType :=
  { FullType.plain .object "Page" with
    fields := some [.plain "itemType" (.scalar "Int"), .plain "views" (.nonNullOf (.scalar "Int")),
      .plain "namespaceIds" (.nonNullOf (.scalar "Int"))] }

def schema : Schema := ⟨none, none, none, [page, .plain .union "Result"], []⟩

def csharp : Options :=
  { Options.ofLanguage "Content" .csharp 0 with skipUnsupported := true }

def java : Options :=
  { Options.ofLanguage "com.content" .java 1700000000 with
    skipUnsupported := true, indent := .spaces 4, holder := "ContentModel" }

theorem summary_eq_of_same_rules_or_builtIn_in_page :
    csharp.remap ≠ java.remap ∧
    (generate schema csharp).map Generated.summary =
      (generate schema java).map Generated.summary ∧
    (generate schema csharp).map Generated.summary = .ok (1,
      [.remapped page "itemType", .remapped page "namespaceIds",
        .skippedKind (.plain .union "Result")]) := by
  have hgenerated : generate schema csharp = .ok (csharp.generatedOf schema.types) :=
    (generate_eq_ok_iff schema csharp _).mpr ⟨by decide, rfl⟩
  refine ⟨by decide, ?_, ?_⟩
  · exact summary_eq_of_same_rules_or_builtIn schema csharp java rfl (.inr ⟨rfl, rfl⟩)
  · rw [hgenerated]
    rfl

end Parity

end SchemaClasses
