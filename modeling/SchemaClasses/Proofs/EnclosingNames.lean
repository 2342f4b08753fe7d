import SchemaClasses.Proofs.NameCollisions

/-! Names that are those of the scope around them. A property has the name of its class where a
member is called by it, with or without the capital; a nested definition has the name of the holder
class where a type is called by it. -/

namespace SchemaClasses

namespace Text

/-- The text with its first letter as a small one. -/
def withSmall (s : String) : String :=
  String.ofList (s.toList.modifyHead Char.toLower)

theorem toUpper_toLower {c : Char} (h : c.toUpper = c) : c.toLower.toUpper = c := by
  rcases toLower_eq_self_or c with hself | hback
  · rw [hself, h]
  · exact hback

theorem withCapital_eq_self_or (s : String) : withCapital s = s ∨ withSmall (withCapital s) = s := by
  unfold withSmall withCapital
  rw [String.toList_ofList, ← String.toList_inj, ← String.toList_inj, String.toList_ofList,
    String.toList_ofList]
  cases s.toList with
  | nil => exact Or.inl rfl
  | cons c cs =>
      rcases toUpper_eq_self_or c with hself | ⟨_, hback⟩
      · exact Or.inl (congrArg (· :: cs) hself)
      · exact Or.inr (congrArg (· :: cs) hback)

theorem withCapital_withSmall {s : String} (h : withCapital s = s) :
    withCapital (withSmall s) = s := by
  unfold withSmall
  unfold withCapital at h ⊢
  rw [← String.toList_inj, String.toList_ofList] at h
  rw [← String.toList_inj, String.toList_ofList, String.toList_ofList]
  cases hs : s.toList with
  | nil => rfl
  | cons c cs =>
      rw [hs] at h
      exact congrArg (· :: cs) (toUpper_toLower (List.cons.inj h).1)

/-- A name with a capital comes from itself and from the name with a small letter, and a name
without one comes from none. -/
theorem withCapital_eq_iff {a b : String} :
    withCapital a = b ↔ withCapital b = b ∧ (a = b ∨ a = withSmall b) := by
  constructor
  · rintro rfl
    refine ⟨withCapital_withCapital a, ?_⟩
    rcases withCapital_eq_self_or a with hself | hback
    · exact Or.inl hself.symm
    · exact Or.inr hback.symm
  · rintro ⟨hb, rfl | rfl⟩
    · exact hb
    · exact withCapital_withSmall hb

end Text

/-- Of the names of members, those of a type and of the type with a small letter become the name of
the type as a property. -/
theorem mem_map_pascalCase_iff {names : List String} (hnames : ∀ name ∈ names, Text.isName name)
    (own : String) : own ∈ names.map Text.pascalCase ↔
      Text.withCapital own = own ∧ (own ∈ names ∨ Text.withSmall own ∈ names) := by
  have hproperty : ∀ name ∈ names, Text.pascalCase name = own ↔
      Text.withCapital own = own ∧ (name = own ∨ name = Text.withSmall own) := by
    intro name hname
    rw [Text.pascalCase_of_isName (hnames name hname), Text.withCapital_eq_iff]
  rw [List.mem_map]
  constructor
  · rintro ⟨name, hname, hown⟩
    obtain ⟨hcapital, rfl | rfl⟩ := (hproperty name hname).mp hown
    · exact ⟨hcapital, Or.inl hname⟩
    · exact ⟨hcapital, Or.inr hname⟩
  · rintro ⟨hcapital, hname | hname⟩
    · exact ⟨_, hname, (hproperty _ hname).mpr ⟨hcapital, Or.inl rfl⟩⟩
    · exact ⟨_, hname, (hproperty _ hname).mpr ⟨hcapital, Or.inr rfl⟩⟩

/-- A class in C# has a property of its own name just where its name has a capital, and a member is
called by it with the capital or with a small letter. A holder class in Java has a definition of its
own name inside just where a type is called by it. -/
theorem enclosing_name_mem_iff {schema : Schema} {options : Options} {generated : Generated}
    (h : generate schema options = .ok generated)
    (hnames : ∀ t ∈ schema.types, ∀ name ∈ t.memberNames, Text.isName name) :
    ∃ definitions,
      (defineAll options.toRules schema.types).run .empty = .ok (definitions, generated.report) ∧
      generated.code = renderLines options.indent (options.dialect.fileLines options definitions) ∧
      List.Forall₂ options.Defines schema.defined definitions ∧
      (options.language = .csharp → ∀ t ∈ schema.defined, t.kind ∈ [.object, .inputObject] →
        (t.name ∈ t.memberNames.map Text.pascalCase ↔
          Text.withCapital t.name = t.name ∧
            (t.name ∈ t.memberNames ∨ Text.withSmall t.name ∈ t.memberNames))) ∧
      (options.language = .java →
        "public final class " ++ options.holder ∈ options.dialect.header options ∧
        (options.holder ∈ definitions.map Definition.name ↔
          ∃ t ∈ schema.defined, t.name = options.holder)) := by
  obtain ⟨hrun, hcode, _⟩ := definitions_of_generate h
  have hdefines := defines_of_generate h
  have hdefinitionNames : (options.definitions schema.types).map Definition.name =
      schema.defined.map FullType.name := by
    rw [← List.forall₂_eq_eq_eq, List.forall₂_map_left_iff, List.forall₂_map_right_iff]
    exact hdefines.flip.imp fun _ _ hd => hd.name_eq
  refine ⟨_, hrun, hcode, hdefines, ?_, ?_⟩
  · intro _ t ht _
    exact mem_map_pascalCase_iff (hnames t (List.mem_of_mem_filter ht)) t.name
  · intro hlanguage
    refine ⟨?_, ?_⟩
    · rw [Options.dialect, hlanguage]
      show _ ∈ Java.header options
      simp [Java.header]
    · rw [hdefinitionNames, List.mem_map]

namespace Enclosed

/-- A class with a member that is called by its name, and one with the name of the usual holder. -/
def title : FullType :=
  { FullType.plain .object "Title" with fields := some [.plain "title" (.scalar "String")] }

def model : FullType :=
  { FullType.plain .object "Model" with fields := some [.plain "id" (.scalar "ID")] }

def schema : Schema := ⟨none, none, none, [title, model], []⟩

def options (language : Language) : Options := .ofLanguage "Content" language 0

theorem generate_schema (language : Language) :
    generate schema (options language) = .ok ((options language).generatedOf schema.types) := by
  cases language <;> exact (generate_eq_ok_iff schema _ _).mpr ⟨by decide, rfl⟩

theorem enclosing_name_mem_iff_in_schema :
    generate schema (options .csharp) = .ok ((options .csharp).generatedOf schema.types) ∧
    generate schema (options .java) = .ok ((options .java).generatedOf schema.types) ∧
    (∀ t ∈ schema.types, ∀ name ∈ t.memberNames, Text.isName name) ∧
    (title.name ∈ title.memberNames.map Text.pascalCase ↔
      Text.withCapital title.name = title.name ∧
        (title.name ∈ title.memberNames ∨ Text.withSmall title.name ∈ title.memberNames)) ∧
    ∃ definitions, List.Forall₂ (options .java).Defines schema.defined definitions ∧
      ((options .java).holder ∈ definitions.map Definition.name ↔
        ∃ t ∈ schema.defined, t.name = (options .java).holder) := by
  have hnames : ∀ t ∈ schema.types, ∀ name ∈ t.memberNames, Text.isName name := by decide
  obtain ⟨_, _, _, _, hcsharp, _⟩ := enclosing_name_mem_iff (generate_schema .csharp) hnames
  obtain ⟨definitions, _, _, hdefines, _, hjava⟩ :=
    enclosing_name_mem_iff (generate_schema .java) hnames
  have htitle : title ∈ schema.defined := by decide
  exact ⟨generate_schema .csharp, generate_schema .java, hnames,
    hcsharp rfl title htitle (by decide), definitions, hdefines, (hjava rfl).2⟩

/-- A property in C# is called as its class is, and a class in Java as the holder class around
it. -/
theorem own_names_inside_schema :
    (∀ t ∈ schema.types, Text.isName t.name ∧ ∀ name ∈ t.memberNames, Text.isName name) ∧
    (∃ generated, generate schema (options .csharp) = .ok generated ∧
      (options .csharp).Prints generated.code .dataClass "Title" []
        [[⟨2, "public string Title \x7b get; set; \x7d"⟩]]) ∧
    ∃ generated, generate schema (options .java) = .ok generated ∧
      "public final class Model" ∈ Java.header (options .java) ∧
      Java.declaration .dataClass "Model" [] = "public static class Model" ∧
      (options .java).Prints generated.code .dataClass "Model" []
        [[⟨2, "private String id;"⟩,
          ⟨2, "public String getId() \x7b return id; \x7d"⟩,
          ⟨2, "public void setId(String id) \x7b this.id = id; \x7d"⟩]] := by
  let titleBody : Body := .dataClass [] [⟨"title", none, ⟨0, .scalar, "String", false⟩, false⟩]
  let modelBody : Body := .dataClass [] [⟨"id", none, ⟨0, .scalar, "ID", false⟩, false⟩]
  have htitle : title.definition? (options .csharp).toRules = some (title.withBody titleBody) := rfl
  have hmodel : model.definition? (options .java).toRules = some (model.withBody modelBody) := rfl
  have htitleMem : title ∈ schema.types := List.mem_cons_self
  have hmodelMem : model ∈ schema.types := List.mem_cons_of_mem title List.mem_cons_self
  have hproperty := prints_of_mem htitleMem htitle
  have haccessors := prints_of_mem hmodelMem hmodel
  refine ⟨by decide, ⟨_, generate_schema .csharp, ?_⟩, _, generate_schema .java,
    by decide, by decide, ?_⟩
  · refine (congrArg ((options .csharp).Prints _ .dataClass "Title" []) ?_).mp hproperty
    decide +kernel
  · refine (congrArg ((options .java).Prints _ .dataClass "Model" []) ?_).mp haccessors
    decide +kernel

end Enclosed

end SchemaClasses
