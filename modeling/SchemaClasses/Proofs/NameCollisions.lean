import Mathlib.Data.List.Nodup
import SchemaClasses.Proofs.Capitals
import SchemaClasses.Proofs.ReadBack

/-! Identifiers made from names. Each way to make one joins a name only with one other: with the
name that has a capital in front, or with the name that has the underscore of a reserved word behind
it. So the identifiers of a type differ unless both names of such a pair are there. -/

namespace SchemaClasses

section Distinct

variable {α : Type} {f : α → α} {l : List α}

/-- Where a map joins elements only with the one that it maps them to, all elements stay apart
unless one of them stands beside its image. -/
theorem nodup_map_iff_of_joins (hnodup : l.Nodup)
    (hjoins : ∀ a ∈ l, ∀ b ∈ l, f a = f b → a = b ∨ f a = b ∨ f b = a)
    (hstays : ∀ a ∈ l, f (f a) = f a) :
    (l.map f).Nodup ↔ ∀ a ∈ l, f a ∈ l → f a = a := by
  rw [List.nodup_map_iff_inj_on hnodup]
  constructor
  · intro hinjective a ha himage
    exact hinjective (f a) himage a ha (hstays a ha)
  · -- of two elements that are joined, one is the image of the other
    intro himages a ha b hb heq
    rcases hjoins a ha b hb heq with hab | hab | hba
    · exact hab
    · have himage := himages a ha (hab.symm ▸ hb)
      rw [← himage, hab]
    · have himage := himages b hb (hba.symm ▸ ha)
      rw [← himage, hba]

end Distinct

namespace Text

/-- The names of GraphQL: letters, digits and underscores, without a digit in front. -/
def isName (s : String) : Bool :=
  match s.toList with
  | [] => false
  | first :: rest => (first.isAlpha || first = '_') && rest.all fun c => c.isAlphanum || c = '_'

/-- The text with its first letter as a capital. -/
def withCapital (s : String) : String :=
  String.ofList (s.toList.modifyHead Char.toUpper)

theorem toNat_of_nameChar {c : Char} (h : c.isAlphanum || c = '_') :
    0x30 ≤ c.toNat ∧ c.toNat < 0x7B := by
  rw [Bool.or_eq_true, decide_eq_true_iff] at h
  rcases h with hletter | rfl
  · obtain halpha | hdigit := (Bool.or_eq_true _ _).mp hletter
    · obtain hupper | hlower := (Bool.or_eq_true _ _).mp halpha
      · obtain ⟨hA, hZ⟩ := of_decide_eq_true hupper
        have hfirst : 0x41 ≤ c.toNat := hA
        have hlast : c.toNat ≤ 0x5A := hZ
        omega
      · obtain ⟨ha, hz⟩ := (Bool.and_eq_true _ _).mp hlower
        have hfirst : 0x61 ≤ c.toNat := of_decide_eq_true ha
        have hlast : c.toNat ≤ 0x7A := of_decide_eq_true hz
        omega
    · obtain ⟨h0, h9⟩ := (Bool.and_eq_true _ _).mp hdigit
      have hfirst : 0x30 ≤ c.toNat := of_decide_eq_true h0
      have hlast : c.toNat ≤ 0x39 := of_decide_eq_true h9
      omega
  · decide

theorem isBlank_of_nameChar {c : Char} (h : c.isAlphanum || c = '_') : isBlank c = false := by
  have hcode := toNat_of_nameChar h
  rw [Bool.eq_false_iff]
  intro hblank
  simp only [isBlank, Bool.or_eq_true, Bool.and_eq_true, decide_eq_true_eq, beq_iff_eq] at hblank
  omega

theorem toUpper_joins {c d : Char} (h : c.toUpper = d.toUpper) :
    c = d ∨ c.toUpper = d ∨ d.toUpper = c := by
  rcases toUpper_eq_self_or c with hc | ⟨_, hc⟩
  · exact Or.inr (Or.inr (h.symm.trans hc))
  · rcases toUpper_eq_self_or d with hd | ⟨_, hd⟩
    · exact Or.inr (Or.inl (h.trans hd))
    · left
      rw [← hc, h, hd]

theorem modifyHead_toUpper_joins {cs ds : List Char}
    (h : cs.modifyHead Char.toUpper = ds.modifyHead Char.toUpper) :
    cs = ds ∨ cs.modifyHead Char.toUpper = ds ∨ ds.modifyHead Char.toUpper = cs := by
  cases cs with
  | nil =>
      cases ds with
      | nil => exact Or.inl rfl
      | cons d ds => cases h
  | cons c cs =>
      cases ds with
      | nil => cases h
      | cons d ds =>
          obtain ⟨hhead, rfl⟩ := List.cons.inj h
          rcases toUpper_joins hhead with rfl | rfl | rfl
          · exact Or.inl rfl
          · exact Or.inr (Or.inl rfl)
          · exact Or.inr (Or.inr rfl)

theorem withCapital_joins {a b : String} (h : withCapital a = withCapital b) :
    a = b ∨ withCapital a = b ∨ withCapital b = a := by
  unfold withCapital at h ⊢
  rcases modifyHead_toUpper_joins (String.ofList_injective h) with hab | hab | hba
  · exact Or.inl (String.toList_inj.mp hab)
  · rw [hab, String.ofList_toList]
    exact Or.inr (Or.inl rfl)
  · rw [hba, String.ofList_toList]
    exact Or.inr (Or.inr rfl)

theorem withCapital_withCapital (s : String) : withCapital (withCapital s) = withCapital s := by
  unfold withCapital
  rw [String.toList_ofList]
  cases s.toList with
  | nil => rfl
  | cons c cs =>
      rcases toUpper_eq_self_or c with hself | ⟨hself, _⟩ <;> simp [hself]

/-- A name has no blanks in it, so it is one word. -/
theorem pascalCase_of_isName {s : String} (h : isName s) : pascalCase s = withCapital s := by
  unfold isName at h
  split at h
  · cases h
  · rename_i first rest hs
    rw [Bool.and_eq_true, List.all_eq_true] at h
    have hfirst : first.isAlphanum || first = '_' := by
      rw [Bool.or_eq_true] at h ⊢
      exact h.1.imp_left fun halpha => (Bool.or_eq_true _ _).mpr (Or.inl halpha)
    have hchars : ∀ c ∈ first :: rest, isBlank c = false := by
      rw [List.forall_mem_cons]
      exact ⟨isBlank_of_nameChar hfirst, fun c hc => isBlank_of_nameChar (h.2 c hc)⟩
    rw [pascalCase, withCapital, hs, pascal_cons hchars, upper_of_lt (toNat_of_nameChar hfirst).2]
    rfl

end Text

/-- No name stands beside itself with a capital. -/
def CapitalsApart (names : List String) : Prop :=
  ∀ name ∈ names, Text.withCapital name ∈ names → Text.withCapital name = name

/-- No reserved word stands beside itself with an underscore. -/
def ReservedApart (names : List String) : Prop :=
  ∀ word ∈ Java.reserved, word ∈ names → word ++ "_" ∉ names

section Mappings

variable {names : List String}

theorem nodup_map_pascalCase_iff (hnames : ∀ name ∈ names, Text.isName name)
    (hnodup : names.Nodup) : (names.map Text.pascalCase).Nodup ↔ CapitalsApart names := by
  have hcapitals : names.map Text.pascalCase = names.map Text.withCapital :=
    List.map_congr_left fun name hname => Text.pascalCase_of_isName (hnames name hname)
  rw [hcapitals]
  exact nodup_map_iff_of_joins hnodup (fun _ _ _ _ => Text.withCapital_joins)
    fun name _ => Text.withCapital_withCapital name

/-- A word in front of all names takes nothing from their difference. -/
theorem nodup_map_append_pascalCase_iff (word : String) (hnames : ∀ name ∈ names, Text.isName name)
    (hnodup : names.Nodup) :
    (names.map fun name => word ++ Text.pascalCase name).Nodup ↔ CapitalsApart names := by
  have hmap : (names.map fun name => word ++ Text.pascalCase name) =
      (names.map Text.pascalCase).map (word ++ ·) := by
    rw [List.map_map]
    rfl
  rw [hmap, List.nodup_map_iff fun _ _ => (String.append_right_inj word).mp,
    nodup_map_pascalCase_iff hnames hnodup]

theorem underscored_not_reserved : ∀ word ∈ Java.reserved, word ++ "_" ∉ Java.reserved := by
  decide +kernel

theorem identifier_joins {a b : String} (h : Java.identifier a = Java.identifier b) :
    a = b ∨ Java.identifier a = b ∨ Java.identifier b = a := by
  by_cases ha : a ∈ Java.reserved
  · by_cases hb : b ∈ Java.reserved
    · rw [Java.identifier, Java.identifier, if_pos ha, if_pos hb] at h
      exact Or.inl ((String.append_left_inj "_").mp h)
    · have hself : Java.identifier b = b := if_neg hb
      exact Or.inr (Or.inl (h.trans hself))
  · have hself : Java.identifier a = a := if_neg ha
    exact Or.inr (Or.inr (h.symm.trans hself))

theorem identifier_identifier (name : String) :
    Java.identifier (Java.identifier name) = Java.identifier name := by
  by_cases hreserved : name ∈ Java.reserved
  · have himage : Java.identifier name = name ++ "_" := if_pos hreserved
    rw [himage]
    exact if_neg (underscored_not_reserved name hreserved)
  · have hself : Java.identifier name = name := if_neg hreserved
    rw [hself, hself]

theorem nodup_map_identifier_iff (hnodup : names.Nodup) :
    (names.map Java.identifier).Nodup ↔ ReservedApart names := by
  rw [nodup_map_iff_of_joins hnodup (fun _ _ _ _ => identifier_joins)
    fun name _ => identifier_identifier name]
  constructor
  · intro himages word hword hmem hbehind
    have himage : Java.identifier word = word ++ "_" := if_pos hword
    have hself := himages word hmem (himage ▸ hbehind)
    exact append_underscore_ne word (himage.symm.trans hself)
  · intro hapart name hname himage
    by_cases hreserved : name ∈ Java.reserved
    · rw [Java.identifier, if_pos hreserved] at himage
      exact absurd himage (hapart name hreserved hname)
    · exact if_neg hreserved

theorem withCapital_eq_Class_iff (name : String) :
    Text.withCapital name = "Class" ↔ name = "class" ∨ name = "Class" := by
  have hclass : Text.withCapital "class" = "Class" := by decide
  constructor
  · intro h
    rcases Text.withCapital_joins (h.trans hclass.symm) with hname | hname | hname
    · exact Or.inl hname
    -- no text begins with a small letter once it has a capital
    · exact absurd (h.symm.trans hname) (by decide)
    · exact Or.inr (hname.symm.trans hclass)
  · rintro (rfl | rfl)
    · exact hclass
    · decide

theorem getClass_mem_iff (hnames : ∀ name ∈ names, Text.isName name) :
    "getClass" ∈ names.map (fun name => "get" ++ Text.pascalCase name) ↔
      "class" ∈ names ∨ "Class" ∈ names := by
  have hgetter : ∀ name ∈ names,
      "get" ++ Text.pascalCase name = "getClass" ↔ name = "class" ∨ name = "Class" := by
    intro name hname
    rw [show "getClass" = "get" ++ "Class" from rfl, String.append_right_inj,
      Text.pascalCase_of_isName (hnames name hname), withCapital_eq_Class_iff]
  rw [List.mem_map]
  constructor
  · rintro ⟨name, hname, hclass⟩
    rcases (hgetter name hname).mp hclass with rfl | rfl
    · exact Or.inl hname
    · exact Or.inr hname
  · rintro (hname | hname)
    · exact ⟨_, hname, (hgetter _ hname).mpr (Or.inl rfl)⟩
    · exact ⟨_, hname, (hgetter _ hname).mpr (Or.inr rfl)⟩

theorem getClass_not_mem_setters :
    "getClass" ∉ names.map fun name => "set" ++ Text.pascalCase name := by
  intro h
  obtain ⟨name, _, hname⟩ := List.mem_map.mp h
  have hletters := congrArg String.toList hname
  rw [String.toList_append] at hletters
  cases hletters

end Mappings

/-- The names of the members of a type, or of the values of an enumeration. -/
def FullType.memberNames (t : FullType) : List String :=
  if t.kind = .enumeration then (t.enumValues.getD []).map EnumValue.name
  else t.declared.map Declared.name

/-- The lines of a member in a file: a comment, and the texts that spell the member. -/
def Options.Declares (options : Options) (kind : TypeKind) (name : String) (block : List Line) :
    Prop :=
  ∃ (comment : Option String) (texts : List String),
    block = options.dialect.commentLines 2 comment ++ texts.map (⟨2, ·⟩) ∧
    if kind = .enumeration then
      ∃ ending ∈ ["", ","], texts = [options.language.constantText name ++ ending]
    else ∃ type, texts = options.language.memberTexts kind name type

section Declarations

variable {options : Options} {t : FullType}

theorem declares_constants (values : List EnumValue) :
    List.Forall₂ (options.Declares .enumeration) (values.map EnumValue.name)
      (options.dialect.constantBlocks (FullType.constants values)) := by
  have hdeclares (v : EnumValue) {ending : String} (hending : ending ∈ ["", ","]) :
      options.Declares .enumeration v.name
        (options.dialect.commentLines 2 (commentOf v.description) ++
          [⟨2, options.dialect.constant v.name ++ ending⟩]) := by
    refine ⟨commentOf v.description, [options.dialect.constant v.name ++ ending], rfl, ?_⟩
    rw [if_pos rfl, constantText_eq]
    exact ⟨ending, hending, rfl⟩
  induction values with
  | nil => exact .nil
  | cons v values ih =>
      cases values with
      -- the last value has no comma behind it
      | nil =>
          have hlast := hdeclares v (List.mem_cons_self (a := "") (l := [","]))
          rw [String.append_empty] at hlast
          exact .cons hlast .nil
      | cons next values => exact .cons (hdeclares v (by decide)) ih

theorem declares_members {members : List Member} (hkind : t.kind ≠ .enumeration)
    (h : t.membersOf options.toRules = .ok members) {write : String → String → List String}
    (hwrite : ∀ name type, options.language.memberTexts t.kind name type = write name type) :
    List.Forall₂ (options.Declares t.kind) t.memberNames
      (members.map (options.dialect.memberLines write)) := by
  rw [FullType.memberNames, if_neg hkind, List.forall₂_map_left_iff, List.forall₂_map_right_iff]
  refine (forall₂_of_mapM h).imp ?_
  intro s m hmember
  obtain ⟨shape, _, rfl⟩ := FullType.memberOf_eq_ok hmember
  refine ⟨commentOf s.description, _, rfl, ?_⟩
  rw [if_neg hkind]
  exact ⟨_, (hwrite s.name _).symm⟩

/-- Every member of a type stands in the body that the type becomes, in the same place. -/
theorem declares_of_becomes {body : Body} (h : t.Becomes options.toRules body) :
    List.Forall₂ (options.Declares t.kind) t.memberNames (options.dialect.bodyBlocks body) := by
  cases h with
  | object hkind _ hmembers | inputObject hkind hmembers =>
      exact declares_members (by rw [hkind]; decide) hmembers
        (memberTexts_class options.language (by rw [hkind]; decide))
  | interface hkind hmembers =>
      exact declares_members (by rw [hkind]; decide) hmembers
        (hkind ▸ memberTexts_interface options.language)
  | enumeration hkind hvalues =>
      rw [FullType.memberNames, if_pos hkind, hvalues, hkind]
      exact declares_constants _

end Declarations

/-- The types that have a definition in a file. -/
def Schema.defined (s : Schema) : List FullType :=
  s.types.filter fun t => ¬ t.Idle ∧ ¬ t.Skipped

/-- A definition has the name of a type and is declared by its kind, and the members of the type
stand in it, each in a block of its own. -/
structure Options.Defines (options : Options) (t : FullType) (d : Definition) : Prop where
  name_eq : d.name = t.name
  role_eq : d.body.role = t.kind.role
  declares : List.Forall₂ (options.Declares t.kind) t.memberNames
    (options.dialect.bodyBlocks d.body)

theorem defines_of_generate {schema : Schema} {options : Options} {generated : Generated}
    (h : generate schema options = .ok generated) :
    List.Forall₂ options.Defines schema.defined (options.definitions schema.types) := by
  refine (forall₂_definitions_of_generate h).imp ?_
  intro t d hd
  obtain ⟨_, body, hbody, rfl⟩ := FullType.becomes_of_definition? hd
  exact ⟨rfl, hbody.role_eq, declares_of_becomes hbody⟩

/-- A type with distinct names has distinct identifiers, but for the names that stand beside
themselves with a capital, or beside themselves with the underscore of a reserved word. A getter has
the name of the method that all objects have just where a member is called by it. -/
theorem identifiers_nodup_iff {schema : Schema} {options : Options} {generated : Generated}
    (h : generate schema options = .ok generated) {t : FullType} (ht : t ∈ schema.types)
    (hidle : ¬ t.Idle) (hskipped : ¬ t.Skipped)
    (hnames : ∀ name ∈ t.memberNames, Text.isName name) (hnodup : t.memberNames.Nodup) :
    ∃ interfaces blocks,
      options.Prints generated.code t.kind.role t.name interfaces blocks ∧
      List.Forall₂ (options.Declares t.kind) t.memberNames blocks ∧
      (options.language = .csharp →
        ((t.memberNames.map Text.pascalCase).Nodup ↔ CapitalsApart t.memberNames)) ∧
      (options.language = .java →
        ((t.memberNames.map Java.identifier).Nodup ↔ ReservedApart t.memberNames) ∧
        ((t.memberNames.map fun name => "get" ++ Text.pascalCase name).Nodup ↔
          CapitalsApart t.memberNames) ∧
        ((t.memberNames.map fun name => "set" ++ Text.pascalCase name).Nodup ↔
          CapitalsApart t.memberNames) ∧
        ("getClass" ∈ t.memberNames.map (fun name => "get" ++ Text.pascalCase name) ↔
          "class" ∈ t.memberNames ∨ "Class" ∈ t.memberNames) ∧
        "getClass" ∉ t.memberNames.map fun name => "set" ++ Text.pascalCase name) := by
  obtain rfl := eq_generatedOf_of_generate h
  have hdefined := (FullType.isSome_definition? (faults_of_generate h t ht)).mpr ⟨hidle, hskipped⟩
  obtain ⟨d, hd⟩ := Option.isSome_iff_exists.mp hdefined
  obtain ⟨_, body, hbody, rfl⟩ := FullType.becomes_of_definition? hd
  have hprints := prints_of_mem ht hd
  refine ⟨body.interfaces, options.dialect.bodyBlocks body, ?_, declares_of_becomes hbody,
    fun _ => nodup_map_pascalCase_iff hnames hnodup, fun _ => ⟨nodup_map_identifier_iff hnodup,
      nodup_map_append_pascalCase_iff "get" hnames hnodup,
      nodup_map_append_pascalCase_iff "set" hnames hnodup, getClass_mem_iff hnames,
      getClass_not_mem_setters⟩⟩
  rw [← hbody.role_eq]
  exact hprints

namespace Colliding

def page : FullType :=
  { FullType.plain .object "Page" with
    fields := some [.plain "foo" (.scalar "String"), .plain "Foo" (.scalar "String"),
      .plain "class" (.scalar "String")] }

def order : FullType :=
  { FullType.plain .enumeration "Order" with
    enumValues := some [.plain "default", .plain "default_"] }

def schema : Schema := ⟨none, none, none, [page, order], []⟩

def options (language : Language) : Options := .ofLanguage "Content" language 0

theorem identifiers_nodup_iff_in_page :
    let generated := (options .java).generatedOf schema.types
    generate schema (options .java) = .ok generated ∧
    ¬ page.Idle ∧ ¬ page.Skipped ∧ page.memberNames = ["foo", "Foo", "class"] ∧
    (∀ name ∈ page.memberNames, Text.isName name) ∧ page.memberNames.Nodup ∧
    ∃ interfaces blocks,
      (options .java).Prints generated.code page.kind.role page.name interfaces blocks ∧
      List.Forall₂ ((options .java).Declares page.kind) page.memberNames blocks ∧
      ((options .java).language = .csharp →
        ((page.memberNames.map Text.pascalCase).Nodup ↔ CapitalsApart page.memberNames)) ∧
      ((options .java).language = .java →
        ((page.memberNames.map Java.identifier).Nodup ↔ ReservedApart page.memberNames) ∧
        ((page.memberNames.map fun name => "get" ++ Text.pascalCase name).Nodup ↔
          CapitalsApart page.memberNames) ∧
        ((page.memberNames.map fun name => "set" ++ Text.pascalCase name).Nodup ↔
          CapitalsApart page.memberNames) ∧
        ("getClass" ∈ page.memberNames.map (fun name => "get" ++ Text.pascalCase name) ↔
          "class" ∈ page.memberNames ∨ "Class" ∈ page.memberNames) ∧
        "getClass" ∉ page.memberNames.map fun name => "set" ++ Text.pascalCase name) := by
  intro generated
  have hgenerated : generate schema (options .java) = .ok generated :=
    (generate_eq_ok_iff schema (options .java) generated).mpr ⟨by decide, rfl⟩
  have hidle : ¬ page.Idle := by decide
  have hskipped : ¬ page.Skipped := by decide
  have hnames : ∀ name ∈ page.memberNames, Text.isName name := by decide
  have hnodup : page.memberNames.Nodup := by decide
  exact ⟨hgenerated, hidle, hskipped, rfl, hnames, hnodup,
    identifiers_nodup_iff hgenerated List.mem_cons_self hidle hskipped hnames hnodup⟩

/-- Distinct names of one class and of one enumeration have one identifier each, in both languages,
and the class has a getter that no class may have. -/
theorem identifiers_repeated_in_schema :
    (∀ t ∈ schema.types, t.memberNames.Nodup ∧ ∀ name ∈ t.memberNames, Text.isName name) ∧
    (∃ generated, generate schema (options .csharp) = .ok generated ∧
      (options .csharp).Prints generated.code .dataClass "Page" []
        [[⟨2, "public string Foo \x7b get; set; \x7d"⟩],
          [⟨2, "public string Foo \x7b get; set; \x7d"⟩],
          [⟨2, "public string Class \x7b get; set; \x7d"⟩]]) ∧
    ∃ generated, generate schema (options .java) = .ok generated ∧
      (options .java).Prints generated.code .dataClass "Page" []
        [[⟨2, "private String foo;"⟩,
            ⟨2, "public String getFoo() \x7b return foo; \x7d"⟩,
            ⟨2, "public void setFoo(String foo) \x7b this.foo = foo; \x7d"⟩],
          [⟨2, "private String Foo;"⟩,
            ⟨2, "public String getFoo() \x7b return Foo; \x7d"⟩,
            ⟨2, "public void setFoo(String Foo) \x7b this.Foo = Foo; \x7d"⟩],
          [⟨2, "@JsonProperty(\"class\")"⟩,
            ⟨2, "private String class_;"⟩,
            ⟨2, "public String getClass() \x7b return class_; \x7d"⟩,
            ⟨2, "public void setClass(String class_) \x7b this.class_ = class_; \x7d"⟩]] ∧
      (options .java).Prints generated.code .enumeration "Order" []
        [[⟨2, "default_,"⟩], [⟨2, "default_"⟩]] := by
  let pageBody : Body := .dataClass []
    [⟨"foo", none, ⟨0, .scalar, "String", false⟩, false⟩,
      ⟨"Foo", none, ⟨0, .scalar, "String", false⟩, false⟩,
      ⟨"class", none, ⟨0, .scalar, "String", false⟩, false⟩]
  let orderBody : Body := .enumeration [⟨"default", none⟩, ⟨"default_", none⟩]
  have hgenerated (language : Language) : generate schema (options language) =
      .ok ((options language).generatedOf schema.types) := by
    cases language <;> exact (generate_eq_ok_iff schema _ _).mpr ⟨by decide, rfl⟩
  have hpage (language : Language) :
      page.definition? (options language).toRules = some (page.withBody pageBody) := by
    cases language <;> rfl
  have horder : order.definition? (options .java).toRules = some (order.withBody orderBody) := rfl
  have hpageMem : page ∈ schema.types := List.mem_cons_self
  have horderMem : order ∈ schema.types := List.mem_cons_of_mem page List.mem_cons_self
  have hproperties := prints_of_mem hpageMem (hpage .csharp)
  have haccessors := prints_of_mem hpageMem (hpage .java)
  have hconstants := prints_of_mem horderMem horder
  refine ⟨by decide, ⟨_, hgenerated .csharp, ?_⟩, _, hgenerated .java, ?_, ?_⟩
  · refine (congrArg ((options .csharp).Prints _ .dataClass "Page" []) ?_).mp hproperties
    decide +kernel
  · refine (congrArg ((options .java).Prints _ .dataClass "Page" []) ?_).mp haccessors
    decide +kernel
  · exact hconstants

end Colliding

end SchemaClasses
