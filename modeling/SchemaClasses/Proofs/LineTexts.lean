import SchemaClasses.Model.Generate
import SchemaClasses.Proofs.Capitals

/-! The characters in the lines of a definition. Some characters stand in no fixed text of a
language, so that outside of comments a line has one of them only where a name has it. Braces do
stand in some, but in none that a type or a name is written with. -/

namespace SchemaClasses

/-- Characters that no fixed text has, comments and the first line of a file apart. -/
def foreign : List Char := ['\n', '/', '*']

/-- The same with the braces. -/
def signs : List Char := foreign ++ ['\x7b', '\x7d']

def Lacks (c : Char) (s : String) : Prop := c ∉ s.toList

instance (c : Char) (s : String) : Decidable (Lacks c s) :=
  inferInstanceAs (Decidable (c ∉ s.toList))

theorem forall_mem_signs {p : Char → Prop} :
    (∀ c ∈ signs, p c) ↔ (p '\n' ∧ p '/' ∧ p '*') ∧ p '\x7b' ∧ p '\x7d' := by
  simp [signs, foreign, and_assoc]

theorem mem_signs_of_mem_foreign {c : Char} (h : c ∈ foreign) : c ∈ signs :=
  List.mem_append_left _ h

/-- A fixed text is gone through character by character. -/
theorem lacks_fixed {characters text : List Char} {c : Char} (hc : c ∈ characters)
    (h : text.all fun b => !characters.elem b) : Lacks c (String.ofList text) := by
  rw [Lacks, String.toList_ofList]
  intro hmem
  have hother := List.all_eq_true.mp h c hmem
  rw [List.elem_eq_true_of_mem hc] at hother
  cases hother

theorem lacks_append {c : Char} {s t : String} : Lacks c (s ++ t) ↔ Lacks c s ∧ Lacks c t := by
  rw [Lacks, String.toList_append, List.mem_append, not_or]
  rfl

theorem lacks_intercalate {c : Char} {sep : String} {texts : List String} (hsep : Lacks c sep)
    (htexts : ∀ text ∈ texts, Lacks c text) : Lacks c (sep.intercalate texts) := by
  intro hmem
  rw [String.toList_intercalate] at hmem
  rcases Text.mem_of_mem_intercalate hmem with hmem | ⟨chars, hchars, hmem⟩
  · exact hsep hmem
  · obtain ⟨text, htext, rfl⟩ := List.mem_map.mp hchars
    exact htexts text htext hmem

/-! ### Numbers of a width -/

namespace Calendar

theorem isDigit_of_mem_padded {width n : Nat} {c : Char} (h : c ∈ padded width n) : c.isDigit := by
  rcases List.mem_append.mp h with h | h
  · rw [List.eq_of_mem_replicate h]
    rfl
  · exact Nat.isDigit_of_mem_toDigits (by decide) (Nat.le_refl 10) h

theorem not_mem_padded {c : Char} (h : c.isDigit = false) (width n : Nat) : c ∉ padded width n := by
  intro hmem
  rw [isDigit_of_mem_padded hmem] at h
  cases h

theorem not_mem_yearText {c : Char} (h : c.isDigit = false) (hminus : c ≠ '-') (hplus : c ≠ '+')
    (year : Int) : c ∉ yearText year := by
  rw [yearText, List.mem_append, not_or]
  refine ⟨?_, not_mem_padded h 4 year.natAbs⟩
  split
  · exact fun hmem => hminus (List.mem_singleton.mp hmem)
  · split
    · exact fun hmem => hplus (List.mem_singleton.mp hmem)
    · exact List.not_mem_nil

end Calendar

/-! ### Lines of definitions -/

section

variable {c : Char} (hc : c ∈ signs)
include hc

theorem ne_ofNat_of_isRaised {n : Nat} (hn : Text.IsRaised n) : c ≠ Char.ofNat n := by
  rintro rfl
  by_cases hvalid : n.isValidChar
  · have htoNat : (Char.ofNat n).toNat = n := by
      rw [Char.ofNat, dif_pos hvalid]
      rfl
    have hnot : ∀ c ∈ signs, ¬ Text.IsRaised c.toNat := forall_mem_signs.mpr (by decide)
    exact hnot _ hc (htoNat.symm ▸ hn)
  · rw [Char.ofNat, dif_neg hvalid] at hc
    exact absurd hc (by decide)

theorem lacks_pascalCase {name : String} (h : Lacks c name) : Lacks c (Text.pascalCase name) := by
  intro hmem
  rcases Text.mem_pascalCase hmem with hname | rfl | ⟨n, hn, rfl⟩
  · exact h hname
  · exact absurd hc (by decide)
  · exact ne_ofNat_of_isRaised hc hn rfl

theorem lacks_identifier {name : String} (h : Lacks c name) : Lacks c (Java.identifier name) := by
  unfold Java.identifier
  split
  · exact lacks_append.mpr ⟨h, lacks_fixed hc rfl⟩
  · exact h

theorem lacks_scalar? (language : Language) {name text : String} {boxed : Bool}
    (h : language.dialect.scalar? name boxed = some text) : Lacks c text := by
  cases language with
  | csharp =>
      replace h : CSharp.scalar? name boxed = some text := h
      unfold CSharp.scalar? at h
      split at h <;> cases h <;> exact lacks_fixed hc rfl
  | java =>
      replace h : Java.scalar? name boxed = some text := h
      unfold Java.scalar? at h
      split at h <;> cases h <;> cases boxed <;> exact lacks_fixed hc rfl

theorem lacks_listOf (lists : Nat) {type : String} (h : Lacks c type) :
    Lacks c (Dialect.listOf lists type) := by
  induction lists generalizing type with
  | zero => exact h
  | succ lists ih =>
      apply ih
      simp only [lacks_append]
      exact ⟨⟨lacks_fixed hc rfl, h⟩, lacks_fixed hc rfl⟩

variable (language : Language)

theorem lacks_typeText {s : TypeShape} (h : Lacks c s.name) (boxed : Bool) :
    Lacks c (language.dialect.typeText s boxed) := by
  unfold Dialect.typeText
  apply lacks_listOf hc
  split
  · cases hscalar : language.dialect.scalar? s.name (boxed || s.isBoxed) with
    | none => exact h
    | some text => exact lacks_scalar? hc language hscalar
  · exact h

theorem lacks_enumMark : Lacks c language.dialect.enumMark := by
  cases language <;> exact lacks_fixed hc rfl

theorem lacks_declaration (role : Role) {name : String} {interfaces : List String}
    (hname : Lacks c name) (hinterfaces : ∀ i ∈ interfaces, Lacks c i) :
    Lacks c (language.dialect.declaration role name interfaces) := by
  have hlist {sign : String} (hsign : Lacks c sign) :
      Lacks c (if interfaces.isEmpty then "" else sign ++ ", ".intercalate interfaces) := by
    split
    · exact lacks_fixed hc rfl
    · exact lacks_append.mpr
        ⟨hsign, lacks_intercalate (lacks_fixed hc rfl) hinterfaces⟩
  cases language with
  | csharp =>
      have hkeyword : Lacks c (CSharp.keyword role) := by cases role <;> exact lacks_fixed hc rfl
      change Lacks c (CSharp.declaration role name interfaces)
      simp only [CSharp.declaration, lacks_append]
      exact ⟨⟨⟨⟨lacks_fixed hc rfl, hkeyword⟩, lacks_fixed hc rfl⟩, hname⟩,
        hlist (lacks_fixed hc rfl)⟩
  | java =>
      have hkeyword : Lacks c (Java.keyword role) := by cases role <;> exact lacks_fixed hc rfl
      change Lacks c (Java.declaration role name interfaces)
      simp only [Java.declaration, lacks_append]
      exact ⟨⟨⟨⟨lacks_fixed hc rfl, hkeyword⟩, lacks_fixed hc rfl⟩, hname⟩,
        hlist (lacks_fixed hc rfl)⟩

theorem lacks_java_getterHead {name type : String} (hname : Lacks c name) (htype : Lacks c type) :
    Lacks c (Java.getterHead name type) := by
  simp only [Java.getterHead, lacks_append]
  exact ⟨⟨⟨htype, lacks_fixed hc rfl⟩, lacks_pascalCase hc hname⟩, lacks_fixed hc rfl⟩

theorem lacks_java_setterHead {name type : String} (hname : Lacks c name) (htype : Lacks c type) :
    Lacks c (Java.setterHead name type) := by
  simp only [Java.setterHead, lacks_append]
  exact ⟨⟨⟨⟨⟨⟨lacks_fixed hc rfl, lacks_pascalCase hc hname⟩, lacks_fixed hc rfl⟩, htype⟩,
    lacks_fixed hc rfl⟩, lacks_identifier hc hname⟩, lacks_fixed hc rfl⟩

theorem lacks_java_propertyMark {name : String} (hname : Lacks c name) :
    ∀ text ∈ Java.propertyMark name, Lacks c text := by
  unfold Java.propertyMark
  split
  · exact fun _ h => absurd h List.not_mem_nil
  · intro text htext
    rw [List.mem_singleton.mp htext]
    simp only [lacks_append]
    exact ⟨⟨lacks_fixed hc rfl, hname⟩, lacks_fixed hc rfl⟩

theorem lacks_constant {name : String} (hname : Lacks c name) :
    Lacks c (language.dialect.constant name) := by
  cases language with
  | csharp => exact lacks_pascalCase hc hname
  | java => exact lacks_identifier hc hname

/-- A point in time is written with digits and a few signs between them. -/
theorem not_mem_text (time : Calendar.DateTime) : c ∉ time.text.toList := by
  have hsigns : ∀ c ∈ signs, c.isDigit = false ∧ c ∉ ['-', '+', ' ', ':', 'U', 'T', 'C'] :=
    forall_mem_signs.mpr (by decide)
  obtain ⟨hdigit, hsign⟩ := hsigns c hc
  rw [Calendar.DateTime.text, String.toList_ofList]
  simp only [List.mem_cons, not_or] at hsign
  simp only [List.mem_append, List.mem_cons, not_or]
  simp [Calendar.not_mem_padded hdigit, Calendar.not_mem_yearText hdigit, hsign]

theorem lacks_timestamp (options : Options) : Lacks c options.timestamp :=
  not_mem_text hc _

/-- The lines of the head of a file, but for the first and for the brace at its end. -/
theorem lacks_header {options : Options} (hnamespace : Lacks c options.namespaceName)
    (hholder : Lacks c options.holder) :
    ∀ text ∈ (language.dialect.header options).tail.dropLast, Lacks c text := by
  have hempty : Lacks c "" := lacks_fixed hc rfl
  cases language with
  | csharp =>
      show ∀ text ∈ ["using System.Collections;", "using System.Collections.Generic;",
        "using Newtonsoft.Json;", "using Newtonsoft.Json.Converters;", "",
        "namespace " ++ options.namespaceName], Lacks c text
      simp only [List.forall_mem_cons, lacks_append]
      exact ⟨lacks_fixed hc rfl, lacks_fixed hc rfl, lacks_fixed hc rfl, lacks_fixed hc rfl, hempty,
        ⟨lacks_fixed hc rfl, hnamespace⟩, fun _ h => absurd h List.not_mem_nil⟩
  | java =>
      show ∀ text ∈ ["package " ++ options.namespaceName ++ ";", "", "import java.util.List;", "",
        "import com.fasterxml.jackson.annotation.JsonFormat;",
        "import com.fasterxml.jackson.annotation.JsonProperty;", "",
        "public final class " ++ options.holder], Lacks c text
      simp only [List.forall_mem_cons, lacks_append]
      exact ⟨⟨⟨lacks_fixed hc rfl, hnamespace⟩, lacks_fixed hc rfl⟩, hempty, lacks_fixed hc rfl,
        hempty, lacks_fixed hc rfl, lacks_fixed hc rfl, hempty, ⟨lacks_fixed hc rfl, hholder⟩,
        fun _ h => absurd h List.not_mem_nil⟩

end

section

variable {c : Char} (hc : c ∈ foreign)
include hc

theorem lacks_csharp_property {name type : String} (hname : Lacks c name) (htype : Lacks c type) :
    Lacks c (CSharp.property name type) := by
  simp only [CSharp.property, lacks_append]
  exact ⟨⟨⟨htype, lacks_fixed hc rfl⟩, lacks_pascalCase (mem_signs_of_mem_foreign hc) hname⟩,
    lacks_fixed hc rfl⟩

variable (language : Language)

theorem lacks_signature {name type : String} (hname : Lacks c name) (htype : Lacks c type) :
    ∀ text ∈ language.dialect.signature name type, Lacks c text := by
  cases language with
  | csharp =>
      intro text htext
      rw [List.mem_singleton.mp htext]
      exact lacks_csharp_property hc hname htype
  | java =>
      have hgetter := lacks_java_getterHead (mem_signs_of_mem_foreign hc) hname htype
      have hsetter := lacks_java_setterHead (mem_signs_of_mem_foreign hc) hname htype
      have hend : Lacks c ";" := lacks_fixed hc rfl
      change ∀ text ∈ Java.signature name type, Lacks c text
      simp only [Java.signature, List.forall_mem_cons, lacks_append]
      exact ⟨⟨hgetter, hend⟩, ⟨hsetter, hend⟩, fun _ h => absurd h List.not_mem_nil⟩

theorem lacks_storage {name type : String} (hname : Lacks c name) (htype : Lacks c type) :
    ∀ text ∈ language.dialect.storage name type, Lacks c text := by
  cases language with
  | csharp =>
      intro text htext
      rw [List.mem_singleton.mp htext, lacks_append]
      exact ⟨lacks_fixed hc rfl, lacks_csharp_property hc hname htype⟩
  | java =>
      have hsign := mem_signs_of_mem_foreign hc
      have hfield := lacks_identifier hsign hname
      have hpublic : Lacks c "public " := lacks_fixed hc rfl
      change ∀ text ∈ Java.storage name type, Lacks c text
      simp only [Java.storage, List.forall_mem_append, List.forall_mem_cons, lacks_append]
      refine ⟨lacks_java_propertyMark hsign hname, ?_, ?_, ?_, fun _ h => absurd h List.not_mem_nil⟩
      · exact ⟨⟨⟨⟨lacks_fixed hc rfl, htype⟩, lacks_fixed hc rfl⟩, hfield⟩,
          lacks_fixed hc rfl⟩
      · exact ⟨⟨⟨⟨hpublic, lacks_java_getterHead hsign hname htype⟩,
          lacks_fixed hc rfl⟩, hfield⟩, lacks_fixed hc rfl⟩
      · exact ⟨⟨⟨⟨⟨⟨hpublic, lacks_java_setterHead hsign hname htype⟩, lacks_fixed hc rfl⟩,
          hfield⟩, lacks_fixed hc rfl⟩, hfield⟩, lacks_fixed hc rfl⟩

end

theorem header_eq (language : Language) (options : Options) : language.dialect.header options =
    stampLine options :: (language.dialect.header options).tail.dropLast ++ ["\x7b"] := by
  cases language <;> rfl

theorem toList_stampLine (options : Options) : (stampLine options).toList =
    "// This file was generated by a tool on ".toList ++ options.timestamp.toList :=
  String.toList_append

theorem newline_not_mem_stampLine (options : Options) : '\n' ∉ (stampLine options).toList := by
  have hfixed : Lacks '\n' "// This file was generated by a tool on " :=
    lacks_fixed (List.mem_singleton_self _) rfl
  exact lacks_append.mpr ⟨hfixed, lacks_timestamp (by decide) options⟩

end SchemaClasses
