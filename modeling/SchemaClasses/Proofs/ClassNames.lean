import SchemaClasses.Proofs.Categories
import SchemaClasses.Proofs.CodeMasks
import SchemaClasses.Proofs.Validation

/-! The holder class of a Java model, as a compiler sees it. The holder has the stem of its file as
its name, and the stem is checked with the property Alphabetic and a list of words, while an
identifier of the language is made of characters of some general categories and may be none of the
keywords. The two agree up to three kinds of characters and six words. -/

namespace SchemaClasses.Java

/-- The characters that an identifier may begin with. -/
def letters : Text.CodeSet :=
  Text.Category.letters ∪ Text.Category.signs

/-- The control characters that may stand in an identifier and are ignored there. -/
def ignorable : Text.CodeSet :=
  ⟨[(0x00, 0x08), (0x0E, 0x1B), (0x7F, 0x9F)]⟩

/-- The characters that may follow in an identifier. -/
def parts : Text.CodeSet :=
  letters ∪ Text.Category.digits ∪ Text.Category.marks ∪ Text.Category.formats ∪ ignorable

/-- The keywords of the language. -/
def keywords : List String :=
  ["abstract", "continue", "for", "new", "switch", "assert", "default", "if", "package",
    "synchronized", "boolean", "do", "goto", "private", "this", "break", "double", "implements",
    "protected", "throw", "byte", "else", "import", "public", "throws", "case", "enum",
    "instanceof", "return", "transient", "catch", "extends", "int", "short", "try", "char",
    "final", "interface", "static", "void", "class", "finally", "long", "strictfp", "volatile",
    "const", "float", "native", "super", "while", "_"]

/-- The words that stand for values. -/
def literals : List String :=
  ["true", "false", "null"]

/-- Identifiers that no class may have as its name. -/
def restricted : List String :=
  ["var", "yield", "record", "sealed", "permits"]

/-- A class may be declared under the name. -/
structure IsClassName (name : String) : Prop where
  first : ∃ c ∈ name.toList.head?, letters.Has c
  others : ∀ c ∈ name.toList.tail, parts.Has c
  not_keyword : name ∉ keywords
  not_literal : name ∉ literals
  not_restricted : name ∉ restricted

instance (name : String) : Decidable (IsClassName name) :=
  decidable_of_iff (name.toList.head?.any (letters.Has ·) ∧ name.toList.tail.all (parts.Has ·) ∧
      name ∉ keywords ∧ name ∉ literals ∧ name ∉ restricted) (by
    simp only [Option.any_eq_true, List.all_eq_true, decide_eq_true_iff]
    exact ⟨fun ⟨hfirst, hothers, hkeyword, hliteral, hrestricted⟩ =>
        ⟨hfirst, hothers, hkeyword, hliteral, hrestricted⟩,
      fun h => ⟨h.first, h.others, h.not_keyword, h.not_literal, h.not_restricted⟩⟩)

/-- What the classes of characters have in common. All that is Alphabetic or a number is in one of
the classes here, and no class overlaps with the characters that do not belong in its place. -/
theorem land_masks :
    Text.alphabetic.mask &&&
      (letters ∪ Text.Category.marks ∪ Text.Category.circledLetters).mask = Text.alphabetic.mask ∧
    Text.numeric.mask &&& (parts ∪ Text.Category.otherNumbers).mask = Text.numeric.mask ∧
    letters.mask &&&
      (Text.Category.marks ∪ Text.Category.circledLetters ∪ Text.Category.otherNumbers).mask = 0 ∧
    parts.mask &&& (Text.Category.circledLetters ∪ Text.Category.otherNumbers).mask = 0 := by
  decide +kernel

theorem letters_has_of_eq {c : Char} (h : c = '_' ∨ c = '$') : letters.Has c := by
  have hsigns : ∀ sign ∈ ['_', '$'], letters.Has sign := Text.forall_mem_of_all (by decide +kernel)
  exact hsigns c (by simpa using h)

theorem parts_has_of_letters {c : Char} (h : letters.Has c) : parts.Has c := by
  simp only [parts, Text.CodeSet.has_union]
  exact Or.inl (Or.inl (Or.inl (Or.inl h)))

theorem parts_has_of_marks {c : Char} (h : Text.Category.marks.Has c) : parts.Has c := by
  simp only [parts, Text.CodeSet.has_union]
  exact Or.inl (Or.inl (Or.inr h))

/-- What is taken for a letter is one, or a mark, or a letter in a circle. -/
theorem has_of_isLetter {c : Char} (h : Text.isLetter c) :
    letters.Has c ∨ Text.Category.marks.Has c ∨ Text.Category.circledLetters.Has c := by
  have hhas := Text.CodeSet.has_of_land land_masks.1 (Text.CodeSet.has_of_contains h)
  rwa [Text.CodeSet.has_union, Text.CodeSet.has_union, or_assoc] at hhas

theorem has_of_isLetterOrDigit {c : Char} (h : Text.isLetterOrDigit c) :
    parts.Has c ∨ Text.Category.circledLetters.Has c ∨ Text.Category.otherNumbers.Has c := by
  rw [Text.isLetterOrDigit, Bool.or_eq_true] at h
  rcases h with hletter | hdigit
  · rcases has_of_isLetter hletter with hletters | hmark | hcircled
    · exact Or.inl (parts_has_of_letters hletters)
    · exact Or.inl (parts_has_of_marks hmark)
    · exact Or.inr (Or.inl hcircled)
  · have hhas := Text.CodeSet.has_of_land land_masks.2.1 (Text.CodeSet.has_of_contains hdigit)
    rw [Text.CodeSet.has_union] at hhas
    exact hhas.imp_right Or.inr

theorem not_has_of_letters {c : Char} (h : letters.Has c) : ¬ Text.Category.marks.Has c ∧
    ¬ Text.Category.circledLetters.Has c ∧ ¬ Text.Category.otherNumbers.Has c := by
  have hnot := Text.CodeSet.not_has_of_land land_masks.2.2.1 h
  rwa [Text.CodeSet.has_union, Text.CodeSet.has_union, not_or, not_or, and_assoc] at hnot

theorem not_has_of_parts {c : Char} (h : parts.Has c) :
    ¬ Text.Category.circledLetters.Has c ∧ ¬ Text.Category.otherNumbers.Has c := by
  have hnot := Text.CodeSet.not_has_of_land land_masks.2.2.2 h
  rwa [Text.CodeSet.has_union, not_or] at hnot

/-- The list of reserved words has all the keywords but one, and the words for values. -/
theorem mem_reserved_iff (name : String) :
    name ∈ reserved ↔ name ≠ "_" ∧ (name ∈ keywords ∨ name ∈ literals) := by
  have hwords : ∀ word ∈ reserved ++ keywords ++ literals,
      (word ∈ reserved ↔ word ≠ "_" ∧ (word ∈ keywords ∨ word ∈ literals)) := by
    decide +kernel
  rw [List.append_assoc, List.forall_mem_append, List.forall_mem_append] at hwords
  obtain ⟨hreserved, hkeyword, hliteral⟩ := hwords
  constructor
  · intro h
    exact (hreserved name h).mp h
  · rintro ⟨hne, h | h⟩
    · exact (hkeyword name h).mpr ⟨hne, Or.inl h⟩
    · exact (hliteral name h).mpr ⟨hne, Or.inr h⟩

/-- What is checked of a name. -/
theorem of_holder?_eq_some {stem name : String} (h : holder? stem = some name) :
    (∃ first rest, name.toList = first :: rest ∧
      (letters.Has first ∨ Text.Category.marks.Has first ∨
        Text.Category.circledLetters.Has first) ∧
      ∀ c ∈ rest, parts.Has c ∨ Text.Category.circledLetters.Has c ∨
        Text.Category.otherNumbers.Has c) ∧
    name ∉ reserved := by
  unfold holder? at h
  split at h
  · cases h
  · rename_i first rest hstem
    split at h
    · rename_i hvalid
      cases h
      simp only [Bool.and_eq_true, Bool.or_eq_true, decide_eq_true_iff, List.all_eq_true,
        or_assoc] at hvalid
      obtain ⟨⟨hfirst, hrest⟩, hreserved⟩ := hvalid
      refine ⟨⟨first, rest, hstem, ?_, fun c hc => ?_⟩, hreserved⟩
      · exact hfirst.elim has_of_isLetter fun h => Or.inl (letters_has_of_eq h)
      · exact (hrest c hc).elim has_of_isLetterOrDigit fun h =>
          Or.inl (parts_has_of_letters (letters_has_of_eq h))
    · cases h

/-- The name of the holder is the stem. It is a name for a class if it is none of six words, does
not begin with a mark, and has no letter in a circle and no number that is not a digit in it. -/
theorem holder_eq_stem_and_isClassName_iff {stem name : String} (h : holder? stem = some name) :
    name = stem ∧ (IsClassName name ↔ name ∉ "_" :: restricted ∧
      (∀ c ∈ name.toList.head?, ¬ Text.Category.marks.Has c) ∧
      ∀ c ∈ name.toList, ¬ Text.Category.circledLetters.Has c ∧
        ¬ Text.Category.otherNumbers.Has c) := by
  refine ⟨Settings.holder?_eq_some h, ?_⟩
  obtain ⟨⟨first, rest, hname, hfirst, hrest⟩, hreserved⟩ := of_holder?_eq_some h
  constructor
  · intro hclass
    obtain ⟨c, hc, hletter⟩ := hclass.first
    have hothers := hclass.others
    rw [hname] at hc hothers ⊢
    cases hc
    obtain ⟨hmark, hplain⟩ := not_has_of_letters hletter
    refine ⟨?_, ?_, ?_⟩
    · rw [List.mem_cons, not_or]
      refine ⟨fun hunderscore => hclass.not_keyword ?_, hclass.not_restricted⟩
      rw [hunderscore]
      decide
    · rintro _ ⟨⟩
      exact hmark
    · rw [List.forall_mem_cons]
      exact ⟨hplain, fun d hd => not_has_of_parts (hothers d hd)⟩
  · rintro ⟨hwords, hmark, hplain⟩
    rw [List.mem_cons, not_or] at hwords
    rw [hname] at hmark hplain
    have hnone := fun h => hreserved ((mem_reserved_iff name).mpr ⟨hwords.1, h⟩)
    have hletter : letters.Has first := by
      rcases hfirst with hletter | hfound | hcircled
      · exact hletter
      · exact absurd hfound (hmark first rfl)
      · exact absurd hcircled (hplain first List.mem_cons_self).1
    have hparts : ∀ c ∈ rest, parts.Has c := by
      intro c hc
      obtain ⟨hcircled, hnumber⟩ := hplain c (List.mem_cons_of_mem first hc)
      exact (hrest c hc).resolve_right (not_or.mpr ⟨hcircled, hnumber⟩)
    exact {
      first := ⟨first, by rw [hname]; rfl, hletter⟩
      others := by rwa [hname]
      not_keyword := fun h => hnone (Or.inl h)
      not_literal := fun h => hnone (Or.inr h)
      not_restricted := hwords.2 }

namespace Stems

theorem holder_eq_stem_and_isClassName_iff_of_stem :
    holder? "Été_2٤" = some "Été_2٤" ∧ IsClassName "Été_2٤" := by
  have h : holder? "Été_2٤" = some "Été_2٤" := by decide +kernel
  have hplain : ∀ c ∈ "Été_2٤".toList, ¬ Text.Category.marks.Has c ∧
      ¬ Text.Category.circledLetters.Has c ∧ ¬ Text.Category.otherNumbers.Has c :=
    Text.forall_mem_of_all (by decide +kernel)
  obtain ⟨-, hclass⟩ := holder_eq_stem_and_isClassName_iff h
  exact ⟨h, hclass.mpr ⟨by decide, fun c hc => (hplain c (List.mem_of_mem_head? hc)).1,
    fun c hc => (hplain c hc).2⟩⟩

/-- Names of holders that no class may have: a keyword, an identifier that is kept for types, a
number that is not a digit, a letter in a circle, and a mark in front. -/
theorem holders_without_class :
    (holder? "_" = some "_" ∧ ¬ IsClassName "_") ∧
    (holder? "var" = some "var" ∧ ¬ IsClassName "var") ∧
    (holder? "record" = some "record" ∧ ¬ IsClassName "record") ∧
    (holder? "x²" = some "x²" ∧ ¬ IsClassName "x²") ∧
    (holder? "xⒶ" = some "xⒶ" ∧ ¬ IsClassName "xⒶ") ∧
    (holder? "\u0345x" = some "\u0345x" ∧ ¬ IsClassName "\u0345x") := by
  decide +kernel

end Stems

end SchemaClasses.Java
