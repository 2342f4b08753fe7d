import SchemaClasses.Proofs.WordCase

/-! Capitalised words: each has its first character raised and all others in lower case. Lower case
is final, since a lower-case form has none but lower-case characters in it, whatever form a sigma
takes. An upper-case form may be longer than one character, and then what stands behind its first
character is not put in lower case before the word is capitalised once more. -/

namespace SchemaClasses

namespace Text

/-! ### Lower-case forms -/

/-- The character is its own lower-case form. -/
def IsSmall (c : Char) : Prop :=
  lower [c] = [c]

instance (c : Char) : Decidable (IsSmall c) :=
  inferInstanceAs (Decidable (_ = _))

/-- No lower-case form has a character in it that has another lower-case form, and none has a blank
in it. -/
theorem lowerCase_land_masks :
    codesMask (0 :: lowerCase.images) &&& codesMask lowerCase.sources = 0 ∧
      codesMask (0 :: lowerCase.images) &&& blanks.mask = 0 := by
  decide +kernel

theorem sigma_eq (before after : List Char) :
    sigma before after = 'ς' ∨ sigma before after = 'σ' := by
  unfold sigma
  split
  · exact Or.inl rfl
  · exact Or.inr rfl

theorem isSmall_sigma (before after : List Char) : IsSmall (sigma before after) := by
  rcases sigma_eq before after with h | h <;> rw [h] <;> decide +kernel

theorem isSmall_iff {c : Char} : IsSmall c ↔ c ≠ 'Σ' ∧ lowerCase.apply c = [c] := by
  rw [IsSmall, lower, lowerAfter, lowerAfter, List.append_nil]
  by_cases hc : c = 'Σ'
  · subst hc
    decide
  · simp [hc]

theorem isSmall_of_mem_apply {c d : Char} (hc : c ≠ 'Σ') (h : d ∈ lowerCase.apply c) :
    IsSmall d := by
  rcases CaseMap.testBit_of_mem_apply lowerCase_land_masks.1 h with ⟨hself, rfl⟩ | hbit
  · exact isSmall_iff.mpr ⟨hc, hself⟩
  · have hsource : d.toNat ∉ lowerCase.sources := by
      rw [← testBit_codesMask, hbit]
      exact Bool.false_ne_true
    refine isSmall_iff.mpr ⟨?_, CaseMap.apply_of_not_mem_sources hsource⟩
    rintro rfl
    revert hsource
    decide +kernel

theorem isSmall_of_mem_lowerAfter {before cs : List Char} {d : Char}
    (h : d ∈ lowerAfter before cs) : IsSmall d := by
  induction cs generalizing before with
  | nil => cases h
  | cons c cs ih =>
      rw [lowerAfter, List.mem_append] at h
      rcases h with h | h
      · by_cases hc : c = 'Σ'
        · rw [if_pos hc, List.mem_singleton] at h
          rw [h]
          exact isSmall_sigma before cs
        · rw [if_neg hc] at h
          exact isSmall_of_mem_apply hc h
      · exact ih h

theorem lowerAfter_eq_self {cs : List Char} (h : ∀ c ∈ cs, IsSmall c) (before : List Char) :
    lowerAfter before cs = cs := by
  induction cs generalizing before with
  | nil => rfl
  | cons c cs ih =>
      obtain ⟨hc, hcs⟩ := List.forall_mem_cons.mp h
      obtain ⟨hsigma, hself⟩ := isSmall_iff.mp hc
      rw [lowerAfter, if_neg hsigma, hself, ih hcs]
      rfl

/-- A text is in lower case if each of its characters is, wherever it stands. -/
theorem lower_eq_self_iff {cs : List Char} : lower cs = cs ↔ ∀ c ∈ cs, IsSmall c := by
  refine ⟨fun h c hc => ?_, fun h => lowerAfter_eq_self h []⟩
  rw [← h] at hc
  exact isSmall_of_mem_lowerAfter hc

theorem isBlank_of_mem_lowerAfter {before cs : List Char} (hcs : ∀ c ∈ cs, isBlank c = false)
    {d : Char} (h : d ∈ lowerAfter before cs) : isBlank d = false := by
  induction cs generalizing before with
  | nil => cases h
  | cons c cs ih =>
      obtain ⟨hc, hrest⟩ := List.forall_mem_cons.mp hcs
      rw [lowerAfter, List.mem_append] at h
      rcases h with h | h
      · by_cases hsigma : c = 'Σ'
        · rw [if_pos hsigma, List.mem_singleton] at h
          rcases sigma_eq before cs with heq | heq <;> rw [h, heq] <;> decide
        · rw [if_neg hsigma] at h
          exact CaseMap.isBlank_of_mem_apply lowerCase_land_masks.2 hc h
      · exact ih hrest h

/-! ### Capitalised words -/

/-- Every character of the word behind the first is its own lower-case form. -/
def HasSmallTail (word : List Char) : Prop :=
  ∀ c ∈ word.tail, IsSmall c

/-- Of the upper-case form of the first character, all that stands behind the first character of
the form is its own lower-case form. -/
def RaisesSmall (word : List Char) : Prop :=
  ∀ first ∈ word.head?, ∀ c ∈ (upper first).tail, IsSmall c

theorem isWord_raise_lower {word : List Char} (h : IsWord word) : IsWord (raise lower word) := by
  obtain ⟨first, rest, rfl⟩ := List.exists_cons_of_ne_nil h.1
  obtain ⟨hfirst, hrest⟩ := List.forall_mem_cons.mp h.2
  refine ⟨List.append_ne_nil_of_left_ne_nil (upper_ne_nil first) _, fun c hc => ?_⟩
  rcases List.mem_append.mp hc with hc | hc
  · exact isBlank_of_mem_upper hfirst hc
  · exact isBlank_of_mem_lowerAfter hrest hc

/-- A capitalised word begins with a character that is its own upper-case form. What is behind it
is the rest of a longer upper-case form, and then lower case. -/
theorem exists_raise_lower_eq_cons {word : List Char} (h : word ≠ []) :
    ∃ head others rest, raise lower word = head :: (others ++ lower rest) ∧ upper head = [head] ∧
      (RaisesSmall word ↔ ∀ c ∈ others, IsSmall c) := by
  obtain ⟨first, rest, rfl⟩ := List.exists_cons_of_ne_nil h
  obtain ⟨head, others, hupper, hhead⟩ := exists_upper_eq_cons first
  refine ⟨head, others, rest, ?_, hhead, ?_⟩
  · rw [raise, hupper]
    rfl
  · simp [RaisesSmall, hupper]

theorem hasSmallTail_raise_lower {word : List Char} (h : word ≠ []) :
    HasSmallTail (raise lower word) ↔ RaisesSmall word := by
  obtain ⟨head, others, rest, hraise, -, hsmall⟩ := exists_raise_lower_eq_cons h
  rw [hraise, hsmall, HasSmallTail, List.tail_cons]
  simp only [List.mem_append, or_imp, forall_and]
  exact and_iff_left fun c => isSmall_of_mem_lowerAfter

/-- A word whose first character is its own upper-case form raises nothing but that. -/
theorem raisesSmall_raise_lower {word : List Char} (h : word ≠ []) :
    RaisesSmall (raise lower word) := by
  obtain ⟨head, others, rest, hraise, hhead, -⟩ := exists_raise_lower_eq_cons h
  simp [hraise, RaisesSmall, hhead]

theorem raise_lower_raise_lower_iff {word : List Char} (h : word ≠ []) :
    raise lower (raise lower word) = raise lower word ↔ RaisesSmall word := by
  rw [← hasSmallTail_raise_lower h]
  obtain ⟨head, others, rest, hraise, hhead, -⟩ := exists_raise_lower_eq_cons h
  rw [hraise, raise, hhead, List.singleton_append, List.cons_inj_right, lower_eq_self_iff]
  rfl

/-! ### Capitalised texts -/

theorem words_capitalized (cs : List Char) :
    words (capitalized cs) = (words cs).map (raise lower) :=
  words_joinWords fun _ => isWord_raise_lower

theorem capitalized_capitalized_iff (cs : List Char) :
    capitalized (capitalized cs) = capitalized cs ↔ ∀ word ∈ words cs, RaisesSmall word := by
  have hwords : capitalized (capitalized cs) = capitalized cs ↔
      words (capitalized (capitalized cs)) = words (capitalized cs) := by
    refine ⟨congrArg words, fun h => ?_⟩
    rw [words_capitalized] at h
    have hjoined : joined ((words (capitalized cs)).map (raise lower)) = capitalized cs := by
      rw [h, words_capitalized]
      rfl
    exact hjoined
  rw [hwords, words_capitalized, words_capitalized, List.map_map, List.map_inj_left]
  exact forall₂_congr fun word hword =>
    raise_lower_raise_lower_iff (isWord_of_mem_words hword).1

theorem hasSmallTail_capitalized_iff (cs : List Char) :
    (∀ word ∈ words (capitalized cs), HasSmallTail word) ↔ ∀ word ∈ words cs, RaisesSmall word := by
  rw [words_capitalized, List.forall_mem_map]
  exact forall₂_congr fun word hword => hasSmallTail_raise_lower (isWord_of_mem_words hword).1

theorem raisesSmall_of_mem_words_capitalized {cs word : List Char}
    (h : word ∈ words (capitalized cs)) : RaisesSmall word := by
  rw [words_capitalized] at h
  obtain ⟨unraised, hunraised, rfl⟩ := List.mem_map.mp h
  exact raisesSmall_raise_lower (isWord_of_mem_words hunraised).1

theorem toList_capitalize (x : String) : (capitalize x).toList = capitalized x.toList :=
  String.toList_ofList

end Text

/-- A capitalised text is left as it is when it is capitalised again exactly if behind the first
character of each of its words there is nothing but lower case, and this depends on the characters
that its words begin with. A text that is capitalised twice is always so. -/
theorem capitalize_capitalize_iff (x : String) :
    (Text.capitalize (Text.capitalize x) = Text.capitalize x ↔
      ∀ word ∈ Text.words x.toList, Text.RaisesSmall word) ∧
    ((∀ word ∈ Text.words (Text.capitalize x).toList, Text.HasSmallTail word) ↔
      ∀ word ∈ Text.words x.toList, Text.RaisesSmall word) ∧
    Text.capitalize (Text.capitalize (Text.capitalize x)) = Text.capitalize (Text.capitalize x) ∧
    ∀ word ∈ Text.words (Text.capitalize (Text.capitalize x)).toList, Text.HasSmallTail word := by
  have hagain : ∀ word ∈ Text.words (Text.capitalize x).toList, Text.RaisesSmall word := by
    rw [Text.toList_capitalize]
    exact fun word => Text.raisesSmall_of_mem_words_capitalized
  have hstable : ∀ y : String, Text.capitalize (Text.capitalize y) = Text.capitalize y ↔
      ∀ word ∈ Text.words y.toList, Text.RaisesSmall word := by
    intro y
    rw [← String.toList_inj, Text.toList_capitalize, Text.toList_capitalize]
    exact Text.capitalized_capitalized_iff y.toList
  have htails : ∀ y : String, (∀ word ∈ Text.words (Text.capitalize y).toList,
      Text.HasSmallTail word) ↔ ∀ word ∈ Text.words y.toList, Text.RaisesSmall word := by
    intro y
    rw [Text.toList_capitalize]
    exact Text.hasSmallTail_capitalized_iff y.toList
  exact ⟨hstable x, htails x, (hstable _).mpr hagain, (htails _).mpr hagain⟩

namespace Eszett

/-- The upper-case form of the first character is two capitals, and the second of them is put in
lower case only when the word is capitalised again. -/
theorem capitalize_twice_ne_once :
    Text.capitalize "ß" = "SS" ∧ Text.capitalize (Text.capitalize "ß") = "Ss" ∧
    Text.capitalize (Text.capitalize "ß") ≠ Text.capitalize "ß" ∧
    ¬ ∀ word ∈ Text.words (Text.capitalize "ß").toList, Text.HasSmallTail word := by
  refine ⟨by decide +kernel, by decide +kernel, by decide +kernel, fun hsmall => ?_⟩
  have hword : ['S', 'S'] ∈ Text.words (Text.capitalize "ß").toList := by decide +kernel
  have hcapital : ¬ Text.IsSmall 'S' := by decide
  exact hcapital (hsmall _ hword 'S' List.mem_cons_self)

end Eszett

end SchemaClasses
