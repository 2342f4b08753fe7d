import SchemaClasses.Text.Case

/-! Upper-case forms, and texts in word case. Raising a word puts letters into it and nothing else,
and leaves a name without blanks one word. -/

namespace SchemaClasses.Text

/-- The code points between `@` and the opening brace, and those behind the closing brace. -/
def IsRaised (n : Nat) : Prop :=
  0x41 ≤ n ∧ n < 0x7B ∨ 0x7D < n

instance (n : Nat) : Decidable (IsRaised n) :=
  inferInstanceAs (Decidable (_ ∨ _))

/-- How far the code points of a run are behind its first one. -/
def CaseRun.offsets (run : CaseRun) : List Nat :=
  (List.range (run.last - run.first + 1)).filter (· % run.step = 0)

theorem CaseRun.exists_offset {run : CaseRun} {n image : Nat} (h : run.image? n = some image) :
    ∃ offset ∈ run.offsets, n = run.first + offset ∧ image = run.target + offset := by
  unfold image? at h
  split at h
  · rename_i hinside
    obtain ⟨hfirst, hlast, hstep⟩ := hinside
    refine ⟨n - run.first, ?_, by omega, (Option.some.inj h).symm⟩
    rw [offsets, List.mem_filter, List.mem_range]
    exact ⟨by omega, by simpa using hstep⟩
  · cases h

/-- A character has its form from one of the longer mappings or from a run, or is its own form. -/
theorem CaseMap.apply_cases (m : CaseMap) (c : Char) :
    (∃ image, (c.toNat, image) ∈ m.longer ∧ m.apply c = image.map Char.ofNat) ∨
    (∃ run ∈ m.runs, ∃ offset ∈ run.offsets, c.toNat = run.first + offset ∧
      m.apply c = [Char.ofNat (run.target + offset)]) ∨
    m.apply c = [c] := by
  unfold apply
  split
  · rename_i image himage
    obtain ⟨before, behind, hlonger, _⟩ := List.lookup_eq_some_iff.mp himage
    refine Or.inl ⟨image, ?_, rfl⟩
    rw [hlonger]
    exact List.mem_append_right before List.mem_cons_self
  · right
    split
    · rename_i image himage
      obtain ⟨run, hrun, hrunImage⟩ := List.exists_of_findSome?_eq_some himage
      obtain ⟨offset, hoffset, hcode, rfl⟩ := CaseRun.exists_offset hrunImage
      exact Or.inl ⟨run, hrun, offset, hoffset, hcode, rfl⟩
    · exact Or.inr rfl

theorem runs_bounds : ∀ run ∈ upperCase.runs, 0x61 ≤ run.first ∧
    (0x41 ≤ run.target ∧ run.target + (run.last - run.first) < 0x7B ∨ 0x7D < run.target) := by
  decide +kernel

theorem longer_bounds : ∀ entry ∈ upperCase.longer,
    0x7B ≤ entry.1 ∧ entry.2 ≠ [] ∧ ∀ n ∈ entry.2, IsRaised n := by
  decide +kernel

/-- An upper-case form has neither braces nor any of the signs before the letters in it, unless it
is the character itself. -/
theorem mem_upper {b c : Char} (h : c ∈ upper b) : c = b ∨ ∃ n, IsRaised n ∧ c = Char.ofNat n := by
  rw [upper] at h
  rcases upperCase.apply_cases b with ⟨image, himage, hb⟩ | ⟨run, hrun, offset, hoffset, -, hb⟩ | hb
  · rw [hb] at h
    obtain ⟨n, hn, rfl⟩ := List.mem_map.mp h
    exact Or.inr ⟨n, (longer_bounds _ himage).2.2 n hn, rfl⟩
  · rw [hb] at h
    have hbounds := (runs_bounds run hrun).2
    rw [CaseRun.offsets, List.mem_filter, List.mem_range] at hoffset
    have hraised : IsRaised (run.target + offset) := by
      unfold IsRaised
      omega
    exact Or.inr ⟨_, hraised, List.mem_singleton.mp h⟩
  · rw [hb] at h
    exact Or.inl (List.mem_singleton.mp h)

section Words

variable {cs : List Char}

theorem mem_of_mem_cutWord :
    (∀ c ∈ (cutWord cs).1, c ∈ cs) ∧ ∀ word ∈ (cutWord cs).2, ∀ c ∈ word, c ∈ cs := by
  induction cs with
  | nil => simp [cutWord]
  | cons c cs ih =>
      obtain ⟨hword, hothers⟩ := ih
      rw [cutWord]
      by_cases hc : isBlank c
      · simp only [if_pos hc]
        refine ⟨fun _ h => absurd h List.not_mem_nil, ?_⟩
        intro word h c' hc'
        split at h
        · exact List.mem_cons_of_mem c (hothers word h c' hc')
        · rcases List.mem_cons.mp h with rfl | h
          · exact List.mem_cons_of_mem c (hword c' hc')
          · exact List.mem_cons_of_mem c (hothers word h c' hc')
      · simp only [if_neg hc]
        refine ⟨?_, fun word h c' hc' => List.mem_cons_of_mem c (hothers word h c' hc')⟩
        intro c' h
        rcases List.mem_cons.mp h with rfl | h
        · exact List.mem_cons_self
        · exact List.mem_cons_of_mem c (hword c' h)

theorem mem_of_mem_words {word : List Char} (hword : word ∈ words cs) {c : Char} (hc : c ∈ word) :
    c ∈ cs := by
  unfold words at hword
  simp only at hword
  split at hword
  · exact mem_of_mem_cutWord.2 word hword c hc
  · rcases List.mem_cons.mp hword with rfl | hword
    · exact mem_of_mem_cutWord.1 c hc
    · exact mem_of_mem_cutWord.2 word hword c hc

theorem mem_of_mem_intercalate {sep : List Char} {texts : List (List Char)} {c : Char}
    (h : c ∈ sep.intercalate texts) : c ∈ sep ∨ ∃ text ∈ texts, c ∈ text := by
  induction texts with
  | nil => simp [List.intercalate] at h
  | cons text texts ih =>
      cases texts with
      | nil => exact Or.inr ⟨text, List.mem_cons_self, by simpa [List.intercalate] using h⟩
      | cons next texts =>
          rw [List.intercalate_cons_cons, List.mem_append, List.mem_append] at h
          rcases h with (h | h) | h
          · exact Or.inr ⟨text, List.mem_cons_self, h⟩
          · exact Or.inl h
          · obtain hsep | ⟨text', htext', hmem⟩ := ih h
            · exact Or.inl hsep
            · exact Or.inr ⟨text', List.mem_cons_of_mem text htext', hmem⟩

end Words

theorem mem_pascalCase {s : String} {c : Char} (h : c ∈ (pascalCase s).toList) :
    c ∈ s.toList ∨ c = ' ' ∨ ∃ n, IsRaised n ∧ c = Char.ofNat n := by
  rw [pascalCase, String.toList_ofList] at h
  rcases mem_of_mem_intercalate h with hsep | ⟨raised, hraised, hmem⟩
  · exact Or.inr (Or.inl (List.mem_singleton.mp hsep))
  · obtain ⟨word, hword, rfl⟩ := List.mem_map.mp hraised
    cases word with
    | nil => cases hmem
    | cons first rest =>
        rcases List.mem_append.mp hmem with hfirst | hrest
        · rcases mem_upper hfirst with rfl | hletter
          · exact Or.inl (mem_of_mem_words hword List.mem_cons_self)
          · exact Or.inr (Or.inr hletter)
        · exact Or.inl (mem_of_mem_words hword (List.mem_cons_of_mem first hrest))

theorem cutWord_of_no_blank {cs : List Char} (h : ∀ c ∈ cs, isBlank c = false) :
    cutWord cs = (cs, []) := by
  induction cs with
  | nil => rfl
  | cons c cs ih =>
      rw [cutWord, ih fun c' hc' => h c' (List.mem_cons_of_mem c hc')]
      simp [h c List.mem_cons_self]

/-- A text without blanks is one word. -/
theorem pascal_cons {first : Char} {rest : List Char}
    (h : ∀ c ∈ first :: rest, isBlank c = false) : pascal (first :: rest) = upper first ++ rest := by
  rw [pascal, joinWords, words, cutWord_of_no_blank h]
  simp [raise, List.intercalate]

/-- What holds for every code point in a range holds for the characters in it. -/
theorem of_mem_range (p : Char → Prop) (low high : Nat)
    (h : ∀ n < high, low ≤ n → p (Char.ofNat n)) {c : Char} (hlow : low ≤ c.toNat)
    (hhigh : c.toNat < high) : p c := by
  have hc := h c.toNat hhigh hlow
  rwa [Char.ofNat_toNat] at hc

/-- Of the letters, digits and signs of ASCII only the small letters have another upper-case
form. -/
theorem upper_of_lt {c : Char} (h : c.toNat < 0x7B) : upper c = [c.toUpper] := by
  by_cases hsmall : 0x61 ≤ c.toNat
  · exact of_mem_range (fun c => upper c = [c.toUpper]) 0x61 0x7B (by decide +kernel) hsmall h
  · have hself : c.toUpper = c := dif_neg fun hletter => hsmall hletter.1
    rw [upper, hself]
    rcases upperCase.apply_cases c with ⟨image, himage, -⟩ | ⟨run, hrun, offset, -, hcode, -⟩ | hc
    · have hkey := (longer_bounds _ himage).1
      omega
    · have hfirst := (runs_bounds run hrun).1
      omega
    · exact hc

theorem toUpper_eq_self_iff (c : Char) : c.toUpper = c ↔ c.isLower = false := by
  have hlower : c.isLower = true ↔ c.val ≥ 97 ∧ c.val ≤ 122 := by
    change (decide (c.val ≥ 97) && decide (c.val ≤ 122)) = true ↔ _
    rw [Bool.and_eq_true, decide_eq_true_iff, decide_eq_true_iff]
  rw [← Bool.not_eq_true, hlower]
  constructor
  · intro hself hsmall
    have hother := of_mem_range (fun c => c.toUpper ≠ c) 0x61 0x7B (by decide) hsmall.1
      (Nat.lt_succ_of_le hsmall.2)
    exact hother hself
  · exact fun hother => dif_neg hother

theorem toLower_eq_self_or (c : Char) : c.toLower = c ∨ c.toLower.toUpper = c := by
  by_cases hcapital : c.val ≥ 65 ∧ c.val ≤ 90
  · have hletter := of_mem_range (fun c => c.toLower.toUpper = c) 0x41 0x5B (by decide) hcapital.1
      (Nat.lt_succ_of_le hcapital.2)
    exact Or.inr hletter
  · exact Or.inl (dif_neg hcapital)

/-- A capital is its own capital, and tells the small letter that it is the capital of. -/
theorem toUpper_eq_self_or (c : Char) :
    c.toUpper = c ∨ c.toUpper.toUpper = c.toUpper ∧ c.toUpper.toLower = c := by
  by_cases hsmall : c.val ≥ 97 ∧ c.val ≤ 122
  · have hletter := of_mem_range (fun c => c.toUpper.toUpper = c.toUpper ∧ c.toUpper.toLower = c)
      0x61 0x7B (by decide) hsmall.1 (Nat.lt_succ_of_le hsmall.2)
    exact Or.inr hletter
  · exact Or.inl (dif_neg hsmall)

end SchemaClasses.Text
