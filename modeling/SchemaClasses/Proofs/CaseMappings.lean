import SchemaClasses.Proofs.Capitals
import SchemaClasses.Proofs.CodeMasks

/-! Upper-case forms in the tables of Unicode. No form has a blank in it, and the first character of
a form is its own form, so a character that was raised once is raised for good. -/

namespace SchemaClasses.Text

namespace CaseMap

variable (m : CaseMap)

/-- The code points that have another form. -/
def sources : List Nat :=
  m.runs.flatMap (fun run => run.offsets.map (run.first + ·)) ++ m.longer.map Prod.fst

/-- The code points that other forms begin with. -/
def heads : List Nat :=
  m.runs.flatMap (fun run => run.offsets.map (run.target + ·)) ++ m.longer.filterMap (·.2.head?)

/-- The code points in other forms. -/
def images : List Nat :=
  m.runs.flatMap (fun run => run.offsets.map (run.target + ·)) ++ m.longer.flatMap Prod.snd

variable {m} {c : Char}

theorem apply_of_not_mem_sources (h : c.toNat ∉ m.sources) : m.apply c = [c] := by
  rw [sources, List.mem_append, not_or] at h
  rcases m.apply_cases c with ⟨image, himage, -⟩ | ⟨run, hrun, offset, hoffset, hcode, -⟩ | hself
  · exact absurd (List.mem_map_of_mem himage) h.2
  · refine absurd (List.mem_flatMap.mpr ⟨run, hrun, ?_⟩) h.1
    rw [hcode]
    exact List.mem_map_of_mem hoffset
  · exact hself

theorem mem_images_of_mem_apply {d : Char} (h : d ∈ m.apply c) :
    m.apply c = [c] ∧ d = c ∨ ∃ n ∈ m.images, d = Char.ofNat n := by
  rcases m.apply_cases c with ⟨image, himage, hc⟩ | ⟨run, hrun, offset, hoffset, -, hc⟩ | hc
  · rw [hc] at h
    obtain ⟨n, hn, rfl⟩ := List.mem_map.mp h
    exact Or.inr ⟨n, List.mem_append_right _ (List.mem_flatMap.mpr ⟨_, himage, hn⟩), rfl⟩
  · rw [hc, List.mem_singleton] at h
    refine Or.inr ⟨run.target + offset, List.mem_append_left _ ?_, h⟩
    exact List.mem_flatMap.mpr ⟨run, hrun, List.mem_map_of_mem hoffset⟩
  · rw [hc, List.mem_singleton] at h
    exact Or.inl ⟨hc, h⟩

theorem mem_heads_of_head?_apply {d : Char} (h : (m.apply c).head? = some d) :
    m.apply c = [d] ∧ d = c ∨ ∃ n ∈ m.heads, d = Char.ofNat n := by
  rcases m.apply_cases c with ⟨image, himage, hc⟩ | ⟨run, hrun, offset, hoffset, -, hc⟩ | hc
  · rw [hc, List.head?_map, Option.map_eq_some_iff] at h
    obtain ⟨n, hn, rfl⟩ := h
    exact Or.inr ⟨n, List.mem_append_right _ (List.mem_filterMap.mpr ⟨_, himage, hn⟩), rfl⟩
  · rw [hc, List.head?_singleton, Option.some.injEq] at h
    refine Or.inr ⟨run.target + offset, List.mem_append_left _ ?_, h.symm⟩
    exact List.mem_flatMap.mpr ⟨run, hrun, List.mem_map_of_mem hoffset⟩
  · rw [hc, List.head?_singleton, Option.some.injEq] at h
    exact Or.inl ⟨h ▸ hc, h.symm⟩

end CaseMap

/-- The blank characters as ranges of code points. -/
def blanks : CodeSet :=
  ⟨[(0x09, 0x0D), (0x20, 0x20), (0x85, 0x85), (0xA0, 0xA0), (0x1680, 0x1680), (0x2000, 0x200A),
    (0x2028, 0x2029), (0x202F, 0x202F), (0x205F, 0x205F), (0x3000, 0x3000)]⟩

theorem has_blanks_of_isBlank {c : Char} (h : isBlank c) : blanks.Has c := by
  simp only [isBlank, Bool.or_eq_true, Bool.and_eq_true, decide_eq_true_eq, beq_iff_eq] at h
  simp only [CodeSet.Has, blanks, List.mem_cons, List.not_mem_nil, or_false, exists_eq_or_imp,
    exists_eq_left]
  omega

/-- A number that is no code point is read as the code point zero. -/
theorem testBit_codesMask_toNat {codes : List Nat} {n : Nat} (hn : n ∈ codes) :
    (codesMask (0 :: codes)).testBit (Char.ofNat n).toNat := by
  rw [testBit_codesMask, List.mem_cons, Char.ofNat]
  by_cases hvalid : n.isValidChar
  · rw [dif_pos hvalid]
    exact Or.inr hn
  · rw [dif_neg hvalid]
    exact Or.inl rfl

/-- Forms without codes of a mask bring none into a text. -/
theorem CaseMap.testBit_of_mem_apply {m : CaseMap} {mask : Nat}
    (hmask : codesMask (0 :: m.images) &&& mask = 0) {c d : Char} (h : d ∈ m.apply c) :
    m.apply c = [c] ∧ d = c ∨ mask.testBit d.toNat = false := by
  refine (mem_images_of_mem_apply h).imp_right ?_
  rintro ⟨n, hn, rfl⟩
  exact testBit_eq_false_of_land hmask (testBit_codesMask_toNat hn)

/-- Forms without blanks bring no blanks into a text. -/
theorem CaseMap.isBlank_of_mem_apply {m : CaseMap}
    (hmask : codesMask (0 :: m.images) &&& blanks.mask = 0) {c d : Char}
    (hc : isBlank c = false) (h : d ∈ m.apply c) : isBlank d = false := by
  rcases testBit_of_mem_apply hmask h with ⟨-, rfl⟩ | hbit
  · exact hc
  · rw [Bool.eq_false_iff]
    intro hblank
    rw [(blanks.testBit_mask d).mpr (has_blanks_of_isBlank hblank)] at hbit
    cases hbit

/-- No form begins with a character that has another form, and none has a blank in it. -/
theorem upperCase_land_masks :
    codesMask (0 :: upperCase.heads) &&& codesMask upperCase.sources = 0 ∧
      codesMask (0 :: upperCase.images) &&& blanks.mask = 0 := by
  decide +kernel

theorem upper_ne_nil (c : Char) : upper c ≠ [] := by
  rcases upperCase.apply_cases c with ⟨image, himage, hc⟩ | ⟨_, _, _, _, _, hc⟩ | hc
  · rw [upper, hc, Ne, List.map_eq_nil_iff]
    exact (longer_bounds _ himage).2.1
  · rw [upper, hc]
    exact List.cons_ne_nil _ []
  · rw [upper, hc]
    exact List.cons_ne_nil c []

/-- Upper-case forms bring no blanks into a text. -/
theorem isBlank_of_mem_upper {c d : Char} (hc : isBlank c = false) (h : d ∈ upper c) :
    isBlank d = false :=
  CaseMap.isBlank_of_mem_apply upperCase_land_masks.2 hc h

/-- The first character of an upper-case form is its own upper-case form. -/
theorem exists_upper_eq_cons (c : Char) :
    ∃ head others, upper c = head :: others ∧ upper head = [head] := by
  obtain ⟨head, others, hc⟩ := List.exists_cons_of_ne_nil (upper_ne_nil c)
  refine ⟨head, others, hc, ?_⟩
  have hhead : (upperCase.apply c).head? = some head := by
    rw [← upper, hc, List.head?_cons]
  rcases CaseMap.mem_heads_of_head?_apply hhead with ⟨hself, rfl⟩ | ⟨n, hn, rfl⟩
  · exact hself
  · apply CaseMap.apply_of_not_mem_sources
    rw [← testBit_codesMask,
      testBit_eq_false_of_land upperCase_land_masks.1 (testBit_codesMask_toNat hn)]
    exact Bool.false_ne_true

/-- No upper-case form begins with a small letter of ASCII. -/
theorem isLower_of_upper_eq_self {c : Char} (h : upper c = [c]) : c.isLower = false := by
  rw [← toUpper_eq_self_iff]
  by_cases hcode : c.toNat < 0x7B
  · rw [upper_of_lt hcode] at h
    exact (List.cons.inj h).1
  · refine dif_neg fun hsmall => hcode (Nat.lt_succ_of_le ?_)
    exact hsmall.2

end SchemaClasses.Text
