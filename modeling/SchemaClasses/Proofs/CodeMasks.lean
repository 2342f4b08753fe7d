import Mathlib.Data.Nat.Bitwise
import SchemaClasses.Text.Basic

/-! Sets of code points as the bits of one number. What two tables have in common, and whether all
that is in one table is in another, is then seen from a few operations on numbers, where a search
for every code point would take too long. -/

namespace SchemaClasses.Text

/-- The number with a bit for each of the codes. -/
def codesMask (codes : List Nat) : Nat :=
  codes.foldr (fun n bits => 2 ^ n ||| bits) 0

/-- The number with a bit for each code in one of the ranges. -/
def rangesMask (ranges : List (Nat × Nat)) : Nat :=
  ranges.foldr (fun range bits => (2 ^ (range.2 + 1 - range.1) - 1) <<< range.1 ||| bits) 0

theorem testBit_codesMask (codes : List Nat) (n : Nat) :
    (codesMask codes).testBit n ↔ n ∈ codes := by
  induction codes with
  | nil => simp [codesMask]
  | cons code codes ih =>
      rw [codesMask, List.foldr_cons, ← codesMask, Nat.testBit_lor, Nat.testBit_two_pow,
        Bool.or_eq_true, decide_eq_true_iff, ih, List.mem_cons, eq_comm]

theorem testBit_rangesMask (ranges : List (Nat × Nat)) (n : Nat) :
    (rangesMask ranges).testBit n ↔ ∃ range ∈ ranges, range.1 ≤ n ∧ n ≤ range.2 := by
  induction ranges with
  | nil => simp [rangesMask]
  | cons range ranges ih =>
      have hrange : ((2 ^ (range.2 + 1 - range.1) - 1) <<< range.1).testBit n ↔
          range.1 ≤ n ∧ n ≤ range.2 := by
        rw [Nat.testBit_shiftLeft, Nat.testBit_two_pow_sub_one, Bool.and_eq_true,
          decide_eq_true_iff, decide_eq_true_iff]
        omega
      rw [rangesMask, List.foldr_cons, ← rangesMask, Nat.testBit_lor, Bool.or_eq_true, hrange, ih]
      simp

/-- What is in a set of codes that has nothing in common with another is not in that one. -/
theorem testBit_eq_false_of_land {a b : Nat} (h : a &&& b = 0) {n : Nat} (ha : a.testBit n) :
    b.testBit n = false := by
  have hbit := Nat.testBit_land a b n
  rw [h, Nat.zero_testBit, ha, Bool.true_and] at hbit
  exact hbit.symm

/-- What is in a set of codes is in every set that holds all of them. -/
theorem testBit_of_land {a b : Nat} (h : a &&& b = a) {n : Nat} (ha : a.testBit n) :
    b.testBit n := by
  have hbit := Nat.testBit_land a b n
  rwa [h, ha, Bool.true_and, eq_comm] at hbit

namespace CodeSet

/-- The character is in one of the ranges. -/
def Has (s : CodeSet) (c : Char) : Prop :=
  ∃ range ∈ s.ranges, range.1 ≤ c.toNat ∧ c.toNat ≤ range.2

instance (s : CodeSet) (c : Char) : Decidable (s.Has c) :=
  List.decidableBEx (fun range : Nat × Nat => range.1 ≤ c.toNat ∧ c.toNat ≤ range.2) s.ranges

def mask (s : CodeSet) : Nat :=
  rangesMask s.ranges

theorem testBit_mask (s : CodeSet) (c : Char) : s.mask.testBit c.toNat ↔ s.Has c :=
  testBit_rangesMask s.ranges c.toNat

/-- A search finds only what is there. -/
theorem has_of_contains {s : CodeSet} {c : Char} (h : s.contains c) : s.Has c := by
  have hcovers : ∀ ranges : List (Nat × Nat), covers ranges c.toNat →
      ∃ range ∈ ranges, range.1 ≤ c.toNat ∧ c.toNat ≤ range.2 := by
    intro ranges h
    induction ranges with
    | nil => cases h
    | cons range ranges ih =>
        rw [covers] at h
        split at h
        · obtain ⟨found, hfound, hbounds⟩ := ih h
          exact ⟨found, List.mem_cons_of_mem range hfound, hbounds⟩
        · rename_i hlast
          exact ⟨range, List.mem_cons_self, of_decide_eq_true h, Nat.le_of_not_lt hlast⟩
  exact hcovers s.ranges h

instance : Union CodeSet where
  union s t := ⟨s.ranges ++ t.ranges⟩

theorem has_union {s t : CodeSet} {c : Char} : (s ∪ t).Has c ↔ s.Has c ∨ t.Has c := by
  change (∃ range ∈ s.ranges ++ t.ranges, _) ↔ _
  simp only [List.mem_append, or_and_right, exists_or, Has]

theorem has_of_land {s t : CodeSet} (h : s.mask &&& t.mask = s.mask) {c : Char} (hs : s.Has c) :
    t.Has c := by
  rw [← testBit_mask] at hs ⊢
  exact testBit_of_land h hs

theorem not_has_of_land {s t : CodeSet} (h : s.mask &&& t.mask = 0) {c : Char} (hs : s.Has c) :
    ¬ t.Has c := by
  rw [← testBit_mask] at hs ⊢
  rw [testBit_eq_false_of_land h hs]
  exact Bool.false_ne_true

end CodeSet

end SchemaClasses.Text
