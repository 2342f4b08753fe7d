import Mathlib.Data.List.DropRight
import Mathlib.Data.List.TakeWhile
import SchemaClasses.Text.Blank
import SchemaClasses.Text.Basic

/-! Texts without the blanks at their ends. A property that blanks cannot hide, because a text has
it just where the parts on both sides of a blank have it, is found again in the lines of a
description. -/

namespace SchemaClasses.Text

/-- What can be seen of a fixed text character by character. -/
theorem forall_mem_of_all {p : Char → Prop} [DecidablePred p] {cs : List Char}
    (h : cs.all (p ·)) : ∀ c ∈ cs, p c := by
  simpa using h

/-- Trimming leaves nothing of a text exactly if there is nothing else in it than blanks. -/
theorem trim_eq_nil_iff (cs : List Char) : trim cs = [] ↔ ∀ c ∈ cs, isBlank c := by
  rw [trim, trimEnd, List.reverse_eq_nil_iff, List.dropWhile_eq_nil_iff, trimStart]
  simp only [List.mem_reverse]
  constructor
  · intro h
    cases hdrop : cs.dropWhile isBlank with
    | nil => exact List.dropWhile_eq_nil_iff.mp hdrop
    | cons first rest =>
        have hhead := List.head?_dropWhile_not isBlank cs
        rw [hdrop] at hhead h
        have hfirst : isBlank first = false := hhead
        rw [h first List.mem_cons_self] at hfirst
        cases hfirst
  · intro h c hc
    exact h c ((List.dropWhile_suffix isBlank).mem hc)

theorem trimmed?_eq_some {s : String} (h : ¬ ∀ c ∈ s.toList, isBlank c) :
    trimmed? s = some (trimmed s) := by
  rw [← trim_eq_nil_iff] at h
  unfold trimmed? trimmed
  split
  · contradiction
  · rfl

theorem trimmed_ne_empty {s : String} (h : ¬ ∀ c ∈ s.toList, isBlank c) : trimmed s ≠ "" := by
  rw [← trim_eq_nil_iff] at h
  rw [trimmed, Ne, String.ofList_eq_empty_iff]
  exact h

theorem exists_trimEnd_append (cs : List Char) :
    ∃ blanks, trimEnd cs ++ blanks = cs ∧ ∀ c ∈ blanks, isBlank c :=
  ⟨cs.rtakeWhile isBlank, List.rdropWhile_append_rtakeWhile,
    fun _ => List.mem_rtakeWhile_imp⟩

/-- What is left of a text does not end with a blank. -/
theorem isBlank_of_getLast?_trimEnd {cs : List Char} {c : Char}
    (h : (trimEnd cs).getLast? = some c) : isBlank c = false := by
  obtain ⟨hne, rfl⟩ := List.mem_getLast?_eq_getLast h
  exact Bool.eq_false_iff.mpr (List.rdropWhile_last_not isBlank cs hne)

theorem exists_dropEnding_append (piece : List Char) :
    ∃ ending, dropEnding piece ++ ending = piece ∧ ∀ c ∈ ending, isBlank c := by
  have hpiece := List.reverse_reverse piece
  unfold dropEnding
  split
  · rename_i line hreverse
    refine ⟨['\r', '\n'], ?_, forall_mem_of_all (by decide)⟩
    rw [← hpiece, hreverse]
    simp
  · rename_i line _ hreverse
    refine ⟨['\n'], ?_, forall_mem_of_all (by decide)⟩
    rw [← hpiece, hreverse]
    simp
  · exact ⟨[], List.append_nil piece, fun _ h => absurd h List.not_mem_nil⟩

theorem pieces_eq_nil_iff (cs : List Char) : pieces cs = [] ↔ cs = [] := by
  cases cs with
  | nil => simp [pieces]
  | cons c cs =>
      rw [pieces]
      split
      · simp
      · split <;> simp

/-- The lines of a description as they stand in a comment. -/
def describedLines (cs : List Char) : List (List Char) :=
  (lines (trim cs)).map trimEnd

/-- A text has the property exactly if the parts of it around any blank have it. -/
structure SplitsAtBlanks (p : List Char → Prop) : Prop where
  nil : p []
  append_cons : ∀ a c b, isBlank c → (p (a ++ c :: b) ↔ p a ∧ p b)

namespace SplitsAtBlanks

variable {p : List Char → Prop} (hp : SplitsAtBlanks p)
include hp

theorem of_blanks {cs : List Char} (h : ∀ c ∈ cs, isBlank c) : p cs := by
  induction cs with
  | nil => exact hp.nil
  | cons c cs ih =>
      obtain ⟨hc, hcs⟩ := List.forall_mem_cons.mp h
      exact (hp.append_cons [] c cs hc).mpr ⟨hp.nil, ih hcs⟩

theorem append_blanks_iff {blanks : List Char} (h : ∀ c ∈ blanks, isBlank c) (cs : List Char) :
    p (cs ++ blanks) ↔ p cs := by
  cases blanks with
  | nil => rw [List.append_nil]
  | cons c blanks =>
      obtain ⟨hc, hblanks⟩ := List.forall_mem_cons.mp h
      rw [hp.append_cons cs c blanks hc]
      exact and_iff_left (hp.of_blanks hblanks)

theorem blanks_append_iff {blanks : List Char} (h : ∀ c ∈ blanks, isBlank c) (cs : List Char) :
    p (blanks ++ cs) ↔ p cs := by
  induction blanks with
  | nil => exact Iff.rfl
  | cons c blanks ih =>
      obtain ⟨hc, hblanks⟩ := List.forall_mem_cons.mp h
      rw [← ih hblanks]
      exact (hp.append_cons [] c (blanks ++ cs) hc).trans (and_iff_right hp.nil)

theorem trimEnd_iff (cs : List Char) : p (trimEnd cs) ↔ p cs := by
  obtain ⟨blanks, hcs, hblanks⟩ := exists_trimEnd_append cs
  rw [← hp.append_blanks_iff hblanks (trimEnd cs), hcs]

theorem trim_iff (cs : List Char) : p (trim cs) ↔ p cs := by
  have hstart : ∀ c ∈ cs.takeWhile isBlank, isBlank c := fun _ => List.mem_takeWhile_imp
  rw [trim, hp.trimEnd_iff, trimStart, ← hp.blanks_append_iff hstart,
    List.takeWhile_append_dropWhile]

theorem dropEnding_iff (piece : List Char) : p (dropEnding piece) ↔ p piece := by
  obtain ⟨ending, hpiece, hending⟩ := exists_dropEnding_append piece
  rw [← hp.append_blanks_iff hending (dropEnding piece), hpiece]

/-- A text of whole lines, each with blanks before it, has the property where its lines have it. -/
theorem flatMap_append_iff {blanks : List Char} (h : ∀ c ∈ blanks, isBlank c)
    (texts : List (List Char)) (last : List Char) :
    p (texts.flatMap (fun text => (blanks ++ text) ++ ['\n']) ++ last) ↔
      (∀ text ∈ texts, p text) ∧ p last := by
  induction texts with
  | nil => simp
  | cons text texts ih =>
      rw [List.flatMap_cons, List.append_assoc, List.append_assoc, List.singleton_append,
        hp.append_cons _ '\n' _ (by decide), hp.blanks_append_iff h, ih, List.forall_mem_cons,
        and_assoc]

/-- The first piece is told with what stands before the text, for the induction on the text. -/
theorem append_pieces_iff {cs piece : List Char} {others : List (List Char)}
    (h : pieces cs = piece :: others) (before : List Char) :
    (p (before ++ piece) ∧ ∀ other ∈ others, p other) ↔ p (before ++ cs) := by
  induction cs generalizing piece others before with
  | nil => cases h
  | cons c cs ih =>
      rw [pieces] at h
      by_cases hc : c = '\n'
      · have hblank : isBlank c := by rw [hc]; decide
        rw [if_pos hc] at h
        obtain ⟨rfl, rfl⟩ := List.cons.inj h
        have hrest : (∀ other ∈ pieces cs, p other) ↔ p cs := by
          cases hpieces : pieces cs with
          | nil => simp [(pieces_eq_nil_iff cs).mp hpieces, hp.nil]
          | cons first others => rw [List.forall_mem_cons]; exact ih hpieces []
        rw [hp.append_cons before c cs hblank, hp.append_cons before c [] hblank, hrest,
          and_iff_left hp.nil]
      · rw [if_neg hc] at h
        cases hpieces : pieces cs with
        | nil =>
            rw [hpieces] at h
            obtain ⟨rfl, rfl⟩ := List.cons.inj h
            simp [(pieces_eq_nil_iff cs).mp hpieces]
        | cons first rest =>
            rw [hpieces] at h
            obtain ⟨rfl, rfl⟩ := List.cons.inj h
            have hmoved := ih hpieces (before ++ [c])
            rwa [← List.append_cons, ← List.append_cons] at hmoved

theorem forall_pieces_iff (cs : List Char) : (∀ piece ∈ pieces cs, p piece) ↔ p cs := by
  cases hpieces : pieces cs with
  | nil => simp [(pieces_eq_nil_iff cs).mp hpieces, hp.nil]
  | cons piece others =>
      rw [List.forall_mem_cons]
      exact hp.append_pieces_iff hpieces []

/-- The lines in a comment have the property where the description has it. -/
theorem forall_describedLines_iff (cs : List Char) : (∀ line ∈ describedLines cs, p line) ↔ p cs := by
  rw [describedLines, lines, ← hp.trim_iff cs, ← hp.forall_pieces_iff]
  simp only [List.forall_mem_map, hp.trimEnd_iff, hp.dropEnding_iff]

end SplitsAtBlanks

end SchemaClasses.Text
