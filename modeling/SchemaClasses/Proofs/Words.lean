import Mathlib.Data.List.Chain
import SchemaClasses.Proofs.Capitals

/-! Words. A text is cut at its blanks into words, and words are put together with one space between
each two. The words of a text that was put together are the words that it was put together from, so
cutting and putting together once more changes nothing. -/

namespace SchemaClasses.Text

/-- Something, and no blank in it. -/
def IsWord (cs : List Char) : Prop :=
  cs ≠ [] ∧ ∀ c ∈ cs, isBlank c = false

/-! ### Cutting -/

/-- The words of a text are what stands between its blanks, where anything stands there. -/
theorem words_eq_filter (cs : List Char) :
    words cs = (cs.splitOnP isBlank).filter fun part => !part.isEmpty := by
  have hcut : ∃ others, cs.splitOnP isBlank = (cutWord cs).1 :: others ∧
      others.filter (fun part => !part.isEmpty) = (cutWord cs).2 := by
    induction cs with
    | nil => exact ⟨[], List.splitOnP_nil, rfl⟩
    | cons c cs ih =>
        obtain ⟨others, hsplit, hothers⟩ := ih
        rw [List.splitOnP_cons_eq_if_modifyHead, hsplit, cutWord]
        by_cases hc : isBlank c
        · simp only [if_pos hc]
          refine ⟨_, rfl, ?_⟩
          rw [List.filter_cons, hothers]
          cases (cutWord cs).1 <;> rfl
        · simp only [if_neg hc]
          exact ⟨others, rfl, hothers⟩
  obtain ⟨others, hsplit, hothers⟩ := hcut
  rw [hsplit, List.filter_cons, hothers]
  unfold words
  generalize cutWord cs = cut
  obtain ⟨word, behind⟩ := cut
  cases word <;> rfl

/-- A blank stands in no word, and parts the words before it from those behind it. -/
theorem words_append_cons {c : Char} (hc : isBlank c) (before behind : List Char) :
    words (before ++ c :: behind) = words before ++ words behind := by
  rw [words_eq_filter, words_eq_filter, words_eq_filter,
    List.splitOnP_append_cons before behind hc, List.filter_append]

theorem words_blanks_append {blanks : List Char} (h : ∀ c ∈ blanks, isBlank c) (cs : List Char) :
    words (blanks ++ cs) = words cs := by
  induction blanks with
  | nil => rfl
  | cons c blanks ih =>
      obtain ⟨hc, hblanks⟩ := List.forall_mem_cons.mp h
      have hcut := words_append_cons hc [] (blanks ++ cs)
      rw [List.nil_append] at hcut
      rw [List.cons_append, hcut, ih hblanks]
      rfl

theorem words_append_blanks_append {blanks : List Char} (hne : blanks ≠ [])
    (h : ∀ c ∈ blanks, isBlank c) (before behind : List Char) :
    words (before ++ blanks ++ behind) = words before ++ words behind := by
  obtain ⟨c, blanks, rfl⟩ := List.exists_cons_of_ne_nil hne
  obtain ⟨hc, hblanks⟩ := List.forall_mem_cons.mp h
  rw [List.append_assoc, List.cons_append, words_append_cons hc, words_blanks_append hblanks]

theorem isBlank_of_mem_splitOnP {cs part : List Char} (h : part ∈ cs.splitOnP isBlank) :
    ∀ c ∈ part, isBlank c = false := by
  induction cs generalizing part with
  | nil =>
      rw [List.splitOnP_nil, List.mem_singleton] at h
      rw [h]
      nofun
  | cons c cs ih =>
      rw [List.splitOnP_cons_eq_if_modifyHead] at h
      by_cases hc : isBlank c
      · rw [if_pos hc] at h
        rcases List.mem_cons.mp h with rfl | h
        · nofun
        · exact ih h
      · obtain ⟨first, others, hsplit⟩ :=
          List.exists_cons_of_ne_nil (List.splitOnP_ne_nil isBlank cs)
        rw [if_neg hc, hsplit, List.modifyHead_cons] at h
        rw [hsplit] at ih
        rcases List.mem_cons.mp h with rfl | h
        · rw [List.forall_mem_cons]
          exact ⟨Bool.eq_false_iff.mpr hc, ih List.mem_cons_self⟩
        · exact ih (List.mem_cons_of_mem first h)

theorem isWord_of_mem_words {cs word : List Char} (h : word ∈ words cs) : IsWord word := by
  rw [words_eq_filter, List.mem_filter] at h
  exact ⟨by simpa using h.2, isBlank_of_mem_splitOnP h.1⟩

theorem words_of_isWord {cs : List Char} (h : IsWord cs) : words cs = [cs] := by
  rw [words_eq_filter, List.splitOnP_eq_singleton h.2]
  simpa using h.1

/-- A text with more in it than blanks has a word. -/
theorem words_ne_nil {cs : List Char} (h : ∃ c ∈ cs, ¬ isBlank c) : words cs ≠ [] := by
  induction cs with
  | nil => simp at h
  | cons c cs ih =>
      by_cases hc : isBlank c
      · rw [← List.singleton_append, words_blanks_append (by simpa using hc)]
        obtain ⟨d, hmem, hd⟩ := h
        rcases List.mem_cons.mp hmem with rfl | hmem
        · exact absurd hc hd
        · exact ih ⟨d, hmem, hd⟩
      · obtain ⟨first, others, hsplit⟩ :=
          List.exists_cons_of_ne_nil (List.splitOnP_ne_nil isBlank cs)
        rw [words_eq_filter, List.splitOnP_cons_eq_if_modifyHead, if_neg hc, hsplit,
          List.modifyHead_cons, List.filter_cons]
        exact List.cons_ne_nil _ _

/-! ### Putting together -/

/-- The texts with one space between each two. -/
def joined (texts : List (List Char)) : List Char :=
  [' '].intercalate texts

theorem joined_singleton (text : List Char) : joined [text] = text :=
  List.intercalate_singleton

theorem joined_cons_cons (text next : List Char) (texts : List (List Char)) :
    joined (text :: next :: texts) = text ++ ' ' :: joined (next :: texts) := by
  rw [joined, List.intercalate_cons_cons, List.append_assoc]
  rfl

theorem joined_append {texts others : List (List Char)} (htexts : texts ≠ [])
    (hothers : others ≠ []) : joined (texts ++ others) = joined texts ++ ' ' :: joined others := by
  induction texts with
  | nil => exact absurd rfl htexts
  | cons text texts ih =>
      cases texts with
      | nil =>
          obtain ⟨next, others, rfl⟩ := List.exists_cons_of_ne_nil hothers
          rw [List.singleton_append, joined_cons_cons, joined_singleton]
      | cons next texts =>
          rw [List.cons_append, List.cons_append, joined_cons_cons, joined_cons_cons,
            ← List.cons_append, ih (List.cons_ne_nil next texts), List.append_assoc,
            List.cons_append]

theorem words_joined {texts : List (List Char)} (h : ∀ text ∈ texts, IsWord text) :
    words (joined texts) = texts := by
  induction texts with
  | nil => rfl
  | cons text texts ih =>
      obtain ⟨htext, htexts⟩ := List.forall_mem_cons.mp h
      cases texts with
      | nil => rw [joined_singleton, words_of_isWord htext]
      | cons next texts =>
          rw [joined_cons_cons, words_append_cons (by decide), words_of_isWord htext, ih htexts]
          rfl

/-- Words with one space between each two: there are no other blanks, none at the ends, and no two
side by side. -/
structure SingleSpaced (cs : List Char) : Prop where
  eq_space : ∀ c ∈ cs, isBlank c → c = ' '
  head : ∀ c ∈ cs.head?, isBlank c = false
  last : ∀ c ∈ cs.getLast?, isBlank c = false
  single : cs.IsChain fun a b => ¬ (isBlank a ∧ isBlank b)

theorem IsWord.singleSpaced {cs : List Char} (h : IsWord cs) : SingleSpaced cs where
  eq_space c hc hblank := by
    rw [h.2 c hc] at hblank
    cases hblank
  head c hc := h.2 c (List.mem_of_mem_head? hc)
  last c hc := h.2 c (List.mem_of_mem_getLast? hc)
  single := by
    refine List.Pairwise.isChain (List.pairwise_iff_forall_sublist.mpr ?_)
    intro a b hsub hblank
    have ha := h.2 a (hsub.subset List.mem_cons_self)
    rw [ha] at hblank
    cases hblank.1

theorem SingleSpaced.append {before behind : List Char} (hbefore : SingleSpaced before)
    (hbehind : SingleSpaced behind) (hne : before ≠ []) (hne' : behind ≠ []) :
    SingleSpaced (before ++ ' ' :: behind) where
  eq_space c hc hblank := by
    rcases List.mem_append.mp hc with hc | hc
    · exact hbefore.eq_space c hc hblank
    · rcases List.mem_cons.mp hc with rfl | hc
      · rfl
      · exact hbehind.eq_space c hc hblank
  head c hc := by
    rw [List.head?_append_of_ne_nil before hne] at hc
    exact hbefore.head c hc
  last c hc := by
    rw [List.getLast?_append_of_ne_nil _ (List.cons_ne_nil ' ' behind)] at hc
    obtain ⟨first, rest, rfl⟩ := List.exists_cons_of_ne_nil hne'
    rw [List.getLast?_cons_cons] at hc
    exact hbehind.last c hc
  single := by
    refine hbefore.single.append (hbehind.single.cons ?_) ?_
    · intro b hb hblank
      rw [hbehind.head b hb] at hblank
      cases hblank.2
    · intro a ha b _ hblank
      rw [hbefore.last a ha] at hblank
      cases hblank.1

theorem joined_ne_nil {texts : List (List Char)} (hne : texts ≠ [])
    (h : ∀ text ∈ texts, IsWord text) : joined texts ≠ [] := by
  intro hnil
  have hwords := words_joined h
  rw [hnil] at hwords
  exact hne hwords.symm

theorem singleSpaced_joined {texts : List (List Char)} (h : ∀ text ∈ texts, IsWord text) :
    SingleSpaced (joined texts) := by
  induction texts with
  | nil => exact ⟨nofun, nofun, nofun, .nil⟩
  | cons text texts ih =>
      obtain ⟨htext, htexts⟩ := List.forall_mem_cons.mp h
      cases texts with
      | nil =>
          rw [joined_singleton]
          exact htext.singleSpaced
      | cons next texts =>
          rw [joined_cons_cons]
          exact htext.singleSpaced.append (ih htexts) htext.1
            (joined_ne_nil (List.cons_ne_nil next texts) htexts)

/-! ### Words that are changed -/

section Changes

variable {tail : List Char → List Char} {cs : List Char}

theorem joinWords_eq (tail : List Char → List Char) (cs : List Char) :
    joinWords tail cs = joined ((words cs).map (raise tail)) := rfl

variable (h : ∀ word, IsWord word → IsWord (raise tail word))
include h

theorem isWord_of_mem_map_raise {word : List Char} (hword : word ∈ (words cs).map (raise tail)) :
    IsWord word := by
  obtain ⟨unchanged, hunchanged, rfl⟩ := List.mem_map.mp hword
  exact h unchanged (isWord_of_mem_words hunchanged)

theorem words_joinWords : words (joinWords tail cs) = (words cs).map (raise tail) :=
  words_joined fun _ hword => isWord_of_mem_map_raise h hword

theorem singleSpaced_joinWords : SingleSpaced (joinWords tail cs) :=
  singleSpaced_joined fun _ hword => isWord_of_mem_map_raise h hword

end Changes

theorem joinWords_append {blanks before behind : List Char} (hne : blanks ≠ [])
    (hblanks : ∀ c ∈ blanks, isBlank c) (hbefore : ∃ c ∈ before, ¬ isBlank c)
    (hbehind : ∃ c ∈ behind, ¬ isBlank c) (tail : List Char → List Char) :
    joinWords tail (before ++ blanks ++ behind) =
      joinWords tail before ++ ' ' :: joinWords tail behind := by
  rw [joinWords_eq, joinWords_eq, joinWords_eq, words_append_blanks_append hne hblanks,
    List.map_append]
  apply joined_append
  · simpa using words_ne_nil hbefore
  · simpa using words_ne_nil hbehind

end SchemaClasses.Text
