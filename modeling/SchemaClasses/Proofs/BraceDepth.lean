import Mathlib.Data.List.Infix
import SchemaClasses.Proofs.CommentReading

/-! How deep the braces of a text stand. A scanner goes through the text from left to right and
passes over its comments. Texts are put together from parts, and of each part one knows where the
scanner comes out, by how much the depth has changed, and how far it has sunk on the way. -/

namespace SchemaClasses

/-- Where a scanner stands. Behind a slash, and behind a star in a comment, it may stand between the
two characters of a mark. -/
inductive Place where
  | code
  | slash
  | lineComment
  | blockComment
  | star
deriving DecidableEq, Repr

namespace Place

/-- The place behind a character. Only Java has comments that go on over the end of a line. -/
def next (language : Language) (place : Place) (c : Char) : Place :=
  match place with
  | code => if c = '/' then slash else code
  | slash =>
    if c = '/' then lineComment
    else if c = '*' ∧ language = .java then blockComment
    else code
  | lineComment => if c = '\n' then code else lineComment
  | blockComment => if c = '*' then star else blockComment
  | star => if c = '/' then code else if c = '*' then star else blockComment

def isCode : Place → Bool
  | code | slash => true
  | _ => false

/-- By how much a character changes the depth. -/
def rise (place : Place) (c : Char) : Int :=
  if place.isCode then if c = '\x7b' then 1 else if c = '\x7d' then -1 else 0 else 0

end Place

structure Scanner where
  place : Place
  /-- The braces that were opened less those that were closed. -/
  depth : Int
deriving DecidableEq, Repr

def Scanner.step (language : Language) (s : Scanner) (c : Char) : Scanner :=
  ⟨s.place.next language c, s.depth + s.place.rise c⟩

def Scanner.run (language : Language) (s : Scanner) (text : List Char) : Scanner :=
  text.foldl (Scanner.step language) s

/-- The scanner behind a text that it has read from the beginning. -/
def Language.scan (language : Language) (text : List Char) : Scanner :=
  Scanner.run language ⟨.code, 0⟩ text

/-- At whatever depth it begins, a text leads from one place to another and changes the depth by
`rise`. On the way the depth is nowhere less than it was at the beginning with `low` added to it. -/
structure Leads (language : Language) (text : List Char) (p q : Place) (low rise : Int) : Prop where
  run_eq : ∀ depth, Scanner.run language ⟨p, depth⟩ text = ⟨q, depth + rise⟩
  low_le : ∀ depth part, part <+: text →
    depth + low ≤ (Scanner.run language ⟨p, depth⟩ part).depth

/-- A text that leaves the depth as it is, and nowhere sinks below it. -/
def Passes (language : Language) (text : List Char) (p q : Place) : Prop :=
  Leads language text p q 0 0

section Texts

variable {language : Language} {p q r : Place}

theorem Leads.append {above below : List Char} {low low' rise rise' : Int}
    (habove : Leads language above p q low rise) (hbelow : Leads language below q r low' rise')
    (least : Int) (hleast : least ≤ low ∧ least ≤ rise + low') :
    Leads language (above ++ below) p r least (rise + rise') where
  run_eq depth := by
    rw [Scanner.run, List.foldl_append, ← Scanner.run, ← Scanner.run, habove.run_eq, hbelow.run_eq,
      Int.add_assoc]
  low_le depth part hpart := by
    obtain ⟨rest, hrest⟩ := hpart
    rcases List.append_eq_append_iff.mp hrest with ⟨left, rfl, _⟩ | ⟨begun, rfl, hbelow'⟩
    · have hlow := habove.low_le depth part (List.prefix_append part left)
      omega
    · have hlow := hbelow.low_le (depth + rise) begun ⟨rest, hbelow'.symm⟩
      rw [Scanner.run, List.foldl_append, ← Scanner.run, ← Scanner.run, habove.run_eq]
      omega

theorem Leads.singleton (language : Language) (p : Place) (c : Char) :
    Leads language [c] p (p.next language c) (min 0 (p.rise c)) (p.rise c) where
  run_eq depth := rfl
  low_le depth part hpart := by
    rcases List.prefix_cons_iff.mp hpart with rfl | ⟨rest, rfl, hrest⟩
    · show depth + min 0 (p.rise c) ≤ depth
      omega
    · rw [List.prefix_nil.mp hrest]
      show depth + min 0 (p.rise c) ≤ depth + p.rise c
      omega

theorem Passes.append {above below : List Char} (habove : Passes language above p q)
    (hbelow : Passes language below q r) : Passes language (above ++ below) p r :=
  Leads.append habove hbelow 0 (by decide)

theorem passes_nil : Passes language [] p p where
  run_eq depth := by
    rw [Int.add_zero]
    rfl
  low_le depth part hpart := by
    rw [List.prefix_nil.mp hpart, Int.add_zero]
    exact Int.le_refl depth

theorem Passes.cons {c : Char} {text : List Char} (hrise : p.rise c = 0)
    (h : Passes language text (p.next language c) q) : Passes language (c :: text) p q := by
  have hfirst := Leads.singleton language p c
  rw [hrise, Int.min_self] at hfirst
  exact Passes.append hfirst h

/-- The characters that the scanner heeds in code. -/
def strokes : List Char := ['/', '\x7b', '\x7d']

theorem forall_mem_strokes {p : Char → Prop} :
    (∀ c ∈ strokes, p c) ↔ p '/' ∧ p '\x7b' ∧ p '\x7d' := by
  simp [strokes]

theorem mem_signs_of_mem_strokes {c : Char} (hc : c ∈ strokes) : c ∈ signs := by
  have hsigns : ∀ c ∈ strokes, c ∈ signs := forall_mem_strokes.mpr (by decide)
  exact hsigns c hc

theorem passes_code {text : List Char} (h : ∀ c ∈ strokes, c ∉ text) :
    Passes language text .code .code := by
  induction text with
  | nil => exact passes_nil
  | cons c text ih =>
      have hslash : c ≠ '/' := fun heq => h '/' (by decide) (heq ▸ List.mem_cons_self)
      have hopen : c ≠ '\x7b' := fun heq => h '\x7b' (by decide) (heq ▸ List.mem_cons_self)
      have hclose : c ≠ '\x7d' := fun heq => h '\x7d' (by decide) (heq ▸ List.mem_cons_self)
      apply Passes.cons
      · simp [Place.rise, hopen, hclose]
      · rw [Place.next, if_neg hslash]
        exact ih fun c' hc' hmem => h c' hc' (List.mem_cons_of_mem c hmem)

theorem passes_lineComment {text : List Char} (h : '\n' ∉ text) :
    Passes language text .lineComment .lineComment := by
  induction text with
  | nil => exact passes_nil
  | cons c text ih =>
      rw [List.mem_cons, not_or] at h
      apply Passes.cons rfl
      rw [Place.next, if_neg (Ne.symm h.1)]
      exact ih h.2

/-- Two slashes begin a comment that goes on to the end of the line, whatever is in it. -/
theorem passes_slashes {text : List Char} (h : '\n' ∉ text) :
    Passes language ('/' :: '/' :: (text ++ ['\n'])) .code .code := by
  have hend : Passes language ['\n'] .lineComment .code := Passes.cons rfl passes_nil
  exact Passes.cons rfl (Passes.cons rfl ((passes_lineComment h).append hend))

/-- No text without the mark that ends a comment leads out of it, unless the mark is completed by
its first character. -/
theorem passes_blockComment {text : List Char} (h : Text.Apart '*' '/' text)
    (hp : p = .blockComment ∨ p = .star ∧ text.head? ≠ some '/') :
    ∃ q, (q = .blockComment ∨ q = .star) ∧ Passes language text p q := by
  -- The hypothesis is for both places in a comment: behind a star the next character must not be
  -- a slash, and that is what the text being apart says of each star in it.
  induction text generalizing p with
  | nil => exact ⟨p, hp.imp_right And.left, passes_nil⟩
  | cons c text ih =>
      rw [Text.Apart, List.isChain_cons] at h
      have hnext : p.next language c = if c = '*' then .star else .blockComment := by
        rcases hp with rfl | ⟨rfl, hhead⟩
        · rfl
        · have hslash : c ≠ '/' := fun heq => hhead (congrArg some heq)
          rw [Place.next, if_neg hslash]
      have hinside : p.next language c = .blockComment ∨
          p.next language c = .star ∧ text.head? ≠ some '/' := by
        rw [hnext]
        by_cases hc : c = '*'
        · rw [if_pos hc]
          exact Or.inr ⟨rfl, fun hslash => h.1 '/' hslash ⟨hc, rfl⟩⟩
        · rw [if_neg hc]
          exact Or.inl rfl
      obtain ⟨q, hq, htext⟩ := ih h.2 hinside
      refine ⟨q, hq, Passes.cons ?_ htext⟩
      rcases hp with rfl | ⟨rfl, _⟩ <;> rfl

theorem passes_java_comment {inside : List Char} (h : Text.Apart '*' '/' (inside ++ ['*'])) :
    Passes .java ('/' :: '*' :: (inside ++ ['*', '/', '\n'])) .code .code := by
  have hinside : Text.Apart '*' '/' inside := List.IsChain.left_of_append h
  obtain ⟨q, hq, hpasses⟩ : ∃ q, (q = .blockComment ∨ q = .star) ∧
      Passes .java inside .blockComment q := passes_blockComment hinside (Or.inl rfl)
  have hend : Passes .java ['*', '/', '\n'] q .code := by
    rcases hq with rfl | rfl <;>
      exact Passes.cons rfl (Passes.cons rfl (Passes.cons rfl passes_nil))
  exact Passes.cons rfl (Passes.cons rfl (hpasses.append hend))

theorem leads_open : Leads language ['\x7b'] .code .code 0 1 :=
  Leads.singleton language .code '\x7b'

theorem leads_close : Leads language ['\x7d'] .code .code (-1) (-1) :=
  Leads.singleton language .code '\x7d'

/-- What stands between braces and passes, passes with them. -/
theorem passes_braces {inside : List Char} (h : Passes language inside .code .code) :
    Passes language ('\x7b' :: (inside ++ ['\x7d'])) .code .code :=
  leads_open.append (Leads.append h leads_close (-1) (by decide)) 0 (by decide)

end Texts

end SchemaClasses
