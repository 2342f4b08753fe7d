import Mathlib.Data.List.Chain
import SchemaClasses.Json.Token
import SchemaClasses.Proofs.CommentFragments
import SchemaClasses.Proofs.CommentReading

/-! Unicode escapes in Java. They are translated all over a file, before anything is taken for a
comment, so that a description which has them in its text can end its own comment or make the file
unreadable. The comment for a description is translated to one comment just where the description
has no such escapes. -/

namespace SchemaClasses

namespace Java

/-- What is left of a text once its unicode escapes are translated: the characters that are written
in it, and the units of UTF-16 in place of the escapes. -/
inductive Symbol where
  | written (c : Char)
  | escaped (unit : Nat)
deriving DecidableEq, Repr

/-- The units of UTF-16 for a character. -/
def utf16 (c : Char) : List Nat :=
  if c.toNat < 0x10000 then [c.toNat]
  else [0xD800 + (c.toNat - 0x10000) / 0x400, 0xDC00 + (c.toNat - 0x10000) % 0x400]

def Symbol.units : Symbol → List Nat
  | written c => utf16 c
  | escaped unit => [unit]

/-- How far an escape has been read. -/
inductive Reading where
  /-- No escape has begun, and the number of backslashes directly before is even. -/
  | outside
  /-- The number of backslashes directly before is odd, so that the last one can begin an escape. -/
  | backslash
  /-- A letter `u` stands behind the backslash, or several of them. -/
  | marked
  /-- Some of the four digits have been read, and have a value. -/
  | digits (count value : Nat)
deriving DecidableEq, Repr

namespace Reading

/-- What one more character adds to the text. An escape that has begun must go on as one. -/
def step : Reading → Char → Option (List Symbol × Reading)
  | outside, c => if c = '\\' then some ([], backslash) else some ([.written c], outside)
  | backslash, c =>
    if c = 'u' then some ([], marked) else some ([.written '\\', .written c], outside)
  | marked, c =>
    if c = 'u' then some ([], marked) else (Json.hexDigit? c).map fun d => ([], digits 1 d)
  | digits count value, c => (Json.hexDigit? c).map fun d =>
    if count = 3 then ([.escaped (value * 16 + d)], outside)
    else ([], digits (count + 1) (value * 16 + d))

/-- What the end of the text adds to it. -/
def finish : Reading → Option (List Symbol)
  | outside => some []
  | backslash => some [.written '\\']
  | marked | digits _ _ => none

/-- The translation of a text. A backslash behind an even number of others, and a `u` behind it,
must begin an escape, which may have more than one `u` and has four hexadecimal digits. -/
def symbols? : Reading → List Char → Option (List Symbol)
  | r, [] => r.finish
  | r, c :: cs => do
    let (first, r) ← r.step c
    let rest ← r.symbols? cs
    return first ++ rest

end Reading

/-- The translation of the unicode escapes in a text, if there is one. -/
def translation? (cs : List Char) : Option (List Symbol) :=
  Reading.outside.symbols? cs

example : translation? "\\uu002A\\\\u002A".toList =
    some (.escaped 0x2A :: "\\\\u002A".toList.map .written) := by decide

example : translation? "\\u2A".toList = none := by decide

/-- A star and a slash occur side by side in one place, before the line feed at the end. -/
def ClosesOnce (units : List Nat) : Prop :=
  ∀ behind, (∃ before, units = before ++ [0x2A, 0x2F] ++ behind) ↔ behind = [0x0A]

/-- A text is translated, and what comes out is a comment that ends before the last line feed. -/
def IsComment (cs : List Char) : Prop :=
  ∃ symbols, translation? cs = some symbols ∧ ClosesOnce (symbols.flatMap Symbol.units)

/-- The text is translated, and neighbours in its translation are related. -/
def Reads (R : Symbol → Symbol → Prop) (cs : List Char) : Prop :=
  ∃ symbols, translation? cs = some symbols ∧ symbols.IsChain R

/-- The two symbols do not end a comment. -/
def NoEnd (a b : Symbol) : Prop := ¬ (a.units = [0x2A] ∧ b.units = [0x2F])

/-- If the two symbols end a comment, both of them are written as they are. -/
def PlainEnd (a b : Symbol) : Prop :=
  a.units = [0x2A] → b.units = [0x2F] → a = .written '*' ∧ b = .written '/'

instance (a b : Symbol) : Decidable (NoEnd a b) := inferInstanceAs (Decidable (¬ _))

instance (a b : Symbol) : Decidable (PlainEnd a b) := inferInstanceAs (Decidable (_ → _ → _))

/-- Every escape in a text is a whole one, and none of them stands for the star or the slash at the
end of a comment. -/
def Harmless (cs : List Char) : Prop := Reads PlainEnd cs

/-! ### Translation piece by piece -/

/-- A character that no escape goes on with. -/
def IsApart (c : Char) : Prop := c ≠ '\\' ∧ c ≠ 'u' ∧ Json.hexDigit? c = none

theorem step_of_isApart {c : Char} (hc : IsApart c) (r : Reading) :
    r.step c = r.finish.map fun last => (last ++ [.written c], .outside) := by
  obtain ⟨hbackslash, hu, hdigit⟩ := hc
  cases r <;> simp [Reading.step, Reading.finish, hbackslash, hu, hdigit]

/-- At such a character the translation falls apart. -/
theorem symbols?_append_cons {c : Char} (hc : IsApart c) (r : Reading) (a b : List Char) :
    r.symbols? (a ++ c :: b) = do
      let before ← r.symbols? a
      let behind ← translation? b
      return before ++ .written c :: behind := by
  induction a generalizing r with
  | nil =>
      rw [List.nil_append, Reading.symbols?, Reading.symbols?, step_of_isApart hc]
      cases r.finish with
      | none => rfl
      | some last => simp [translation?]
  | cons d a ih =>
      rw [List.cons_append, Reading.symbols?, Reading.symbols?]
      cases r.step d with
      | none => rfl
      | some next =>
          simp only [Option.bind_eq_bind, Option.bind_some, ih]
          cases next.2.symbols? a with
          | none => rfl
          | some before => cases translation? b <;> simp

variable {R : Symbol → Symbol → Prop}

theorem reads_append_cons_iff {c : Char} (hc : IsApart c)
    (hR : ∀ a, R a (.written c) ∧ R (.written c) a) (a b : List Char) :
    Reads R (a ++ c :: b) ↔ Reads R a ∧ Reads R b := by
  have hchain : ∀ before behind, (before ++ Symbol.written c :: behind).IsChain R ↔
      before.IsChain R ∧ behind.IsChain R := by
    intro before behind
    rw [List.isChain_append, List.isChain_cons]
    constructor
    · exact fun ⟨hbefore, ⟨_, hbehind⟩, _⟩ => ⟨hbefore, hbehind⟩
    · rintro ⟨hbefore, hbehind⟩
      refine ⟨hbefore, ⟨fun y _ => (hR y).2, hbehind⟩, fun x _ y hy => ?_⟩
      cases hy
      exact (hR x).1
  unfold Reads
  rw [translation?, symbols?_append_cons hc, ← translation?]
  cases translation? a with
  | none => simp
  | some before =>
      cases translation? b with
      | none => simp
      | some behind => simp [hchain]

theorem isApart_of_isBlank {c : Char} (h : Text.isBlank c) : IsApart c := by
  refine ⟨by rintro rfl; revert h; decide, by rintro rfl; revert h; decide, ?_⟩
  have hdigit : ∀ low high : Char, 0x30 ≤ low.toNat → high.toNat ≤ 0x66 →
      ¬ (low ≤ c ∧ c ≤ high) := by
    rintro low high hlow hhigh ⟨hfrom, hto⟩
    have hfrom : low.toNat ≤ c.toNat := hfrom
    have hto : c.toNat ≤ high.toNat := hto
    simp only [Text.isBlank, Bool.or_eq_true, Bool.and_eq_true, decide_eq_true_eq, beq_iff_eq] at h
    omega
  rw [Json.hexDigit?, if_neg (hdigit '0' '9' (by decide) (by decide)),
    if_neg (hdigit 'a' 'f' (by decide) (by decide)), if_neg (hdigit 'A' 'F' (by decide) (by decide))]

theorem utf16_eq_singleton_iff {c d : Char} (hd : d.toNat < 0x10000) :
    utf16 c = [d.toNat] ↔ c = d := by
  unfold utf16
  split
  · rw [List.singleton_inj, Char.toNat_inj]
  · rename_i hlarge
    refine iff_of_false (by simp) ?_
    rintro rfl
    exact hlarge hd

theorem units_eq_star_iff (c : Char) : (Symbol.written c).units = [0x2A] ↔ c = '*' :=
  utf16_eq_singleton_iff (d := '*') (by decide)

theorem units_eq_slash_iff (c : Char) : (Symbol.written c).units = [0x2F] ↔ c = '/' :=
  utf16_eq_singleton_iff (d := '/') (by decide)

/-! ### Neighbours in a translation -/

theorem noEnd_of_ne {c : Char} (hstar : c ≠ '*') (hslash : c ≠ '/') (a : Symbol) :
    NoEnd a (.written c) ∧ NoEnd (.written c) a := by
  simp [NoEnd, units_eq_star_iff, units_eq_slash_iff, hstar, hslash]

theorem plainEnd_of_ne {c : Char} (hstar : c ≠ '*') (hslash : c ≠ '/') (a : Symbol) :
    PlainEnd a (.written c) ∧ PlainEnd (.written c) a := by
  simp [PlainEnd, units_eq_star_iff, units_eq_slash_iff, hstar, hslash]

theorem noEnd_iff_plainEnd {a b : Symbol} (h : a = .written '*' → b ≠ .written '/') :
    NoEnd a b ↔ PlainEnd a b := by
  constructor
  · exact fun hends hstar hslash => absurd ⟨hstar, hslash⟩ hends
  · rintro hends ⟨hstar, hslash⟩
    obtain ⟨ha, hb⟩ := hends hstar hslash
    exact h ha hb

theorem splitsAtBlanks_reads
    (hR : ∀ c, c ≠ '*' → c ≠ '/' → ∀ a, R a (.written c) ∧ R (.written c) a) :
    Text.SplitsAtBlanks (Reads R) where
  nil := ⟨[], rfl, .nil⟩
  append_cons a c b hc :=
    reads_append_cons_iff (isApart_of_isBlank hc)
      (hR c (by rintro rfl; revert hc; decide) (by rintro rfl; revert hc; decide)) a b

theorem splitsAtBlanks_noEnd : Text.SplitsAtBlanks (Reads NoEnd) :=
  splitsAtBlanks_reads fun _ => noEnd_of_ne

theorem splitsAtBlanks_harmless : Text.SplitsAtBlanks Harmless :=
  splitsAtBlanks_reads fun _ => plainEnd_of_ne

/-! ### Units -/

/-- A character is one unit, or two that are neither a star nor a slash. -/
theorem units_cases (a : Symbol) : (∃ unit, a.units = [unit]) ∨
    ∃ high low, a.units = [high, low] ∧ 0x2F < high ∧ 0x2F < low := by
  cases a with
  | written c =>
      rw [Symbol.units, utf16]
      split
      · exact .inl ⟨_, rfl⟩
      · exact .inr ⟨_, _, rfl, by omega, by omega⟩
  | escaped unit => exact .inl ⟨unit, rfl⟩

theorem units_ne_nil (a : Symbol) : a.units ≠ [] := by
  obtain ⟨unit, ha⟩ | ⟨high, low, ha, -⟩ := units_cases a <;> simp [ha]

theorem getLast?_units_eq_star_iff (a : Symbol) :
    a.units.getLast? = some 0x2A ↔ a.units = [0x2A] := by
  obtain ⟨unit, ha⟩ | ⟨high, low, ha, -, hlow⟩ := units_cases a
  · simp [ha]
  · simp [ha]; omega

theorem head?_units_eq_slash_iff (a : Symbol) : a.units.head? = some 0x2F ↔ a.units = [0x2F] := by
  obtain ⟨unit, ha⟩ | ⟨high, low, ha, hhigh, -⟩ := units_cases a
  · simp [ha]
  · simp [ha]; omega

/-- The two units do not end a comment. -/
def NoEndUnits (x y : Nat) : Prop := ¬ (x = 0x2A ∧ y = 0x2F)

theorem isChain_units_iff (symbols : List Symbol) :
    (symbols.flatMap Symbol.units).IsChain NoEndUnits ↔ symbols.IsChain NoEnd := by
  have hwithin : ∀ l ∈ symbols.map Symbol.units, l.IsChain NoEndUnits := by
    rw [List.forall_mem_map]
    intro a _
    obtain ⟨unit, ha⟩ | ⟨high, low, ha, hhigh, -⟩ := units_cases a
    · rw [ha]
      exact .singleton unit
    · rw [ha, List.isChain_pair]
      exact fun hends => by omega
  rw [List.flatMap_def, List.isChain_flatten (by simp [units_ne_nil]), and_iff_right hwithin,
    List.isChain_map]
  refine iff_of_eq (congrArg (List.IsChain · symbols) ?_)
  funext a b
  refine propext ⟨?_, ?_⟩
  · rintro h ⟨ha, hb⟩
    exact h 0x2A ((getLast?_units_eq_star_iff a).mpr ha) 0x2F ((head?_units_eq_slash_iff b).mpr hb)
      ⟨rfl, rfl⟩
  · rintro h x hx y hy ⟨rfl, rfl⟩
    exact h ⟨(getLast?_units_eq_star_iff a).mp hx, (head?_units_eq_slash_iff b).mp hy⟩

theorem closesOnce_iff (front : List Nat) :
    ClosesOnce (front ++ [0x2A, 0x2F, 0x0A]) ↔ (front ++ [0x2A]).IsChain NoEndUnits := by
  rw [List.isChain_iff_forall_rel_of_append_cons_cons]
  constructor
  · rintro h _ _ before behind hsplit ⟨rfl, rfl⟩
    have hends : front ++ [0x2A, 0x2F, 0x0A] =
        before ++ [0x2A, 0x2F] ++ (behind ++ [0x2F, 0x0A]) := by
      simpa using congrArg (· ++ [0x2F, 0x0A]) hsplit
    have hlength := congrArg List.length ((h _).mp ⟨before, hends⟩)
    simp at hlength
  · refine fun h behind => ⟨?_, ?_⟩
    · rintro ⟨before, hsplit⟩
      have hreverse : 0x0A :: 0x2F :: 0x2A :: front.reverse =
          behind.reverse ++ 0x2F :: 0x2A :: before.reverse := by
        simpa using congrArg List.reverse hsplit
      suffices behind.reverse = [0x0A] from List.reverse_eq_iff.mp this
      match hbehind : behind.reverse with
      | [] => simp [hbehind] at hreverse
      | [x] =>
          rw [hbehind, List.singleton_append] at hreverse
          rw [(List.cons.inj hreverse).1]
      | x :: y :: others =>
          rw [hbehind] at hreverse
          simp only [List.cons_append, List.cons.injEq] at hreverse
          have hearlier : front ++ [0x2A] = before ++ 0x2A :: 0x2F :: others.reverse := by
            simpa using congrArg List.reverse hreverse.2.2
          exact absurd ⟨rfl, rfl⟩ (h hearlier)
    · rintro rfl
      exact ⟨front, by simp⟩

/-! ### Escaped lines -/

/-- Escaping, as it changes the translation of a line. -/
def Symbol.escapeEnd : List Symbol → List Symbol
  | .written '*' :: .written '/' :: rest =>
    ['*', '&', '#', '4', '7', ';'].map .written ++ escapeEnd rest
  | a :: rest => a :: escapeEnd rest
  | [] => []

theorem Symbol.escapeEnd_cons {a : Symbol} {rest : List Symbol}
    (h : a = .written '*' → rest.head? ≠ some (.written '/')) :
    escapeEnd (a :: rest) = a :: escapeEnd rest := by
  rw [escapeEnd]
  rintro behind rfl rfl
  exact h rfl rfl

theorem Symbol.head?_escapeEnd (symbols : List Symbol) :
    (escapeEnd symbols).head? = symbols.head? := by
  fun_induction escapeEnd symbols <;> rfl

/-- In an escaped line no end of a comment is left, unless an escape has made it. -/
theorem isChain_escapeEnd_iff (symbols : List Symbol) :
    (Symbol.escapeEnd symbols).IsChain NoEnd ↔ symbols.IsChain PlainEnd := by
  fun_induction Symbol.escapeEnd symbols with
  | case1 rest ih =>
      have hescaped : (['*', '&', '#', '4', '7', ';'].map Symbol.written).IsChain NoEnd := by
        decide
      have hplain : PlainEnd (.written '*') (.written '/') := fun _ _ => ⟨rfl, rfl⟩
      have hslash : ∀ y ∈ rest.head?, PlainEnd (.written '/') y := fun y _ hstar => by cases hstar
      rw [List.isChain_append, and_iff_right hescaped, ih, List.isChain_cons_cons,
        and_iff_right hplain, List.isChain_cons, and_iff_right hslash]
      refine and_iff_left fun x hx y _ => ?_
      cases hx
      exact (noEnd_of_ne (by decide) (by decide) y).2
  | case2 a rest hmark ih =>
      rw [List.isChain_cons, List.isChain_cons, Symbol.head?_escapeEnd, ih]
      refine and_congr_left fun _ => forall₂_congr fun b hb => noEnd_iff_plainEnd ?_
      rintro rfl rfl
      obtain ⟨behind, rfl⟩ := List.head?_eq_some_iff.mp hb
      exact hmark behind rfl rfl
  | case3 => simp

theorem step_cases {r next : Reading} {c : Char} {first : List Symbol}
    (h : r.step c = some (first, next)) :
    (first = [] ∧ next ≠ .outside) ∨ (∃ unit, first = [.escaped unit]) ∨
      (r = .outside ∧ next = .outside ∧ first = [.written c]) ∨
      (next = .outside ∧ first = [.written '\\', .written c]) := by
  cases r with
  | outside =>
      rw [Reading.step] at h
      split at h <;> cases h <;> simp
  | backslash =>
      rw [Reading.step] at h
      split at h <;> cases h <;> simp
  | marked =>
      rw [Reading.step] at h
      split at h
      · cases h
        simp
      · obtain ⟨d, -, hd⟩ := Option.map_eq_some_iff.mp h
        cases hd
        simp
  | digits count value =>
      obtain ⟨d, -, hd⟩ := Option.map_eq_some_iff.mp h
      split at hd <;> cases hd <;> simp

theorem symbols?_cons_eq_some {r : Reading} {c : Char} {cs : List Char} {symbols : List Symbol}
    (h : r.symbols? (c :: cs) = some symbols) : ∃ first next rest,
      r.step c = some (first, next) ∧ next.symbols? cs = some rest ∧ symbols = first ++ rest := by
  simp only [Reading.symbols?, Option.bind_eq_bind, Option.bind_eq_some_iff] at h
  obtain ⟨⟨first, next⟩, hstep, rest, hrest, hsymbols⟩ := h
  exact ⟨first, next, rest, hstep, hrest, (Option.some.inj hsymbols).symm⟩

/-- An escape that has begun, or a backslash before something else, does not come out as a slash. -/
theorem head?_ne_slash_of_symbols? {r : Reading} (hr : r ≠ .outside) {cs : List Char}
    {symbols : List Symbol} (h : r.symbols? cs = some symbols) :
    symbols.head? ≠ some (.written '/') := by
  induction cs generalizing r symbols with
  | nil => cases r <;> cases h <;> simp at hr ⊢
  | cons c cs ih =>
      obtain ⟨first, next, rest, hstep, hrest, rfl⟩ := symbols?_cons_eq_some h
      obtain ⟨rfl, hnext⟩ | ⟨unit, rfl⟩ | ⟨houtside, -⟩ | ⟨-, rfl⟩ := step_cases hstep
      · exact ih hnext hrest
      · simp
      · exact absurd houtside hr
      · simp

theorem head?_eq_slash_of_translation? {cs : List Char} {symbols : List Symbol}
    (h : translation? cs = some symbols) (hhead : symbols.head? = some (.written '/')) :
    cs.head? = some '/' := by
  cases cs with
  | nil => cases h; cases hhead
  | cons c cs =>
      obtain ⟨first, next, rest, hstep, hrest, rfl⟩ := symbols?_cons_eq_some h
      obtain ⟨rfl, hnext⟩ | ⟨unit, rfl⟩ | ⟨-, -, rfl⟩ | ⟨-, rfl⟩ := step_cases hstep
      · exact absurd hhead (head?_ne_slash_of_symbols? hnext hrest)
      · cases hhead
      · cases hhead
        rfl
      · cases hhead

/-- What one step adds does not come together with what is added behind it to the end of a comment,
if the characters do not. -/
theorem escapeEnd_append_of_step {r next : Reading} {c : Char} {first : List Symbol}
    (hstep : r.step c = some (first, next)) {rest : List Char} {behind : List Symbol}
    (hbehind : next.symbols? rest = some behind) (h : c = '*' → rest.head? ≠ some '/') :
    Symbol.escapeEnd (first ++ behind) = first ++ Symbol.escapeEnd behind := by
  have hwritten : next = .outside →
      Symbol.escapeEnd (.written c :: behind) = .written c :: Symbol.escapeEnd behind := by
    rintro rfl
    apply Symbol.escapeEnd_cons
    intro hc hhead
    exact h (Symbol.written.inj hc) (head?_eq_slash_of_translation? hbehind hhead)
  obtain ⟨rfl, -⟩ | ⟨unit, rfl⟩ | ⟨-, hnext, rfl⟩ | ⟨hnext, rfl⟩ := step_cases hstep
  · rfl
  · exact Symbol.escapeEnd_cons nofun
  · exact hwritten hnext
  · rw [List.cons_append, Symbol.escapeEnd_cons (by simp), List.singleton_append, hwritten hnext]
    rfl

/-- Without a backslash nothing is translated. -/
theorem translation?_append {cs : List Char} (h : '\\' ∉ cs) (rest : List Char) :
    translation? (cs ++ rest) = (translation? rest).map (cs.map .written ++ ·) := by
  induction cs with
  | nil => simp
  | cons c cs ih =>
      obtain ⟨hc, hcs⟩ := not_or.mp (mt List.mem_cons.mpr h)
      rw [List.cons_append, translation?, Reading.symbols?, Reading.step, if_neg (Ne.symm hc)]
      simp only [Option.bind_eq_bind, Option.bind_some]
      rw [← translation?, ih hcs]
      cases translation? rest <;> rfl

theorem symbols?_cons_of_isApart {c : Char} (hc : IsApart c) (r : Reading) (cs : List Char) :
    r.symbols? (c :: cs) =
      r.finish.bind fun last => (translation? cs).map (last ++ .written c :: ·) := by
  have happend := symbols?_append_cons hc r [] cs
  rw [List.nil_append] at happend
  rw [happend, Reading.symbols?]
  cases r.finish <;> cases translation? cs <;> rfl

/-- A line is escaped before it is translated, with the same outcome as behind. -/
theorem symbols?_escapeEnd (r : Reading) (line : List Char) :
    r.symbols? (escapeEnd line) = (r.symbols? line).map Symbol.escapeEnd := by
  -- A star may stand behind a backslash or in an unfinished escape, hence any reading.
  fun_induction escapeEnd line generalizing r with
  | case1 rest ih =>
      have hstar : IsApart '*' := by unfold IsApart; decide
      have hplain : translation? ('/' :: rest) =
          (translation? rest).map (.written '/' :: ·) :=
        @translation?_append ['/'] (by decide) rest
      have hescaped : translation? ('&' :: '#' :: '4' :: '7' :: ';' :: escapeEnd rest) =
          (translation? (escapeEnd rest)).map ("&#47;".toList.map .written ++ ·) :=
        @translation?_append "&#47;".toList (by decide) (escapeEnd rest)
      have hrest : translation? (escapeEnd rest) = (translation? rest).map Symbol.escapeEnd :=
        ih .outside
      rw [symbols?_cons_of_isApart hstar, symbols?_cons_of_isApart hstar, hplain, hescaped, hrest]
      cases r <;> cases translation? rest <;> rfl
  | case2 c rest hmark ih =>
      rw [Reading.symbols?, Reading.symbols?]
      cases hstep : r.step c with
      | none => rfl
      | some moved =>
          obtain ⟨first, next⟩ := moved
          simp only [Option.bind_eq_bind, Option.bind_some, ih]
          cases hbehind : next.symbols? rest with
          | none => rfl
          | some behind =>
              refine congrArg some (escapeEnd_append_of_step hstep hbehind ?_).symm
              rintro rfl hhead
              obtain ⟨others, rfl⟩ := List.head?_eq_some_iff.mp hhead
              exact hmark others rfl rfl
  | case3 => cases r <;> rfl

theorem reads_escapeEnd_iff (line : List Char) : Reads NoEnd (escapeEnd line) ↔ Harmless line := by
  unfold Harmless Reads
  rw [translation?, symbols?_escapeEnd, ← translation?]
  cases translation? line <;> simp [isChain_escapeEnd_iff]

theorem reads_commentLine_iff (line : List Char) :
    Reads NoEnd (commentLine line).toList ↔ Harmless line := by
  have hstar : Reads NoEnd ['*'] := ⟨_, rfl, .singleton _⟩
  have hbegin : Reads NoEnd " *".toList :=
    (splitsAtBlanks_noEnd.append_cons [] ' ' ['*'] (by decide)).mpr
      ⟨splitsAtBlanks_noEnd.nil, hstar⟩
  unfold commentLine
  split
  · rename_i hempty
    rw [List.isEmpty_iff.mp hempty]
    exact iff_of_true hbegin splitsAtBlanks_harmless.nil
  · have htext : (" * " ++ String.ofList (escapeEnd line)).toList =
        " *".toList ++ ' ' :: escapeEnd line := by
      rw [String.toList_append]
      exact congrArg ([' ', '*', ' '] ++ ·) String.toList_ofList
    rw [htext, splitsAtBlanks_noEnd.append_cons _ ' ' _ (by decide), and_iff_right hbegin,
      reads_escapeEnd_iff]

/-! ### Comments -/

/-- It is enough to look at a comment up to its last star. -/
theorem isComment_iff (body : List Char) :
    IsComment (body ++ "*/\n".toList) ↔ Reads NoEnd (body ++ ['*']) := by
  have hstar : IsApart '*' := by unfold IsApart; decide
  have hwhole := symbols?_append_cons hstar .outside body "/\n".toList
  have hfront := symbols?_append_cons hstar .outside body []
  unfold IsComment Reads translation?
  rw [hfront, show "*/\n".toList = '*' :: "/\n".toList from rfl, hwhole]
  cases Reading.outside.symbols? body with
  | none => simp
  | some symbols =>
      have hchain : (symbols.flatMap Symbol.units ++ [0x2A]).IsChain NoEndUnits ↔
          (symbols ++ [Symbol.written '*']).IsChain NoEnd := by
        rw [← isChain_units_iff, List.flatMap_append]
        rfl
      have hcloses : ClosesOnce
          ((symbols ++ "*/\n".toList.map Symbol.written).flatMap Symbol.units) ↔
            (symbols ++ [Symbol.written '*']).IsChain NoEnd := by
        rw [← hchain, ← closesOnce_iff, List.flatMap_append]
        rfl
      have hbehind : translation? "/\n".toList = some ("/\n".toList.map Symbol.written) := by decide
      have hnothing : translation? [] = some [] := rfl
      simp only [hbehind, hnothing, Option.bind_eq_bind, Option.bind_some, Option.some.injEq,
        Option.pure_def, exists_eq_left']
      exact hcloses

theorem isComment_comment_iff {indent : List Char} (hindent : ∀ c ∈ indent, Text.isBlank c)
    (described : List (List Char)) :
    IsComment ((comment described).flatMap fun text => (indent ++ text.toList) ++ ['\n']) ↔
      ∀ line ∈ described, Harmless line := by
  have hfirst : Reads NoEnd "/**".toList := ⟨_, rfl, by decide⟩
  have hlast : Reads NoEnd (indent ++ [' ', '*']) := by
    rw [splitsAtBlanks_noEnd.blanks_append_iff hindent]
    exact ⟨_, rfl, by decide⟩
  have htexts : (comment described).flatMap (fun text => (indent ++ text.toList) ++ ['\n']) =
      ((("/**" :: described.map commentLine).map String.toList).flatMap
        fun text => (indent ++ text) ++ ['\n']) ++ (indent ++ [' ']) ++ "*/\n".toList := by
    rw [comment, List.flatMap_append, List.flatMap_map, List.flatMap_singleton]
    simp only [List.append_assoc]
    rfl
  rw [htexts, isComment_iff, List.append_assoc, List.append_assoc, List.singleton_append,
    splitsAtBlanks_noEnd.flatMap_append_iff hindent, and_iff_left hlast, List.forall_mem_map,
    List.forall_mem_cons, and_iff_right hfirst, List.forall_mem_map]
  exact forall₂_congr fun line _ => reads_commentLine_iff line

theorem harmless_of_no_backslash {cs : List Char} (h : '\\' ∉ cs) : Harmless cs := by
  have htranslation : translation? cs = some (cs.map .written) := by
    simpa [translation?, Reading.symbols?, Reading.finish] using translation?_append h []
  refine ⟨_, htranslation, (List.isChain_map _).mpr (List.Pairwise.isChain ?_)⟩
  refine List.pairwise_of_forall fun a b hstar hslash => ?_
  rw [(units_eq_star_iff a).mp hstar, (units_eq_slash_iff b).mp hslash]
  exact ⟨rfl, rfl⟩

end Java

/-- The comment for a description, as it stands in a file, is translated to one comment in Java just
where the unicode escapes in the description are whole and leave the ends of comments alone. -/
theorem fragment_isComment_iff {indent description : String}
    (hindent : ∀ c ∈ indent.toList, c = '\t' ∨ c = ' ')
    (hdescription : ∃ c ∈ description.toList, ¬ Text.isBlank c) :
    (∀ (style : Indent) (depth : Nat), indent = String.join (List.replicate depth style.unit) →
      renderLines style (Dialect.java.commentLines depth (commentOf (some description))) =
        Dialect.java.fragment indent description) ∧
    (Java.IsComment (Dialect.java.fragment indent description).toList ↔
      Java.Harmless description.toList) ∧
    ('\\' ∉ description.toList → Java.Harmless description.toList) := by
  refine ⟨?_, ?_, Java.harmless_of_no_backslash⟩
  · rintro style depth rfl
    exact renderLines_commentLines .java style depth description
  · have hblank : ∀ c ∈ indent.toList, Text.isBlank c := fun c hc => by
      rcases hindent c hc with rfl | rfl <;> decide
    rw [toList_fragment .java indent hdescription]
    exact (Java.isComment_comment_iff hblank _).trans
      (Java.splitsAtBlanks_harmless.forall_describedLines_iff description.toList)

namespace Escaped

/-- An end of a comment that is escaped by the generator, a backslash that is no escape, and an
escape for a letter. -/
def harmless : String := "Ends with */\nunder C:\\\\users\n\n caf\\u00E9"

/-- The star is an escape. -/
def ending : String := "Matches src/**\\u002A/*.rs"

/-- The backslash begins an escape that is not a whole one. -/
def broken : String := "Stored under C:\\users"

theorem fragment_isComment_iff_of_descriptions :
    (∀ c ∈ "\t".toList, c = '\t' ∨ c = ' ') ∧
    (∃ c ∈ harmless.toList, ¬ Text.isBlank c) ∧
    renderLines .tabs (Dialect.java.commentLines 1 (commentOf (some harmless))) =
      Dialect.java.fragment "\t" harmless ∧
    Java.IsComment (Dialect.java.fragment "\t" harmless).toList ∧
    '\\' ∉ "*/".toList ∧ Java.IsComment (Dialect.java.fragment "\t" "*/").toList := by
  have hindent : ∀ c ∈ "\t".toList, c = '\t' ∨ c = ' ' := Text.forall_mem_of_all (by decide)
  have hharmless : ∃ c ∈ harmless.toList, ¬ Text.isBlank c := ⟨'E', by decide, by decide⟩
  obtain ⟨hfile, hiff, -⟩ := fragment_isComment_iff hindent hharmless
  have hplain := @fragment_isComment_iff "\t" "*/" hindent ⟨'*', by decide, by decide⟩
  exact ⟨hindent, hharmless, hfile .tabs 1 (by decide), hiff.mpr ⟨_, rfl, by decide⟩, by decide,
    hplain.2.1.mpr (hplain.2.2 (by decide))⟩

/-- A comment may end early, and a file may be unreadable. -/
theorem no_comment_with_escapes :
    ((∃ c ∈ ending.toList, ¬ Text.isBlank c) ∧
      ¬ Java.IsComment (Dialect.java.fragment "\t" ending).toList) ∧
    (∃ c ∈ broken.toList, ¬ Text.isBlank c) ∧
      Java.translation? (Dialect.java.fragment "\t" broken).toList = none := by
  refine ⟨⟨⟨'M', by decide, by decide⟩, ?_⟩, ⟨'S', by decide, by decide⟩, by decide⟩
  rintro ⟨symbols, hsymbols, hcloses⟩
  have htranslation : Java.translation? (Dialect.java.fragment "\t" ending).toList =
      some ("\t/**\n\t * Matches src/**".toList.map .written ++
        .escaped 0x2A :: "/*.rs\n\t */\n".toList.map .written) := by decide
  cases hsymbols.symm.trans htranslation
  have hearly := (hcloses ("*.rs\n\t */\n".toList.map Char.toNat)).mp
    ⟨"\t/**\n\t * Matches src/**".toList.map Char.toNat, by decide⟩
  revert hearly
  decide

end Escaped

end SchemaClasses
