import SchemaClasses.Json.Token

/-! The numbers and strings of JSON, by the grammar of RFC 8259 alone, and what reading makes of
them whatever comes behind them. Of all numbers only those are refused that are too large, of all
strings only those with half of a surrogate pair. -/

namespace SchemaClasses.Json

/-! ### The grammar -/

/-- One digit or more. -/
structure IsDigits (cs : List Char) : Prop where
  nonempty : cs ≠ []
  all : ∀ c ∈ cs, c.isDigit

/-- The digits in front of the point: no zero in front of others. -/
inductive IsWhole : List Char → Prop where
  | zero : IsWhole ['0']
  | nonzero {c : Char} {cs : List Char} (hc : c.isDigit) (hzero : c ≠ '0')
      (hcs : ∀ d ∈ cs, d.isDigit) : IsWhole (c :: cs)

inductive IsFraction : List Char → Prop where
  | absent : IsFraction []
  | point {cs : List Char} (hcs : IsDigits cs) : IsFraction ('.' :: cs)

inductive IsExponent : List Char → Prop where
  | absent : IsExponent []
  | unsigned {e : Char} {cs : List Char} (he : e = 'e' ∨ e = 'E') (hcs : IsDigits cs) :
      IsExponent (e :: cs)
  | signed {e sign : Char} {cs : List Char} (he : e = 'e' ∨ e = 'E')
      (hsign : sign = '+' ∨ sign = '-') (hcs : IsDigits cs) : IsExponent (e :: sign :: cs)

structure IsUnsigned (whole fraction exponent : List Char) : Prop where
  whole : IsWhole whole
  fraction : IsFraction fraction
  exponent : IsExponent exponent

inductive IsNumber : List Char → Prop where
  | positive {whole fraction exponent : List Char} (h : IsUnsigned whole fraction exponent) :
      IsNumber (whole ++ (fraction ++ exponent))
  | negative {whole fraction exponent : List Char} (h : IsUnsigned whole fraction exponent) :
      IsNumber ('-' :: (whole ++ (fraction ++ exponent)))

/-- What stands behind the opening quote of a string, up to the closing one. Any four hexadecimal
digits make an escape, those for half of a surrogate pair too. -/
inductive IsStringBody : List Char → Prop where
  | quote : IsStringBody ['"']
  | plain {c : Char} {cs : List Char} (hquote : c ≠ '"') (hslash : c ≠ '\\')
      (hcontrol : ¬ c.toNat < 0x20) (hcs : IsStringBody cs) : IsStringBody (c :: cs)
  | short {e c : Char} {cs : List Char} (he : shortEscape? e = some c) (hcs : IsStringBody cs) :
      IsStringBody ('\\' :: e :: cs)
  | number {a b c d : Char} {unit : Nat} {cs : List Char} (hunit : hexUnit? a b c d = some unit)
      (hcs : IsStringBody cs) : IsStringBody ('\\' :: 'u' :: a :: b :: c :: d :: cs)

/-! ### Numbers -/

/-- Digits end in front of this text. -/
def EndsDigits (rest : List Char) : Prop :=
  ∀ c ∈ rest.head?, digit? c = none

/-- A fraction ends in front of this text, and so do digits without one. -/
def EndsFraction (rest : List Char) : Prop :=
  EndsDigits rest ∧ rest.head? ≠ some '.'

/-- A number ends in front of this text, whichever of its parts it has. -/
def EndsNumber (rest : List Char) : Prop :=
  EndsFraction rest ∧ rest.head? ≠ some 'e' ∧ rest.head? ≠ some 'E'

theorem range_of_isDigit {c : Char} (hc : c.isDigit) : '0' ≤ c ∧ c ≤ '9' := by
  simp only [Char.isDigit, Bool.and_eq_true, decide_eq_true_eq] at hc
  exact ⟨hc.1, hc.2⟩

theorem digit?_of_isDigit {c : Char} (hc : c.isDigit) :
    digit? c = some (c.toNat - '0'.toNat) :=
  if_pos (range_of_isDigit hc)

theorem digits_cons {c : Char} (hc : c.isDigit) (rest : List Char) :
    digits (c :: rest) = ((c.toNat - '0'.toNat) :: (digits rest).1, (digits rest).2) := by
  rw [digits, digit?_of_isDigit hc]

theorem digits_append {cs rest : List Char} (hcs : ∀ c ∈ cs, c.isDigit) (hrest : EndsDigits rest) :
    digits (cs ++ rest) = ((digits cs).1, rest) := by
  induction cs with
  | nil =>
      cases rest with
      | nil => rfl
      | cons c rest =>
          have hc : digit? c = none := hrest c rfl
          simp only [List.nil_append, digits, hc]
  | cons c cs ih =>
      obtain ⟨hc, hcs⟩ := List.forall_mem_cons.mp hcs
      rw [List.cons_append, digits_cons hc, ih hcs, digits_cons hc]

theorem someDigits_append {c : Char} {cs rest : List Char} (hc : c.isDigit)
    (hcs : ∀ d ∈ cs, d.isDigit) (hrest : EndsDigits rest) :
    someDigits (c :: (cs ++ rest)) = .ok ((c.toNat - '0'.toNat) :: (digits cs).1, rest) := by
  rw [someDigits, digits_cons hc, digits_append hcs hrest]

theorem IsDigits.exists_someDigits {cs : List Char} (h : IsDigits cs) :
    ∃ ds, ∀ rest, EndsDigits rest → someDigits (cs ++ rest) = .ok (ds, rest) := by
  obtain ⟨c, cs, rfl⟩ := List.exists_cons_of_ne_nil h.nonempty
  obtain ⟨hc, hcs⟩ := List.forall_mem_cons.mp h.all
  exact ⟨_, fun rest hrest => someDigits_append hc hcs hrest⟩

theorem IsWhole.exists_wholeDigits {cs : List Char} (h : IsWhole cs) :
    ∃ ds, ∀ rest, EndsDigits rest → wholeDigits (cs ++ rest) = .ok (ds, rest) := by
  cases h with
  | zero =>
      refine ⟨[0], fun rest hrest => ?_⟩
      have hdigits : someDigits ('0' :: rest) = .ok ([0], rest) :=
        someDigits_append rfl (List.forall_mem_nil _) hrest
      rw [List.singleton_append, wholeDigits, hdigits]
      rfl
  | @nonzero c cs hc hzero hcs =>
      have hvalue : c.toNat - '0'.toNat ≠ 0 := by
        have hle : '0'.toNat ≤ c.toNat := (range_of_isDigit hc).1
        have hne : c.toNat ≠ '0'.toNat := fun h => hzero (Char.toNat_inj.mp h)
        omega
      refine ⟨(c.toNat - '0'.toNat) :: (digits cs).1, fun rest hrest => ?_⟩
      rw [List.cons_append, wholeDigits, someDigits_append hc hcs hrest]
      exact if_neg fun h => hvalue (Option.some.inj h.1)

theorem IsFraction.exists_fraction {cs : List Char} (h : IsFraction cs) :
    ∃ ds, ∀ rest, EndsFraction rest → fraction (cs ++ rest) = .ok (ds, rest) := by
  cases h with
  | absent =>
      refine ⟨none, fun rest hrest => ?_⟩
      rw [List.nil_append, fraction]
      rintro _ rfl
      exact hrest.2 rfl
  | point hcs =>
      obtain ⟨ds, hds⟩ := hcs.exists_someDigits
      refine ⟨some ds, fun rest hrest => ?_⟩
      rw [List.cons_append, fraction, hds rest hrest.1]
      rfl

theorem IsFraction.endsDigits {cs rest : List Char} (h : IsFraction cs)
    (hrest : EndsFraction rest) : EndsDigits (cs ++ rest) := by
  cases h with
  | absent => exact hrest.1
  | point hcs =>
      rintro _ ⟨⟩
      rfl

theorem IsExponent.endsFraction {cs rest : List Char} (h : IsExponent cs)
    (hrest : EndsNumber rest) : EndsFraction (cs ++ rest) := by
  have hletter : ∀ {e : Char} (behind : List Char), e = 'e' ∨ e = 'E' →
      EndsFraction (e :: behind) := by
    rintro _ behind (rfl | rfl)
    all_goals
      refine ⟨?_, by simp⟩
      rintro _ ⟨⟩
      rfl
  cases h with
  | absent => exact hrest.1
  | unsigned he => exact hletter _ he
  | signed he => exact hletter _ he

theorem exponent_cons {e : Char} (he : e = 'e' ∨ e = 'E') (rest : List Char) :
    exponent (e :: rest) = match rest with
      | '+' :: rest => signedDigits false rest
      | '-' :: rest => signedDigits true rest
      | _ => signedDigits false rest := by
  unfold exponent
  exact if_pos he

theorem exponent_of_ne_letter {rest : List Char} (he : rest.head? ≠ some 'e')
    (hE : rest.head? ≠ some 'E') : exponent rest = .ok (none, rest) := by
  cases rest with
  | nil => rfl
  | cons c rest =>
      have hletter : ¬ (c = 'e' ∨ c = 'E') := by
        rintro (rfl | rfl)
        · exact he rfl
        · exact hE rfl
      unfold exponent
      exact if_neg hletter

theorem IsDigits.exists_signedDigits {cs : List Char} (h : IsDigits cs) (negative : Bool) :
    ∃ e, ∀ rest, EndsDigits rest → signedDigits negative (cs ++ rest) = .ok (some e, rest) := by
  obtain ⟨ds, hds⟩ := h.exists_someDigits
  refine ⟨⟨negative, ds⟩, fun rest hrest => ?_⟩
  rw [signedDigits, hds rest hrest]
  rfl

theorem IsExponent.exists_exponent {cs : List Char} (h : IsExponent cs) :
    ∃ e, ∀ rest, EndsNumber rest → exponent (cs ++ rest) = .ok (e, rest) := by
  cases h with
  | absent => exact ⟨none, fun rest hrest => exponent_of_ne_letter hrest.2.1 hrest.2.2⟩
  | @unsigned letter cs hletter hcs =>
      obtain ⟨e, he⟩ := hcs.exists_signedDigits false
      refine ⟨some e, fun rest hrest => ?_⟩
      have hread := he rest hrest.1.1
      rw [List.cons_append, exponent_cons hletter]
      -- A sign is no digit, so the exponent begins with none.
      generalize cs ++ rest = all at hread
      split
      · cases hread
      · cases hread
      · exact hread
  | signed hletter hsign hcs =>
      rcases hsign with rfl | rfl
      · obtain ⟨e, he⟩ := hcs.exists_signedDigits false
        exact ⟨some e, fun rest hrest => (exponent_cons hletter _).trans (he rest hrest.1.1)⟩
      · obtain ⟨e, he⟩ := hcs.exists_signedDigits true
        exact ⟨some e, fun rest hrest => (exponent_cons hletter _).trans (he rest hrest.1.1)⟩

theorem IsUnsigned.exists_unsigned {whole fraction exponent : List Char}
    (h : IsUnsigned whole fraction exponent) (negative : Bool) :
    ∃ n, ∀ rest, EndsNumber rest →
      unsigned negative (whole ++ (fraction ++ exponent) ++ rest) = .ok (n, rest) := by
  obtain ⟨ds, hds⟩ := h.whole.exists_wholeDigits
  obtain ⟨places, hplaces⟩ := h.fraction.exists_fraction
  obtain ⟨e, he⟩ := h.exponent.exists_exponent
  refine ⟨⟨negative, ds, places, e⟩, fun rest hrest => ?_⟩
  have hpoint : EndsFraction (exponent ++ rest) := h.exponent.endsFraction hrest
  have hdigits : EndsDigits (fraction ++ (exponent ++ rest)) := h.fraction.endsDigits hpoint
  rw [List.append_assoc, List.append_assoc, unsigned, hds _ hdigits]
  simp only [hplaces _ hpoint, he rest hrest]
  rfl

theorem IsWhole.exists_cons {cs : List Char} (h : IsWhole cs) :
    ∃ c rest, cs = c :: rest ∧ c.isDigit := by
  cases h with
  | zero => exact ⟨'0', [], rfl, rfl⟩
  | nonzero hc => exact ⟨_, _, rfl, hc⟩

theorem IsNumber.exists_numeral {cs : List Char} (h : IsNumber cs) :
    ∃ n, ∀ rest, EndsNumber rest → numeral (cs ++ rest) = .ok (n, rest) := by
  cases h with
  | @positive whole fraction exponent h =>
      obtain ⟨n, hn⟩ := h.exists_unsigned false
      obtain ⟨c, more, rfl, hc⟩ := h.whole.exists_cons
      refine ⟨n, fun rest hrest => ?_⟩
      rw [numeral]
      · exact hn rest hrest
      · rintro _ ⟨⟩
        cases hc
  | @negative whole fraction exponent h =>
      obtain ⟨n, hn⟩ := h.exists_unsigned true
      exact ⟨n, hn⟩

/-- What a text is read as, or why it is refused. -/
def outcome {α : Type} (r : Except Fault α) : Except Reason α :=
  r.mapError Fault.reason

theorem exists_of_outcome {α : Type} {x : Except Fault α} {reason : Reason}
    (h : outcome x = .error reason) : ∃ fault, x = .error fault ∧ fault.reason = reason := by
  cases x with
  | error fault => exact ⟨fault, rfl, Except.error.inj h⟩
  | ok a => cases h

/-- What is made of a part is refused where the part is. -/
theorem outcome_map {α β : Type} {part : Except Fault (α × List Char)} {r : Except Reason α}
    {rest : List Char} (h : outcome part = r.map (·, rest)) (f : α → β) :
    outcome (part.map fun p => (f p.1, p.2)) = (r.map f).map (·, rest) := by
  cases part with
  | error fault =>
      cases r with
      | error reason => exact congrArg Except.error (Except.error.inj h)
      | ok a => cases h
  | ok found =>
      cases r with
      | error reason => cases h
      | ok a =>
          cases h
          rfl

theorem IsNumber.exists_outcome {cs : List Char} (h : IsNumber cs) :
    ∃ r : Except Reason JsonNumber, (∀ reason, r = .error reason → reason = .numberTooLarge) ∧
      ∀ rest, EndsNumber rest → outcome (decimal (cs ++ rest)) = r.map (·, rest) := by
  obtain ⟨n, hn⟩ := h.exists_numeral
  cases hvalue : n.value? with
  | none =>
      refine ⟨.error .numberTooLarge, ?_, fun rest hrest => ?_⟩
      · rintro _ ⟨⟩
        rfl
      · rw [decimal, hn rest hrest]
        simp only [hvalue]
        rfl
  | some value =>
      refine ⟨.ok value, ?_, fun rest hrest => ?_⟩
      · rintro _ ⟨⟩
      · rw [decimal, hn rest hrest]
        simp only [hvalue]
        rfl

/-! ### Strings -/

/-- The reasons for which a string of the grammar can be refused. -/
def Reason.IsSurrogate (reason : Reason) : Prop :=
  reason = .loneSurrogate ∨ reason = .endInEscape

/-- Whatever comes behind the text, reading gives the same characters or the same reason. -/
structure ReadsAs (cs : List Char) (r : Except Reason (List Char)) : Prop where
  outcome_eq (rest : List Char) : outcome (stringBody (cs ++ rest)) = r.map (·, rest)
  isSurrogate (reason : Reason) : r = .error reason → reason.IsSurrogate

theorem stringBody_plain {c : Char} (hquote : c ≠ '"') (hslash : c ≠ '\\')
    (hcontrol : ¬ c.toNat < 0x20) (rest : List Char) :
    stringBody (c :: rest) = (stringBody rest).map fun p => (c :: p.1, p.2) := by
  rw [stringBody]
  · exact if_neg hcontrol
  · exact hquote
  · exact hslash

theorem stringBody_escape (rest : List Char) :
    stringBody ('\\' :: rest) =
      escape rest >>= fun p => (stringBody p.2).map fun q => (p.1 :: q.1, q.2) := by
  rw [stringBody]
  split
  all_goals
    rename_i hescape
    rw [hescape]
    rfl

theorem stringBody_of_escape {cs tail : List Char} {c : Char} (h : escape cs = .ok (c, tail)) :
    stringBody ('\\' :: cs) = (stringBody tail).map fun p => (c :: p.1, p.2) := by
  rw [stringBody_escape, h]
  rfl

theorem escape_short {e c : Char} (he : shortEscape? e = some c) (rest : List Char) :
    escape (e :: rest) = .ok (c, rest) := by
  rw [escape]
  · rw [he]
  · rintro rfl
    cases he

theorem hexEscape_append {a b c d : Char} {unit : Nat} (hunit : hexUnit? a b c d = some unit)
    (rest : List Char) : hexEscape (a :: b :: c :: d :: rest) = .ok (unit, rest) := by
  rw [hexEscape, hunit]

theorem escape_number {a b c d : Char} {unit : Nat} (hunit : hexUnit? a b c d = some unit)
    (rest : List Char) : escape ('u' :: a :: b :: c :: d :: rest) =
      if isLowSurrogate unit then .error (.before .loneSurrogate rest)
      else if isHighSurrogate unit then lowHalf unit rest
      else .ok (Char.ofNat unit, rest) := by
  rw [escape, unicodeEscape, hexEscape_append hunit]

theorem ReadsAs.refused {cs : List Char} {reason : Reason} (hreason : reason.IsSurrogate)
    (h : ∀ rest, outcome (stringBody (cs ++ rest)) = .error reason) :
    ReadsAs cs (.error reason) := by
  refine ⟨h, ?_⟩
  rintro _ ⟨⟩
  exact hreason

/-- A character in front does not change whether a string is read. -/
theorem ReadsAs.append {front cs : List Char} {c : Char} {r : Except Reason (List Char)}
    (hfront : ∀ rest, stringBody (front ++ rest) =
      (stringBody rest).map fun p => (c :: p.1, p.2)) (h : ReadsAs cs r) :
    ReadsAs (front ++ cs) (r.map (c :: ·)) := by
  refine ⟨fun rest => ?_, fun reason hreason => ?_⟩
  · rw [List.append_assoc, hfront]
    exact outcome_map (h.outcome_eq rest) (c :: ·)
  · cases r with
    | error found => exact h.isSurrogate reason hreason
    | ok text => cases hreason

theorem ReadsAs.escaped {front cs : List Char} {c : Char} {r : Except Reason (List Char)}
    (hfront : ∀ rest, escape (front ++ rest) = .ok (c, rest)) (h : ReadsAs cs r) :
    ReadsAs ('\\' :: (front ++ cs)) (r.map (c :: ·)) := by
  have hslash : ∀ rest, stringBody ('\\' :: front ++ rest) =
      (stringBody rest).map fun p => (c :: p.1, p.2) :=
    fun rest => stringBody_of_escape (hfront rest)
  exact h.append hslash

theorem ReadsAs.refused_escape {cs : List Char} {reason : Reason} (hreason : reason.IsSurrogate)
    (h : ∀ rest, outcome (escape (cs ++ rest)) = .error reason) :
    ReadsAs ('\\' :: cs) (.error reason) := by
  refine .refused hreason fun rest => ?_
  obtain ⟨fault, hescape, rfl⟩ := exists_of_outcome (h rest)
  rw [List.cons_append, stringBody_escape, hescape]
  rfl

/-- What the reader makes of the text behind the first half of a surrogate pair. -/
theorem lowHalf_cases {cs : List Char} (h : IsStringBody cs) (high : Nat) :
    (∃ reason : Reason, reason.IsSurrogate ∧
      ∀ rest, outcome (lowHalf high (cs ++ rest)) = .error reason) ∨
    ∃ front behind c, cs = front ++ behind ∧ IsStringBody behind ∧
      ∀ rest, lowHalf high (front ++ rest) = .ok (c, rest) := by
  cases h with
  | quote => exact .inl ⟨.endInEscape, .inr rfl, fun _ => rfl⟩
  | plain hquote hslash hcontrol hcs =>
      refine .inl ⟨.endInEscape, .inr rfl, fun rest => ?_⟩
      rw [List.cons_append, lowHalf]
      · rfl
      · exact fun _ hbehind => hslash (List.cons.inj hbehind).1
      · exact fun _ hbehind => hslash (List.cons.inj hbehind).1
  | short he hcs =>
      refine .inl ⟨.endInEscape, .inr rfl, fun rest => ?_⟩
      rw [List.cons_append, List.cons_append, lowHalf]
      · rfl
      · intro behind hbehind
        rw [(List.cons.inj hbehind).1] at he
        cases he
  | @number a b c d unit cs hunit hcs =>
      by_cases hlow : isLowSurrogate unit
      · refine .inr ⟨['\\', 'u', a, b, c, d], cs, pairChar high unit, rfl, hcs, fun rest => ?_⟩
        simp only [List.cons_append, List.nil_append, lowHalf, hexEscape_append hunit, hlow,
          if_true]
      · refine .inl ⟨.loneSurrogate, .inl rfl, fun rest => ?_⟩
        simp only [List.cons_append, lowHalf, hexEscape_append hunit, hlow]
        rfl

theorem IsStringBody.exists_readsAs {cs : List Char} (h : IsStringBody cs) :
    ∃ r, ReadsAs cs r := by
  cases h with
  | quote =>
      refine ⟨.ok [], fun rest => ?_, ?_⟩
      · rw [List.singleton_append, stringBody]
        rfl
      · rintro _ ⟨⟩
  | @plain c cs hquote hslash hcontrol hcs =>
      obtain ⟨r, hr⟩ := hcs.exists_readsAs
      have hread : ReadsAs ([c] ++ cs) _ := hr.append (stringBody_plain hquote hslash hcontrol)
      exact ⟨_, hread⟩
  | @short e c cs he hcs =>
      obtain ⟨r, hr⟩ := hcs.exists_readsAs
      have hread : ReadsAs ('\\' :: ([e] ++ cs)) _ := hr.escaped (escape_short he)
      exact ⟨_, hread⟩
  | @number a b c d unit cs hunit hcs =>
      by_cases hlow : isLowSurrogate unit
      · refine ⟨_, .refused_escape (.inl rfl) fun rest => ?_⟩
        change outcome (escape ('u' :: a :: b :: c :: d :: (cs ++ rest))) = _
        rw [escape_number hunit, if_pos hlow]
        rfl
      · by_cases hhigh : isHighSurrogate unit
        · rcases lowHalf_cases hcs unit with ⟨reason, hreason, hrefused⟩ |
            ⟨front, behind, pair, hsplit, hbehind, hpair⟩
          · refine ⟨_, .refused_escape hreason fun rest => ?_⟩
            change outcome (escape ('u' :: a :: b :: c :: d :: (cs ++ rest))) = _
            rw [escape_number hunit, if_neg hlow, if_pos hhigh]
            exact hrefused rest
          · have hshorter : behind.length ≤ cs.length := by
              rw [hsplit, List.length_append]
              exact Nat.le_add_left _ _
            obtain ⟨r, hr⟩ := hbehind.exists_readsAs
            have hread : ReadsAs ('\\' :: ('u' :: a :: b :: c :: d :: front ++ behind)) _ :=
              hr.escaped fun rest => (escape_number hunit (front ++ rest)).trans
                ((if_neg hlow).trans ((if_pos hhigh).trans (hpair rest)))
            exact ⟨_, by rwa [hsplit]⟩
        · obtain ⟨r, hr⟩ := hcs.exists_readsAs
          have hread : ReadsAs ('\\' :: (['u', a, b, c, d] ++ cs)) _ :=
            hr.escaped fun rest => (escape_number hunit rest).trans
              ((if_neg hlow).trans (if_neg hhigh))
          exact ⟨_, hread⟩
termination_by cs.length
decreasing_by
  all_goals
    simp only [List.length_cons]
    omega

/-! ### Texts of numbers and strings -/

def NumberText : Type := { cs : List Char // IsNumber cs }

/-- A string without its opening quote. -/
def StringText : Type := { cs : List Char // IsStringBody cs }

/-- The number that is written, or why it is refused. -/
def NumberText.read (n : NumberText) : Except Reason JsonNumber :=
  (outcome (decimal n.val)).map Prod.fst

def StringText.read (s : StringText) : Except Reason (List Char) :=
  (outcome (stringBody s.val)).map Prod.fst

theorem endsNumber_nil : EndsNumber [] := by
  refine ⟨⟨?_, by simp⟩, by simp, by simp⟩
  rintro _ ⟨⟩

theorem eq_of_map_nil {α : Type} {r : Except Reason α} {x : Except Reason (α × List Char)}
    (h : x = r.map (·, [])) : x.map Prod.fst = r := by
  rw [h]
  cases r <;> rfl

theorem NumberText.outcome_decimal (n : NumberText) {rest : List Char} (hrest : EndsNumber rest) :
    outcome (decimal (n.val ++ rest)) = n.read.map (·, rest) := by
  obtain ⟨r, -, hr⟩ := n.property.exists_outcome
  have hself := hr [] endsNumber_nil
  rw [List.append_nil] at hself
  rw [hr rest hrest, read, eq_of_map_nil hself]

theorem StringText.readsAs (s : StringText) : ReadsAs s.val s.read := by
  obtain ⟨r, hr⟩ := s.property.exists_readsAs
  have hself := hr.outcome_eq []
  rw [List.append_nil] at hself
  rwa [read, eq_of_map_nil hself]

end SchemaClasses.Json
