import SchemaClasses.Json.Basic
import SchemaClasses.Json.Fault

/-! The tokens of a JSON text. White space, strings, numbers and the three literals are read here by
the grammar of RFC 8259. Two things that the grammar allows are faults all the same: a number beyond
all doubles, and half of a surrogate pair without its other half. A function that reads a part of a
text gives that part and what comes behind it, or the fault that is met. -/

namespace SchemaClasses.Json

inductive Token where
  | arrayOpen
  | arrayClose
  | objectOpen
  | objectClose
  | comma
  | colon
  /-- `null`, `true` and `false`. -/
  | literal (value : Json)
  | number (value : JsonNumber)
  | string (value : List Char)

def isSpace (c : Char) : Bool :=
  c = ' ' || c = '\t' || c = '\n' || c = '\r'

def digit? (c : Char) : Option Nat :=
  if '0' ≤ c ∧ c ≤ '9' then some (c.toNat - '0'.toNat) else none

def hexDigit? (c : Char) : Option Nat :=
  if '0' ≤ c ∧ c ≤ '9' then some (c.toNat - '0'.toNat)
  else if 'a' ≤ c ∧ c ≤ 'f' then some (c.toNat - 'a'.toNat + 10)
  else if 'A' ≤ c ∧ c ≤ 'F' then some (c.toNat - 'A'.toNat + 10)
  else none

/-! ### Strings -/

/-- The number that four hexadecimal digits write. -/
def hexUnit? (a b c d : Char) : Option Nat := do
  let a ← hexDigit? a
  let b ← hexDigit? b
  let c ← hexDigit? c
  let d ← hexDigit? d
  return ((a * 16 + b) * 16 + c) * 16 + d

/-- The character behind a backslash, except for the escape by number. -/
def shortEscape? : Char → Option Char
  | '"' => some '"'
  | '\\' => some '\\'
  | '/' => some '/'
  | 'b' => some '\x08'
  | 'f' => some '\x0C'
  | 'n' => some '\n'
  | 'r' => some '\r'
  | 't' => some '\t'
  | _ => none

def isHighSurrogate (unit : Nat) : Bool :=
  0xD800 ≤ unit && unit ≤ 0xDBFF

def isLowSurrogate (unit : Nat) : Bool :=
  0xDC00 ≤ unit && unit ≤ 0xDFFF

/-- The character that a pair of surrogates stands for. -/
def pairChar (high low : Nat) : Char :=
  Char.ofNat (0x10000 + (high - 0xD800) * 0x400 + (low - 0xDC00))

/-- What is wrong where four hexadecimal digits should come next. Four bytes are looked at, if there
are as many. -/
def hexFault (cs : List Char) : Fault :=
  if byteLength cs < 4 then .atEnd .endInString else ⟨.invalidEscape, byteLength cs - 4⟩

/-- The number of an escape. -/
def hexEscape : List Char → Except Fault (Nat × List Char)
  | a :: b :: c :: d :: rest =>
    match hexUnit? a b c d with
    | some unit => .ok (unit, rest)
    | none => .error (hexFault (a :: b :: c :: d :: rest))
  | cs => .error (hexFault cs)

/-- The character of a surrogate pair, behind the escape of its first half. -/
def lowHalf (high : Nat) : List Char → Except Fault (Char × List Char)
  | '\\' :: 'u' :: rest =>
    match hexEscape rest with
    | .error fault => .error fault
    | .ok (low, tail) =>
      if isLowSurrogate low then .ok (pairChar high low, tail)
      else .error (.before .loneSurrogate tail)
  | '\\' :: rest | rest => .error (.unexpected .endInString .endInEscape rest)

/-- The character of an escape by number. -/
def unicodeEscape (cs : List Char) : Except Fault (Char × List Char) :=
  match hexEscape cs with
  | .error fault => .error fault
  | .ok (unit, tail) =>
    if isLowSurrogate unit then .error (.before .loneSurrogate tail)
    else if isHighSurrogate unit then lowHalf unit tail
    else .ok (Char.ofNat unit, tail)

/-- The character of an escape, behind its backslash. -/
def escape : List Char → Except Fault (Char × List Char)
  | [] => .error (.atEnd .endInString)
  | 'u' :: rest => unicodeEscape rest
  | e :: rest =>
    match shortEscape? e with
    | some c => .ok (c, rest)
    | none => .error (.found .invalidEscape (e :: rest))

/-- What is made of a part leaves what comes behind it. -/
theorem exists_of_map {α β : Type} {part : Except Fault (α × List Char)} {f : α → β} {b : β}
    {tail : List Char} (h : part.map (fun p => (f p.1, p.2)) = .ok (b, tail)) :
    ∃ a, part = .ok (a, tail) ∧ f a = b := by
  cases part with
  | error fault => cases h
  | ok p =>
    cases h
    exact ⟨p.1, rfl, rfl⟩

theorem length_of_hexEscape {cs tail : List Char} {unit : Nat}
    (h : hexEscape cs = .ok (unit, tail)) : tail.length < cs.length := by
  unfold hexEscape at h
  split at h
  · split at h
    · cases h
      rw [List.length_cons, List.length_cons, List.length_cons, List.length_cons]
      omega
    · cases h
  · cases h

theorem length_of_lowHalf {high : Nat} {cs tail : List Char} {c : Char}
    (h : lowHalf high cs = .ok (c, tail)) : tail.length < cs.length := by
  unfold lowHalf at h
  split at h
  case h_1 rest =>
    split at h
    · cases h
    · rename_i low behind hhex
      split at h
      · obtain ⟨-, rfl⟩ := Prod.mk.inj (Except.ok.inj h)
        have hrest := length_of_hexEscape hhex
        rw [List.length_cons, List.length_cons]
        omega
      · cases h
  all_goals cases h

theorem length_of_unicodeEscape {cs tail : List Char} {c : Char}
    (h : unicodeEscape cs = .ok (c, tail)) : tail.length < cs.length := by
  unfold unicodeEscape at h
  split at h
  · cases h
  · rename_i unit rest hhex
    have hrest := length_of_hexEscape hhex
    split at h
    · cases h
    · split at h
      · have hlow := length_of_lowHalf h
        omega
      · obtain ⟨-, rfl⟩ := Prod.mk.inj (Except.ok.inj h)
        exact hrest

theorem length_of_escape {cs tail : List Char} {c : Char} (h : escape cs = .ok (c, tail)) :
    tail.length < cs.length := by
  unfold escape at h
  split at h
  · cases h
  · have hrest := length_of_unicodeEscape h
    rw [List.length_cons]
    omega
  · split at h
    · cases h
      exact Nat.lt_succ_self _
    · cases h

/-- The text up to the closing quote, and what comes behind that quote. -/
def stringBody (cs : List Char) : Except Fault (List Char × List Char) :=
  match cs with
  | [] => .error (.atEnd .endInString)
  | '"' :: rest => .ok ([], rest)
  | '\\' :: rest =>
    match _ : escape rest with
    | .error fault => .error fault
    | .ok (c, tail) => (stringBody tail).map fun (text, behind) => (c :: text, behind)
  | c :: rest =>
    if c.toNat < 0x20 then .error (.found .controlCharacter (c :: rest))
    else (stringBody rest).map fun (text, behind) => (c :: text, behind)
termination_by cs.length
decreasing_by
  · have hrest := length_of_escape ‹_›
    rw [List.length_cons]
    omega
  · exact Nat.lt_succ_self _

/-! ### Numbers -/

/-- The digits that a text begins with, and the rest. -/
def digits (cs : List Char) : List Nat × List Char :=
  match cs with
  | [] => ([], [])
  | c :: rest =>
    match digit? c with
    | none => ([], c :: rest)
    | some d => let (ds, tail) := digits rest; (d :: ds, tail)

theorem length_digits (cs : List Char) :
    (digits cs).1.length + (digits cs).2.length = cs.length := by
  induction cs with
  | nil => rfl
  | cons c rest ih =>
    cases hc : digit? c with
    | none =>
      rw [digits, hc]
      exact Nat.zero_add _
    | some d =>
      simp only [digits, hc, List.length_cons]
      omega

/-- At least one digit. -/
def someDigits (cs : List Char) : Except Fault (List Nat × List Char) :=
  match digits cs with
  | ([], rest) => .error (.unexpected .endInValue .invalidNumber rest)
  | (ds, rest) => .ok (ds, rest)

/-- The digits in front of the point. A zero stands alone. -/
def wholeDigits (cs : List Char) : Except Fault (List Nat × List Char) :=
  match someDigits cs with
  | .error fault => .error fault
  | .ok (ds, rest) =>
    if ds.head? = some 0 ∧ 1 < ds.length then .error (.found .invalidNumber cs.tail)
    else .ok (ds, rest)

/-- The fraction, if a point comes next. -/
def fraction : List Char → Except Fault (Option (List Nat) × List Char)
  | '.' :: rest => (someDigits rest).map fun (ds, tail) => (some ds, tail)
  | cs => .ok (none, cs)

structure Exponent where
  negative : Bool
  digits : List Nat

def Exponent.value (e : Exponent) : Int :=
  let n : Nat := e.digits.foldl (fun n d => n * 10 + d) 0
  if e.negative then -(n : Int) else n

def signedDigits (negative : Bool) (cs : List Char) :
    Except Fault (Option Exponent × List Char) :=
  (someDigits cs).map fun (ds, tail) => (some ⟨negative, ds⟩, tail)

/-- The exponent, if its letter comes next. -/
def exponent : List Char → Except Fault (Option Exponent × List Char)
  | [] => .ok (none, [])
  | e :: rest =>
    if e = 'e' ∨ e = 'E' then
      match rest with
      | '+' :: rest => signedDigits false rest
      | '-' :: rest => signedDigits true rest
      | _ => signedDigits false rest
    else .ok (none, e :: rest)

/-- A number as written: the digits in front of the point and behind it, and the exponent. -/
structure Numeral where
  negative : Bool
  whole : List Nat
  fraction : Option (List Nat)
  exponent : Option Exponent

/-- A number without its sign. -/
def unsigned (negative : Bool) (cs : List Char) : Except Fault (Numeral × List Char) :=
  match wholeDigits cs with
  | .error fault => .error fault
  | .ok (whole, rest) =>
    match fraction rest with
    | .error fault => .error fault
    | .ok (fraction, rest) =>
      (exponent rest).map fun (exponent, tail) => (⟨negative, whole, fraction, exponent⟩, tail)

def numeral : List Char → Except Fault (Numeral × List Char)
  | '-' :: rest => unsigned true rest
  | cs => unsigned false cs

/-- Appends digits to a significand as long as it fits 64 bits; also says how many were taken. -/
def absorb (significand : Nat) : List Nat → Nat × Nat
  | [] => (significand, 0)
  | d :: ds =>
    if significand * 10 + d < Nat.pow 2 64 then
      let (s, taken) := absorb (significand * 10 + d) ds
      (s, taken + 1)
    else (significand, 0)

/-- The value of a number, unless it is too large for a double. Digits that a 64-bit significand
cannot take are dropped; in front of the point each of them counts as a power of ten. -/
def Numeral.value? (n : Numeral) : Option JsonNumber :=
  let (whole, taken) := absorb 0 n.whole
  let dropped := n.whole.length - taken
  let isInteger := n.fraction.isNone && n.exponent.isNone && dropped == 0
  if isInteger && !n.negative then some (.integer whole)
  else if isInteger && 0 < whole && whole ≤ Nat.pow 2 63 then some (.integer (-whole))
  else
    let (significand, places) := absorb whole (n.fraction.getD [])
    let exponent := (dropped : Int) - places + (n.exponent.map Exponent.value).getD 0
    (Binary64.ofDecimal? significand exponent).map (.double n.negative)

/-- How many digits of an exponent come behind the one with which it exceeds 32 bits. -/
def Exponent.excess (e : Exponent) : Nat :=
  if e.negative then 0 else beyond 0 e.digits
where
  beyond (n : Nat) : List Nat → Nat
    | [] => 0
    | d :: ds => if n * 10 + d < Nat.pow 2 31 then beyond (n * 10 + d) ds else ds.length

/-- A number that is too large is given up behind its last digit, or within an exponent that is too
large itself. -/
def decimal (cs : List Char) : Except Fault (JsonNumber × List Char) :=
  match numeral cs with
  | .error fault => .error fault
  | .ok (n, rest) =>
    match n.value? with
    | some value => .ok (value, rest)
    | none =>
      .error ⟨.numberTooLarge, byteLength rest + (n.exponent.map Exponent.excess).getD 0⟩

/-! ### Tokens -/

/-- Goes on with the letters of a literal. -/
def literal (value : Json) : List Char → List Char → Except Fault (Token × List Char)
  | [], rest => .ok (.literal value, rest)
  | _ :: _, [] => .error (.atEnd .endInValue)
  | letter :: letters, c :: rest =>
    if c = letter then literal value letters rest
    else .error (.found .expectedLiteral (c :: rest))

/-- The token that a text begins with, and the rest. -/
def token : List Char → Except Fault (Token × List Char)
  | '[' :: rest => .ok (.arrayOpen, rest)
  | ']' :: rest => .ok (.arrayClose, rest)
  | '\x7b' :: rest => .ok (.objectOpen, rest)
  | '\x7d' :: rest => .ok (.objectClose, rest)
  | ',' :: rest => .ok (.comma, rest)
  | ':' :: rest => .ok (.colon, rest)
  | 'n' :: rest => literal .null ['u', 'l', 'l'] rest
  | 't' :: rest => literal (.bool true) ['r', 'u', 'e'] rest
  | 'f' :: rest => literal (.bool false) ['a', 'l', 's', 'e'] rest
  | '"' :: rest => (stringBody rest).map fun (text, tail) => (.string text, tail)
  | cs => (decimal cs).map fun (value, tail) => (.number value, tail)

/-! ### What comes behind is shorter -/

theorem length_of_stringBody {cs text tail : List Char} (h : stringBody cs = .ok (text, tail)) :
    tail.length < cs.length := by
  fun_induction stringBody cs generalizing text tail with
  | case1 => cases h
  | case2 rest =>
    cases h
    exact Nat.lt_succ_self _
  | case3 rest fault hescape => cases h
  | case4 rest c behind hescape ih =>
    obtain ⟨_, hbody, -⟩ := exists_of_map (f := (c :: ·)) h
    have hbehind := length_of_escape hescape
    have htail := ih hbody
    rw [List.length_cons]
    omega
  | case5 c rest hquote hslash hcontrol => cases h
  | case6 c rest hquote hslash hcontrol ih =>
    obtain ⟨_, hbody, -⟩ := exists_of_map (f := (c :: ·)) h
    exact Nat.lt_succ_of_lt (ih hbody)

theorem length_of_someDigits {cs tail : List Char} {ds : List Nat}
    (h : someDigits cs = .ok (ds, tail)) : tail.length < cs.length := by
  have hlength := length_digits cs
  unfold someDigits at h
  split at h
  · cases h
  · rename_i ds' rest hsome hdigits
    cases h
    simp only [hdigits] at hlength
    have hpos : 0 < ds.length := List.length_pos_iff.mpr hsome
    omega

theorem length_of_wholeDigits {cs tail : List Char} {ds : List Nat}
    (h : wholeDigits cs = .ok (ds, tail)) : tail.length < cs.length := by
  unfold wholeDigits at h
  split at h
  · cases h
  · rename_i ds' rest hdigits
    split at h
    · cases h
    · cases h
      exact length_of_someDigits hdigits

theorem length_of_fraction {cs tail : List Char} {ds : Option (List Nat)}
    (h : fraction cs = .ok (ds, tail)) : tail.length ≤ cs.length := by
  unfold fraction at h
  split at h
  · obtain ⟨_, hdigits, -⟩ := exists_of_map (f := some) h
    exact Nat.le_succ_of_le (Nat.le_of_lt (length_of_someDigits hdigits))
  · cases h
    exact Nat.le_refl _

theorem length_of_signedDigits {negative : Bool} {cs tail : List Char} {e : Option Exponent}
    (h : signedDigits negative cs = .ok (e, tail)) : tail.length < cs.length := by
  unfold signedDigits at h
  obtain ⟨_, hdigits, -⟩ := exists_of_map (f := fun ds => some (Exponent.mk negative ds)) h
  exact length_of_someDigits hdigits

theorem length_of_exponent {cs tail : List Char} {e : Option Exponent}
    (h : exponent cs = .ok (e, tail)) : tail.length ≤ cs.length := by
  unfold exponent at h
  split at h
  · cases h
    exact Nat.le_refl _
  · split at h
    · split at h
      all_goals
        have htail := length_of_signedDigits h
        simp only [List.length_cons] at htail ⊢
        omega
    · cases h
      exact Nat.le_refl _

theorem length_of_unsigned {negative : Bool} {cs tail : List Char} {n : Numeral}
    (h : unsigned negative cs = .ok (n, tail)) : tail.length < cs.length := by
  unfold unsigned at h
  split at h
  · cases h
  · rename_i whole rest hwhole
    split at h
    · cases h
    · rename_i point behind hfraction
      obtain ⟨_, hexponent, -⟩ := exists_of_map (f := Numeral.mk negative whole point) h
      have hrest := length_of_wholeDigits hwhole
      have hbehind := length_of_fraction hfraction
      have htail := length_of_exponent hexponent
      omega

theorem length_of_decimal {cs tail : List Char} {value : JsonNumber}
    (h : decimal cs = .ok (value, tail)) : tail.length < cs.length := by
  unfold decimal at h
  split at h
  · cases h
  · rename_i n rest hnumeral
    split at h
    · cases h
      unfold numeral at hnumeral
      split at hnumeral
      · exact Nat.lt_succ_of_lt (length_of_unsigned hnumeral)
      · exact length_of_unsigned hnumeral
    · cases h

theorem length_of_literal {value : Json} {letters cs tail : List Char} {t : Token}
    (h : literal value letters cs = .ok (t, tail)) : tail.length ≤ cs.length := by
  fun_induction literal value letters cs with
  | case1 rest =>
    cases h
    exact Nat.le_refl _
  | case2 => cases h
  | case3 letters c rest ih => exact Nat.le_succ_of_le (ih h)
  | case4 => cases h

theorem length_of_token {cs tail : List Char} {t : Token} (h : token cs = .ok (t, tail)) :
    tail.length < cs.length := by
  unfold token at h
  split at h
  case h_7 | h_8 | h_9 => exact Nat.lt_succ_of_le (length_of_literal h)
  case h_10 rest =>
    obtain ⟨_, hbody, -⟩ := exists_of_map (f := Token.string) h
    exact Nat.lt_succ_of_lt (length_of_stringBody hbody)
  case h_11 =>
    obtain ⟨_, hdecimal, -⟩ := exists_of_map (f := Token.number) h
    exact length_of_decimal hdecimal
  all_goals
    cases h
    exact Nat.lt_succ_self _

end SchemaClasses.Json
