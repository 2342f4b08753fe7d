import SchemaClasses.Command.Flags
import SchemaClasses.Proofs.Capitals
import SchemaClasses.Proofs.Trimming

/-! The spellings of flags. What is chosen for a command line is written as a sequence of arguments
in many ways: with long names or with letters, with values attached or not, with older names, and
with several letters behind one dash. The older names are replaced before anything is read, and no
other argument is changed then. -/

namespace SchemaClasses

/-! ### Choices -/

/-- A value that is free text. There is something in it, and it does not look like a flag. -/
structure Word where
  text : String
  ne_empty : text ≠ ""
  no_dash : text.toList.head? ≠ some '-'
deriving DecidableEq, Repr

/-- A flag, with the value that is chosen for it. -/
inductive Choice where
  | namespaceName (name : Word)
  | endpoint (source : Word)
  | output (path : Word)
  | lang (language : Language)
  | header (line : Word)
  | timeout (seconds : UInt64)
  | retries (count : UInt32)
  | skipUnsupported
  | verbose
  | quiet
deriving DecidableEq, Repr

/-- All that is chosen for a command line. -/
structure Chosen where
  namespaceName : Option Word
  endpoint : Option Word
  output : Option Word
  lang : Option Language
  headers : List Word
  timeout : Option UInt64
  retries : Option UInt32
  skipUnsupported : Bool
  verbose : Bool
  quiet : Bool

namespace Chosen

/-- The choices other than headers, where they are made. -/
def options (chosen : Chosen) : List (Option Choice) :=
  [chosen.namespaceName.map .namespaceName, chosen.endpoint.map .endpoint,
    chosen.output.map .output, chosen.lang.map .lang, chosen.timeout.map .timeout,
    chosen.retries.map .retries, if chosen.skipUnsupported then some .skipUnsupported else none,
    if chosen.verbose then some .verbose else none, if chosen.quiet then some .quiet else none]

def choices (chosen : Chosen) : List Choice :=
  chosen.options.reduceOption ++ chosen.headers.map .header

/-- What the flags should be. -/
def flags (chosen : Chosen) : Flags where
  namespaceName := chosen.namespaceName.map Word.text
  endpoint := chosen.endpoint.map Word.text
  output := chosen.output.map Word.text
  lang := chosen.lang
  headers := chosen.headers.map Word.text
  timeout := (chosen.timeout.map UInt64.toNat).getD 30
  retries := (chosen.retries.map UInt32.toNat).getD 0
  skipUnsupported := chosen.skipUnsupported
  verbose := chosen.verbose
  quiet := chosen.quiet

/-- The choices in some order, which is that of the headers among these. -/
structure IsOrder (chosen : Chosen) (order : List Choice) : Prop where
  perm : order.Perm chosen.choices
  headers : (chosen.headers.map .header).Sublist order

end Chosen

namespace Choice

def flag : Choice → Flag
  | namespaceName _ => .setting .namespaceName
  | endpoint _ => .setting .endpoint
  | output _ => .setting .output
  | lang _ => .setting .lang
  | header _ => .setting .header
  | timeout _ => .setting .timeout
  | retries _ => .setting .retries
  | skipUnsupported => .switch .skipUnsupported
  | verbose => .switch .verbose
  | quiet => .switch .quiet

/-- The texts that write the value. -/
def texts : Choice → List String
  | namespaceName value | endpoint value | output value | header value => [value.text]
  | lang .csharp => ["cs", "csharp"]
  | lang .java => ["java"]
  | timeout n => [toString n.toNat]
  | retries n => [toString n.toNat]
  | skipUnsupported | verbose | quiet => []

/-- The older names of the flag. -/
def olderNames : Choice → List String
  | namespaceName _ => ["-ns", "-NS", "-nS", "-Ns"]
  | endpoint _ => ["-E"]
  | output _ => ["-O"]
  | _ => []

end Choice

/-- The flags with one more choice. -/
def Flags.choose (f : Flags) : Choice → Flags
  | .namespaceName value => { f with namespaceName := some value.text }
  | .endpoint value => { f with endpoint := some value.text }
  | .output value => { f with output := some value.text }
  | .lang language => { f with lang := some language }
  | .header value => { f with headers := f.headers ++ [value.text] }
  | .timeout n => { f with timeout := n.toNat }
  | .retries n => { f with retries := n.toNat }
  | .skipUnsupported => { f with skipUnsupported := true }
  | .verbose => { f with verbose := true }
  | .quiet => { f with quiet := true }

/-! ### Spellings -/

namespace Flag

/-- The name behind two dashes. -/
def name : Flag → String
  | setting .namespaceName => "namespace"
  | setting .endpoint => "endpoint"
  | setting .output => "output"
  | setting .lang => "lang"
  | setting .header => "header"
  | setting .timeout => "timeout"
  | setting .retries => "retries"
  | switch .skipUnsupported => "skip-unsupported"
  | switch .verbose => "verbose"
  | switch .quiet => "quiet"
  | switch .help => "help"
  | switch .version => "version"

/-- The letter behind one dash. -/
def letter? : Flag → Option Char
  | setting .namespaceName => some 'n'
  | setting .endpoint => some 'e'
  | setting .output => some 'o'
  | setting .lang => some 'l'
  | setting .header => some 'H'
  | switch .verbose => some 'v'
  | switch .quiet => some 'q'
  | switch .help => some 'h'
  | switch .version => some 'V'
  | setting .timeout | setting .retries | switch .skipUnsupported => none

end Flag

/-- Choices, the letters that spell them behind one dash, and the values that follow in arguments of
their own. Only the last choice may have a value. -/
inductive Lettered : List Choice → List Char → List String → Prop
  | nil : Lettered [] [] []
  | switch {c : Choice} {s : Switch} {letter : Char} {choices : List Choice} {letters : List Char}
      {values : List String} (hc : c.flag = .switch s) (hletter : c.flag.letter? = some letter)
      (h : Lettered choices letters values) : Lettered (c :: choices) (letter :: letters) values
  | separate {c : Choice} {letter : Char} {value : String} (hvalue : value ∈ c.texts)
      (hletter : c.flag.letter? = some letter) : Lettered [c] [letter] [value]
  | assigned {c : Choice} {letter : Char} {value : String} (hvalue : value ∈ c.texts)
      (hletter : c.flag.letter? = some letter) : Lettered [c] (letter :: '=' :: value.toList) []
  | attached {c : Choice} {letter : Char} {value : String} (hvalue : value ∈ c.texts)
      (hletter : c.flag.letter? = some letter) (hsign : value.toList.head? ≠ some '=') :
      Lettered [c] (letter :: value.toList) []

/-- Choices, and an argument that spells them, with a value in an argument of its own behind it if
there is one. -/
inductive Written : List Choice → List String → Prop
  | switch {c : Choice} {s : Switch} (hc : c.flag = .switch s) : Written [c] ["--" ++ c.flag.name]
  | separate {c : Choice} {value : String} (hvalue : value ∈ c.texts) :
      Written [c] ["--" ++ c.flag.name, value]
  | assigned {c : Choice} {value : String} (hvalue : value ∈ c.texts) :
      Written [c] ["--" ++ c.flag.name ++ "=" ++ value]
  | older {c : Choice} {value old : String} (hvalue : value ∈ c.texts) (hold : old ∈ c.olderNames) :
      Written [c] [old, value]
  /-- Letters must not look like the older name of the namespace. -/
  | letters {choices : List Choice} {letters : List Char} {values : List String}
      (h : Lettered choices letters values) (hne : letters ≠ [])
      (hold : letters ≠ ['n', 's'] ∧ letters ≠ ['n', 'S']) :
      Written choices (String.ofList ('-' :: letters) :: values)

/-- The arguments spell the choices, in this order. -/
inductive Spells : List Choice → List String → Prop
  | nil : Spells [] []
  | append {choices others : List Choice} {args rest : List String} (h : Written choices args)
      (hrest : Spells others rest) : Spells (choices ++ others) (args ++ rest)

/-! ### Names and letters -/

theorem Flag.ofLong?_name (f : Flag) : Flag.ofLong? f.name.toList = some f := by
  rw [ofLong?, String.ofList_toList]
  rcases f with s | s <;> cases s <;> rfl

theorem Flag.ofShort?_letter {f : Flag} {letter : Char} (h : f.letter? = some letter) :
    Flag.ofShort? letter = some f := by
  rcases f with s | s <;> cases s <;> cases h <;> rfl

theorem Flag.letter_ne_dash {f : Flag} {letter : Char} (h : f.letter? = some letter) :
    letter ≠ '-' := by
  rcases f with s | s <;> cases s <;> cases h <;> decide

theorem Lettered.exists_flag {choices : List Choice} {letter : Char} {letters : List Char}
    {values : List String} (h : Lettered choices (letter :: letters) values) :
    ∃ f : Flag, f.letter? = some letter := by
  cases h with
  | switch _ hletter _ | separate _ hletter | assigned _ hletter | attached _ hletter _ =>
      exact ⟨_, hletter⟩

theorem Flag.sign_not_mem_name (f : Flag) : '=' ∉ f.name.toList := by
  rcases f with s | s <;> cases s <;> decide

theorem Flag.name_ne_empty (f : Flag) : f.name ≠ "" := by
  rcases f with s | s <;> cases s <;> decide

/-! ### Values -/

theorem digits?_toDigits (n : Nat) : digits? (Nat.toDigits 10 n) = some n := by
  have hdigits : (Nat.toDigits 10 n).all (fun c => '0' ≤ c && c ≤ '9') := by
    rw [List.all_eq_true]
    intro c hc
    exact Nat.isDigit_of_mem_toDigits (by decide) (Nat.le_refl 10) hc
  rw [digits?, if_pos hdigits]
  · refine congrArg some ?_
    simpa only [Nat.ofDigitChars, Nat.mul_comm] using @Nat.ofDigitChars_ten_toDigits n
  · exact Nat.toDigits_ne_nil

/-- The digits of a number are not a sign. -/
theorem exists_cons_toString (n : Nat) : ∃ first rest, (toString n).toList = first :: rest ∧
    first ≠ '-' ∧ first ≠ '+' := by
  obtain ⟨first, rest, hdigits⟩ := List.exists_cons_of_ne_nil (@Nat.toDigits_ne_nil n 10)
  have hfirst : first.isDigit :=
    Nat.isDigit_of_mem_toDigits (by decide) (Nat.le_refl 10) (hdigits ▸ List.mem_cons_self)
  refine ⟨first, rest, ?_, ?_, ?_⟩
  · rw [Nat.toString_eq_ofList_toDigits, String.toList_ofList, hdigits]
  · rintro rfl
    cases hfirst
  · rintro rfl
    cases hfirst

theorem natural?_toString {bound n : Nat} (h : n < bound) :
    natural? bound (toString n) = some n := by
  obtain ⟨first, rest, htext, -, hplus⟩ := exists_cons_toString n
  have hdigits : digits? (first :: rest) = some n := by
    rw [← htext, Nat.toString_eq_ofList_toDigits, String.toList_ofList]
    exact digits?_toDigits n
  unfold natural?
  rw [htext]
  split
  · rename_i cs hsign
    exact absurd (List.cons.inj hsign).1 hplus
  · exact (congrArg (Option.filter (· < bound)) hdigits).trans
      (Option.filter_some_pos (decide_eq_true h))

theorem signedNatural?_toString {bound n : Nat} (h : n < bound) :
    signedNatural? bound (toString n) = some n := by
  obtain ⟨first, rest, htext, hminus, -⟩ := exists_cons_toString n
  unfold signedNatural?
  split
  · rename_i cs hsign
    rw [htext] at hsign
    exact absurd (List.cons.inj hsign).1 hminus
  · exact natural?_toString h

theorem Word.exists_cons (w : Word) : ∃ first rest, w.text.toList = first :: rest ∧ first ≠ '-' := by
  have hne : w.text.toList ≠ [] := by
    rw [Ne, String.toList_eq_nil_iff]
    exact w.ne_empty
  obtain ⟨first, rest, htext⟩ := List.exists_cons_of_ne_nil hne
  refine ⟨first, rest, htext, ?_⟩
  rintro rfl
  exact w.no_dash (by rw [htext]; rfl)

namespace Choice

variable {c : Choice} {value : String}

/-- A value is read as what is chosen. -/
theorem set_of_mem_texts (h : value ∈ c.texts) :
    ∃ s, c.flag = .setting s ∧ ∀ f : Flags, f.set s value = .ok (f.choose c) := by
  cases c with
  | namespaceName name | endpoint source | header line =>
      rw [List.mem_singleton.mp h]
      exact ⟨_, rfl, fun _ => rfl⟩
  | output path =>
      rw [List.mem_singleton.mp h]
      exact ⟨_, rfl, fun _ => if_neg path.ne_empty⟩
  | lang language =>
      refine ⟨_, rfl, fun f => ?_⟩
      cases language with
      | csharp =>
          rcases List.mem_cons.mp h with rfl | h
          · rfl
          · rw [List.mem_singleton.mp h]
            rfl
      | java =>
          rw [List.mem_singleton.mp h]
          rfl
  | timeout n =>
      rw [List.mem_singleton.mp h]
      refine ⟨_, rfl, fun f => ?_⟩
      rw [Flags.set, natural?_toString n.toNat_lt]
      rfl
  | retries n =>
      rw [List.mem_singleton.mp h]
      refine ⟨_, rfl, fun f => ?_⟩
      rw [Flags.set, signedNatural?_toString n.toNat_lt]
      rfl
  | skipUnsupported | verbose | quiet => cases h

theorem turnOn_of_flag {s : Switch} (h : c.flag = .switch s) (f : Flags) :
    f.turnOn s = .ok (f.choose c) := by
  cases c <;> cases h <;> rfl

/-- No value is taken for a flag. -/
theorem exists_cons_of_mem_texts (h : value ∈ c.texts) :
    ∃ first rest, value.toList = first :: rest ∧ first ≠ '-' := by
  cases c with
  | namespaceName value | endpoint value | output value | header value =>
      rw [List.mem_singleton.mp h]
      exact value.exists_cons
  | lang language =>
      have hall : ∀ value ∈ (lang language).texts,
          ∃ first rest, value.toList = first :: rest ∧ first ≠ '-' := by
        cases language with
        | csharp => simp [texts]
        | java => simp [texts]
      exact hall value h
  | timeout n | retries n =>
      rw [List.mem_singleton.mp h]
      obtain ⟨first, rest, htext, hminus, -⟩ := exists_cons_toString n.toNat
      exact ⟨first, rest, htext, hminus⟩
  | skipUnsupported | verbose | quiet => cases h

end Choice

/-! ### Older names -/

theorem normalizeArg_eq_self {arg : String}
    (h : ∀ old ∈ ["-ns", "-e", "-o"], arg.toList.map Char.toLower ≠ old.toList) :
    normalizeArg arg = arg := by
  have hlower : ∀ old ∈ ["-ns", "-e", "-o"], Text.asciiLower arg ≠ old := by
    intro old hold heq
    apply h old hold
    rw [← heq, Text.asciiLower, String.toList_ofList]
  unfold normalizeArg
  split
  · rename_i heq
    exact absurd heq (hlower _ (by decide))
  · rename_i heq
    exact absurd heq (hlower _ (by decide))
  · rename_i heq
    exact absurd heq (hlower _ (by decide))
  · rfl

theorem eq_or_of_toLower {c d : Char} (h : c.toLower = d) : c = d ∨ c = d.toUpper := by
  rcases Text.toLower_eq_self_or c with hself | hback
  · exact Or.inl (hself.symm.trans h)
  · exact Or.inr (by rw [← h, hback])

/-- No value is replaced, even if it stands where a flag might. -/
theorem normalizeArg_of_ne {arg : String} {first : Char} {rest : List Char}
    (harg : arg.toList = first :: rest) (hfirst : first ≠ '-') : normalizeArg arg = arg := by
  have hlower : first.toLower ≠ '-' := fun hlower =>
    (eq_or_of_toLower hlower).elim hfirst hfirst
  apply normalizeArg_eq_self
  rw [harg, List.map_cons]
  have hall : ∀ old ∈ ["-ns", "-e", "-o"], old.toList.head? = some '-' := by decide
  intro old hold heq
  have hhead := hall old hold
  rw [← heq] at hhead
  exact hlower (Option.some.inj hhead)

theorem normalizeArg_value {c : Choice} {value : String} (h : value ∈ c.texts) :
    normalizeArg value = value := by
  obtain ⟨first, rest, htext, hfirst⟩ := Choice.exists_cons_of_mem_texts h
  exact normalizeArg_of_ne htext hfirst

theorem Lettered.map_normalizeArg {choices : List Choice} {letters : List Char}
    {values : List String} (h : Lettered choices letters values) :
    values.map normalizeArg = values := by
  induction h with
  | nil | assigned | attached => rfl
  | switch _ _ _ ih => exact ih
  | separate hvalue => exact congrArg ([·]) (normalizeArg_value hvalue)

theorem normalizeArg_long (name : String) : normalizeArg ("--" ++ name) = "--" ++ name := by
  apply normalizeArg_eq_self
  have hall : ∀ old ∈ ["-ns", "-e", "-o"], old.toList[1]? ≠ some '-' := by decide
  intro old hold heq
  apply hall old hold
  rw [← heq, String.toList_append]
  rfl

theorem normalizeArg_older {c : Choice} {old : String} (h : old ∈ c.olderNames) :
    normalizeArg old = "--" ++ c.flag.name ∨
      ∃ letter, c.flag.letter? = some letter ∧ normalizeArg old = String.ofList ['-', letter] := by
  cases c with
  | namespaceName name =>
      have hall : ∀ old ∈ ["-ns", "-NS", "-nS", "-Ns"], normalizeArg old = "--namespace" := by decide
      exact Or.inl (hall old h)
  | endpoint source =>
      rw [List.mem_singleton.mp h]
      exact Or.inr ⟨'e', rfl, by decide⟩
  | output path =>
      rw [List.mem_singleton.mp h]
      exact Or.inr ⟨'o', rfl, by decide⟩
  | _ => cases h

/-- A letter is itself in lower case where an older name has one. -/
theorem letter_eq_of_toLower {f : Flag} {letter : Char} (h : f.letter? = some letter) :
    ∀ c ∈ ['n', 'e', 'o'], letter.toLower = c → letter = c := by
  apply Text.forall_mem_of_all
  rcases f with s | s <;> cases s <;> cases h <;> decide

theorem normalizeArg_letters {f : Flag} {letter : Char} (hletter : f.letter? = some letter)
    {letters : List Char}
    (hold : letter :: letters ≠ ['n', 's'] ∧ letter :: letters ≠ ['n', 'S']) :
    normalizeArg (String.ofList ('-' :: letter :: letters)) =
      String.ofList ('-' :: letter :: letters) := by
  have hlower := letter_eq_of_toLower hletter
  by_cases hsame : letter :: letters = ['e'] ∨ letter :: letters = ['o']
  · rcases hsame with hsame | hsame <;> rw [hsame] <;> decide
  · obtain ⟨hne, hno⟩ := not_or.mp hsame
    have htail : ∀ {name : List Char}, (String.ofList ('-' :: letter :: letters)).toList.map
        Char.toLower = '-' :: name → letter.toLower :: letters.map Char.toLower = name := by
      rintro name heq
      rw [String.toList_ofList] at heq
      exact (List.cons.inj heq).2
    apply normalizeArg_eq_self
    rw [List.forall_mem_cons, List.forall_mem_cons, List.forall_mem_singleton]
    refine ⟨fun heq => ?_, fun heq => ?_, fun heq => ?_⟩
    · obtain ⟨hn, hs⟩ := List.cons.inj (htail heq)
      obtain ⟨second, rfl, hsecond⟩ := List.map_eq_singleton_iff.mp hs
      obtain rfl := hlower 'n' (by decide) hn
      rcases eq_or_of_toLower hsecond with rfl | rfl
      · exact hold.1 rfl
      · exact hold.2 rfl
    · obtain ⟨he, hnil⟩ := List.cons.inj (htail heq)
      rw [hlower 'e' (by decide) he, List.map_eq_nil_iff.mp hnil] at hne
      exact hne rfl
    · obtain ⟨ho, hnil⟩ := List.cons.inj (htail heq)
      rw [hlower 'o' (by decide) ho, List.map_eq_nil_iff.mp hnil] at hno
      exact hno rfl

end SchemaClasses
