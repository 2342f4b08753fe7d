import Mathlib.Data.List.Nodup
import Mathlib.Data.List.ReduceOption
import SchemaClasses.Proofs.FlagSpellings
import SchemaClasses.Proofs.Validation

/-! Reading the flags of a command line. Each spelling of a choice leads from the flags without it
to those with it, whatever stands behind it. In the end the flags are those that are chosen, since
choices for different flags do not depend on each other. -/

namespace SchemaClasses

namespace Parsing

/-- What is to come of a parsing by a choice. -/
def choose (q : Parsing) (c : Choice) : Parsing :=
  { q with flags := q.flags.choose c, stored := c.flag :: q.stored }

/-- The choices may be made one after the other, as no flag but a header is given twice. -/
def Admits (q : Parsing) : List Choice → Prop
  | [] => True
  | c :: choices => (c.flag ∈ q.stored → c.flag = .setting .header) ∧ (q.choose c).Admits choices

/-- Once the pending option is stored, the parsing is at `q`. -/
structure ComesTo (p q : Parsing) : Prop where
  flush : p.flush = .ok q
  pending : q.pending = none

/-- The arguments are read, whatever stands behind them, and then the parsing comes to `q`. -/
def Takes (p : Parsing) (args : List String) (q : Parsing) : Prop :=
  ∃ p' : Parsing, (∀ rest, p.arguments (args ++ rest) = p'.arguments rest) ∧ p'.ComesTo q

theorem comesTo_self {q : Parsing} (h : q.pending = none) : q.ComesTo q :=
  ⟨by rw [Parsing.flush, h], h⟩

/-! ### A single choice -/

section Choice

variable {p q : Parsing} (hp : p.ComesTo q) {c : Choice}

theorem claim_of_new {f : Flag} (hnew : f ∈ q.stored → f = .setting .header) :
    q.claim f = .ok { q with stored := f :: q.stored } :=
  if_neg fun hagain => hagain.2 (hnew hagain.1)

theorem storeSetting_eq {s : Setting} {value : String} (hs : c.flag = .setting s)
    (hvalue : value ∈ c.texts) (hnew : c.flag ∈ q.stored → c.flag = .setting .header) :
    q.storeSetting s (some value) = .ok (q.choose c) := by
  obtain ⟨s', hs', hset⟩ := Choice.set_of_mem_texts hvalue
  cases hs.symm.trans hs'
  rw [hs] at hnew
  simp only [storeSetting, claim_of_new hnew, choose, hs]
  exact congrArg (Except.map fun flags => Parsing.mk flags _ _) (hset q.flags)

theorem storeSwitch_eq {s : Switch} (hs : c.flag = .switch s)
    (hnew : c.flag ∈ q.stored → c.flag = .setting .header) :
    q.storeSwitch s = .ok (q.choose c) := by
  rw [hs] at hnew
  simp only [storeSwitch, claim_of_new hnew, choose, hs]
  exact congrArg (Except.map fun flags => Parsing.mk flags _ _) (Choice.turnOn_of_flag hs q.flags)

include hp

theorem comesTo_choose : (q.choose c).ComesTo (q.choose c) :=
  comesTo_self hp.pending

theorem setting_attached {s : Setting} {value : String} (hs : c.flag = .setting s)
    (hvalue : value ∈ c.texts) (hnew : c.flag ∈ q.stored → c.flag = .setting .header) :
    p.setting s (some value) = .ok (q.choose c) := by
  rw [setting, hp.flush]
  exact storeSetting_eq hs hvalue hnew

theorem switch_eq {s : Switch} (hs : c.flag = .switch s)
    (hnew : c.flag ∈ q.stored → c.flag = .setting .header) : p.switch s = .ok (q.choose c) := by
  rw [switch, hp.flush]
  exact storeSwitch_eq hs hnew

theorem setting_separate (s : Setting) :
    p.setting s none = .ok { q with pending := some (s, none) } := by
  rw [setting, hp.flush]
  rfl

theorem comesTo_of_value {s : Setting} {value : String} (hs : c.flag = .setting s)
    (hvalue : value ∈ c.texts) (hnew : c.flag ∈ q.stored → c.flag = .setting .header) :
    ComesTo { q with pending := some (s, some value) } (q.choose c) where
  flush := by
    have hq : { q with pending := none } = q := by
      rw [← hp.pending]
    rw [← storeSetting_eq hs hvalue hnew]
    exact congrArg (storeSetting · s (some value)) hq
  pending := hp.pending

end Choice

/-! ### Arguments -/

theorem arguments_cons {p p' : Parsing} {arg : String} (harg : arg ≠ "--")
    (h : p.argument arg = .ok p') (rest : List String) :
    p.arguments (arg :: rest) = p'.arguments rest := by
  rw [arguments, if_neg harg, h]
  rfl

theorem takes_of_argument {p p' q : Parsing} {arg : String} {values : List String}
    (harg : arg ≠ "--") (h : p.argument arg = .ok p') (hvalues : p'.Takes values q) :
    p.Takes (arg :: values) q := by
  obtain ⟨p'', hread, hcomes⟩ := hvalues
  exact ⟨p'', fun rest => (arguments_cons harg h _).trans (hread rest), hcomes⟩

theorem ComesTo.takes_nil {p q : Parsing} (h : p.ComesTo q) : p.Takes [] q :=
  ⟨p, fun _ => rfl, h⟩

theorem argument_of_ne {p : Parsing} {arg : String} {first : Char} {rest : List Char}
    (harg : arg.toList = first :: rest) (hfirst : first ≠ '-') : p.argument arg = p.plain arg := by
  rw [argument, harg]
  split
  · rename_i heq
    exact absurd (List.cons.inj heq).1 hfirst
  · rename_i heq
    exact absurd (List.cons.inj heq).1 hfirst
  · rfl

/-! ### Names -/

theorem argument_long (p : Parsing) {name : String} (hname : name ≠ "") :
    "--" ++ name ≠ "--" ∧ p.argument ("--" ++ name) = p.long name.toList := by
  refine ⟨?_, ?_⟩
  · rw [Ne, String.append_eq_left_iff]
    exact hname
  · rw [argument, String.toList_append]
    rfl

theorem long_name (p : Parsing) (f : Flag) : p.long f.name.toList =
    match f with
    | .setting s => p.setting s none
    | .switch s => p.switch s := by
  rw [long, Settings.cutFirst?_eq, if_neg f.sign_not_mem_name]
  simp only [Flag.ofLong?_name]
  cases f <;> rfl

theorem long_assigned (p : Parsing) (f : Flag) (value : String) :
    p.long (f.name ++ "=" ++ value).toList =
      match f with
      | .setting s => p.setting s (some value)
      | .switch _ => .error .unwantedValue := by
  have htext : (f.name ++ "=" ++ value).toList = f.name.toList ++ '=' :: value.toList := by
    simp
  rw [long, htext, Settings.cutFirst?_eq_some_iff.mpr ⟨rfl, f.sign_not_mem_name⟩]
  simp only [Flag.ofLong?_name, String.ofList_toList]
  cases f <;> rfl

section Written

variable {p q : Parsing} (hp : p.ComesTo q)
include hp

theorem takes_value {c : Choice} {s : Setting} {value : String} (hs : c.flag = .setting s)
    (hvalue : value ∈ c.texts) (hnew : c.flag ∈ q.stored → c.flag = .setting .header) :
    Takes { q with pending := some (s, none) } [value] (q.choose c) := by
  obtain ⟨first, rest, htext, hfirst⟩ := Choice.exists_cons_of_mem_texts hvalue
  refine takes_of_argument ?_ (argument_of_ne htext hfirst)
    (comesTo_of_value hp hs hvalue hnew).takes_nil
  rintro rfl
  exact hfirst (List.cons.inj htext).1.symm

/-- Letters are read one by one; the last may have a value, or wait for it. -/
theorem letters_of_lettered {choices : List Choice} {letters : List Char} {values : List String}
    (h : Lettered choices letters values) (hnew : q.Admits choices) :
    ∃ p', p.letters letters = .ok p' ∧ p'.Takes values (choices.foldl choose q) := by
  induction h generalizing p q with
  | nil => exact ⟨p, rfl, hp.takes_nil⟩
  | @switch c s letter choices letters values hs hletter _ ih =>
      obtain ⟨p', hread, htakes⟩ := ih (comesTo_choose hp) hnew.2
      refine ⟨p', ?_, htakes⟩
      simp only [Parsing.letters, Flag.ofShort?_letter hletter, hs, switch_eq hp hs hnew.1]
      exact hread
  | @separate c letter value hvalue hletter =>
      obtain ⟨s, hs, -⟩ := Choice.set_of_mem_texts hvalue
      refine ⟨_, ?_, takes_value hp hs hvalue hnew.1⟩
      simp only [Parsing.letters, Flag.ofShort?_letter hletter, hs]
      exact setting_separate hp s
  | @assigned c letter value hvalue hletter =>
      obtain ⟨s, hs, -⟩ := Choice.set_of_mem_texts hvalue
      refine ⟨_, ?_, (comesTo_choose hp).takes_nil⟩
      simp only [Parsing.letters, Flag.ofShort?_letter hletter, hs, String.ofList_toList]
      exact setting_attached hp hs hvalue hnew.1
  -- The rest of the letters is looked at once more, for a sign that would be dropped.
  | @attached c letter value hvalue hletter hsign =>
      obtain ⟨s, hs, -⟩ := Choice.set_of_mem_texts hvalue
      obtain ⟨first, rest, htext, -⟩ := Choice.exists_cons_of_mem_texts hvalue
      refine ⟨_, ?_, (comesTo_choose hp).takes_nil⟩
      have hset := setting_attached hp hs hvalue hnew.1
      rw [← String.ofList_toList (s := value), htext] at hset
      rw [htext] at hsign ⊢
      simp only [Parsing.letters, Flag.ofShort?_letter hletter, hs]
      split
      · rename_i hnil
        cases hnil
      · rename_i heq
        rw [heq] at hsign
        exact absurd rfl hsign
      · exact hset

theorem takes_letters {choices : List Choice} {letter : Char} {letters : List Char}
    {values : List String} (h : Lettered choices (letter :: letters) values)
    (hnew : q.Admits choices) :
    p.Takes (String.ofList ('-' :: letter :: letters) :: values) (choices.foldl choose q) := by
  obtain ⟨p', hread, htakes⟩ := letters_of_lettered hp h hnew
  obtain ⟨f, hf⟩ := h.exists_flag
  have hletter := Flag.letter_ne_dash hf
  refine takes_of_argument ?_ ?_ htakes
  · intro heq
    have hlist := congrArg String.toList heq
    rw [String.toList_ofList] at hlist
    exact hletter (List.cons.inj (List.cons.inj hlist).2).1
  · rw [argument, String.toList_ofList]
    split
    · rename_i heq
      exact absurd (List.cons.inj (List.cons.inj heq).2).1 hletter
    · rename_i heq
      cases heq
      exact hread
    · rename_i hplain
      exact (hplain letter letters rfl).elim

theorem takes_separate {c : Choice} {value : String} (hvalue : value ∈ c.texts)
    (hnew : c.flag ∈ q.stored → c.flag = .setting .header) :
    p.Takes ["--" ++ c.flag.name, value] (q.choose c) := by
  obtain ⟨s, hs, -⟩ := Choice.set_of_mem_texts hvalue
  obtain ⟨hne, hargument⟩ := argument_long p c.flag.name_ne_empty
  refine takes_of_argument hne ?_ (takes_value hp hs hvalue hnew)
  rw [hargument, long_name, hs]
  exact setting_separate hp s

/-- What is written for choices is read as these, once older names are replaced. -/
theorem takes_of_written {choices : List Choice} {args : List String} (h : Written choices args)
    (hnew : q.Admits choices) : p.Takes (args.map normalizeArg) (choices.foldl choose q) := by
  cases h with
  | @switch c s hs =>
      obtain ⟨hne, hargument⟩ := argument_long p c.flag.name_ne_empty
      rw [List.map_singleton, normalizeArg_long]
      refine takes_of_argument hne ?_ (comesTo_choose hp).takes_nil
      rw [hargument, long_name, hs]
      exact switch_eq hp hs hnew.1
  | @separate c value hvalue =>
      rw [List.map_cons, List.map_singleton, normalizeArg_long, normalizeArg_value hvalue]
      exact takes_separate hp hvalue hnew.1
  | @assigned c value hvalue =>
      obtain ⟨s, hs, -⟩ := Choice.set_of_mem_texts hvalue
      have hname : c.flag.name ++ "=" ++ value ≠ "" := by simp
      have htext : "--" ++ c.flag.name ++ "=" ++ value = "--" ++ (c.flag.name ++ "=" ++ value) := by
        simp only [String.append_assoc]
      obtain ⟨hne, hargument⟩ := argument_long p hname
      rw [htext, List.map_singleton, normalizeArg_long]
      refine takes_of_argument hne ?_ (comesTo_choose hp).takes_nil
      rw [hargument, long_assigned, hs]
      exact setting_attached hp hs hvalue hnew.1
  | @older c value old hvalue hold =>
      rw [List.map_cons, List.map_singleton, normalizeArg_value hvalue]
      rcases normalizeArg_older hold with hname | ⟨letter, hletter, hname⟩
      · rw [hname]
        exact takes_separate hp hvalue hnew.1
      · rw [hname]
        exact takes_letters hp (.separate hvalue hletter) hnew
  | @letters choices letters values h hne hold =>
      obtain ⟨letter, rest, rfl⟩ := List.exists_cons_of_ne_nil hne
      obtain ⟨f, hf⟩ := h.exists_flag
      rw [List.map_cons, normalizeArg_letters hf hold, h.map_normalizeArg]
      exact takes_letters hp h hnew

end Written

/-! ### A command line -/

theorem admits_append {q : Parsing} {choices others : List Choice} :
    q.Admits (choices ++ others) ↔ q.Admits choices ∧ (choices.foldl choose q).Admits others := by
  induction choices generalizing q with
  | nil => simp [Admits]
  | cons c choices ih => simp only [List.cons_append, Admits, List.foldl_cons, ih, and_assoc]

/-- A run over all arguments makes the choices one after the other. -/
theorem arguments_of_spells {order : List Choice} {args : List String} (h : Spells order args)
    {p q : Parsing} (hp : p.ComesTo q) (hnew : q.Admits order) :
    p.arguments (args.map normalizeArg) = .ok (order.foldl choose q) := by
  induction h generalizing p q with
  | nil => exact hp.flush
  | @append choices others args rest hwritten _ ih =>
      obtain ⟨hchoices, hothers⟩ := admits_append.mp hnew
      obtain ⟨p', hread, hcomes⟩ := takes_of_written hp hwritten hchoices
      rw [List.map_append, hread, List.foldl_append]
      exact ih hcomes hothers

theorem flags_foldl_choose (order : List Choice) (q : Parsing) :
    (order.foldl choose q).flags = order.foldl Flags.choose q.flags := by
  induction order generalizing q with
  | nil => rfl
  | cons c order ih => exact ih (q.choose c)

theorem admits_of_count {q : Parsing} {order : List Choice}
    (h : ∀ f ≠ .setting .header, q.stored.count f + (order.map Choice.flag).count f ≤ 1) :
    q.Admits order := by
  induction order generalizing q with
  | nil => trivial
  | cons c order ih =>
      constructor
      · intro hstored
        by_contra hheader
        have htwice := h c.flag hheader
        have hpositive := List.count_pos_iff.mpr hstored
        rw [List.map_cons, List.count_cons_self] at htwice
        omega
      · refine ih fun f hf => ?_
        have honce := h f hf
        rw [List.map_cons, List.count_cons] at honce
        rw [choose, List.count_cons]
        omega

end Parsing

/-! ### The order of choices -/

theorem Flags.choose_comm {c d : Choice} (h : c.flag ≠ d.flag) (f : Flags) :
    (f.choose c).choose d = (f.choose d).choose c := by
  cases c <;> cases d <;> first | rfl | exact absurd rfl h

theorem Flags.foldl_choose_cons {c : Choice} {before : List Choice}
    (h : ∀ d ∈ before, d.flag ≠ c.flag) (behind : List Choice) (f : Flags) :
    (before ++ c :: behind).foldl choose f = (before ++ behind).foldl choose (f.choose c) := by
  induction before generalizing f with
  | nil => rfl
  | cons d before ih =>
      obtain ⟨hd, hbefore⟩ := List.forall_mem_cons.mp h
      rw [List.cons_append, List.foldl_cons, ih hbefore, choose_comm hd]
      rfl

/-- It is enough that the choices for each flag are made in the same order. -/
theorem Flags.foldl_choose_eq {order order' : List Choice}
    (h : ∀ flag, order.filter (·.flag = flag) = order'.filter (·.flag = flag)) (f : Flags) :
    order.foldl choose f = order'.foldl choose f := by
  induction order generalizing order' f with
  | nil =>
      cases order' with
      | nil => rfl
      | cons c order' => simpa using h c.flag
  | cons c order ih =>
      have hc := h c.flag
      rw [List.filter_cons_of_pos (by simp), eq_comm, List.filter_eq_cons_iff] at hc
      obtain ⟨before, behind, rfl, hbefore, -, hbehind⟩ := hc
      -- The first choice is moved to the front past choices for other flags only.
      have hne : ∀ d ∈ before, d.flag ≠ c.flag := by simpa using hbefore
      rw [foldl_choose_cons hne, List.foldl_cons]
      refine ih (fun flag => ?_) (f.choose c)
      by_cases hflag : c.flag = flag
      · subst hflag
        rw [List.filter_append, List.filter_eq_nil_iff.mpr hbefore, hbehind, List.nil_append]
      · simpa [List.filter_cons, hflag] using h flag

theorem eq_of_perm_of_length_le_one {α : Type} {l l' : List α} (h : l.Perm l')
    (hlength : l'.length ≤ 1) : l = l' := by
  match l' with
  | [] => exact h.eq_nil
  | [a] => exact h.eq_singleton
  | _ :: _ :: _ => simp at hlength

namespace Chosen

/-- The flags that the options other than headers belong to. -/
def optionFlags : List Flag :=
  [.setting .namespaceName, .setting .endpoint, .setting .output, .setting .lang, .setting .timeout,
    .setting .retries, .switch .skipUnsupported, .switch .verbose, .switch .quiet]

theorem map_flag_reduceOption_sublist {os : List (Option Choice)} {flags : List Flag}
    (h : List.Forall₂ (fun o flag => ∀ c ∈ o, c.flag = flag) os flags) :
    (os.reduceOption.map Choice.flag).Sublist flags := by
  induction h with
  | nil => exact .slnil
  | @cons o flag os flags ho _ ih =>
      cases o with
      | none => exact ih.cons flag
      | some c =>
          rw [List.reduceOption_cons_of_some, List.map_cons, ho c rfl]
          exact ih.cons_cons flag

theorem map_flag_options_sublist (chosen : Chosen) :
    (chosen.options.reduceOption.map Choice.flag).Sublist optionFlags := by
  apply map_flag_reduceOption_sublist
  simp [options, optionFlags, Choice.flag]

/-- Every flag but that for headers stands among the choices once at most. -/
theorem count_flag_le_one (chosen : Chosen) {f : Flag} (hf : f ≠ .setting .header) :
    (chosen.choices.map Choice.flag).count f ≤ 1 := by
  have hheaders : f ∉ (chosen.headers.map Choice.header).map Choice.flag := by
    simp [Choice.flag, Ne.symm hf]
  rw [choices, List.map_append, List.count_append, List.count_eq_zero_of_not_mem hheaders]
  exact (chosen.map_flag_options_sublist.count_le f).trans
    (List.nodup_iff_count_le_one.mp (by decide) f)

theorem filter_eq_of_isOrder {chosen : Chosen} {order : List Choice} (h : chosen.IsOrder order)
    (flag : Flag) : order.filter (·.flag = flag) = chosen.choices.filter (·.flag = flag) := by
  have hperm := h.perm.filter fun c => decide (c.flag = flag)
  by_cases hflag : flag = .setting .header
  · subst hflag
    have hheaders : (chosen.headers.map Choice.header).filter (·.flag = .setting .header) =
        chosen.headers.map .header := by
      simp [Choice.flag]
    have hoptions : chosen.options.reduceOption.filter (·.flag = .setting .header) = [] := by
      rw [List.filter_eq_nil_iff]
      intro c hc hheader
      have hmem := chosen.map_flag_options_sublist.subset (List.mem_map_of_mem hc)
      rw [of_decide_eq_true hheader] at hmem
      exact absurd hmem (by decide)
    have hsublist := h.headers.filter fun c => decide (c.flag = .setting .header)
    rw [choices, List.filter_append, hoptions, List.nil_append] at hperm ⊢
    exact (hsublist.eq_of_length hperm.length_eq.symm).symm
  · apply eq_of_perm_of_length_le_one hperm
    have hcount := chosen.count_flag_le_one hflag
    rw [List.count_eq_countP, List.countP_map, List.countP_eq_length_filter] at hcount
    exact hcount

theorem elim_map_word (o : Option Word) (f : Flags) :
    (o.map .namespaceName).elim f f.choose =
        { f with namespaceName := (o.map Word.text).or f.namespaceName } ∧
      (o.map .endpoint).elim f f.choose =
        { f with endpoint := (o.map Word.text).or f.endpoint } ∧
      (o.map .output).elim f f.choose = { f with output := (o.map Word.text).or f.output } := by
  cases o <;> exact ⟨rfl, rfl, rfl⟩

theorem elim_map_lang (o : Option Language) (f : Flags) :
    (o.map .lang).elim f f.choose = { f with lang := o.or f.lang } := by
  cases o <;> rfl

theorem elim_map_timeout (o : Option UInt64) (f : Flags) : (o.map .timeout).elim f f.choose =
    { f with timeout := (o.map UInt64.toNat).getD f.timeout } := by
  cases o <;> rfl

theorem elim_map_retries (o : Option UInt32) (f : Flags) : (o.map .retries).elim f f.choose =
    { f with retries := (o.map UInt32.toNat).getD f.retries } := by
  cases o <;> rfl

theorem elim_ite_switch (b : Bool) (f : Flags) :
    (if b then some Choice.skipUnsupported else none).elim f f.choose =
        { f with skipUnsupported := b || f.skipUnsupported } ∧
      (if b then some Choice.verbose else none).elim f f.choose =
        { f with verbose := b || f.verbose } ∧
      (if b then some Choice.quiet else none).elim f f.choose =
        { f with quiet := b || f.quiet } := by
  cases b <;> exact ⟨rfl, rfl, rfl⟩

theorem foldl_reduceOption (os : List (Option Choice)) (f : Flags) :
    os.reduceOption.foldl Flags.choose f = os.foldl (fun f o => o.elim f f.choose) f := by
  induction os generalizing f with
  | nil => rfl
  | cons o os ih => cases o <;> exact ih _

theorem foldl_map_header (lines : List Word) (f : Flags) :
    (lines.map Choice.header).foldl Flags.choose f =
      { f with headers := f.headers ++ lines.map Word.text } := by
  induction lines generalizing f with
  | nil => simp
  | cons line lines ih => simp [ih, Flags.choose]

/-- The choices make the flags, if they are made in the order in which they are listed. -/
theorem foldl_choices (chosen : Chosen) :
    chosen.choices.foldl Flags.choose .default = chosen.flags := by
  rw [choices, List.foldl_append, foldl_map_header, foldl_reduceOption]
  simp only [options, List.foldl_cons, List.foldl_nil, elim_map_word, elim_map_lang,
    elim_map_timeout, elim_map_retries, elim_ite_switch]
  simp [flags, Flags.default, Client.defaultTimeout]

end Chosen

/-- Every order and spelling of what is chosen gives the flags that are chosen. -/
theorem ofCommandLine_of_spells {chosen : Chosen} {order : List Choice} {args : List String}
    (horder : chosen.IsOrder order) (hargs : Spells order args) (program : String) :
    Flags.ofCommandLine (program :: args) = .ok chosen.flags := by
  have hnew : Parsing.start.Admits order := by
    apply Parsing.admits_of_count
    intro f hf
    rw [(horder.perm.map Choice.flag).count_eq]
    simpa [Parsing.start] using chosen.count_flag_le_one hf
  have hread := Parsing.arguments_of_spells hargs (Parsing.comesTo_self rfl) hnew
  rw [Flags.ofCommandLine, List.map_cons, List.drop_one, List.tail_cons, Flags.ofArguments, hread,
    Except.map, Parsing.flags_foldl_choose,
    Flags.foldl_choose_eq (Chosen.filter_eq_of_isOrder horder)]
  exact congrArg Except.ok chosen.foldl_choices

-- No attached value: the older name of the namespace waits for one.
example : Flags.ofCommandLine ["gqlmodel", "-ns"] = .error .invalidValue := by decide

namespace Spoken

def name : Word := ⟨"s", by decide, by decide⟩
def path : Word := ⟨"Model.cs", by decide, by decide⟩
def accept : Word := ⟨"Accept: a=b", by decide, by decide⟩
def unnamed : Word := ⟨"=x: -y", by decide, by decide⟩

def chosen : Chosen where
  namespaceName := some name
  endpoint := none
  output := some path
  lang := some .csharp
  headers := [accept, unnamed]
  timeout := some 18446744073709551615
  retries := none
  skipUnsupported := true
  verbose := true
  quiet := true

def order : List Choice :=
  [.verbose, .namespaceName name, .header accept, .timeout 18446744073709551615, .lang .csharp,
    .quiet, .header unnamed, .skipUnsupported, .output path]

def arguments : List String :=
  ["-vns", "-HAccept: a=b", "--timeout=18446744073709551615", "-l", "csharp", "-qH==x: -y",
    "--skip-unsupported", "-O", "Model.cs"]

theorem spells_arguments : Spells order arguments := by
  have hname : Lettered [.verbose, .namespaceName name] ['v', 'n', 's'] [] :=
    .switch rfl rfl (@Lettered.attached _ 'n' "s" (List.mem_singleton.mpr rfl) rfl (by decide))
  have haccept : Lettered [.header accept] ('H' :: "Accept: a=b".toList) [] :=
    .attached (List.mem_singleton.mpr rfl) rfl (by decide)
  have htimeout : Written [.timeout 18446744073709551615] ["--timeout=18446744073709551615"] :=
    @Written.assigned (.timeout 18446744073709551615) "18446744073709551615" (by decide)
  have hlang : Lettered [.lang .csharp] ['l'] ["csharp"] := .separate (by decide) rfl
  have hunnamed : Lettered [.quiet, .header unnamed] ('q' :: 'H' :: '=' :: "=x: -y".toList) [] :=
    .switch rfl rfl (.assigned (List.mem_singleton.mpr rfl) rfl)
  have hskip : Written [.skipUnsupported] ["--skip-unsupported"] :=
    @Written.switch .skipUnsupported .skipUnsupported rfl
  have hpath : Written [.output path] ["-O", "Model.cs"] :=
    .older (List.mem_singleton.mpr rfl) (by decide)
  have hspells := Spells.append (.letters hname (by decide) (by decide)) <|
    .append (.letters haccept (by decide) (by decide)) <| .append htimeout <|
    .append (.letters hlang (by decide) (by decide)) <|
    .append (.letters hunnamed (by decide) (by decide)) <| .append hskip <| .append hpath .nil
  exact hspells

theorem ofCommandLine_of_spells_arguments :
    chosen.IsOrder order ∧ Spells order arguments ∧
    Flags.ofCommandLine ("gqlmodel" :: arguments) = .ok
      { namespaceName := some "s", endpoint := none, output := some "Model.cs",
        lang := some .csharp, headers := ["Accept: a=b", "=x: -y"],
        timeout := 18446744073709551615, retries := 0, skipUnsupported := true, verbose := true,
        quiet := true } := by
  have horder : chosen.IsOrder order := ⟨by decide, by decide⟩
  exact ⟨horder, spells_arguments, ofCommandLine_of_spells horder spells_arguments "gqlmodel"⟩

end Spoken

end SchemaClasses
