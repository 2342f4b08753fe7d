import Mathlib.Data.List.TakeWhile
import SchemaClasses.Command.Settings
import SchemaClasses.Proofs.Traversal
import SchemaClasses.Proofs.Trimming

/-! The checks of flags. What can be wrong with flags is listed in the order in which it is looked
for; the first of it is reported, and where there is none, the settings fit the flags and each
other: the language, the class around a Java model and the options all belong to the one output
file. -/

namespace SchemaClasses

/-- The letters of a file extension that names the language. -/
def Language.extension : Language → String
  | csharp => "cs"
  | java => "java"

theorem Language.ofExtension?_eq_some_iff (extension : String) (l : Language) :
    ofExtension? extension = some l ↔ Text.asciiLower extension = l.extension := by
  unfold ofExtension? Language.extension
  split
  case h_1 h => rw [h]; cases l <;> decide
  case h_2 h => rw [h]; cases l <;> decide
  case h_3 hcs hjava =>
    refine ⟨nofun, fun h => ?_⟩
    cases l with
    | csharp => exact (hcs h).elim
    | java => exact (hjava h).elim

namespace Settings

/-- A value that is not given, or nothing but blanks. -/
def IsAbsent (value : Option String) : Prop :=
  ∀ c ∈ (value.getD "").toList, Text.isBlank c

instance (value : Option String) : Decidable (IsAbsent value) :=
  List.decidableBAll (fun c => Text.isBlank c) _

/-- A header has a colon, and before the first colon a name, which has no blank in it. -/
def IsHeader (raw : String) : Prop :=
  ':' ∈ raw.toList ∧ Text.trim (raw.toList.takeWhile (· ≠ ':')) ≠ [] ∧
    ∀ c ∈ Text.trim (raw.toList.takeWhile (· ≠ ':')), ¬ Text.isBlank c

instance (raw : String) : Decidable (IsHeader raw) :=
  have := List.decidableBAll (fun c => ¬ Text.isBlank c)
    (Text.trim (raw.toList.takeWhile (· ≠ ':')))
  inferInstanceAs (Decidable (_ ∧ _ ∧ _))

/-- The flags ask for a language, or else the output file has its extension, in either case. -/
def Asks (flags : Flags) (l : Language) : Prop :=
  flags.lang = some l ∨ flags.lang = none ∧
    (Path.extension? (flags.output.getD "")).map Text.asciiLower = some l.extension

instance (flags : Flags) (l : Language) : Decidable (Asks flags l) :=
  inferInstanceAs (Decidable (_ ∨ _))

/-- The output file has a stem that can be the name of a class. -/
def NamesHolder (flags : Flags) : Prop :=
  ∃ stem, Path.stem? (flags.output.getD "") = some stem ∧ Java.holder? stem ≠ none

instance (flags : Flags) : Decidable (NamesHolder flags) :=
  decidable_of_iff (((Path.stem? (flags.output.getD "")).bind Java.holder?) ≠ none) (by
    unfold NamesHolder
    cases Path.stem? (flags.output.getD "") <;> simp)

/-- What is wrong with flags, in the order in which it is looked for. An output that is not given
counts as an empty one. -/
def faults (flags : Flags) : List SettingsError :=
  let output := flags.output.getD ""
  (if IsAbsent flags.endpoint then [.missingEndpoint] else []) ++
    (if output = "" then [.missingOutput] else []) ++
    (if IsAbsent flags.namespaceName then [.missingNamespace] else []) ++
    (if Asks flags .csharp ∨ Asks flags .java then [] else [.unknownLanguage output]) ++
    (if Asks flags .java ∧ ¬ NamesHolder flags then [.invalidJavaFileName output] else []) ++
    flags.headers.flatMap fun raw => if IsHeader raw then [] else [.invalidHeader raw]

/-- A web address begins with one of two schemes, in either case. -/
def IsWebAddress (text : String) : Prop :=
  ∃ scheme ∈ ["http://", "https://"], ∃ before behind,
    text.toList = before ++ behind ∧ before.map Char.toLower = scheme.toList

/-- The settings are those that the flags ask for. -/
structure Follows (s : Settings) (flags : Flags) : Prop where
  source : ∃ raw, flags.endpoint = some raw ∧
    (IsWebAddress (Text.trimmed raw) ∧ s.source = .endpoint (Text.trimmed raw) ∨
      ¬ IsWebAddress (Text.trimmed raw) ∧ s.source = .file (Text.trimmed raw))
  output : flags.output = some s.output
  namespaceName : ∃ raw, flags.namespaceName = some raw ∧
    s.namespaceName = Text.trimmed raw ∧ s.namespaceName ≠ ""
  language : flags.lang = some s.language ∨ flags.lang = none ∧
    (Path.extension? s.output).map Text.asciiLower = some s.language.extension
  holder_isSome : s.holder.isSome ↔ s.language = .java
  holder_eq : ∀ name, s.holder = some name → Path.stem? s.output = some name
  timeout : s.timeout = .ofSeconds flags.timeout
  retries : s.retries = flags.retries
  skipUnsupported : s.skipUnsupported = flags.skipUnsupported

theorem stops_require_trimmed (value : Option String) (missing : SettingsError) :
    Stops (require (value.bind Text.trimmed?) missing)
      (if IsAbsent value then [missing] else []) := by
  cases value with
  | none => exact Stops.error missing []
  | some raw =>
      by_cases h : ∀ c ∈ raw.toList, Text.isBlank c
      · have hnone : Text.trimmed? raw = none := by
          rw [Text.trimmed?, (Text.trim_eq_nil_iff raw.toList).mpr h]
        rw [if_pos (show IsAbsent (some raw) from h), Option.bind_some, hnone]
        exact Stops.error missing []
      · rw [if_neg (show ¬ IsAbsent (some raw) from h), Option.bind_some,
          Text.trimmed?_eq_some h]
        exact Stops.ok _

theorem eq_trimmed_of_require {value : Option String} {missing : SettingsError} {text : String}
    (h : require (value.bind Text.trimmed?) missing = .ok text) :
    ∃ raw, value = some raw ∧ text = Text.trimmed raw ∧ text ≠ "" := by
  cases value with
  | none => cases h
  | some raw =>
      by_cases hblank : ∀ c ∈ raw.toList, Text.isBlank c
      · rw [Option.bind_some, Text.trimmed?, (Text.trim_eq_nil_iff raw.toList).mpr hblank] at h
        cases h
      · rw [Option.bind_some, Text.trimmed?_eq_some hblank] at h
        cases h
        exact ⟨raw, rfl, rfl, Text.trimmed_ne_empty hblank⟩

theorem stops_require_output (output : Option String) :
    Stops (require (output.filter (· ≠ "")) .missingOutput)
      (if output.getD "" = "" then [SettingsError.missingOutput] else []) := by
  cases output with
  | none => exact Stops.error _ []
  | some path =>
      by_cases h : path = ""
      · rw [h]
        exact Stops.error _ []
      · rw [Option.getD_some, if_neg h, Option.filter_some, if_pos (by simpa using h)]
        exact Stops.ok _

theorem eq_of_require_output {output : Option String} {path : String}
    (h : require (output.filter (· ≠ "")) .missingOutput = .ok path) : output = some path := by
  unfold require at h
  split at h
  · rename_i found hfound
    cases h
    exact (Option.filter_eq_some_iff.mp hfound).1
  · cases h

/-- What the flags ask for is what is chosen. -/
theorem languageOf_eq_ok_iff {flags : Flags} {output : String} (h : flags.output = some output)
    (l : Language) : languageOf flags output = .ok l ↔ Asks flags l := by
  unfold languageOf Asks
  rw [h, Option.getD_some]
  cases flags.lang with
  | some chosen => simp
  | none =>
      have hpath : Language.ofPath? output = some l ↔
          (Path.extension? output).map Text.asciiLower = some l.extension := by
        rw [Language.ofPath?]
        cases Path.extension? output with
        | none => simp
        | some extension => simp [Language.ofExtension?_eq_some_iff]
      rw [← hpath]
      cases Language.ofPath? output <;> simp

theorem stops_languageOf {flags : Flags} {output : String} (h : flags.output = some output) :
    Stops (languageOf flags output)
      (if Asks flags .csharp ∨ Asks flags .java then [] else [.unknownLanguage output]) := by
  have hsome : ∀ l, languageOf flags output = .ok l → Asks flags .csharp ∨ Asks flags .java := by
    intro l hl
    have hasks := (languageOf_eq_ok_iff h l).mp hl
    cases l with
    | csharp => exact Or.inl hasks
    | java => exact Or.inr hasks
  by_cases hasks : Asks flags .csharp ∨ Asks flags .java
  · rw [if_pos hasks]
    rcases hasks with hasks | hasks
    all_goals
      rw [(languageOf_eq_ok_iff h _).mpr hasks]
      exact Stops.ok _
  · rw [if_neg hasks]
    cases hl : languageOf flags output with
    | ok l => exact absurd (hsome l hl) hasks
    | error e =>
        unfold languageOf at hl
        split at hl
        · cases hl
        · cases hl
          exact Stops.error _ []

theorem holder?_eq_some {stem name : String} (h : Java.holder? stem = some name) : name = stem := by
  unfold Java.holder? at h
  split at h
  · cases h
  · split at h
    · cases h
      rfl
    · cases h

theorem stops_holderOf {flags : Flags} {output : String} (h : flags.output = some output)
    {l : Language} (hl : languageOf flags output = .ok l) :
    Stops (holderOf l output)
      (if Asks flags .java ∧ ¬ NamesHolder flags then [.invalidJavaFileName output] else []) := by
  have hunique : ∀ l', Asks flags l' → l' = l := by
    intro l' hasks
    rw [(languageOf_eq_ok_iff h l').mpr hasks] at hl
    exact Except.ok.inj hl
  cases l with
  | csharp =>
      rw [if_neg fun hjava => nomatch hunique .java hjava.1]
      exact Stops.ok none
  | java =>
      have hasks := (languageOf_eq_ok_iff h .java).mp hl
      have hnames : NamesHolder flags ↔
          ∃ stem, Path.stem? output = some stem ∧ Java.holder? stem ≠ none := by
        rw [NamesHolder, h, Option.getD_some]
      unfold holderOf
      cases hholder : (Path.stem? output).bind Java.holder? with
      | none =>
          have hbad : ¬ NamesHolder flags := by
            rw [hnames]
            rintro ⟨stem, hstem, hne⟩
            rw [hstem, Option.bind_some] at hholder
            exact hne hholder
          rw [if_pos ⟨hasks, hbad⟩]
          exact Stops.error _ []
      | some name =>
          obtain ⟨stem, hstem, hname⟩ := Option.bind_eq_some_iff.mp hholder
          have hgood : NamesHolder flags :=
            hnames.mpr ⟨stem, hstem, by rw [hname]; exact Option.some_ne_none name⟩
          rw [if_neg fun hbad => hbad.2 hgood]
          exact Stops.ok _

theorem holder_of_holderOf {output : String} {l : Language} {holder : Option String}
    (h : holderOf l output = .ok holder) :
    (holder.isSome ↔ l = .java) ∧ ∀ name, holder = some name → Path.stem? output = some name := by
  unfold holderOf at h
  cases l with
  | csharp =>
      cases h
      exact ⟨⟨nofun, nofun⟩, nofun⟩
  | java =>
      cases hholder : (Path.stem? output).bind Java.holder? with
      | none =>
          rw [hholder] at h
          cases h
      | some name =>
          rw [hholder] at h
          cases h
          obtain ⟨stem, hstem, hname⟩ := Option.bind_eq_some_iff.mp hholder
          refine ⟨⟨fun _ => rfl, fun _ => rfl⟩, ?_⟩
          rintro _ ⟨⟩
          rw [holder?_eq_some hname, hstem]

theorem cutFirst?_eq (sep : Char) (cs : List Char) : Text.cutFirst? sep cs =
    if sep ∈ cs then some (cs.takeWhile (· ≠ sep), (cs.dropWhile (· ≠ sep)).tail) else none := by
  induction cs with
  | nil => rfl
  | cons c rest ih =>
      rw [Text.cutFirst?, ih]
      by_cases hc : c = sep
      · simp [hc]
      · by_cases hrest : sep ∈ rest <;> simp [hc, hrest, Ne.symm hc]

theorem cutFirst?_eq_some_iff {sep : Char} {cs before behind : List Char} :
    Text.cutFirst? sep cs = some (before, behind) ↔ cs = before ++ sep :: behind ∧ sep ∉ before := by
  induction cs generalizing before with
  | nil => simp [Text.cutFirst?]
  | cons c rest ih =>
      rw [Text.cutFirst?]
      cases before with
      | nil => by_cases hc : c = sep <;> simp [hc]
      | cons d before =>
          by_cases hc : c = sep
          · simp +contextual [hc]
          · rw [if_neg hc, Option.map_eq_some_iff]
            constructor
            · rintro ⟨_, hcut, hpair⟩
              cases hpair
              obtain ⟨rfl, hsep⟩ := ih.mp hcut
              exact ⟨rfl, List.not_mem_cons_of_ne_of_not_mem (Ne.symm hc) hsep⟩
            · rintro ⟨htext, hsep⟩
              cases htext
              exact ⟨(before, behind), ih.mpr ⟨rfl, List.not_mem_of_not_mem_cons hsep⟩, rfl⟩

/-- A header is read as the name before its first colon and the value behind it. -/
theorem headerOf_eq (raw : String) : headerOf raw =
    if IsHeader raw then
      .ok (String.ofList (Text.trim (raw.toList.takeWhile (· ≠ ':'))),
        String.ofList (Text.trim (raw.toList.dropWhile (· ≠ ':')).tail))
    else .error (.invalidHeader raw) := by
  have hname : ∀ name : List Char, (name.isEmpty || name.any Text.isBlank) = true ↔
      ¬ (name ≠ [] ∧ ∀ c ∈ name, ¬ Text.isBlank c) := by
    intro name
    cases name with
    | nil => simp
    | cons c rest => cases hc : Text.isBlank c <;> simp [hc]
  unfold headerOf
  rw [cutFirst?_eq]
  by_cases hcolon : ':' ∈ raw.toList
  · by_cases hheader : IsHeader raw
    · simp only [if_pos hcolon, if_pos hheader, hname, if_neg (not_not.mpr hheader.2)]
    · have hbad := fun h => hheader ⟨hcolon, h⟩
      simp only [if_pos hcolon, if_neg hheader, hname, if_pos hbad]
  · rw [if_neg hcolon, if_neg fun h : IsHeader raw => hcolon h.1]

theorem stops_headerOf (raw : String) :
    Stops (headerOf raw) (if IsHeader raw then [] else [.invalidHeader raw]) := by
  rw [headerOf_eq]
  by_cases h : IsHeader raw
  · rw [if_pos h, if_pos h]
    exact Stops.ok _
  · rw [if_neg h, if_neg h]
    exact Stops.error _ []

/-- The checks end at the first of the faults. -/
theorem stops_ofFlags (flags : Flags) : Stops (ofFlags flags) (faults flags) := by
  unfold ofFlags faults
  simp only [List.append_assoc]
  apply (stops_require_trimmed flags.endpoint .missingEndpoint).bind
  intro endpoint _
  apply (stops_require_output flags.output).bind
  intro output houtput
  have houtput := eq_of_require_output houtput
  rw [houtput, Option.getD_some]
  apply (stops_require_trimmed flags.namespaceName .missingNamespace).bind
  intro namespaceName _
  apply (stops_languageOf houtput).bind
  intro language hlanguage
  apply (stops_holderOf houtput hlanguage).bind
  intro holder _
  exact (Stops.mapM flags.headers fun raw _ => stops_headerOf raw).map _

theorem isWebAddress_iff (text : String) :
    IsWebAddress text ↔ ("http://".toList.isPrefixOf (Text.asciiLower text).toList ||
      "https://".toList.isPrefixOf (Text.asciiLower text).toList) = true := by
  have hscheme : ∀ scheme : List Char, scheme.isPrefixOf (Text.asciiLower text).toList = true ↔
      ∃ before behind, text.toList = before ++ behind ∧ before.map Char.toLower = scheme := by
    intro scheme
    rw [List.isPrefixOf_iff_prefix, Text.asciiLower, String.toList_ofList]
    constructor
    · rintro ⟨rest, hrest⟩
      obtain ⟨before, behind, htext, hbefore, -⟩ := List.map_eq_append_iff.mp hrest.symm
      exact ⟨before, behind, htext, hbefore⟩
    · rintro ⟨before, behind, htext, rfl⟩
      rw [htext, List.map_append]
      exact List.prefix_append _ _
  rw [Bool.or_eq_true, hscheme, hscheme]
  unfold IsWebAddress
  simp

theorem source_ofText (text : String) :
    IsWebAddress text ∧ Source.ofText text = .endpoint text ∨
      ¬ IsWebAddress text ∧ Source.ofText text = .file text := by
  rw [isWebAddress_iff, Source.ofText]
  split
  · rename_i hweb
    exact Or.inl ⟨hweb, rfl⟩
  · rename_i hweb
    exact Or.inr ⟨hweb, rfl⟩

theorem follows_of_ofFlags {flags : Flags} {s : Settings} (h : ofFlags flags = .ok s) :
    s.Follows flags := by
  unfold ofFlags at h
  obtain ⟨endpoint, hendpoint, h⟩ := eq_ok_of_bind h
  obtain ⟨output, houtput, h⟩ := eq_ok_of_bind h
  obtain ⟨namespaceName, hnamespaceName, h⟩ := eq_ok_of_bind h
  obtain ⟨language, hlanguage, h⟩ := eq_ok_of_bind h
  obtain ⟨holder, hholder, h⟩ := eq_ok_of_bind h
  obtain ⟨headers, hheaders, h⟩ := eq_ok_of_bind h
  have hs := Except.ok.inj h
  have houtput := eq_of_require_output houtput
  obtain ⟨raw, hraw, hendpoint, -⟩ := eq_trimmed_of_require hendpoint
  obtain ⟨hisSome, heq⟩ := holder_of_holderOf hholder
  have hasks := (languageOf_eq_ok_iff houtput language).mp hlanguage
  rw [Asks, houtput, Option.getD_some] at hasks
  have hsource := source_ofText (Text.trimmed raw)
  rw [← hendpoint] at hsource
  rw [← hs]
  exact {
    source := ⟨raw, hraw, hendpoint ▸ hsource⟩
    output := houtput
    namespaceName := eq_trimmed_of_require hnamespaceName
    language := hasks
    holder_isSome := hisSome
    holder_eq := heq
    timeout := rfl
    retries := rfl
    skipUnsupported := rfl }

/-- Flags are refused for the first thing that is wrong with them, and only if something is. Else
the settings are those that the flags ask for, and the options are made of them: the namespace, the
language with its built-in rules, the class around a Java model or the default for it, and tabs. -/
theorem ofFlags_error_iff_and_ok_iff (flags : Flags) :
    (∀ e, ofFlags flags = .error e ↔ (faults flags).head? = some e) ∧
    ((∃ s, ofFlags flags = .ok s) ↔ faults flags = []) ∧
    ∀ s, ofFlags flags = .ok s → s.Follows flags ∧ ∀ now, s.options now =
      { remap := .builtIn s.language
        skipUnsupported := flags.skipUnsupported
        namespaceName := s.namespaceName
        language := s.language
        indent := .tabs
        generatedAt := now
        holder := s.holder.getD "Model" } := by
  refine ⟨(stops_ofFlags flags).error_iff, (stops_ofFlags flags).ok_iff, fun s h => ?_⟩
  have hfollows := follows_of_ofFlags h
  refine ⟨hfollows, fun now => ?_⟩
  rw [← hfollows.skipUnsupported]
  rfl

namespace Checked

/-- Flags for a Java model, with blanks and capitals wherever they are allowed. -/
def flags : Flags :=
  { Flags.default with
    namespaceName := some " com.content"
    endpoint := some "HTTPS://host/api\n"
    output := some "out/Content.JAVA"
    headers := [" Accept : text/plain; q=1:2"] }

/-- With nothing right but the endpoint and the namespace. -/
def poorFlags : Flags :=
  { flags with output := some "Content.txt", headers := ["Accept", "a b:c"] }

theorem ofFlags_error_iff_and_ok_iff_of_flags :
    faults poorFlags = [.unknownLanguage "Content.txt", .invalidHeader "Accept",
      .invalidHeader "a b:c"] ∧
    ofFlags poorFlags = .error (.unknownLanguage "Content.txt") ∧
    ∃ s, ofFlags flags = .ok s ∧ s.Follows flags ∧ ∀ now, s.options now =
      { remap := .builtIn s.language
        skipUnsupported := false
        namespaceName := s.namespaceName
        language := s.language
        indent := .tabs
        generatedAt := now
        holder := s.holder.getD "Model" } := by
  have hpoor : faults poorFlags = [.unknownLanguage "Content.txt", .invalidHeader "Accept",
      .invalidHeader "a b:c"] := by decide
  obtain ⟨herror, -, -⟩ := ofFlags_error_iff_and_ok_iff poorFlags
  obtain ⟨-, hok, hsettings⟩ := ofFlags_error_iff_and_ok_iff flags
  obtain ⟨s, hs⟩ := hok.mpr (by decide)
  exact ⟨hpoor, (herror _).mpr (by rw [hpoor]; rfl), s, hs, hsettings s hs⟩

end Checked

end Settings

end SchemaClasses
