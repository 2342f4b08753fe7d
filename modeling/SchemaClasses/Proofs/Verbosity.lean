import SchemaClasses.Proofs.Session
import SchemaClasses.Proofs.Validation

/-! How much a run prints. All that comes about before the output is written, a model or an early
end, is a function of the store, the time and the other flags; the flags `verbose` and `quiet` come
in when this is printed, and decide nothing else. -/

namespace SchemaClasses

/-- The flags are the same, but for the two that decide how much is printed. -/
def Flags.AgreesUpToVerbosity (f g : Flags) : Prop :=
  g = { f with verbose := g.verbose, quiet := g.quiet }

instance (f g : Flags) : Decidable (f.AgreesUpToVerbosity g) :=
  inferInstanceAs (Decidable (_ = _))

namespace Run

/-- The settings of a run and its model or, where it has none, the outcome with which it ends. -/
def made (store : FileStore) (now : Int) (flags : Flags) : Except Outcome (Settings × Generated) :=
  match Settings.ofFlags flags with
  | .error e => .error ⟨.rejected e, "", ""⟩
  | .ok settings =>
    match loadSchema store settings.source with
    | .error e => .error ⟨.exit 1, "", failure "Could not read the schema" e.message⟩
    | .ok schema =>
      match generate schema (settings.options now) with
      | .error e =>
        .error ⟨.exit 1, "", failure "An error occurred when generating the model" e.message⟩
      | .ok generated => .ok (settings, generated)

/-- The outcome of a run that has a model, once it is known whether the output is written. -/
def told (flags : Flags) (settings : Settings) (generated : Generated) (written : Bool) : Outcome :=
  let stderr := diagnostics flags generated.report
  if written then ⟨.exit 0, summary flags settings.output generated.emitted, stderr⟩
  else ⟨.unwritable, "", stderr⟩

/-- What is printed of a run that has a model: nothing if it is quiet, and else the warnings, behind
them the information if it is verbose, and one line about the file if the run succeeds. -/
structure Prints (flags : Flags) (output : String) (generated : Generated) (o : Outcome) : Prop where
  of_quiet : flags.quiet = true → o.stderr = "" ∧ o.stdout = ""
  stderr_eq : flags.quiet = false → o.stderr = String.join
    ((generated.report.warnings.map Diagnostic.display ++
      if flags.verbose then generated.report.infos.map Diagnostic.display else []).map (· ++ "\n"))
  stdout_eq : flags.quiet = false → o.stdout =
    if o.ending = .exit 0 then
      "Generated " ++ output ++ " (" ++ toString generated.emitted ++ " types)\n"
    else ""

variable {store : FileStore} {now : Int} {args : List String} {flags flags' : Flags}
  {c c' : FileStore.Circumstances}

theorem runIn_eq (c : FileStore.Circumstances) (store : FileStore) (now : Int) (flags : Flags) :
    runIn c store now flags = match made store now flags with
      | .error o => (o, store)
      | .ok (settings, generated) =>
        let written := store.write c settings.output generated.code
        (told flags settings generated written.1, written.2) := by
  unfold runIn made
  cases Settings.ofFlags flags with
  | error e => rfl
  | ok settings =>
      dsimp only
      cases loadSchema store settings.source with
      | error e => rfl
      | ok schema =>
          dsimp only [plan]
          cases generate schema (settings.options now) with
          | error e => rfl
          | ok generated =>
              dsimp only
              rcases store.write c settings.output generated.code with ⟨_ | _, after⟩ <;> rfl

/-- Nothing that is made depends on how much is to be printed. -/
theorem made_eq_of_agrees (h : flags.AgreesUpToVerbosity flags') :
    made store now flags' = made store now flags := by
  rw [h]
  rfl

/-- What ends before there is a model has nothing to say on its output. -/
theorem stdout_of_made_error {o : Outcome} (h : made store now flags = .error o) :
    o.stdout = "" := by
  unfold made at h
  split at h
  · cases h
    rfl
  · split at h
    · cases h
      rfl
    · split at h <;> cases h
      rfl

theorem made_of_commission (hflags : Flags.ofCommandLine args = .ok flags)
    (m : Commission store now args) : made store now flags = .ok (m.settings, m.generated) := by
  rw [← m.flags_unique hflags, made, m.settings_eq]
  dsimp only
  rw [m.loadSchema_eq]
  dsimp only
  rw [m.generated_eq]

theorem commission_of_made {settings : Settings} {generated : Generated}
    (hflags : Flags.ofCommandLine args = .ok flags)
    (h : made store now flags = .ok (settings, generated)) :
    Nonempty (Commission store now args) := by
  unfold made at h
  split at h
  · cases h
  · rename_i settings' hsettings
    split at h
    · cases h
    · rename_i schema hschema
      split at h
      · cases h
      · rename_i generated' hgenerated
        obtain ⟨path, text, hsource, htext, hdecoded⟩ := loadSchema_eq_ok_iff.mp hschema
        exact ⟨⟨flags, settings', path, text, schema, generated', hflags, hsettings, hsource, htext,
          hdecoded, hgenerated⟩⟩

theorem no_commission_of_made {o : Outcome} (hflags : Flags.ofCommandLine args = .ok flags)
    (h : made store now flags = .error o) : ¬ Nonempty (Commission store now args) := by
  rintro ⟨m⟩
  rw [made_of_commission hflags m] at h
  cases h

theorem prints_told (flags : Flags) (settings : Settings) (generated : Generated) (written : Bool) :
    Prints flags settings.output generated (told flags settings generated written) := by
  have hquiet : flags.quiet = true → diagnostics flags generated.report = "" ∧
      summary flags settings.output generated.emitted = "" := by
    intro h
    rw [diagnostics, summary, if_pos h, if_pos h]
    exact ⟨rfl, rfl⟩
  have hstderr : flags.quiet = false → diagnostics flags generated.report = String.join
      ((generated.report.warnings.map Diagnostic.display ++
        if flags.verbose then generated.report.infos.map Diagnostic.display else []).map
          (· ++ "\n")) := by
    intro h
    rw [diagnostics, h, if_neg Bool.false_ne_true]
    cases flags.verbose <;> simp [Function.comp_def]
  have hstdout : flags.quiet = false → summary flags settings.output generated.emitted =
      "Generated " ++ settings.output ++ " (" ++ toString generated.emitted ++ " types)\n" := by
    intro h
    rw [summary, h, if_neg Bool.false_ne_true]
  cases written with
  | false => exact ⟨fun h => ⟨(hquiet h).1, rfl⟩, hstderr, fun _ => rfl⟩
  | true => exact ⟨hquiet, hstderr, hstdout⟩

theorem write_of_writable {path : String} (h : store.Writable c path) (text : String) :
    ∃ target, store.target? path = some target ∧
      store.write c path text = (true, store.put target (.file text.toUTF8)) := by
  obtain ⟨draft, hdraft⟩ := Option.isSome_iff_exists.mp h.draft
  obtain ⟨target, htarget⟩ := Option.isSome_iff_exists.mp h.target
  refine ⟨target, htarget, ?_⟩
  rw [FileStore.write_eq, hdraft, h.fault, htarget]

theorem write_of_not_writable {path : String} (h : ¬ store.Writable c path) (text : String) :
    store.write c path text = (false, store) := by
  rw [FileStore.write_eq]
  split
  · rename_i hdraft hfault htarget
    exact absurd ⟨hfault, by rw [hdraft]; rfl, by rw [htarget]; rfl⟩ h
  · rfl

/-- Of the draft nothing is left, so that it has no part in what is written but whether it can
be. -/
theorem write_congr {path : String} (h : store.Writable c path ↔ store.Writable c' path)
    (text : String) : store.write c path text = store.write c' path text := by
  by_cases hwritable : store.Writable c path
  · obtain ⟨target, htarget, hwrite⟩ := write_of_writable hwritable text
    obtain ⟨target', htarget', hwrite'⟩ := write_of_writable (h.mp hwritable) text
    rw [htarget] at htarget'
    cases htarget'
    rw [hwrite, hwrite']
  · rw [write_of_not_writable hwritable, write_of_not_writable (mt h.mpr hwritable)]

/-- Two runs for command lines whose flags differ in nothing but how much is to be printed end in
the same way and leave the same store, whatever drafts the system proposes to them. Where there is
no model, they print the same, and nothing on the output; where there is one, each prints what its
own flags ask for. -/
theorem same_ending_and_store_and_prints {args args' : List String}
    (h : Flags.ofCommandLine args = .ok flags) (h' : Flags.ofCommandLine args' = .ok flags')
    (hagrees : flags.AgreesUpToVerbosity flags')
    (hwritable : ∀ path ∈ flags.output, store.Writable c path ↔ store.Writable c' path) :
    ∃ (o o' : Outcome) (after : FileStore),
      commandIn c store now args = .ok (o, after) ∧
      commandIn c' store now args' = .ok (o', after) ∧
      o.ending = o'.ending ∧
      (Nonempty (Commission store now args) ↔ Nonempty (Commission store now args')) ∧
      (¬ Nonempty (Commission store now args) → o = o' ∧ o.stdout = "") ∧
      ∀ m : Commission store now args,
        Prints flags m.settings.output m.generated o ∧
          Prints flags' m.settings.output m.generated o' := by
  have hmade' : made store now flags' = made store now flags := made_eq_of_agrees hagrees
  unfold commandIn
  rw [h, h', Except.map, Except.map, runIn_eq, runIn_eq, hmade']
  cases hmade : made store now flags with
  | error o =>
      have hnone := no_commission_of_made h hmade
      have hnone' := no_commission_of_made h' (hmade'.trans hmade)
      exact ⟨o, o, store, rfl, rfl, rfl, iff_of_false hnone hnone',
        fun _ => ⟨rfl, stdout_of_made_error hmade⟩, fun m => absurd ⟨m⟩ hnone⟩
  | ok made =>
      obtain ⟨settings, generated⟩ := made
      have hsome := commission_of_made h hmade
      have hsome' := commission_of_made h' (hmade'.trans hmade)
      have hunique : ∀ m : Commission store now args,
          m.settings = settings ∧ m.generated = generated := by
        intro m
        have hm := made_of_commission h m
        rw [hmade] at hm
        cases hm
        exact ⟨rfl, rfl⟩
      obtain ⟨m⟩ := hsome
      have houtput : flags.output = some settings.output := by
        rw [← m.flags_unique h, (Settings.follows_of_ofFlags m.settings_eq).output, (hunique m).1]
      dsimp only
      rw [← write_congr (hwritable settings.output houtput)]
      refine ⟨_, _, _, rfl, rfl, ?_, iff_of_true ⟨m⟩ hsome', fun hnone => absurd ⟨m⟩ hnone, ?_⟩
      · cases (store.write c settings.output generated.code).1 <;> rfl
      · intro m'
        rw [(hunique m').1, (hunique m').2]
        exact ⟨prints_told flags settings generated _, prints_told flags' settings generated _⟩

/-! A run that skips a type and leaves another one empty, once with all that it can say and once
without a word. The system proposes other names for the draft in the second run. -/

namespace Loudness

def schemaText : String :=
  "\x7b\"types\":[\x7b\"kind\":\"UNION\",\"name\":\"Result\"\x7d," ++
    "\x7b\"kind\":\"INTERFACE\",\"name\":\"Item\"\x7d]\x7d"

def files : FileStore where
  workingDirectory := ["home"]
  entries := [(["home"], .directory), (["home", "schema.json"], .file schemaText.toUTF8)]

def asked : List String :=
  ["generate", "-n", "Models", "-e", "schema.json", "-o", "Model.cs", "--skip-unsupported"]

def given (quiet : Bool) : Flags :=
  { Flags.default with
    namespaceName := some "Models"
    endpoint := some "schema.json"
    output := some "Model.cs"
    skipUnsupported := true
    verbose := true
    quiet }

def first : Step where
  args := asked ++ ["-v"]
  now := 0
  circumstances := .fair

def second : Step where
  args := asked ++ ["-vq"]
  now := 0
  circumstances := ⟨[".tmpA"], none⟩

theorem same_ending_and_store_and_prints_in_files :
    Flags.ofCommandLine first.args = .ok (given false) ∧
    Flags.ofCommandLine second.args = .ok (given true) ∧
    (given false).AgreesUpToVerbosity (given true) ∧
    files.Writable first.circumstances "Model.cs" ∧
    files.Writable second.circumstances "Model.cs" ∧
    ∃ (o o' : Outcome) (after : FileStore),
      commandIn first.circumstances files 0 first.args = .ok (o, after) ∧
      commandIn second.circumstances files 0 second.args = .ok (o', after) ∧
      o.ending = o'.ending ∧ o'.stderr = "" ∧ o'.stdout = "" ∧
      ∃ m : Commission files 0 first.args, Prints (given false) m.settings.output m.generated o := by
  have hgiven : Flags.ofCommandLine first.args = .ok (given false) := by decide +kernel
  have hgiven' : Flags.ofCommandLine second.args = .ok (given true) := by decide +kernel
  have hagrees : (given false).AgreesUpToVerbosity (given true) := by decide
  have hwritable : files.Writable first.circumstances "Model.cs" :=
    ⟨rfl, by decide +kernel, by decide +kernel⟩
  have hwritable' : files.Writable second.circumstances "Model.cs" :=
    ⟨rfl, by decide +kernel, by decide +kernel⟩
  have hsucceeded : (first.take files).Succeeded := by
    unfold Turn.Succeeded
    decide +kernel
  obtain ⟨m, -⟩ := (sound_take first files).succeeded_iff.mp hsucceeded
  obtain ⟨o, o', after, hrun, hrun', hending, -, -, hprints⟩ :=
    same_ending_and_store_and_prints hgiven hgiven' hagrees (by
      rintro _ ⟨⟩
      exact iff_of_true hwritable hwritable')
  obtain ⟨hstderr, hstdout⟩ := (hprints m).2.of_quiet rfl
  exact ⟨hgiven, hgiven', hagrees, hwritable, hwritable', o, o', after, hrun, hrun', hending,
    hstderr, hstdout, m, (hprints m).1⟩

end Loudness

end Run

end SchemaClasses
