import SchemaClasses.Command.Run
import SchemaClasses.Proofs.Writing

/-! Runs one after the other on the same files, where what one run writes may be what the next one
reads. A run that fails leaves the files as they were, and one that succeeds changes its output file
and no other. -/

namespace SchemaClasses

/-- The output can be written: the system does not fail, there is room for a draft beside the file,
and the path leads to the name of a file. -/
structure FileStore.Writable (s : FileStore) (c : Circumstances) (path : String) : Prop where
  fault : c.fault = none
  draft : (s.draft? path c.draftNames).isSome
  target : (s.target? path).isSome

namespace Run

/-- A model that a command line asks for and that can be made from the files of a store, with what
each stage on the way to it gives. -/
structure Commission (store : FileStore) (now : Int) (args : List String) where
  flags : Flags
  settings : Settings
  path : String
  text : String
  schema : Schema
  generated : Generated
  flags_eq : Flags.ofCommandLine args = .ok flags
  settings_eq : Settings.ofFlags flags = .ok settings
  source_eq : settings.source = .file path
  text_eq : store.read path = .ok text
  schema_eq : Schema.ofText text = .ok schema
  generated_eq : generate schema (settings.options now) = .ok generated

/-- A command line, with the time and the circumstances of its run. -/
structure Step where
  args : List String
  now : Int
  circumstances : FileStore.Circumstances

/-- A step with its result, and the store before and after it. -/
structure Turn where
  step : Step
  before : FileStore
  result : Except UsageError Outcome
  after : FileStore

/-- Nothing is done for a command line that gives no flags. -/
def Step.take (step : Step) (store : FileStore) : Turn :=
  let run := commandIn step.circumstances store step.now step.args
  { step
    before := store
    result := run.map Prod.fst
    after := match run with
      | .error _ => store
      | .ok (_, after) => after }

def session (store : FileStore) : List Step → List Turn
  | [] => []
  | step :: steps => step.take store :: session (step.take store).after steps

def storeAfter (store : FileStore) (steps : List Step) : FileStore :=
  steps.foldl (fun s step => (step.take s).after) store

namespace Turn

/-- What the command line of a turn asks for. -/
abbrev Commission (turn : Turn) : Type :=
  Run.Commission turn.before turn.step.now turn.step.args

def ending (turn : Turn) : Except UsageError Ending :=
  turn.result.map (·.ending)

def Succeeded (turn : Turn) : Prop :=
  turn.ending = .ok (.exit 0)

/-- The command line was of no use, or the settings, or there was no model, or its file could not be
written. -/
inductive Failed (turn : Turn) : Prop
  | usage {e} (h : turn.ending = .error e)
  | settings {e} (h : turn.ending = .ok (.rejected e))
  | model (h : turn.ending = .ok (.exit 1))
  | output (h : turn.ending = .ok .unwritable)

/-- A turn that fails leaves the store as it was, and one that succeeds has made a model of the
files before it and put the code where its output path leads, and nothing anywhere else. It succeeds
wherever there is a model to make and its file can be written. -/
structure Sound (turn : Turn) : Prop where
  after_of_failed : turn.Failed → turn.after = turn.before
  differs_of_succeeded : turn.Succeeded → ∃ (m : turn.Commission) (l : Location),
    turn.before.locate m.settings.output = .ok l ∧
      turn.before.Differs l (.file m.generated.code.toUTF8) turn.after
  succeeded_or_failed : turn.Succeeded ∨ turn.Failed
  succeeded_iff : turn.Succeeded ↔
    ∃ m : turn.Commission, turn.before.Writable turn.step.circumstances m.settings.output

theorem not_failed_of_succeeded {turn : Turn} (h : turn.Succeeded) : ¬ turn.Failed := by
  unfold Succeeded at h
  rintro (hother | hother | hother | hother)
  all_goals
    rw [h] at hother
    cases hother

theorem Failed.sound {turn : Turn} (h : turn.Failed) (hafter : turn.after = turn.before)
    (hnone : ∀ m : turn.Commission,
      ¬ turn.before.Writable turn.step.circumstances m.settings.output) : turn.Sound where
  after_of_failed _ := hafter
  differs_of_succeeded hsucceeded := absurd h (not_failed_of_succeeded hsucceeded)
  succeeded_or_failed := .inr h
  succeeded_iff :=
    ⟨fun hsucceeded => absurd h (not_failed_of_succeeded hsucceeded),
      fun ⟨m, hwritable⟩ => absurd hwritable (hnone m)⟩

end Turn

variable {store : FileStore} {now : Int} {args : List String} {c : FileStore.Circumstances}

/-- A schema comes from a file that can be read, and nowhere else. -/
theorem loadSchema_eq_ok_iff {source : Source} {schema : Schema} :
    loadSchema store source = .ok schema ↔ ∃ path text, source = .file path ∧
      store.read path = .ok text ∧ Schema.ofText text = .ok schema := by
  cases source with
  | endpoint url => simp [loadSchema]
  | file path =>
      cases hread : store.read path with
      | error e => simp [loadSchema, schemaOfText, hread]
      | ok text => simp [loadSchema, schemaOfText, hread, mapError_eq_ok_iff]

namespace Commission

theorem loadSchema_eq (m : Commission store now args) :
    loadSchema store m.settings.source = .ok m.schema :=
  loadSchema_eq_ok_iff.mpr ⟨m.path, m.text, m.source_eq, m.text_eq, m.schema_eq⟩

theorem flags_unique (m : Commission store now args) {flags : Flags}
    (h : Flags.ofCommandLine args = .ok flags) : m.flags = flags :=
  Except.ok.inj (m.flags_eq.symm.trans h)

theorem settings_unique (m : Commission store now args) {flags : Flags} {settings : Settings}
    (hflags : Flags.ofCommandLine args = .ok flags)
    (hsettings : Settings.ofFlags flags = .ok settings) : m.settings = settings := by
  have h := m.settings_eq
  rw [m.flags_unique hflags, hsettings] at h
  exact (Except.ok.inj h).symm

/-- A command line asks for one model at most. -/
theorem settings_eq_settings (m m' : Commission store now args) : m.settings = m'.settings :=
  m.settings_unique m'.flags_eq m'.settings_eq

end Commission

/-- All that a run for a command line can end in. -/
inductive Ends (c : FileStore.Circumstances) (store : FileStore) (now : Int) (args : List String) :
    Except UsageError (Outcome × FileStore) → Prop
  | usage {e} (hflags : Flags.ofCommandLine args = .error e) : Ends c store now args (.error e)
  | settings {flags e} (hflags : Flags.ofCommandLine args = .ok flags)
      (hsettings : Settings.ofFlags flags = .error e) :
      Ends c store now args (.ok (⟨.rejected e, "", ""⟩, store))
  | model {stderr} (hnone : Commission store now args → False) :
      Ends c store now args (.ok (⟨.exit 1, "", stderr⟩, store))
  | output {stderr} (m : Commission store now args)
      (hwritable : ¬ store.Writable c m.settings.output) :
      Ends c store now args (.ok (⟨.unwritable, "", stderr⟩, store))
  | written {stderr stdout l} (m : Commission store now args)
      (hwritable : store.Writable c m.settings.output)
      (htarget : store.target? m.settings.output = some l) :
      Ends c store now args
        (.ok (⟨.exit 0, stdout, stderr⟩, store.put l (.file m.generated.code.toUTF8)))

theorem ends_of_commission (m : Commission store now args) (stderr stdout : String) :
    Ends c store now args (.ok (match store.write c m.settings.output m.generated.code with
      | (false, after) => (⟨.unwritable, "", stderr⟩, after)
      | (true, after) => (⟨.exit 0, stdout, stderr⟩, after))) := by
  rw [FileStore.write_eq]
  cases hdraft : store.draft? m.settings.output c.draftNames with
  | none => exact .output m fun h => by simpa [hdraft] using h.draft
  | some draft =>
      cases hfault : c.fault with
      | some fault => exact .output m fun h => by simpa [hfault] using h.fault
      | none =>
          cases htarget : store.target? m.settings.output with
          | none => exact .output m fun h => by simpa [htarget] using h.target
          | some l =>
              have hwritable : store.Writable c m.settings.output :=
                ⟨hfault, by rw [hdraft]; rfl, by rw [htarget]; rfl⟩
              exact .written m hwritable htarget

theorem ends_commandIn (c : FileStore.Circumstances) (store : FileStore) (now : Int)
    (args : List String) : Ends c store now args (commandIn c store now args) := by
  unfold commandIn
  cases hflags : Flags.ofCommandLine args with
  | error e => exact .usage hflags
  | ok flags =>
      rw [Except.map, runIn]
      cases hsettings : Settings.ofFlags flags with
      | error e => exact .settings hflags hsettings
      | ok settings =>
          dsimp only
          cases hschema : loadSchema store settings.source with
          | error e =>
              refine .model fun m => ?_
              have hloaded := m.loadSchema_eq
              rw [m.settings_unique hflags hsettings, hschema] at hloaded
              cases hloaded
          | ok schema =>
              rw [plan]
              cases hgenerated : generate schema (settings.options now) with
              | error e =>
                  refine .model fun m => ?_
                  have hloaded := m.loadSchema_eq
                  have hmade := m.generated_eq
                  rw [m.settings_unique hflags hsettings] at hloaded hmade
                  rw [hschema] at hloaded
                  cases hloaded
                  rw [hgenerated] at hmade
                  cases hmade
              | ok generated =>
                  obtain ⟨path, text, hsource, htext, hdecoded⟩ := loadSchema_eq_ok_iff.mp hschema
                  exact ends_of_commission ⟨flags, settings, path, text, schema, generated, hflags,
                    hsettings, hsource, htext, hdecoded, hgenerated⟩ _ _

theorem sound_take (step : Step) (store : FileStore) : (step.take store).Sound := by
  have hends := ends_commandIn step.circumstances store step.now step.args
  unfold Step.take
  generalize commandIn step.circumstances store step.now step.args = result at hends
  cases hends with
  | usage hflags =>
      refine Turn.Failed.sound (.usage rfl) rfl fun m => ?_
      cases hflags.symm.trans m.flags_eq
  | settings hflags hsettings =>
      refine Turn.Failed.sound (.settings rfl) rfl fun m => ?_
      have h := m.settings_eq
      rw [m.flags_unique hflags, hsettings] at h
      cases h
  | model hnone => exact Turn.Failed.sound (.model rfl) rfl fun m => (hnone m).elim
  | output m hwritable =>
      refine Turn.Failed.sound (.output rfl) rfl fun m' => ?_
      rw [m'.settings_eq_settings m]
      exact hwritable
  | @written stderr stdout l m hwritable htarget =>
      obtain ⟨hlocate, hnode, -⟩ := FileStore.target?_eq_some_iff.mp htarget
      have hdiffers : store.Differs l (.file m.generated.code.toUTF8)
          (store.put l (.file m.generated.code.toUTF8)) :=
        FileStore.differs_put (FileStore.ne_nil_of_node? hnode) _
      have hsucceeded : Turn.Succeeded ⟨step, store, .ok ⟨.exit 0, stdout, stderr⟩,
          store.put l (.file m.generated.code.toUTF8)⟩ := rfl
      exact {
        after_of_failed := fun h => absurd h (Turn.not_failed_of_succeeded hsucceeded)
        differs_of_succeeded := fun _ => ⟨m, l, hlocate, hdiffers⟩
        succeeded_or_failed := .inl hsucceeded
        succeeded_iff := ⟨fun _ => ⟨m, hwritable⟩, fun _ => hsucceeded⟩ }

theorem sound_of_mem_session {steps : List Step} {turn : Turn}
    (h : turn ∈ session store steps) : turn.Sound := by
  induction steps generalizing store with
  | nil => cases h
  | cons step steps ih =>
      rcases List.mem_cons.mp h with rfl | h
      · exact sound_take step store
      · exact ih h

/-- Where no turn of a session puts its output, the session changes nothing. -/
theorem node?_storeAfter {steps : List Step} {l : Location}
    (h : ∀ turn ∈ session store steps, ∀ m : turn.Commission,
      turn.before.locate m.settings.output ≠ .ok l) :
    (storeAfter store steps).node? l = store.node? l := by
  induction steps generalizing store with
  | nil => rfl
  | cons step steps ih =>
      obtain ⟨hfirst, hrest⟩ := List.forall_mem_cons.mp h
      have hsound := sound_take step store
      have hstep : (step.take store).after.node? l = store.node? l := by
        rcases hsound.succeeded_or_failed with hsucceeded | hfailed
        · obtain ⟨m, target, hlocate, hdiffers⟩ := hsound.differs_of_succeeded hsucceeded
          have hne : l ≠ target := by
            rintro rfl
            exact hfirst m hlocate
          exact hdiffers.node?_of_ne l hne
        · rw [hsound.after_of_failed hfailed]
          rfl
      exact (ih hrest).trans hstep

/-- Whatever is run on a store and however the system interferes, every turn is sound, and a
location that is no turn's output is never touched. -/
theorem session_sound_and_untouched (store : FileStore) (steps : List Step) :
    (∀ turn ∈ session store steps, turn.Sound) ∧
      ∀ l, (∀ turn ∈ session store steps, ∀ m : turn.Commission,
        turn.before.locate m.settings.output ≠ .ok l) →
          (storeAfter store steps).node? l = store.node? l :=
  ⟨fun _ h => sound_of_mem_session h, fun _ h => node?_storeAfter h⟩

/-! A model is to take the place of the schema that it is made from. The system breaks off the first
run and leaves the second one alone. -/

namespace Replacement

def schemaText : String :=
  "\x7b\"types\":[\x7b\"kind\":\"ENUM\",\"name\":\"Color\",\"enumValues\":[\x7b\"name\":\"RED\"\x7d]\x7d]\x7d"

def files : FileStore where
  workingDirectory := ["home"]
  entries := [(["home"], .directory), (["home", "schema.json"], .file schemaText.toUTF8)]

def replace : Step where
  args := ["generate", "-n", "Models", "-e", "schema.json", "-o", "schema.json", "-l", "cs"]
  now := 0
  circumstances := .fair

def breakOff : Step :=
  { replace with circumstances.fault := some (.filling "// Gen".toUTF8) }

theorem session_sound_and_untouched_in_replacement :
    (breakOff.take files).Failed ∧ (breakOff.take files).after = files ∧
      (replace.take files).Succeeded ∧
      ∃ (m : (replace.take files).Commission) (l : Location),
        files.locate m.settings.output = .ok l ∧
          files.Differs l (.file m.generated.code.toUTF8) (replace.take files).after := by
  have hbreakOff : (breakOff.take files).Failed := .output (by decide +kernel)
  have hreplace : (replace.take files).Succeeded := by
    unfold Turn.Succeeded
    decide +kernel
  obtain ⟨hturns, -⟩ := session_sound_and_untouched files [breakOff, replace]
  have hafter : (breakOff.take files).after = files :=
    (hturns (breakOff.take files) List.mem_cons_self).after_of_failed hbreakOff
  have hsecond := hturns (replace.take files) (by
    rw [session, session, hafter]
    exact List.mem_cons_of_mem _ List.mem_cons_self)
  exact ⟨hbreakOff, hafter, hreplace, hsecond.differs_of_succeeded hreplace⟩

end Replacement

end Run

end SchemaClasses
