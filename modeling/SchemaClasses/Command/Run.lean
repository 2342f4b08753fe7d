import SchemaClasses.Command.Settings
import SchemaClasses.FileStore
import SchemaClasses.Model.Generate
import SchemaClasses.Schema.Response

/-! One run of the program: read a schema, make its model, write the model to a file. The file is
written last, and only if the model is complete. -/

namespace SchemaClasses

/-- Why a run has no schema. -/
inductive SourceError where
  | unreadable (error : ReadError)
  | response (error : ResponseError)
  /-- Services are not reached from here. -/
  | unreachable (url : String)
deriving DecidableEq, Repr

def SourceError.message : SourceError → String
  | unreadable error => "failed to read schema file: " ++ error.message
  | response error => error.message
  | unreachable url => "network error: no connection to " ++ url

/-- How a run ended. -/
inductive Ending where
  | exit (code : Nat)
  | rejected (error : SettingsError)
  /-- The output file could not be written. -/
  | unwritable
deriving DecidableEq, Repr

structure Outcome where
  ending : Ending
  stdout : String
  stderr : String
deriving DecidableEq, Repr

/-- What a run does once the schema has been read. -/
inductive Plan where
  | fail (stderr : String)
  | write (code : String) (stderr stdout : String)
deriving DecidableEq, Repr

namespace Run

/-- A headline and the error below it. -/
def failure (headline message : String) : String :=
  "Error: " ++ headline ++ "\n  --> " ++ message ++ "\n"

/-- The diagnostics as they are printed: warnings, then on request the information. -/
def diagnostics (flags : Flags) (report : Report) : String :=
  if flags.quiet then ""
  else
    let shown := report.warnings ++ if flags.verbose then report.infos else []
    String.join (shown.map fun d => d.display ++ "\n")

def summary (flags : Flags) (output : String) (emitted : Nat) : String :=
  if flags.quiet then ""
  else "Generated " ++ output ++ " (" ++ toString emitted ++ " types)\n"

def plan (flags : Flags) (settings : Settings) (now : Int) (schema : Except SourceError Schema) :
    Plan :=
  match schema with
  | .error e => .fail (failure "Could not read the schema" e.message)
  | .ok schema =>
    match generate schema (settings.options now) with
    | .error e => .fail (failure "An error occurred when generating the model" e.message)
    | .ok generated =>
      .write generated.code (diagnostics flags generated.report)
        (summary flags settings.output generated.emitted)

/-- The schema in a text that was read, or not. -/
def schemaOfText (text : Except ReadError String) : Except SourceError Schema :=
  match text with
  | .error e => .error (.unreadable e)
  | .ok text => (Schema.ofText text).mapError .response

def loadSchema (store : FileStore) : Source → Except SourceError Schema
  | .endpoint url => .error (.unreachable url)
  | .file path => schemaOfText (store.read path)

/-- A run on a store of files in some circumstances, and the store after it. What it prints is what
the run itself prints. Events for a log, such as those for skipped types, are left out, as is what a
subscriber to them may print; so are requests to services, which are all unreachable here. -/
def runIn (c : FileStore.Circumstances) (store : FileStore) (now : Int) (flags : Flags) :
    Outcome × FileStore :=
  match Settings.ofFlags flags with
  | .error e => (⟨.rejected e, "", ""⟩, store)
  | .ok settings =>
    match plan flags settings now (loadSchema store settings.source) with
    | .fail stderr => (⟨.exit 1, "", stderr⟩, store)
    | .write code stderr stdout =>
      match store.write c settings.output code with
      | (false, after) => (⟨.unwritable, "", stderr⟩, after)
      | (true, after) => (⟨.exit 0, stdout, stderr⟩, after)

/-- A run for a command line, the program's name first. -/
def commandIn (c : FileStore.Circumstances) (store : FileStore) (now : Int) (args : List String) :
    Except UsageError (Outcome × FileStore) :=
  (Flags.ofCommandLine args).map (runIn c store now)

/-- A run that the system does not disturb. -/
def command (store : FileStore) (now : Int) (args : List String) :
    Except UsageError (Outcome × FileStore) :=
  commandIn .fair store now args

end Run

end SchemaClasses
