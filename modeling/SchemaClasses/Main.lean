import Std.Time.DateTime.Timestamp
import SchemaClasses.Command.Run

/-! The command line. Files, the clock and the standard streams are touched here and nowhere
else; what is read and written is decided by the modules below. -/

namespace SchemaClasses.Main

def usage : String :=
  "Generate typed model classes from a GraphQL schema\n\n" ++
  "Options:\n" ++
  "  -n, --namespace <NAMESPACE>  Namespace (C#) or package (Java) of the generated model\n" ++
  "  -e, --endpoint <ENDPOINT>    GraphQL endpoint URL, or a saved introspection JSON file\n" ++
  "  -o, --output <OUTPUT>        Output file; a .cs or .java extension selects the language\n" ++
  "  -l, --lang <LANG>            Output language, overriding the output extension\n" ++
  "  -H, --header <HEADER>        Extra request header, `Name: value` (repeatable)\n" ++
  "      --timeout <TIMEOUT>      Request timeout in seconds\n" ++
  "      --retries <RETRIES>      Retries for failed requests\n" ++
  "      --skip-unsupported       Skip union and other unsupported types instead of failing\n" ++
  "  -v, --verbose\n" ++
  "  -q, --quiet\n" ++
  "  -h, --help                   Print help\n" ++
  "  -V, --version                Print version\n"

def usageError : UsageError → String
  | .unknownArgument => "error: unexpected argument\n"
  | .invalidValue => "error: an option has no value, or none that it allows\n"
  | .invalidNumber => "error: the value of an option is not a number in its range\n"
  | .repeated => "error: an option cannot be used multiple times\n"
  | .unwantedValue => "error: an option takes no value\n"
  | .help => usage
  | .version => "schema-classes 0.1.0\n"

def readError : IO.Error → ReadError
  | .noFileOrDirectory .. => .notFound
  | .inappropriateType .. => .isDirectory
  | e => .system (toString e)

def readFile (path : String) : IO (Except ReadError String) := do
  match ← (IO.FS.readBinFile path).toBaseIO with
  | .error e => return .error (readError e)
  | .ok bytes =>
    match String.fromUTF8? bytes with
    | none => return .error .notUtf8
    | some text => return .ok text

def loadSchema : Source → IO (Except SourceError Schema)
  | .endpoint url => return .error (.unreachable url)
  | .file path => return Run.schemaOfText (← readFile path)

/-- Makes an empty file at the first of the paths at which there is nothing. -/
def makeDraft : List String → IO String
  | [] => throw (IO.userError "no name is free for a draft")
  | path :: paths => do
    match ← (IO.FS.Handle.mk path .writeNew).toBaseIO with
    | .ok _ => return path
    | .error (.alreadyExists ..) => makeDraft paths
    | .error e => throw e

/-- Writes beside the file and then puts the result in its place, so that a failure leaves what was
there. -/
def writeFile (path text : String) : IO Unit := do
  let draft ← makeDraft (FileStore.Circumstances.fair.draftNames.map (Path.beside path))
  try
    IO.FS.writeFile draft text
    IO.FS.rename draft path
  catch e =>
    try IO.FS.removeFile draft catch _ => pure ()
    throw e

def run (flags : Flags) : IO UInt32 := do
  match Settings.ofFlags flags with
  | .error e =>
    IO.eprint ("Error: " ++ e.message ++ "\n")
    return 1
  | .ok settings =>
    let schema ← loadSchema settings.source
    let now ← Std.Time.Timestamp.now
    match Run.plan flags settings now.toSecondsSinceUnixEpoch.val schema with
    | .fail stderr =>
      IO.eprint stderr
      return 1
    | .write code stderr stdout =>
      IO.eprint stderr
      match ← (writeFile settings.output code).toBaseIO with
      | .error e =>
        IO.eprint ("Error: " ++ toString e ++ "\n")
        return 1
      | .ok () =>
        IO.print stdout
        return 0

end SchemaClasses.Main

def main (args : List String) : IO UInt32 := do
  match SchemaClasses.Flags.ofCommandLine ("" :: args) with
  | .ok flags => SchemaClasses.Main.run flags
  | .error .help =>
    IO.print (SchemaClasses.Main.usageError .help)
    return 0
  | .error .version =>
    IO.print (SchemaClasses.Main.usageError .version)
    return 0
  | .error e =>
    IO.eprint (SchemaClasses.Main.usageError e)
    return 2
