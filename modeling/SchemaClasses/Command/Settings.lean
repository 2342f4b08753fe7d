import SchemaClasses.Command.Flags
import SchemaClasses.Model.Java
import SchemaClasses.Text.Blank

/-! The settings of a run, checked. -/

namespace SchemaClasses

/-- Where a schema comes from: a service, or a file that holds its answer. Requests to a service and
their retries are left out; from an endpoint only its settings are made. -/
inductive Source where
  | endpoint (url : String)
  | file (path : String)
deriving DecidableEq, Repr

/-- Web addresses are endpoints, and all else is a path. -/
def Source.ofText (text : String) : Source :=
  let lower := (Text.asciiLower text).toList
  if "http://".toList.isPrefixOf lower || "https://".toList.isPrefixOf lower then .endpoint text
  else .file text

/-- What is wrong with flags. -/
inductive SettingsError where
  | missingEndpoint
  | missingOutput
  | missingNamespace
  | unknownLanguage (output : String)
  | invalidHeader (raw : String)
  | invalidJavaFileName (output : String)
deriving DecidableEq, Repr

def SettingsError.message : SettingsError → String
  | missingEndpoint => "Specify GraphQL endpoint address."
  | missingOutput => "Specify output file."
  | missingNamespace => "Specify namespace."
  | unknownLanguage output =>
    "cannot infer the output language from `" ++ output ++
      "`; use a .cs or .java file or pass --lang"
  | invalidHeader raw => "invalid header `" ++ raw ++ "`, expected `Name: value`"
  | invalidJavaFileName output =>
    "`" ++ output ++ "` cannot hold a Java model: the file name must be a valid Java class " ++
      "name, such as ContentModel.java"

structure Settings where
  source : Source
  output : String
  namespaceName : String
  language : Language
  /-- The class around a Java model, which has the name of its file. -/
  holder : Option String
  headers : List (String × String)
  timeout : Duration
  retries : Nat
  skipUnsupported : Bool
deriving DecidableEq, Repr

namespace Settings

/-- A header, cut at its first colon. Its name has no blanks in it. -/
def headerOf (raw : String) : Except SettingsError (String × String) :=
  match Text.cutFirst? ':' raw.toList with
  | none => .error (.invalidHeader raw)
  | some (before, behind) =>
    let name := Text.trim before
    if name.isEmpty || name.any Text.isBlank then .error (.invalidHeader raw)
    else .ok (String.ofList name, String.ofList (Text.trim behind))

def languageOf (flags : Flags) (output : String) : Except SettingsError Language :=
  match flags.lang <|> Language.ofPath? output with
  | some l => .ok l
  | none => .error (.unknownLanguage output)

def holderOf (language : Language) (output : String) : Except SettingsError (Option String) :=
  match language with
  | .csharp => .ok none
  | .java =>
    match (Path.stem? output).bind Java.holder? with
    | some name => .ok (some name)
    | none => .error (.invalidJavaFileName output)

/-- A value that must be there. -/
def require (value : Option α) (missing : SettingsError) : Except SettingsError α :=
  match value with
  | some a => .ok a
  | none => .error missing

/-- The settings that flags give, or the first thing that is wrong with them. -/
def ofFlags (flags : Flags) : Except SettingsError Settings := do
  let endpoint ← require (flags.endpoint.bind Text.trimmed?) .missingEndpoint
  let output ← require (flags.output.filter (· ≠ "")) .missingOutput
  let namespaceName ← require (flags.namespaceName.bind Text.trimmed?) .missingNamespace
  let language ← languageOf flags output
  let holder ← holderOf language output
  let headers ← flags.headers.mapM headerOf
  return {
    source := .ofText endpoint
    output
    namespaceName
    language
    holder
    headers
    timeout := .ofSeconds flags.timeout
    retries := flags.retries
    skipUnsupported := flags.skipUnsupported }

/-- The options of the model, which is stamped with the time of the run. -/
def options (s : Settings) (now : Int) : Options :=
  let o := Options.ofLanguage s.namespaceName s.language now
  { o with skipUnsupported := s.skipUnsupported, holder := s.holder.getD o.holder }

def client (s : Settings) : Client :=
  ((Client.default.withHeaders s.headers).withTimeout s.timeout).withRetries s.retries

end Settings

end SchemaClasses
