import SchemaClasses.Client
import SchemaClasses.Model.Options

/-! The flags of a command line. Arguments are read from left to right. An option waits for its
value until the next argument, and a value that stands in an argument of its own is not looked at
before the next option is met or the arguments end. -/

namespace SchemaClasses

/-- What a command line asks for. Its arguments are texts here; a program is not started with any
that are not UTF-8. -/
structure Flags where
  namespaceName : Option String
  endpoint : Option String
  output : Option String
  lang : Option Language
  headers : List String
  /-- In seconds. -/
  timeout : Nat
  retries : Nat
  skipUnsupported : Bool
  verbose : Bool
  quiet : Bool
deriving DecidableEq, Repr

def Flags.default : Flags where
  namespaceName := none
  endpoint := none
  output := none
  lang := none
  headers := []
  timeout := Client.defaultTimeout
  retries := 0
  skipUnsupported := false
  verbose := false
  quiet := false

/-- The options that take a value. -/
inductive Setting where
  | namespaceName
  | endpoint
  | output
  | lang
  | header
  | timeout
  | retries
deriving DecidableEq, Repr

inductive Switch where
  | skipUnsupported
  | verbose
  | quiet
  | help
  | version
deriving DecidableEq, Repr

inductive Flag where
  | setting (s : Setting)
  | switch (s : Switch)
deriving DecidableEq, Repr

/-- Why arguments give no flags. -/
inductive UsageError where
  | unknownArgument
  /-- A value is missing, or none of those that an option allows. -/
  | invalidValue
  /-- A value is no number of the range that an option allows. -/
  | invalidNumber
  /-- An option is given twice. -/
  | repeated
  /-- A switch is given a value. -/
  | unwantedValue
  | help
  | version
deriving DecidableEq, Repr

namespace Flag

def ofLong? (name : List Char) : Option Flag :=
  match String.ofList name with
  | "namespace" => some (.setting .namespaceName)
  | "endpoint" => some (.setting .endpoint)
  | "output" => some (.setting .output)
  | "lang" => some (.setting .lang)
  | "header" => some (.setting .header)
  | "timeout" => some (.setting .timeout)
  | "retries" => some (.setting .retries)
  | "skip-unsupported" => some (.switch .skipUnsupported)
  | "verbose" => some (.switch .verbose)
  | "quiet" => some (.switch .quiet)
  | "help" => some (.switch .help)
  | "version" => some (.switch .version)
  | _ => none

def ofShort? : Char → Option Flag
  | 'n' => some (.setting .namespaceName)
  | 'e' => some (.setting .endpoint)
  | 'o' => some (.setting .output)
  | 'l' => some (.setting .lang)
  | 'H' => some (.setting .header)
  | 'v' => some (.switch .verbose)
  | 'q' => some (.switch .quiet)
  | 'h' => some (.switch .help)
  | 'V' => some (.switch .version)
  | _ => none

end Flag

/-- An older spelling of an option as the current one; every other argument as it is. -/
def normalizeArg (arg : String) : String :=
  match Text.asciiLower arg with
  | "-ns" => "--namespace"
  | "-e" => "-e"
  | "-o" => "-o"
  | _ => arg

/-! ### Numbers -/

/-- A sequence of at least one decimal digit. -/
def digits? : List Char → Option Nat
  | [] => none
  | cs =>
    if cs.all fun c => '0' ≤ c && c ≤ '9' then
      some (cs.foldl (fun n c => n * 10 + (c.toNat - '0'.toNat)) 0)
    else none

/-- A number below `bound`, perhaps with a plus sign. -/
def natural? (bound : Nat) (value : String) : Option Nat :=
  let digits := match value.toList with
    | '+' :: cs => cs
    | cs => cs
  (digits? digits).filter (· < bound)

/-- A number below `bound`, perhaps with a sign; behind a minus sign only zero is left. -/
def signedNatural? (bound : Nat) (value : String) : Option Nat :=
  match value.toList with
  | '-' :: cs => (digits? cs).filter (· = 0)
  | _ => natural? bound value

/-! ### Reading arguments -/

/-- What has been read: the flags so far, the options that have been stored, and the last option if
it is not stored yet, with its value once that is there. -/
structure Parsing where
  flags : Flags
  stored : List Flag
  pending : Option (Setting × Option String)
deriving DecidableEq, Repr

namespace Flags

def set (f : Flags) (s : Setting) (value : String) : Except UsageError Flags :=
  match s with
  | .namespaceName => .ok { f with namespaceName := some value }
  | .endpoint => .ok { f with endpoint := some value }
  | .output => if value = "" then .error .invalidValue else .ok { f with output := some value }
  | .lang =>
    match value with
    | "cs" | "csharp" => .ok { f with lang := some .csharp }
    | "java" => .ok { f with lang := some .java }
    | _ => .error .invalidValue
  | .header => .ok { f with headers := f.headers ++ [value] }
  | .timeout =>
    match natural? (Nat.pow 2 64) value with
    | some n => .ok { f with timeout := n }
    | none => .error .invalidNumber
  | .retries =>
    match signedNatural? (Nat.pow 2 32) value with
    | some n => .ok { f with retries := n }
    | none => .error .invalidNumber

def turnOn (f : Flags) : Switch → Except UsageError Flags
  | .skipUnsupported => .ok { f with skipUnsupported := true }
  | .verbose => .ok { f with verbose := true }
  | .quiet => .ok { f with quiet := true }
  | .help => .error .help
  | .version => .error .version

end Flags

namespace Parsing

def start : Parsing := ⟨.default, [], none⟩

/-- Only headers may be given more than once. -/
def claim (p : Parsing) (f : Flag) : Except UsageError Parsing :=
  if f ∈ p.stored ∧ f ≠ .setting .header then .error .repeated
  else .ok { p with stored := f :: p.stored }

def storeSetting (p : Parsing) (s : Setting) (value : Option String) :
    Except UsageError Parsing := do
  match value with
  | none => throw .invalidValue
  | some value =>
    let p ← p.claim (.setting s)
    return { p with flags := ← p.flags.set s value }

def storeSwitch (p : Parsing) (s : Switch) : Except UsageError Parsing := do
  let p ← p.claim (.switch s)
  return { p with flags := ← p.flags.turnOn s }

/-- Stores the option that is pending. -/
def flush (p : Parsing) : Except UsageError Parsing :=
  match p.pending with
  | none => .ok p
  | some (s, value) => storeSetting { p with pending := none } s value

/-- An option with its value in the same argument, or waiting for it. -/
def setting (p : Parsing) (s : Setting) (attached : Option String) :
    Except UsageError Parsing := do
  let p ← p.flush
  match attached with
  | some value => p.storeSetting s (some value)
  | none => return { p with pending := some (s, none) }

def switch (p : Parsing) (s : Switch) : Except UsageError Parsing := do
  let p ← p.flush
  p.storeSwitch s

/-- An argument behind two dashes. -/
def long (p : Parsing) (body : List Char) : Except UsageError Parsing :=
  let (name, attached) := match Text.cutFirst? '=' body with
    | some (name, value) => (name, some (String.ofList value))
    | none => (body, none)
  match Flag.ofLong? name, attached with
  | none, _ => .error .unknownArgument
  | some (.setting s), attached => p.setting s attached
  | some (.switch _), some _ => .error .unwantedValue
  | some (.switch s), none => p.switch s

/-- The letters behind a single dash. The first option among them takes what follows it for its
value, less one equals sign. -/
def letters (p : Parsing) : List Char → Except UsageError Parsing
  | [] => .ok p
  | c :: rest =>
    match Flag.ofShort? c with
    | none => .error .unknownArgument
    | some (.switch s) => do (← p.switch s).letters rest
    | some (.setting s) =>
      match rest with
      | [] => p.setting s none
      | '=' :: value => p.setting s (some (String.ofList value))
      | value => p.setting s (some (String.ofList value))

/-- An argument that is no option: the value of the option that waits for one. -/
def plain (p : Parsing) (arg : String) : Except UsageError Parsing :=
  match p.pending with
  | some (s, none) => .ok { p with pending := some (s, some arg) }
  | _ => .error .unknownArgument

/-- One argument, other than two dashes alone. -/
def argument (p : Parsing) (arg : String) : Except UsageError Parsing :=
  match arg.toList with
  | '-' :: '-' :: body => p.long body
  | '-' :: c :: rest => p.letters (c :: rest)
  | _ => p.plain arg

/-- All arguments. Nothing may follow two dashes. -/
def arguments (p : Parsing) : List String → Except UsageError Parsing
  | [] => p.flush
  | arg :: rest =>
    if arg = "--" then if rest.isEmpty then p.flush else .error .unknownArgument
    else do (← p.argument arg).arguments rest

end Parsing

namespace Flags

/-- The flags of a command line without the program's name. -/
def ofArguments (args : List String) : Except UsageError Flags :=
  (Parsing.start.arguments args).map Parsing.flags

/-- The flags of a command line, the program's name first, in older or current spelling. -/
def ofCommandLine (args : List String) : Except UsageError Flags :=
  ofArguments ((args.map normalizeArg).drop 1)

end Flags

end SchemaClasses
