import SchemaClasses.Entries
import SchemaClasses.Path

/-! Files and directories. A path is followed part by part from the working directory or, if it
begins with a slash, from the root; every part but the last must lead to a directory. -/

namespace SchemaClasses

/-- The names on the way from the root. -/
abbrev Location := List String

inductive Node where
  | file (content : ByteArray)
  | directory

/-- Files are compared byte by byte. -/
instance : DecidableEq Node
  | .file a, .file b => decidable_of_iff (a.data = b.data) (by cases a; cases b; simp)
  | .directory, .directory => isTrue rfl
  | .file _, .directory | .directory, .file _ => isFalse nofun

/-- What is at each location. The root is a directory. Links, permissions and times of change are
left out, and so are paths that are not UTF-8: a path is the text that a flag gives. -/
structure FileStore where
  workingDirectory : Location
  entries : List (Location × Node)
deriving DecidableEq

/-- Why a file cannot be read. -/
inductive ReadError where
  | notFound
  | notDirectory
  | isDirectory
  | nulInName
  | nameTooLong
  | notUtf8
  /-- Any other failure, in the words of the system. -/
  | system (text : String)
deriving DecidableEq, Repr

def ReadError.message : ReadError → String
  | notFound => "No such file or directory (os error 2)"
  | notDirectory => "Not a directory (os error 20)"
  | isDirectory => "Is a directory (os error 21)"
  | nulInName => "file name contained an unexpected NUL byte"
  | nameTooLong => "File name too long (os error 36)"
  | notUtf8 => "stream did not contain valid UTF-8"
  | system text => text

namespace FileStore

def node? (s : FileStore) (l : Location) : Option Node :=
  if l = [] then some .directory else Entries.get? l s.entries

def put (s : FileStore) (l : Location) (n : Node) : FileStore :=
  { s with entries := Entries.set l n s.entries }

/-- The store with nothing at a location. -/
def remove (s : FileStore) (l : Location) : FileStore :=
  { s with entries := Entries.erase l s.entries }

/-- Where a part of a path leads from a directory. -/
def enter (l : Location) (part : String) : Except ReadError Location :=
  if part = "" ∨ part = "." then .ok l
  else if part = ".." then .ok l.dropLast
  else if 255 < part.utf8ByteSize then .error .nameTooLong
  else .ok (l ++ [part])

/-- Where one more part of a path leads, from a location where there must be a directory. -/
def follow (s : FileStore) (l : Location) (part : String) : Except ReadError Location :=
  match s.node? l with
  | none => .error .notFound
  | some (.file _) => .error .notDirectory
  | some .directory => enter l part

def start (s : FileStore) (path : String) : Location :=
  if Path.isAbsolute path then [] else s.workingDirectory

def parts (path : String) : List String :=
  (Path.parts path).map String.ofList

/-- How many bytes a path may have. -/
def pathLimit : Nat := 4095

/-- The location that a path leads to, whether or not there is anything. -/
def locate (s : FileStore) (path : String) : Except ReadError Location :=
  if '\x00' ∈ path.toList then .error .nulInName
  else if pathLimit < path.utf8ByteSize then .error .nameTooLong
  else (parts path).foldlM s.follow (s.start path)

/-- The text of a file. -/
def read (s : FileStore) (path : String) : Except ReadError String := do
  let l ← s.locate path
  match s.node? l with
  | none => .error .notFound
  | some .directory => .error .isDirectory
  | some (.file content) =>
    match String.fromUTF8? content with
    | none => .error .notUtf8
    | some text => .ok text

/-- The path from the root to where a path leads from the working directory. -/
def absolute (s : FileStore) (path : String) : String :=
  if Path.isAbsolute path then path
  else String.join (s.workingDirectory.map ("/" ++ ·)) ++ "/" ++ path

/-- Whether a path leads to something. -/
def isTaken (s : FileStore) (path : String) : Bool :=
  match s.locate path with
  | .error _ => false
  | .ok l => (s.node? l).isSome

/-- The location of a draft for a file: beside it, under the first of the names that is not
taken. -/
def draft? (s : FileStore) (path : String) (names : List String) : Option Location := do
  let beside := names.map fun name => s.absolute (Path.beside path name)
  let draft ← beside.find? fun draft => !s.isTaken draft
  (s.locate draft).toOption

/-- The location that a file can be moved to: a name in a directory, where no directory is. -/
def target? (s : FileStore) (path : String) : Option Location :=
  match s.locate path, (parts path).getLast? with
  | .ok l, some name =>
    if name = "" ∨ name = "." ∨ name = ".." ∨ s.node? l = some .directory then none else some l
  | _, _ => none

/-- The store with the node of a location moved to where a path leads, if a file can be there. -/
def rename? (s : FileStore) (l : Location) (path : String) : Option FileStore :=
  match s.target? path, s.node? l with
  | some target, some n => some ((s.remove l).put target n)
  | _, _ => none

/-- Where the system can fail while a text is written to a file. -/
inductive Fault where
  /-- The draft is given up with these bytes in it. -/
  | filling (written : ByteArray)
  | moving

/-- What the system adds to a run: the names that it proposes for a draft, one after the other and
none if it makes no draft, and a fault if there is one. -/
structure Circumstances where
  draftNames : List String
  fault : Option Fault

def Circumstances.fair : Circumstances where
  draftNames := (List.range 100).map fun n => ".tmp" ++ toString (100000 + n)
  fault := none

/-- Whether a text has got into its file, and the store then. The text is first written to a draft
beside the file, and the complete draft takes the place of the file. A draft that cannot do so is
removed. -/
def write (s : FileStore) (c : Circumstances) (path text : String) : Bool × FileStore :=
  match s.draft? path c.draftNames with
  | none => (false, s)
  | some draft =>
    let filled := s.put draft (.file text.toUTF8)
    match c.fault with
    | some (.filling written) => (false, (s.put draft (.file written)).remove draft)
    | some .moving => (false, filled.remove draft)
    | none =>
      match filled.rename? draft path with
      | none => (false, filled.remove draft)
      | some after => (true, after)

/-- The store with a directory at a location, unless something is there. -/
def ensureDirectory (s : FileStore) (l : Location) : FileStore :=
  if (s.node? l).isNone then s.put l .directory else s

/-- The store with a node at a location and directories on the way there. -/
def place (s : FileStore) (l : Location) (n : Node) : FileStore :=
  (((List.range l.length).map l.take).foldl ensureDirectory s).put l n

end FileStore

end SchemaClasses
