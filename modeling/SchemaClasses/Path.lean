import SchemaClasses.Text.Basic

/-! Names in Unix paths. Slashes separate the parts of a path, and an empty part or a single dot
stands for nothing, so neither a final slash nor a final `/.` hides the name before it. -/

namespace SchemaClasses.Path

/-- What stands between the slashes. -/
def parts (path : String) : List (List Char) :=
  path.toList.splitOn '/'

/-- Whether a path starts from the root. -/
def isAbsolute (path : String) : Bool :=
  path.toList.head? = some '/'

/-- Whether a part stands for nothing: an empty one, or a single dot. -/
def isIdle (part : List Char) : Bool :=
  part.isEmpty || part = ['.']

/-- The last part, unless it leads to the parent directory or there is none. -/
def fileName? (path : String) : Option (List Char) :=
  match (parts path).reverse.find? (!isIdle ·) with
  | some ['.', '.'] | none => none
  | some name => some name

/-- The path without its last part, and without what stands for nothing before that part. -/
def directory (path : String) : String :=
  let front := ((parts path).reverse.dropWhile isIdle).drop 1
  String.ofList (['/'].intercalate (front.dropWhile isIdle).reverse)

/-- The path of another name in the directory of a path. -/
def beside (path name : String) : String :=
  let front := directory path
  (if front = "" ∧ !isAbsolute path then "." else front) ++ "/" ++ name

/-- A file name cut at its last dot. A dot in front of the whole name does not count. -/
def cutName (name : List Char) : List Char × Option (List Char) :=
  match Text.cutLast? '.' name with
  | none | some ([], _) => (name, none)
  | some (stem, extension) => (stem, some extension)

def stem? (path : String) : Option String :=
  (fileName? path).map fun name => String.ofList (cutName name).1

def extension? (path : String) : Option String :=
  ((fileName? path).bind fun name => (cutName name).2).map String.ofList

end SchemaClasses.Path
