import SchemaClasses.Model.Definition
import SchemaClasses.Model.Options
import SchemaClasses.Text.Blank

/-! How a language writes definitions. A dialect gives the texts of the single lines; what lines
there are, and how deep they stand, is the same in all of them. -/

namespace SchemaClasses

/-! ### Lines -/

/-- A text at a depth, indented when the file is written. -/
structure Line where
  depth : Nat
  text : String
deriving DecidableEq, Repr

namespace Line

def blank : Line := ⟨0, ""⟩

def render (indent : Indent) (l : Line) : String :=
  String.join (List.replicate l.depth indent.unit) ++ l.text ++ "\n"

end Line

/-- Blocks of lines with a blank line between each two. -/
def spaced : List (List Line) → List Line
  | [] => []
  | [block] => block
  | block :: rest => block ++ Line.blank :: spaced rest

def renderLines (indent : Indent) (lines : List Line) : String :=
  String.join (lines.map (Line.render indent))

/-! ### Dialects -/

structure Dialect where
  /-- The type of a built-in scalar, in its object form if `boxed`. -/
  scalar? : (name : String) → (boxed : Bool) → Option String
  /-- The lines up to the brace that encloses all definitions. -/
  header : Options → List String
  /-- The comment for the lines of a description. -/
  comment : List (List Char) → List String
  /-- The line above an enumeration, by which its values are written by name. -/
  enumMark : String
  declaration : Role → (name : String) → (interfaces : List String) → String
  /-- A member that a class holds. -/
  storage : (name type : String) → List String
  /-- A member that an interface asks for. -/
  signature : (name type : String) → List String
  constant : (name : String) → String

namespace Dialect

def listOf : Nat → String → String
  | 0, type => type
  | n + 1, type => listOf n ("List<" ++ type ++ ">")

/-- The type of a member, as an expression of the language. -/
def typeText (d : Dialect) (s : TypeShape) (alwaysBoxed : Bool) : String :=
  let scalar? := if s.kind = .scalar then d.scalar? s.name (alwaysBoxed || s.isBoxed) else none
  listOf s.lists (scalar?.getD s.name)

/-- The comment for a text, line by line and without blanks at the ends of lines. -/
def commentLines (d : Dialect) (depth : Nat) (text : Option String) : List Line :=
  match text with
  | none => []
  | some text => (d.comment ((Text.lines text.toList).map Text.trimEnd)).map (⟨depth, ·⟩)

def memberLines (d : Dialect) (write : (name type : String) → List String) (m : Member) :
    List Line :=
  d.commentLines 2 m.comment ++ (write m.name (d.typeText m.type m.alwaysBoxed)).map (⟨2, ·⟩)

/-- Every constant but the last with a comma behind it. -/
def constantBlocks (d : Dialect) : List Constant → List (List Line)
  | [] => []
  | [c] => [d.commentLines 2 c.comment ++ [⟨2, d.constant c.name⟩]]
  | c :: rest =>
    (d.commentLines 2 c.comment ++ [⟨2, d.constant c.name ++ ","⟩]) :: constantBlocks d rest

def bodyBlocks (d : Dialect) : Body → List (List Line)
  | .dataClass _ members => members.map (d.memberLines d.storage)
  | .interface members => members.map (d.memberLines d.signature)
  | .enumeration constants => d.constantBlocks constants

def definitionLines (d : Dialect) (definition : Definition) : List Line :=
  let body := definition.body
  let mark : List Line := if body.role = .enumeration then [⟨1, d.enumMark⟩] else []
  d.commentLines 1 definition.comment ++ mark ++
    ⟨1, d.declaration body.role definition.name body.interfaces⟩ :: ⟨1, "\x7b"⟩ ::
    spaced (d.bodyBlocks body) ++ [⟨1, "\x7d"⟩, Line.blank]

/-- The lines of a file with the given definitions. -/
def fileLines (d : Dialect) (options : Options) (definitions : List Definition) : List Line :=
  (d.header options).map (⟨0, ·⟩) ++ definitions.flatMap d.definitionLines ++ [⟨0, "\x7d"⟩]

end Dialect

/-- The first line of every file. -/
def stampLine (options : Options) : String :=
  "// This file was generated by a tool on " ++ options.timestamp

end SchemaClasses
