import SchemaClasses.Json.Basic
import SchemaClasses.Number.Shortest

/-! Writing a JSON value as text, without any white space. -/

namespace SchemaClasses.Json

/-- A control character by number, with a short escape where there is one. -/
def writeChar (c : Char) : List Char :=
  match c with
  | '"' => ['\\', '"']
  | '\\' => ['\\', '\\']
  | '\x08' => ['\\', 'b']
  | '\x0C' => ['\\', 'f']
  | '\n' => ['\\', 'n']
  | '\r' => ['\\', 'r']
  | '\t' => ['\\', 't']
  | _ =>
    if c.toNat < 0x20 then
      ['\\', 'u', '0', '0', Nat.digitChar (c.toNat / 16), Nat.digitChar (c.toNat % 16)]
    else [c]

def writeString (s : String) : List Char :=
  '"' :: s.toList.flatMap writeChar ++ ['"']

def writeNumber : JsonNumber → List Char
  | .integer n => (toString n).toList
  | .double negative magnitude => magnitude.text negative

mutual

def write : Json → List Char
  | .null => "null".toList
  | .bool true => "true".toList
  | .bool false => "false".toList
  | .number n => writeNumber n
  | .string s => writeString s
  | .array [] => ['[', ']']
  | .array (v :: vs) => '[' :: write v ++ writeItems vs ++ [']']
  | .object [] => ['\x7b', '\x7d']
  | .object ((name, v) :: ms) =>
    '\x7b' :: writeString name ++ ':' :: write v ++ writeMembers ms ++ ['\x7d']

/-- Every item behind a comma. -/
def writeItems : List Json → List Char
  | [] => []
  | v :: vs => ',' :: write v ++ writeItems vs

def writeMembers : List (String × Json) → List Char
  | [] => []
  | (name, v) :: ms => ',' :: writeString name ++ ':' :: write v ++ writeMembers ms

end

/-- The text of a value. -/
def render (v : Json) : String :=
  String.ofList (write v)

end SchemaClasses.Json
