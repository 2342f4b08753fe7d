import SchemaClasses.Json.Basic
import SchemaClasses.Number.Shortest
import SchemaClasses.Text.Escaped

/-! Records in JSON, and what can be wrong with a value. A record is an object with a member for
each of its slots, or an array of the slots' values in their order. Members are decoded in ascending
order of their names and items in their order; the first failure counts, and before any absence. -/

namespace SchemaClasses

/-- What a value turned out to be, as far as an error reports it. -/
inductive Found where
  | null
  | boolean (value : Bool)
  | number (value : JsonNumber)
  | text (value : String)
  | sequence
  | map
deriving DecidableEq, Repr

/-- What should have stood in its place. -/
inductive Wanted where
  | text
  | boolean
  | sequence
  | record (name : String)
  /-- The name of a kind, or an object with that name. -/
  | kind
  /-- The null behind the name of a kind. -/
  | unit
deriving DecidableEq, Repr

inductive DecodeError where
  | wrongType (found : Found) (wanted : Wanted)
  /-- A kind written as an object with no member or with several. -/
  | notSingle
  /-- An array ends before the required slot at position `items`. -/
  | tooShort (items : Nat) (record : String) (slots : Nat)
  | tooLong (items : Nat)
  | missing (name : String)
deriving DecidableEq, Repr

namespace Found

def describe : Found → String
  | null => "null"
  | boolean true => "boolean `true`"
  | boolean false => "boolean `false`"
  | number (.integer n) => "integer `" ++ toString n ++ "`"
  | number (.double negative magnitude) =>
    "floating point `" ++ String.ofList (magnitude.text negative) ++ "`"
  | text s => "string " ++ Text.quoted s
  | sequence => "sequence"
  | map => "map"

end Found

def Json.found : Json → Found
  | .null => .null
  | .bool b => .boolean b
  | .number n => .number n
  | .string s => .text s
  | .array _ => .sequence
  | .object _ => .map

def Wanted.describe : Wanted → String
  | text => "a string"
  | boolean => "a boolean"
  | sequence => "a sequence"
  | record name => "struct " ++ name
  | kind => "string or map"
  | unit => "unit"

def DecodeError.message : DecodeError → String
  | wrongType found wanted =>
    "invalid type: " ++ found.describe ++ ", expected " ++ wanted.describe
  | notSingle => "invalid value: map, expected map with a single key"
  | tooShort items record slots =>
    "invalid length " ++ toString items ++ ", expected struct " ++ record ++ " with " ++
      toString slots ++ (if slots = 1 then " element" else " elements")
  | tooLong items => "invalid length " ++ toString items ++ ", expected fewer elements in array"
  | missing name => "missing field `" ++ name ++ "`"

/-! ### Single values -/

namespace Decode

def fail (v : Json) (wanted : Wanted) : Except DecodeError α :=
  .error (.wrongType v.found wanted)

def text : Json → Except DecodeError String
  | .string s => .ok s
  | v => fail v .text

def flag : Json → Except DecodeError Bool
  | .bool b => .ok b
  | v => fail v .boolean

/-- An array, item by item in its order. -/
def list (item : Json → Except DecodeError α) : Json → Except DecodeError (List α)
  | .array items => items.mapM item
  | v => fail v .sequence

/-- Null stands for nothing. -/
def nullable (value : Json → Except DecodeError α) : Json → Except DecodeError (Option α)
  | .null => .ok none
  | v => (value v).map some

end Decode

/-! ### Records -/

/-- The name of a record and those of its slots, in their order. -/
structure RecordShape where
  name : String
  slots : List String

/-- Puts a name into an ascending list. -/
def insertName (name : String) : List String → List String
  | [] => [name]
  | n :: rest => if n < name then n :: insertName name rest else name :: n :: rest

/-- The slots in ascending order of their names. -/
def RecordShape.ascending (shape : RecordShape) : List String :=
  shape.slots.foldr insertName []

/-- A value seen as a record. -/
structure Record where
  /-- The values that are there, in the order in which they are decoded. -/
  present : List (String × Json)
  /-- The error for a required slot that is not there. -/
  absent : String → DecodeError
  /-- The error for values behind the last slot. -/
  surplus : Option DecodeError

namespace Record

def ofObject (shape : RecordShape) (members : List (String × Json)) : Record where
  present := shape.ascending.filterMap fun n => (Json.lastMember? n members).map (n, ·)
  absent := .missing
  surplus := none

def ofArray (shape : RecordShape) (items : List Json) : Record where
  present := shape.slots.zip items
  absent n := .tooShort (shape.slots.idxOf n) shape.name shape.slots.length
  surplus := if shape.slots.length < items.length then some (.tooLong items.length) else none

def ofJson (shape : RecordShape) : Json → Except DecodeError Record
  | .object members => .ok (ofObject shape members)
  | .array items => .ok (ofArray shape items)
  | v => Decode.fail v (.record shape.name)

def value? (r : Record) (name : String) : Option Json :=
  r.present.lookup name

end Record

/-- What decoding makes of a slot: nothing if it has no value. -/
abbrev Slot (α : Type) := Option (Except DecodeError α)

namespace Slot

def failure? : Slot α → Option DecodeError
  | some (.error e) => some e
  | _ => none

/-- The value of a slot that may be left out. -/
def getD (slot : Slot α) (default : α) : Except DecodeError α :=
  match slot with
  | none => .ok default
  | some result => result

end Slot

namespace Record

def slot (r : Record) (name : String) (decode : Json → Except DecodeError α) : Slot α :=
  (r.value? name).map decode

/-- The value of a slot that must be there. -/
def require (r : Record) (name : String) (slot : Slot α) : Except DecodeError α :=
  match slot with
  | none => .error (r.absent name)
  | some result => result

/-- Refuses the record if a value that is there fails, with the failure that is met first. -/
def check (r : Record) (failures : List (String × Option DecodeError)) :
    Except DecodeError Unit :=
  match r.present.findSome? fun (name, _) => (failures.lookup name).join with
  | some e => .error e
  | none => .ok ()

/-- Refuses values behind the last slot. -/
def finish (r : Record) : Except DecodeError Unit :=
  match r.surplus with
  | some e => .error e
  | none => .ok ()

theorem sizeOf_of_value? {shape : RecordShape} {v w : Json} {r : Record} {name : String}
    (hr : ofJson shape v = .ok r) (hw : r.value? name = some w) : sizeOf w < sizeOf v := by
  have hmem : (name, w) ∈ r.present := by
    obtain ⟨l₁, l₂, h, -⟩ := List.lookup_eq_some_iff.1 hw
    simp [h]
  cases v with
  | object members =>
    simp only [ofJson, Except.ok.injEq] at hr
    subst hr
    simp only [ofObject, List.mem_filterMap, Option.map_eq_some_iff, Prod.mk.injEq] at hmem
    obtain ⟨n, -, u, hu, rfl, rfl⟩ := hmem
    have hmember := List.sizeOf_lt_of_mem (Json.mem_of_lastMember? hu)
    rw [Prod.mk.sizeOf_spec] at hmember
    rw [Json.object.sizeOf_spec]
    omega
  | array items =>
    simp only [ofJson, Except.ok.injEq] at hr
    subst hr
    have hitem := List.sizeOf_lt_of_mem (List.of_mem_zip hmem).2
    rw [Json.array.sizeOf_spec]
    omega
  | _ => simp [ofJson, Decode.fail] at hr

end Record

end SchemaClasses
