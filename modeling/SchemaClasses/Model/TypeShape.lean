import SchemaClasses.Schema.Basic

/-! The shape of a type reference: the named type at the bottom of its wrappers, and the lists
around it. -/

namespace SchemaClasses

/-- Why a reference leads to no named type. -/
inductive ShapeError where
  | tooDeep
  | noInner (wrapper : TypeKind)
  | noName (kind : TypeKind)
deriving DecidableEq, Repr

/-- How many references may lie on the way to the named type, itself included. -/
def wrapperLimit : Nat := 32

def ShapeError.message : ShapeError → String
  | tooDeep => "type reference nests deeper than " ++ toString wrapperLimit ++ " levels"
  | noInner wrapper => wrapper.spelling ++ " wrapper has no `ofType`"
  | noName kind => kind.spelling ++ " reference has no name"

structure TypeShape where
  /-- The number of lists around the named type. -/
  lists : Nat
  kind : TypeKind
  name : String
  /-- Whether the named type itself, inside all lists, excludes null. -/
  nonNull : Bool
deriving DecidableEq, Repr

namespace TypeShape

/-- Peels a reference that already lies inside `lists` lists, and directly inside a wrapper that
excludes null if `nonNull`. -/
def peel (budget : Nat) (lists : Nat) (nonNull : Bool) (t : TypeRef) :
    Except ShapeError TypeShape :=
  match budget with
  | 0 => .error .tooDeep
  | budget + 1 =>
    match t.kind with
    | .nonNull =>
      match t.ofType with
      | none => .error (.noInner .nonNull)
      | some inner => peel budget lists true inner
    | .list =>
      match t.ofType with
      | none => .error (.noInner .list)
      | some inner => peel budget (lists + 1) false inner
    | kind =>
      match t.name with
      | none => .error (.noName kind)
      | some name => if name = "" then .error (.noName kind) else .ok ⟨lists, kind, name, nonNull⟩

def ofRef (t : TypeRef) : Except ShapeError TypeShape :=
  peel wrapperLimit 0 false t

/-- Whether a value is held in its object form: where it may be null, and inside a list. -/
def isBoxed (s : TypeShape) : Bool :=
  0 < s.lists || !s.nonNull

end TypeShape

end SchemaClasses
