import SchemaClasses.Number.Binary64

/-! JSON values. An object keeps its members as they were written; looking a name up finds the last
member that bears it, so earlier ones of that name have no effect. -/

namespace SchemaClasses

/-- A number is an integer where it is written without a fraction or an exponent and fits a signed
or unsigned 64-bit word, and a double everywhere else. -/
inductive JsonNumber where
  | integer (value : Int)
  | double (negative : Bool) (magnitude : Binary64)
deriving Repr, DecidableEq

inductive Json where
  | null
  | bool (value : Bool)
  | number (value : JsonNumber)
  | string (value : String)
  | array (items : List Json)
  | object (members : List (String × Json))
deriving Repr, BEq, Inhabited

namespace Json

/-- The last member of a name. -/
def lastMember? (name : String) : List (String × Json) → Option Json
  | [] => none
  | (n, v) :: rest =>
    match lastMember? name rest with
    | some w => some w
    | none => if n = name then some v else none

/-- The member of an object; nothing else has members. -/
def member? (name : String) : Json → Option Json
  | object members => lastMember? name members
  | _ => none

def text? : Json → Option String
  | string s => some s
  | _ => none

theorem lastMember?_cons_self (name : String) (v : Json) (members : List (String × Json)) :
    ∃ w, lastMember? name ((name, v) :: members) = some w := by
  rw [lastMember?]
  cases lastMember? name members with
  | some w => exact ⟨w, rfl⟩
  | none => exact ⟨v, if_pos rfl⟩

/-- A value found by looking up a name is one of the members. -/
theorem mem_of_lastMember? {name : String} {members : List (String × Json)} {v : Json}
    (h : lastMember? name members = some v) : (name, v) ∈ members := by
  induction members with
  | nil => simp [lastMember?] at h
  | cons m rest ih =>
    obtain ⟨n, w⟩ := m
    rw [lastMember?] at h
    cases hr : lastMember? name rest with
    | some u =>
      rw [hr] at h
      exact List.mem_cons_of_mem _ (ih (hr.trans h))
    | none =>
      rw [hr] at h
      by_cases hn : n = name
      · simp only [hn, if_true, Option.some.injEq] at h
        rw [hn, h]
        exact List.mem_cons_self
      · simp [hn] at h

end Json

end SchemaClasses
