import SchemaClasses.Proofs.JsonTrees
import SchemaClasses.Proofs.Rearrangement

/-! JSON texts whose members stand in another order. The values that they write are rearranged in
the same way, unless a number or string of them is refused; those that are refused are the same in
both texts, whatever their order. -/

namespace SchemaClasses.Json

namespace Tree

/-- The same text but for white space and the order of the members in any of its objects, at any
depth, in which those of one name keep theirs. -/
inductive Rearranged : Tree → Tree → Prop where
  | null : Rearranged .null .null
  | bool (b : Bool) : Rearranged (.bool b) (.bool b)
  | number (n : NumberText) : Rearranged (.number n) (.number n)
  | string (s : StringText) : Rearranged (.string s) (.string s)
  | array {items others : List Tree} (hitems : List.Forall₂ Rearranged items others) :
      Rearranged (.array items) (.array others)
  | object {members changed others : List (StringText × Tree)}
      (hvalues : Revalued Rearranged members changed)
      (horder : Reordered StringText.name? changed others) :
      Rearranged (.object members) (.object others)

theorem Rearranged.refl (v : Tree) : v.Rearranged v := by
  match v with
  | .null => exact .null
  | .bool b => exact .bool b
  | .number n => exact .number n
  | .string s => exact .string s
  | .array items => exact .array (List.forall₂_same.mpr fun v hv => Rearranged.refl v)
  | .object members => exact .object (revalued_self fun m hm => Rearranged.refl m.2) (.refl members)
termination_by sizeOf v
decreasing_by
  · have hsize := List.sizeOf_lt_of_mem hv
    rw [array.sizeOf_spec]
    omega
  · have hsize := List.sizeOf_lt_of_mem hm
    have hpair : sizeOf m = 1 + sizeOf m.1 + sizeOf m.2 := rfl
    rw [object.sizeOf_spec]
    omega

/-! ### Depth -/

end Tree

end SchemaClasses.Json
