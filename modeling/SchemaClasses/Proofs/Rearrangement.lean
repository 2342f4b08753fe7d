import Mathlib.Data.List.Forall2
import SchemaClasses.Proofs.JsonNesting
import SchemaClasses.Proofs.RecordSlots

/-! JSON values whose members stand in another order. Members of one name keep theirs, since the
last of them counts. Whatever is looked up in such a value is the same up to another order again,
and so is a record as decoding sees it: the values come in the order of the slots, not in their
own. -/

namespace SchemaClasses

namespace Json

/-- The same members in another order, in which those of one name keep theirs. -/
structure Reordered {α β : Type} (name? : α → Option String) (members other : List (α × β)) :
    Prop where
  perm : members.Perm other
  sameName (name : String) :
    members.filter (name? ·.1 = some name) = other.filter (name? ·.1 = some name)

/-- Members of the same names in the same order, with related values. -/
inductive Revalued {α β : Type} (R : β → β → Prop) : List (α × β) → List (α × β) → Prop where
  | nil : Revalued R [] []
  | cons {name : α} {v w : β} {members changed : List (α × β)} (hvalue : R v w)
      (hmembers : Revalued R members changed) :
      Revalued R ((name, v) :: members) ((name, w) :: changed)

/-- The same value but for the order of the members in any of its objects, at any depth. -/
inductive Rearranged : Json → Json → Prop where
  | null : Rearranged .null .null
  | bool (b : Bool) : Rearranged (.bool b) (.bool b)
  | number (n : JsonNumber) : Rearranged (.number n) (.number n)
  | string (s : String) : Rearranged (.string s) (.string s)
  | array {items others : List Json} (hitems : List.Forall₂ Rearranged items others) :
      Rearranged (.array items) (.array others)
  | object {members changed others : List (String × Json)}
      (hvalues : Revalued Rearranged members changed) (horder : Reordered some changed others) :
      Rearranged (.object members) (.object others)

/-! ### Members -/

theorem Revalued.map_fst_eq {α β : Type} {R : β → β → Prop} {members changed : List (α × β)}
    (h : Revalued R members changed) : members.map Prod.fst = changed.map Prod.fst := by
  induction h with
  | nil => rfl
  | cons _ _ ih => rw [List.map_cons, List.map_cons, ih]

theorem revalued_self {α β : Type} {R : β → β → Prop} {members : List (α × β)}
    (h : ∀ m ∈ members, R m.2 m.2) : Revalued R members members := by
  induction members with
  | nil => exact .nil
  | cons m members ih =>
      obtain ⟨hm, hmembers⟩ := List.forall_mem_cons.mp h
      exact .cons hm (ih hmembers)

section Revalued

variable {R : Json → Json → Prop} {members changed : List (String × Json)}

theorem Revalued.lookup (h : Revalued R members changed) (name : String) :
    Option.Rel R (members.lookup name) (changed.lookup name) := by
  induction h with
  | nil => exact .none
  | @cons n v w members changed hvalue _ ih =>
      rw [List.lookup_cons, List.lookup_cons]
      cases name == n with
      | true => exact .some hvalue
      | false => exact ih

theorem Revalued.lastMember? (h : Revalued R members changed) (name : String) :
    Option.Rel R (lastMember? name members) (lastMember? name changed) := by
  induction h with
  | nil => exact .none
  | @cons n v w members changed hvalue _ ih =>
      rw [Json.lastMember?, Json.lastMember?]
      generalize Json.lastMember? name members = found, Json.lastMember? name changed = other at ih
      cases ih with
      | some hrest => exact .some hrest
      | none =>
          by_cases hname : n = name
          · rw [if_pos hname, if_pos hname]
            exact .some hvalue
          · rw [if_neg hname, if_neg hname]
            exact .none

theorem revalued_filterMap {find other : String → Option Json}
    (h : ∀ name, Option.Rel R (find name) (other name)) (names : List String) :
    Revalued R (names.filterMap fun n => (find n).map (n, ·))
      (names.filterMap fun n => (other n).map (n, ·)) := by
  induction names with
  | nil => exact .nil
  | cons n names ih =>
      rw [List.filterMap_cons, List.filterMap_cons]
      have hn := h n
      generalize find n = found, other n = counterpart at hn
      cases hn with
      | none => exact ih
      | some hvalue => exact .cons hvalue ih

theorem revalued_zip {items others : List Json} (h : List.Forall₂ R items others)
    (names : List String) : Revalued R (names.zip items) (names.zip others) := by
  induction h generalizing names with
  | nil =>
      rw [List.zip_nil_right]
      exact .nil
  | cons hitem _ ih =>
      cases names with
      | nil => exact .nil
      | cons n names => exact .cons hitem (ih names)

end Revalued

/-- Only the members of a name matter when it is looked up. -/
theorem lastMember?_filter (name : String) (members : List (String × Json)) :
    lastMember? name (members.filter (·.1 = name)) = lastMember? name members := by
  induction members with
  | nil => rfl
  | cons m members ih =>
      obtain ⟨n, v⟩ := m
      by_cases hname : n = name
      · simp [hname, lastMember?, ih]
      · rw [List.filter_cons_of_neg (by simpa using hname), ih, lastMember?, if_neg hname]
        cases lastMember? name members <;> rfl

section Reordered

variable {α β : Type} {name? : α → Option String}

theorem Reordered.refl (members : List (α × β)) : Reordered name? members members :=
  ⟨.refl members, fun _ => rfl⟩

/-- Neighbours of different names can change places. -/
theorem Reordered.swap {m m' : α × β} (h : name? m.1 ≠ name? m'.1) (members : List (α × β)) :
    Reordered name? (m :: m' :: members) (m' :: m :: members) := by
  refine ⟨.swap m' m members, fun name => ?_⟩
  by_cases hm : name? m.1 = some name
  · have hm' : name? m'.1 ≠ some name := fun hm' => h (hm.trans hm'.symm)
    simp [hm, hm']
  · simp [List.filter_cons, hm]

end Reordered

theorem Reordered.lastMember?_eq {members other : List (String × Json)}
    (h : Reordered some members other) (name : String) :
    lastMember? name members = lastMember? name other := by
  have hname := h.sameName name
  simp only [Option.some.injEq] at hname
  rw [← lastMember?_filter, hname, lastMember?_filter]

/-! ### Values -/

theorem Rearranged.refl (v : Json) : v.Rearranged v := by
  cases v with
  | null => exact .null
  | bool b => exact .bool b
  | number n => exact .number n
  | string s => exact .string s
  | array items =>
      refine .array (List.forall₂_same.mpr fun v hv => ?_)
      have hdepth := depth_lt_of_mem_items hv
      exact Rearranged.refl v
  | object members =>
      refine .object (revalued_self fun m hm => ?_) (.refl members)
      have hdepth := depth_lt_of_mem_members hm
      exact Rearranged.refl m.2
termination_by v.depth

theorem Rearranged.found_eq {v w : Json} (h : v.Rearranged w) : v.found = w.found := by
  cases h <;> rfl

theorem Rearranged.map_fst_perm {members others : List (String × Json)}
    (h : (Json.object members).Rearranged (.object others)) :
    (members.map Prod.fst).Perm (others.map Prod.fst) := by
  cases h with
  | object hvalues horder => exact hvalues.map_fst_eq ▸ horder.perm.map Prod.fst

theorem Rearranged.lastMember? {members others : List (String × Json)}
    (h : (Json.object members).Rearranged (.object others)) (name : String) :
    Option.Rel Rearranged (lastMember? name members) (lastMember? name others) := by
  cases h with
  | object hvalues horder => exact horder.lastMember?_eq name ▸ hvalues.lastMember? name

theorem Rearranged.member? {v w : Json} (h : v.Rearranged w) (name : String) :
    Option.Rel Rearranged (v.member? name) (w.member? name) := by
  cases v with
  | object members =>
      cases h with
      | object hvalues horder => exact Rearranged.lastMember? (.object hvalues horder) name
  | _ =>
      cases h
      exact .none

end Json

namespace Record

/-- The same record but for the order of members inside its values. -/
structure Rearranged (r r' : Record) : Prop where
  present : Json.Revalued Json.Rearranged r.present r'.present
  absent : r.absent = r'.absent
  surplus : r.surplus = r'.surplus

/-- Two values are refused alike, or they are seen as the same record. -/
theorem ofJson_bind_eq {α : Type} {shape : RecordShape} {v w : Json} (h : v.Rearranged w)
    {next : Record → Except DecodeError α}
    (hnext : ∀ r r', ofJson shape v = .ok r → r.Rearranged r' → next r = next r') :
    (ofJson shape v >>= next) = (ofJson shape w >>= next) := by
  cases v with
  | object members =>
      cases h with
      | @object _ changed others hvalues horder =>
        refine hnext _ _ rfl ⟨?_, rfl, rfl⟩
        exact Json.revalued_filterMap (Json.Rearranged.lastMember? (.object hvalues horder)) _
  | array items =>
      cases h with
      | @array _ others hitems =>
        refine hnext _ _ rfl ⟨Json.revalued_zip hitems _, rfl, ?_⟩
        rw [ofArray, ofArray, hitems.length_eq]
  | _ =>
      cases h
      rfl

section

variable {r r' : Record} (h : r.Rearranged r') {α : Type} (name : String)
include h

theorem Rearranged.slot_eq {decode : Json → Except DecodeError α}
    (hdecode : ∀ v w, r.value? name = some v → v.Rearranged w → decode v = decode w) :
    r.slot name decode = r'.slot name decode := by
  have hvalue : Option.Rel Json.Rearranged (r.value? name) (r'.value? name) :=
    h.present.lookup name
  unfold slot
  generalize r.value? name = found, r'.value? name = other at hvalue hdecode
  cases hvalue with
  | none => rfl
  | some hvw => exact congrArg some (hdecode _ _ rfl hvw)

theorem Rearranged.check_eq (failures : List (String × Option DecodeError)) :
    r.check failures = r'.check failures := by
  have hmet : (r.present.findSome? fun p => (failures.lookup p.1).join) =
      r'.present.findSome? fun p => (failures.lookup p.1).join := by
    have hnames := congrArg (List.findSome? fun n => (failures.lookup n).join) h.present.map_fst_eq
    rwa [List.findSome?_map, List.findSome?_map] at hnames
  unfold check
  rw [hmet]

theorem Rearranged.require_eq (slot : Slot α) : r.require name slot = r'.require name slot := by
  unfold require
  rw [h.absent]

omit name in
theorem Rearranged.finish_eq : r.finish = r'.finish := by
  unfold finish
  rw [h.surplus]

end

end Record

end SchemaClasses
