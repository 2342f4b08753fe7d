import SchemaClasses.Proofs.Spelling
import SchemaClasses.Proofs.Traversal
import SchemaClasses.Schema.Record

/-! Records as decoding sees them. The order in which slots are decoded decides which of several
errors is reported, and nothing else: a record is accepted exactly if each of its slots is, and the
value of a slot does not depend on the others. -/

namespace SchemaClasses

namespace Record

theorem mem_insertName {name other : String} {names : List String} :
    other ∈ insertName name names ↔ other = name ∨ other ∈ names := by
  induction names with
  | nil => simp [insertName]
  | cons n names ih =>
      rw [insertName]
      split
      · rw [List.mem_cons, ih, List.mem_cons, or_left_comm]
      · rw [List.mem_cons]

theorem mem_ascending {shape : RecordShape} {name : String} :
    name ∈ shape.ascending ↔ name ∈ shape.slots := by
  unfold RecordShape.ascending
  induction shape.slots with
  | nil => rfl
  | cons n names ih => rw [List.foldr_cons, mem_insertName, ih, List.mem_cons]

theorem lookup_filterMap (f : String → Option Json) (name : String) (names : List String) :
    (names.filterMap fun n => (f n).map (n, ·)).lookup name =
      if name ∈ names then f name else none := by
  induction names with
  | nil => rfl
  | cons n names ih =>
      by_cases hname : name = n
      · subst hname
        cases hf : f name with
        | none => simp [hf, ih]
        | some v => simp [hf]
      · cases hf : f n with
        | none => simp [hf, ih, hname]
        | some v => simp [hf, ih, hname, List.lookup_cons, beq_false_of_ne hname]

theorem lookup_zip {names : List String} {name : String} {position : Nat} (hnodup : names.Nodup)
    (h : names[position]? = some name) (items : List Json) :
    (names.zip items).lookup name = items[position]? := by
  induction names generalizing items position with
  | nil => cases h
  | cons n names ih =>
      obtain ⟨hfresh, hnodup⟩ := List.nodup_cons.mp hnodup
      cases items with
      | nil => rfl
      | cons item items =>
          cases position with
          | zero =>
              cases h
              simp
          | succ position =>
              have hne : name ≠ n := by
                rintro rfl
                exact hfresh (List.mem_of_getElem? h)
              rw [List.zip_cons_cons, List.lookup_cons, beq_false_of_ne hne]
              exact ih hnodup h items

/-- A record that decoding has made of a value, whatever the value was. -/
structure Reads (shape : RecordShape) (v : Json) (r : Record) : Prop where
  ofJson : Record.ofJson shape v = .ok r
  finish : r.finish = .ok ()
  value? {position : Nat} {name : String} (h : shape.slots[position]? = some name) :
    r.value? name = v.slot? position name

theorem Reads.value?_object {shape : RecordShape} {members : List (String × Json)} {r : Record}
    (hreads : Reads shape (.object members) r) {name : String} (hname : name ∈ shape.slots) :
    r.value? name = Json.lastMember? name members := by
  obtain ⟨position, hposition⟩ := List.mem_iff_getElem?.mp hname
  exact hreads.value? hposition

section

variable {shape : RecordShape} (hnodup : shape.slots.Nodup) {v : Json}
include hnodup

theorem value?_of_ofJson {r : Record} (hr : Record.ofJson shape v = .ok r) {position : Nat}
    {name : String} (h : shape.slots[position]? = some name) :
    r.value? name = v.slot? position name := by
  cases v with
  | object members =>
      cases hr
      have hmem : name ∈ shape.ascending := mem_ascending.mpr (List.mem_of_getElem? h)
      exact (lookup_filterMap _ name shape.ascending).trans (if_pos hmem)
  | array items =>
      cases hr
      exact lookup_zip hnodup h items
  | _ => cases hr

theorem reads_of_ofJson {r : Record} (hr : Record.ofJson shape v = .ok r)
    (hfinish : r.finish = .ok ()) : v.IsRecord shape.slots.length ∧ Reads shape v r := by
  refine ⟨?_, hr, hfinish, value?_of_ofJson hnodup hr⟩
  cases v with
  | object members => trivial
  | array items =>
      cases hr
      unfold finish ofArray at hfinish
      by_cases hlong : shape.slots.length < items.length
      · simp [hlong] at hfinish
      · exact Nat.le_of_not_lt hlong
  | _ => cases hr

theorem exists_reads (h : v.IsRecord shape.slots.length) : ∃ r, Reads shape v r := by
  cases v with
  | object members => exact ⟨_, rfl, rfl, value?_of_ofJson hnodup rfl⟩
  | array items =>
      refine ⟨_, rfl, ?_, value?_of_ofJson hnodup rfl⟩
      unfold finish ofArray
      rw [if_neg (Nat.not_lt.mpr h)]
  | _ => cases h

end

/-- No value that is there fails where no slot does. -/
theorem check_eq_ok (r : Record) {failures : List (String × Option DecodeError)}
    (h : ∀ f ∈ failures, f.2 = none) : r.check failures = .ok () := by
  have hnone : (r.present.findSome? fun p => (failures.lookup p.1).join) = none := by
    rw [List.findSome?_eq_none_iff]
    intro p _
    cases hlookup : failures.lookup p.1 with
    | none => rfl
    | some failure =>
        obtain ⟨before, behind, heq, -⟩ := List.lookup_eq_some_iff.mp hlookup
        exact h (p.1, failure) (heq ▸ List.mem_append_right _ List.mem_cons_self)
  unfold check
  rw [hnone]

theorem failure?_of_require {α : Type} {r : Record} {name : String} {slot : Slot α} {a : α}
    (h : r.require name slot = .ok a) : slot.failure? = none := by
  rcases slot with _ | _ | _
  · rfl
  · cases h
  · rfl

theorem failure?_of_getD {α : Type} {slot : Slot α} {default a : α}
    (h : slot.getD default = .ok a) : slot.failure? = none := by
  rcases slot with _ | _ | _
  · rfl
  · cases h
  · rfl

section Slots

variable {α : Type} {decode : Json → Except DecodeError α} {Spells : Json → α → Prop} {r : Record}
  {name : String} {v? : Option Json}

theorem require_eq_ok_iff (hvalue : r.value? name = v?)
    (hdecode : ∀ v a, decode v = .ok a ↔ Spells v a) {a : α} :
    r.require name (r.slot name decode) = .ok a ↔ Required Spells v? a := by
  subst hvalue
  unfold slot require
  cases r.value? name with
  | none => exact ⟨fun h => (nomatch h), fun h => (nomatch h)⟩
  | some v =>
      exact ⟨fun h => .present ((hdecode v a).mp h), fun | .present h => (hdecode v a).mpr h⟩

theorem getD_eq_ok_iff (hvalue : r.value? name = v?)
    (hdecode : ∀ v a, decode v = .ok a ↔ Spells v a) {default a : α} :
    (r.slot name decode).getD default = .ok a ↔ Defaulted Spells default v? a := by
  subst hvalue
  unfold slot Slot.getD
  cases r.value? name with
  | none => exact ⟨fun h => Except.ok.inj h ▸ .absent, fun | .absent => rfl⟩
  | some v =>
      exact ⟨fun h => .present ((hdecode v a).mp h), fun | .present h => (hdecode v a).mpr h⟩

theorem nullable_of_ne_null (decode : Json → Except DecodeError α) {v : Json} (hv : v ≠ .null) :
    Decode.nullable decode v = (decode v).map some := by
  cases v with
  | null => exact absurd rfl hv
  | _ => rfl

/-- Null is the absence of a value, so it must not be one itself. -/
theorem getD_nullable_eq_ok_iff (hvalue : r.value? name = v?)
    (hdecode : ∀ v, v? = some v → ∀ a, decode v = .ok a ↔ Spells v a)
    (hnull : ∀ a, ¬ Spells .null a) {a : Option α} :
    (r.slot name (Decode.nullable decode)).getD none = .ok a ↔ Optional Spells v? a := by
  subst hvalue
  unfold slot Slot.getD
  cases hvalue : r.value? name with
  | none => exact ⟨fun h => Except.ok.inj h ▸ .absent, fun | .absent => rfl⟩
  | some v =>
      by_cases hv : v = .null
      · subst hv
        refine ⟨fun h => Except.ok.inj h ▸ .null, fun h => ?_⟩
        cases h with
        | null => rfl
        | present h => exact absurd h (hnull _)
      · simp only [Option.map_some, nullable_of_ne_null decode hv]
        constructor
        · intro h
          cases hresult : decode v with
          | error e =>
              rw [hresult] at h
              cases h
          | ok b =>
              rw [hresult] at h
              cases h
              exact .present ((hdecode v hvalue b).mp hresult)
        · intro h
          cases h with
          | null => exact absurd rfl hv
          | present h => rw [(hdecode v hvalue _).mpr h, Except.map]

theorem list_eq_ok_iff (hdecode : ∀ v a, decode v = .ok a ↔ Spells v a) (v : Json) (as : List α) :
    Decode.list decode v = .ok as ↔ SpellsList Spells v as := by
  have hspells : (fun v a => decode v = .ok a) = Spells := by
    funext v a
    exact propext (hdecode v a)
  constructor
  · intro h
    cases v with
    | array items => exact .array (hspells ▸ forall₂_of_mapM h)
    | _ => cases h
  · rintro ⟨h⟩
    exact mapM_of_forall₂ (hspells ▸ h)

theorem getD_nullable_list_eq_ok_iff (hvalue : r.value? name = v?)
    (hdecode : ∀ v as, Decode.list decode v = .ok as ↔ SpellsList Spells v as)
    {as : Option (List α)} :
    (r.slot name (Decode.nullable (Decode.list decode))).getD none = .ok as ↔
      Optional (SpellsList Spells) v? as :=
  getD_nullable_eq_ok_iff hvalue (fun v _ => hdecode v) fun _ h => nomatch h

end Slots

theorem text_eq_ok_iff (v : Json) (s : String) : Decode.text v = .ok s ↔ SpellsText v s := by
  constructor
  · intro h
    cases v with
    | string text =>
        cases h
        exact .string s
    | _ => cases h
  · rintro ⟨⟩
    rfl

theorem getD_nullable_text_eq_ok_iff {r : Record} {name : String} {v? : Option Json}
    (hvalue : r.value? name = v?) {a : Option String} :
    (r.slot name (Decode.nullable Decode.text)).getD none = .ok a ↔ Optional SpellsText v? a :=
  getD_nullable_eq_ok_iff hvalue (fun v _ => text_eq_ok_iff v) fun _ h => nomatch h

theorem flag_eq_ok_iff (v : Json) (b : Bool) : Decode.flag v = .ok b ↔ SpellsFlag v b := by
  constructor
  · intro h
    cases v with
    | bool flag =>
        cases h
        exact .bool b
    | _ => cases h
  · rintro ⟨⟩
    rfl

end Record

end SchemaClasses
