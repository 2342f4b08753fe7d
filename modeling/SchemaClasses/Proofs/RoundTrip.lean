import SchemaClasses.Proofs.JsonText
import SchemaClasses.Proofs.SchemaDecoding
import SchemaClasses.Schema.Encoding

/-! A schema that was read can be written and read again. Every record is written with all of its
slots, which is one of its spellings. Slots that the text read before left out are written too, so
the value may be nested more deeply than the one that was read, but only up to a small bound, far
below the limit. -/

namespace SchemaClasses

open Encode

/-! ### What is written spells what was written -/

section Slots

variable {α : Type} {Spells : Json → α → Prop} {toJson : α → Json}

theorem spellsText_text (s : String) : SpellsText (text s) s :=
  .string s

theorem optional_nullable (h : ∀ a, Spells (toJson a) a) (a : Option α) :
    Optional Spells (some (nullable toJson a)) a := by
  cases a with
  | none => exact .null
  | some a => exact .present (h a)

theorem spellsList_list (h : ∀ a, Spells (toJson a) a) (as : List α) :
    SpellsList Spells (list toJson as) as := by
  refine .array ?_
  rw [List.forall₂_map_left_iff, List.forall₂_same]
  exact fun a _ => h a

end Slots

theorem TypeKind.spells_toJson (k : TypeKind) : Spells k.toJson k :=
  .name ((ofSpelling_eq_iff k.spelling k).mp (ofSpelling_spelling k))

/-- The reference inside is written as any slot that may be null. -/
theorem TypeRef.toJson_eq (t : TypeRef) : t.toJson =
    .object [("kind", t.kind.toJson), ("name", nullable text t.name),
      ("ofType", nullable toJson t.ofType)] := by
  rcases t with ⟨kind, name, _ | inner⟩
  all_goals
    rw [toJson]
    rfl

theorem TypeRef.spells_toJson : (t : TypeRef) → Spells t.toJson t
  | ⟨kind, name, ofType⟩ => by
      have hinner : Optional Spells (some (nullable toJson ofType)) ofType := by
        cases ofType with
        | none => exact .null
        | some inner => exact .present (spells_toJson inner)
      rw [spells_iff, toJson_eq]
      exact ⟨trivial, .present kind.spells_toJson, optional_nullable spellsText_text name, hinner⟩

theorem InputValue.spells_toJson (x : InputValue) : Spells x.toJson x where
  record := trivial
  name := .present (spellsText_text x.name)
  description := optional_nullable spellsText_text x.description
  type := .present x.type.spells_toJson
  defaultValue := optional_nullable spellsText_text x.defaultValue

theorem Field.spells_toJson (f : Field) : Spells f.toJson f where
  record := trivial
  name := .present (spellsText_text f.name)
  description := optional_nullable spellsText_text f.description
  args := .present (spellsList_list InputValue.spells_toJson f.args)
  type := .present f.type.spells_toJson
  isDeprecated := .present (.bool f.isDeprecated)
  deprecationReason := optional_nullable spellsText_text f.deprecationReason

theorem EnumValue.spells_toJson (x : EnumValue) : Spells x.toJson x where
  record := trivial
  name := .present (spellsText_text x.name)
  description := optional_nullable spellsText_text x.description
  isDeprecated := .present (.bool x.isDeprecated)
  deprecationReason := optional_nullable spellsText_text x.deprecationReason

theorem FullType.spells_toJson (t : FullType) : Spells t.toJson t where
  record := trivial
  kind := .present t.kind.spells_toJson
  name := .present (spellsText_text t.name)
  description := optional_nullable spellsText_text t.description
  fields := optional_nullable (spellsList_list Field.spells_toJson) t.fields
  inputFields := optional_nullable (spellsList_list InputValue.spells_toJson) t.inputFields
  interfaces := optional_nullable (spellsList_list TypeRef.spells_toJson) t.interfaces
  enumValues := optional_nullable (spellsList_list EnumValue.spells_toJson) t.enumValues
  possibleTypes := optional_nullable (spellsList_list TypeRef.spells_toJson) t.possibleTypes

theorem Directive.spells_toJson (d : Directive) : Spells d.toJson d where
  record := trivial
  name := .present (spellsText_text d.name)
  description := optional_nullable spellsText_text d.description
  locations := .present (spellsList_list spellsText_text d.locations)
  args := .present (spellsList_list InputValue.spells_toJson d.args)

theorem RootTypeName.spells_toJson (r : RootTypeName) : Spells r.toJson r where
  record := trivial
  name := .present (spellsText_text r.name)

theorem Schema.ofResponse_toJson (s : Schema) : ofResponse s.toJson = .ok s := by
  rw [ofResponse_eq_ok_iff]
  refine ⟨.inl rfl, _, rfl, ?_⟩
  exact {
    queryType := optional_nullable RootTypeName.spells_toJson s.queryType
    mutationType := optional_nullable RootTypeName.spells_toJson s.mutationType
    subscriptionType := optional_nullable RootTypeName.spells_toJson s.subscriptionType
    types := .present (spellsList_list FullType.spells_toJson s.types)
    directives := .present (spellsList_list Directive.spells_toJson s.directives) }

/-! ### What is written has no numbers -/

section Slots

variable {α : Type} {toJson : α → Json}

theorem isTextual_nullable (h : ∀ a, (toJson a).IsTextual) (a : Option α) :
    (nullable toJson a).IsTextual := by
  cases a with
  | none => trivial
  | some a => exact h a

theorem isTextual_list (h : ∀ a, (toJson a).IsTextual) (as : List α) :
    (list toJson as).IsTextual := by
  unfold list
  induction as with
  | nil => trivial
  | cons a as ih => exact ⟨h a, ih⟩

theorem isTextual_text (s : String) : (text s).IsTextual := trivial

end Slots

theorem TypeRef.isTextual_toJson : (t : TypeRef) → t.toJson.IsTextual
  | ⟨_, name, none⟩ => ⟨trivial, isTextual_nullable isTextual_text name, trivial, trivial⟩
  | ⟨_, name, some inner⟩ =>
    ⟨trivial, isTextual_nullable isTextual_text name, inner.isTextual_toJson, trivial⟩

theorem InputValue.isTextual_toJson (x : InputValue) : x.toJson.IsTextual :=
  ⟨trivial, isTextual_nullable isTextual_text x.description, x.type.isTextual_toJson,
    isTextual_nullable isTextual_text x.defaultValue, trivial⟩

theorem Field.isTextual_toJson (f : Field) : f.toJson.IsTextual :=
  ⟨trivial, isTextual_nullable isTextual_text f.description,
    isTextual_list InputValue.isTextual_toJson f.args, f.type.isTextual_toJson, trivial,
    isTextual_nullable isTextual_text f.deprecationReason, trivial⟩

theorem EnumValue.isTextual_toJson (x : EnumValue) : x.toJson.IsTextual :=
  ⟨trivial, isTextual_nullable isTextual_text x.description, trivial,
    isTextual_nullable isTextual_text x.deprecationReason, trivial⟩

theorem FullType.isTextual_toJson (t : FullType) : t.toJson.IsTextual :=
  ⟨trivial, trivial, isTextual_nullable isTextual_text t.description,
    isTextual_nullable (isTextual_list Field.isTextual_toJson) t.fields,
    isTextual_nullable (isTextual_list InputValue.isTextual_toJson) t.inputFields,
    isTextual_nullable (isTextual_list TypeRef.isTextual_toJson) t.interfaces,
    isTextual_nullable (isTextual_list EnumValue.isTextual_toJson) t.enumValues,
    isTextual_nullable (isTextual_list TypeRef.isTextual_toJson) t.possibleTypes, trivial⟩

theorem Directive.isTextual_toJson (d : Directive) : d.toJson.IsTextual :=
  ⟨trivial, isTextual_nullable isTextual_text d.description,
    isTextual_list isTextual_text d.locations,
    isTextual_list InputValue.isTextual_toJson d.args, trivial⟩

theorem RootTypeName.isTextual_toJson (r : RootTypeName) : r.toJson.IsTextual :=
  ⟨trivial, trivial⟩

theorem Schema.isTextual_toJson (s : Schema) : s.toJson.IsTextual :=
  ⟨isTextual_nullable RootTypeName.isTextual_toJson s.queryType,
    isTextual_nullable RootTypeName.isTextual_toJson s.mutationType,
    isTextual_nullable RootTypeName.isTextual_toJson s.subscriptionType,
    isTextual_list FullType.isTextual_toJson s.types,
    isTextual_list Directive.isTextual_toJson s.directives, trivial⟩

/-! ### What is written is nested no deeper, or not deep -/

/-- What is written for a decoded value is nested no deeper than the value was, or than `floor`
brackets: so many the slots may need that the value left out. -/
def NestsWithin {α : Type} (floor : Nat) (Spells : Json → α → Prop) (toJson : α → Json) : Prop :=
  ∀ v a, Spells v a → (toJson a).depth ≤ max v.depth floor

namespace Json

theorem depth_object_le {members : List (String × Json)} {n : Nat} (hn : 0 < n)
    (h : ∀ m ∈ members, m.2.depth < n) : (Json.object members).depth ≤ n := by
  have hmembers : membersDepth members ≤ n - 1 := by
    rw [membersDepth_le_iff]
    exact fun m hm => Nat.le_sub_one_of_lt (h m hm)
  rw [depth]
  omega

theorem depth_pos_of_isRecord {v : Json} {slots : Nat} (h : v.IsRecord slots) : 0 < v.depth := by
  cases v with
  | array items =>
      rw [depth]
      omega
  | object members =>
      rw [depth]
      omega
  | _ => exact h.elim

theorem depth_lt_of_slot? {v w : Json} {position : Nat} {name : String}
    (h : v.slot? position name = some w) : w.depth < v.depth := by
  unfold slot? at h
  split at h
  · exact depth_lt_of_lastMember? h
  · exact depth_lt_of_mem_items (List.mem_of_getElem? h)
  · cases h

end Json

section Slots

variable {α : Type} {Spells : Json → α → Prop} {toJson : α → Json} {k floor : Nat} {v : Json}
  {position : Nat} {name : String}

theorem nestsWithin_text : NestsWithin 0 SpellsText text := by
  intro v s _
  exact Nat.zero_le _

theorem nestsWithin_flag : NestsWithin 0 SpellsFlag Json.bool := by
  intro v b _
  exact Nat.zero_le _

theorem nestsWithin_list (h : NestsWithin k Spells toJson) :
    NestsWithin (k + 1) (SpellsList Spells) (list toJson) := by
  rintro _ as ⟨hitems⟩
  rename_i items
  have hlist : Json.itemsDepth (as.map toJson) ≤ max (Json.itemsDepth items) k := by
    induction hitems with
    | nil => exact Nat.zero_le _
    | cons hitem _ ih =>
        have hfirst := h _ _ hitem
        rw [List.map_cons, Json.itemsDepth, Json.itemsDepth]
        omega
  rw [list, Json.depth, Json.depth]
  omega

/-- A slot lies inside a bracket of its record. -/
theorem depth_lt_of_required (h : NestsWithin k Spells toJson) (hk : k < floor) {a : α}
    (hslot : Required Spells (v.slot? position name) a) : (toJson a).depth < max v.depth floor := by
  generalize hw : v.slot? position name = w? at hslot
  cases hslot with
  | present ha =>
      have hnests := h _ _ ha
      have hinside := Json.depth_lt_of_slot? hw
      omega

theorem depth_lt_of_optional (h : NestsWithin k Spells toJson) (hk : k < floor) {a : Option α}
    (hslot : Optional Spells (v.slot? position name) a) :
    (nullable toJson a).depth < max v.depth floor := by
  have hpositive : 0 < max v.depth floor := by omega
  generalize hw : v.slot? position name = w? at hslot
  cases hslot with
  | absent => exact hpositive
  | null => exact hpositive
  | present ha =>
      have hnests := h _ _ ha
      have hinside := Json.depth_lt_of_slot? hw
      rw [nullable]
      omega

theorem depth_lt_of_defaulted (h : NestsWithin k Spells toJson) (hk : k < floor) {default a : α}
    (hdefault : (toJson default).depth ≤ k)
    (hslot : Defaulted Spells default (v.slot? position name) a) :
    (toJson a).depth < max v.depth floor := by
  generalize hw : v.slot? position name = w? at hslot
  cases hslot with
  | absent => omega
  | present ha =>
      have hnests := h _ _ ha
      have hinside := Json.depth_lt_of_slot? hw
      omega

end Slots

theorem TypeKind.nestsWithin : NestsWithin 0 Spells toJson := by
  intro v k _
  exact Nat.zero_le _

/-- A reference has a bracket of its own however it is spelled, so what is written needs no more. -/
theorem TypeRef.depth_toJson_le :
    (t : TypeRef) → (v : Json) → Spells v t → t.toJson.depth ≤ v.depth
  | ⟨kind, name, ofType⟩, v, h => by
      obtain ⟨hrecord, -, -, hofType⟩ := (spells_iff v _).mp h
      have hpositive := Json.depth_pos_of_isRecord hrecord
      have hinner : (nullable toJson ofType).depth < v.depth := by
        generalize hw : v.slot? 2 "ofType" = w? at hofType
        cases ofType with
        | none => exact hpositive
        | some inner =>
            cases hofType with
            | present hinner =>
              have hnests := depth_toJson_le inner _ hinner
              have hinside := Json.depth_lt_of_slot? hw
              rw [nullable]
              omega
      have hname : (nullable text name).depth < v.depth := by
        cases name <;> exact hpositive
      rw [toJson_eq]
      refine Json.depth_object_le hpositive ?_
      simp only [List.forall_mem_cons]
      exact ⟨hpositive, hname, hinner, nofun⟩

theorem TypeRef.nestsWithin : NestsWithin 0 Spells toJson :=
  fun v t h => Nat.le_trans (t.depth_toJson_le v h) (Nat.le_max_left _ _)

theorem InputValue.nestsWithin : NestsWithin 1 Spells toJson := by
  intro v x h
  refine Json.depth_object_le (by omega) ?_
  simp only [List.forall_mem_cons]
  exact ⟨depth_lt_of_required nestsWithin_text (by decide) h.name,
    depth_lt_of_optional nestsWithin_text (by decide) h.description,
    depth_lt_of_required TypeRef.nestsWithin (by decide) h.type,
    depth_lt_of_optional nestsWithin_text (by decide) h.defaultValue, nofun⟩

theorem Field.nestsWithin : NestsWithin 3 Spells toJson := by
  have inputValues := nestsWithin_list InputValue.nestsWithin
  intro v f h
  refine Json.depth_object_le (by omega) ?_
  simp only [List.forall_mem_cons]
  exact ⟨depth_lt_of_required nestsWithin_text (by decide) h.name,
    depth_lt_of_optional nestsWithin_text (by decide) h.description,
    depth_lt_of_defaulted inputValues (by decide) (by decide) h.args,
    depth_lt_of_required TypeRef.nestsWithin (by decide) h.type,
    depth_lt_of_defaulted nestsWithin_flag (by decide) (by decide) h.isDeprecated,
    depth_lt_of_optional nestsWithin_text (by decide) h.deprecationReason, nofun⟩

theorem EnumValue.nestsWithin : NestsWithin 1 Spells toJson := by
  intro v x h
  refine Json.depth_object_le (by omega) ?_
  simp only [List.forall_mem_cons]
  exact ⟨depth_lt_of_required nestsWithin_text (by decide) h.name,
    depth_lt_of_optional nestsWithin_text (by decide) h.description,
    depth_lt_of_defaulted nestsWithin_flag (by decide) (by decide) h.isDeprecated,
    depth_lt_of_optional nestsWithin_text (by decide) h.deprecationReason, nofun⟩

theorem FullType.nestsWithin : NestsWithin 5 Spells toJson := by
  have fields := nestsWithin_list Field.nestsWithin
  have inputValues := nestsWithin_list InputValue.nestsWithin
  have typeRefs := nestsWithin_list TypeRef.nestsWithin
  have enumValues := nestsWithin_list EnumValue.nestsWithin
  intro v t h
  refine Json.depth_object_le (by omega) ?_
  simp only [List.forall_mem_cons]
  exact ⟨depth_lt_of_required TypeKind.nestsWithin (by decide) h.kind,
    depth_lt_of_required nestsWithin_text (by decide) h.name,
    depth_lt_of_optional nestsWithin_text (by decide) h.description,
    depth_lt_of_optional fields (by decide) h.fields,
    depth_lt_of_optional inputValues (by decide) h.inputFields,
    depth_lt_of_optional typeRefs (by decide) h.interfaces,
    depth_lt_of_optional enumValues (by decide) h.enumValues,
    depth_lt_of_optional typeRefs (by decide) h.possibleTypes, nofun⟩

theorem Directive.nestsWithin : NestsWithin 3 Spells toJson := by
  have texts := nestsWithin_list nestsWithin_text
  have inputValues := nestsWithin_list InputValue.nestsWithin
  intro v d h
  refine Json.depth_object_le (by omega) ?_
  simp only [List.forall_mem_cons]
  exact ⟨depth_lt_of_required nestsWithin_text (by decide) h.name,
    depth_lt_of_optional nestsWithin_text (by decide) h.description,
    depth_lt_of_defaulted texts (by decide) (by decide) h.locations,
    depth_lt_of_defaulted inputValues (by decide) (by decide) h.args, nofun⟩

theorem RootTypeName.nestsWithin : NestsWithin 1 Spells toJson := by
  intro v r h
  refine Json.depth_object_le (by omega) ?_
  simp only [List.forall_mem_cons]
  exact ⟨depth_lt_of_required nestsWithin_text (by decide) h.name, nofun⟩

namespace Schema

theorem depth_toJson_le {members : List (String × Json)} {s : Schema} (h : Spells members s) :
    s.toJson.depth ≤ max (Json.object members).depth 7 := by
  have types := nestsWithin_list FullType.nestsWithin
  have directives := nestsWithin_list Directive.nestsWithin
  have hqueryType : Optional _ ((Json.object members).slot? 0 "queryType") _ := h.queryType
  have hmutationType : Optional _ ((Json.object members).slot? 1 "mutationType") _ :=
    h.mutationType
  have hsubscriptionType : Optional _ ((Json.object members).slot? 2 "subscriptionType") _ :=
    h.subscriptionType
  have htypes : Required _ ((Json.object members).slot? 3 "types") _ := h.types
  have hdirectives : Defaulted _ _ ((Json.object members).slot? 4 "directives") _ := h.directives
  refine Json.depth_object_le (by omega) ?_
  simp only [List.forall_mem_cons]
  exact ⟨depth_lt_of_optional RootTypeName.nestsWithin (by decide) hqueryType,
    depth_lt_of_optional RootTypeName.nestsWithin (by decide) hmutationType,
    depth_lt_of_optional RootTypeName.nestsWithin (by decide) hsubscriptionType,
    depth_lt_of_required types (by decide) htypes,
    depth_lt_of_defaulted directives (by decide) (by decide) hdirectives, nofun⟩

/-- The schema of a response lies inside the response. -/
theorem depth_unwrapResponse_le (v : Json) : (unwrapResponse v).depth ≤ v.depth := by
  have hmember : ∀ (w : Json) (name : String), ((w.member? name).getD w).depth ≤ w.depth := by
    intro w name
    cases hw : w.member? name with
    | none => exact Nat.le_refl _
    | some inner => exact Json.depth_le_of_member? hw
  exact Nat.le_trans (hmember _ "__schema") (hmember v "data")

theorem depth_toJson_le_of_ofText {text : String} {s : Schema} (h : ofText text = .ok s) :
    s.toJson.depth ≤ Json.nestingLimit := by
  unfold ofText at h
  split at h
  · cases h
  · rename_i v hread
    obtain ⟨-, members, hlocated, hspells⟩ := (ofResponse_eq_ok_iff v s).mp h
    have hread := Json.depth_le_of_read hread
    have hinner := depth_unwrapResponse_le v
    have hwritten := depth_toJson_le hspells
    rw [hlocated] at hinner
    unfold Json.nestingLimit at hread ⊢
    omega

theorem ofText_of_read? {dump : String} {s : Schema} (h : Json.read? dump = some s.toJson) :
    ofText dump = .ok s := by
  rw [ofText, Json.read?_eq_some_iff.mp h]
  exact s.ofResponse_toJson

theorem ofText_render_toJson {s : Schema} (h : s.toJson.depth ≤ Json.nestingLimit) :
    ofText (Json.render s.toJson) = .ok s :=
  ofText_of_read? (Json.read?_render s.isTextual_toJson h)

/-- Whatever text a schema was read from, the schema can be written, in any layout, and read again,
and the second dump is the first. -/
theorem dump_reads_back {text : String} {s : Schema} (h : ofText text = .ok s) :
    s.toJson.depth ≤ Json.nestingLimit ∧
      (∀ dump, Json.read? dump = some s.toJson → ofText dump = .ok s) ∧
      ofText (Json.render s.toJson) = .ok s ∧
      (ofText (Json.render s.toJson)).map (fun again => Json.render again.toJson) =
        .ok (Json.render s.toJson) := by
  have hdepth := depth_toJson_le_of_ofText h
  have hrender := ofText_render_toJson hdepth
  refine ⟨hdepth, fun dump hdump => ofText_of_read? hdump, hrender, ?_⟩
  rw [hrender]
  rfl

/-! A response that leaves out what it may, with an array for the type, an object for the kind of
its field and an escape in its name. -/

def terseText : String :=
  "\x7b\"data\":\x7b\"__schema\":\x7b\"types\":[[\"OBJECT\",\"Query\",null,[" ++
  "\x7b\"name\":\"n\\u0061me\",\"type\":\x7b\"kind\":\x7b\"SCALAR\":null\x7d,\"name\":\"Int\"\x7d\x7d" ++
  "]]],\"directives\":[[\"skip\"]]\x7d\x7d\x7d"

def terse : Schema where
  queryType := none
  mutationType := none
  subscriptionType := none
  types := [{ FullType.plain .object "Query" with fields := some [.plain "name" (.scalar "Int")] }]
  directives := [⟨"skip", none, [], []⟩]

theorem ofText_terseText : ofText terseText = .ok terse := by
  decide +kernel

theorem dump_reads_back_of_terse : ofText terseText = .ok terse ∧
    terse.toJson.depth ≤ Json.nestingLimit ∧
      (∀ dump, Json.read? dump = some terse.toJson → ofText dump = .ok terse) ∧
      ofText (Json.render terse.toJson) = .ok terse ∧
      (ofText (Json.render terse.toJson)).map (fun again => Json.render again.toJson) =
        .ok (Json.render terse.toJson) :=
  ⟨ofText_terseText, dump_reads_back ofText_terseText⟩

end Schema

end SchemaClasses
