import SchemaClasses.Proofs.RecordSlots
import SchemaClasses.Schema.Response

/-! Decoding accepts exactly the values that spell a schema, and returns the schema that they spell.
For every record this is put together from the same statement about its slots. -/

namespace SchemaClasses

open Record

namespace TypeKind

theorem hasName_ofSpelling (name : String) : HasName (ofSpelling name) name := by
  unfold ofSpelling
  split
  case h_9 hscalar hobject hinterface hunion henum hinput hlist hnonNull =>
    apply HasName.unknown
    simp only [defined, spelling, List.forall_mem_cons]
    exact ⟨hscalar, hobject, hinterface, hunion, henum, hinput, hlist, hnonNull, nofun⟩
  all_goals exact HasName.defined (by decide)

theorem ofSpelling_eq_iff (name : String) (k : TypeKind) : ofSpelling name = k ↔ HasName k name := by
  constructor
  · rintro rfl
    exact hasName_ofSpelling name
  · intro h
    cases h with
    | defined => exact ofSpelling_spelling k
    | unknown hother =>
        -- a kind that introspection defines would have this name for its own
        have hname := hasName_ofSpelling name
        generalize ofSpelling name = k' at hname
        cases hname with
        | defined hk => exact absurd rfl (hother _ hk)
        | unknown => rfl

theorem ofJson_eq_ok_iff (v : Json) (k : TypeKind) : ofJson v = .ok k ↔ Spells v k := by
  constructor
  · intro h
    cases v with
    | string name =>
        cases h
        exact .name (hasName_ofSpelling name)
    | object members =>
        rcases members with _ | ⟨⟨name, v⟩, members⟩
        · cases h
        · obtain ⟨w, hw⟩ := Json.lastMember?_cons_self name v members
          simp only [ofJson, hw] at h
          split at h
          · rename_i hall
            have honly : ∀ m ∈ (name, v) :: members, m.1 = name :=
              List.forall_mem_cons.mpr ⟨rfl, by simpa using hall⟩
            cases w with
            | null =>
                cases h
                exact .member honly hw (hasName_ofSpelling name)
            | _ => cases h
          · cases h
    | _ => cases h
  · intro h
    cases h with
    | name h => rw [ofJson, (ofSpelling_eq_iff _ k).mpr h]
    | @member members name _ honly hnull h =>
        rcases members with _ | ⟨⟨n, v⟩, members⟩
        · cases hnull
        · obtain ⟨rfl, honly⟩ := List.forall_mem_cons.mp honly
          have hall : members.all (·.1 = n) := by simpa using honly
          simp only [ofJson, hall, hnull, if_true, (ofSpelling_eq_iff _ k).mpr h]

end TypeKind

namespace TypeRef

/-- The reference inside is decoded as any slot that may be null. -/
theorem ofJson_eq (v : Json) : ofJson v = (do
    let r ← Record.ofJson shape v
    let kind := r.slot "kind" TypeKind.ofJson
    let name := r.slot "name" (Decode.nullable Decode.text)
    let ofType := r.slot "ofType" (Decode.nullable ofJson)
    r.check [("kind", kind.failure?), ("name", name.failure?), ("ofType", ofType.failure?)]
    let kind ← r.require "kind" kind
    let name ← name.getD none
    let ofType ← ofType.getD none
    r.finish
    return { kind, name, ofType }) := by
  rw [ofJson]
  split
  · rename_i e hr
    rw [hr]
    rfl
  · rename_i r hr
    have hbind : ∀ next : Record → Except DecodeError TypeRef, (.ok r >>= next) = next r :=
      fun _ => rfl
    rw [hr, hbind]
    unfold slot
    split
    · rename_i h
      rw [h]
      rfl
    · rename_i h
      rw [h]
      rfl
    · rename_i w hne h
      rw [h, Option.map_some, nullable_of_ne_null ofJson hne]

theorem spells_iff (v : Json) (t : TypeRef) : Spells v t ↔ v.IsRecord 3 ∧
    Required TypeKind.Spells (v.slot? 0 "kind") t.kind ∧
    Optional SpellsText (v.slot? 1 "name") t.name ∧
    Optional Spells (v.slot? 2 "ofType") t.ofType :=
  ⟨fun ⟨hrecord, hkind, hname, hofType⟩ => ⟨hrecord, hkind, hname, hofType⟩,
    fun ⟨hrecord, hkind, hname, hofType⟩ => ⟨hrecord, hkind, hname, hofType⟩⟩

theorem not_spells_null (t : TypeRef) : ¬ Spells .null t := by
  rintro ⟨hrecord⟩
  exact hrecord

theorem ofJson_eq_ok_iff (v : Json) (t : TypeRef) : ofJson v = .ok t ↔ Spells v t := by
  have hnodup : shape.slots.Nodup := by decide
  rcases t with ⟨kind, name, ofType⟩
  rw [ofJson_eq, spells_iff]
  simp only [bind_eq_ok_iff]
  constructor
  · rintro ⟨r, hr, _, -, kind, hkind, name, hname, ofType, hofType, _, hfinish, h⟩
    cases h
    obtain ⟨hrecord, hreads⟩ := reads_of_ofJson hnodup hr hfinish
    have hvalue : r.value? "ofType" = v.slot? 2 "ofType" := hreads.value? rfl
    have hinner : ∀ w, v.slot? 2 "ofType" = some w → ∀ t, ofJson w = .ok t ↔ Spells w t :=
      fun w hw t => ofJson_eq_ok_iff w t
    exact ⟨hrecord,
      (require_eq_ok_iff (hreads.value? rfl) TypeKind.ofJson_eq_ok_iff).mp hkind,
      (getD_nullable_text_eq_ok_iff (hreads.value? rfl)).mp hname,
      (getD_nullable_eq_ok_iff hvalue hinner not_spells_null).mp hofType⟩
  · rintro ⟨hrecord, hkind, hname, hofType⟩
    obtain ⟨r, hreads⟩ := exists_reads hnodup hrecord
    have hvalue : r.value? "ofType" = v.slot? 2 "ofType" := hreads.value? rfl
    have hinner : ∀ w, v.slot? 2 "ofType" = some w → ∀ t, ofJson w = .ok t ↔ Spells w t :=
      fun w hw t => ofJson_eq_ok_iff w t
    have hkind := (require_eq_ok_iff (hreads.value? rfl) TypeKind.ofJson_eq_ok_iff).mpr hkind
    have hname := (getD_nullable_text_eq_ok_iff (hreads.value? rfl)).mpr hname
    have hofType := (getD_nullable_eq_ok_iff hvalue hinner not_spells_null).mpr hofType
    refine ⟨r, hreads.ofJson, (), check_eq_ok r ?_, _, hkind, _, hname, _, hofType, (),
      hreads.finish, rfl⟩
    simp [failure?_of_require hkind, failure?_of_getD hname, failure?_of_getD hofType]
termination_by sizeOf v
decreasing_by
  all_goals exact Record.sizeOf_of_value? hreads.ofJson (hvalue.trans hw)

end TypeRef

theorem InputValue.ofJson_eq_ok_iff (v : Json) (x : InputValue) :
    InputValue.ofJson v = .ok x ↔ InputValue.Spells v x := by
  have hnodup : InputValue.shape.slots.Nodup := by decide
  unfold InputValue.ofJson
  simp only [bind_eq_ok_iff]
  constructor
  · rintro ⟨r, hr, _, -, name, hname, description, hdescription, type, htype, defaultValue,
      hdefaultValue, _, hfinish, h⟩
    cases h
    obtain ⟨hrecord, hreads⟩ := reads_of_ofJson hnodup hr hfinish
    exact {
      record := hrecord
      name := (require_eq_ok_iff (hreads.value? rfl) text_eq_ok_iff).mp hname
      description := (getD_nullable_text_eq_ok_iff (hreads.value? rfl)).mp hdescription
      type := (require_eq_ok_iff (hreads.value? rfl) TypeRef.ofJson_eq_ok_iff).mp htype
      defaultValue := (getD_nullable_text_eq_ok_iff (hreads.value? rfl)).mp hdefaultValue }
  · intro h
    obtain ⟨r, hreads⟩ := exists_reads hnodup h.record
    have hname := (require_eq_ok_iff (hreads.value? rfl) text_eq_ok_iff).mpr h.name
    have hdescription := (getD_nullable_text_eq_ok_iff (hreads.value? rfl)).mpr h.description
    have htype := (require_eq_ok_iff (hreads.value? rfl) TypeRef.ofJson_eq_ok_iff).mpr h.type
    have hdefaultValue := (getD_nullable_text_eq_ok_iff (hreads.value? rfl)).mpr h.defaultValue
    refine ⟨r, hreads.ofJson, (), check_eq_ok r ?_, _, hname, _, hdescription, _, htype, _,
      hdefaultValue, (), hreads.finish, rfl⟩
    simp [failure?_of_require hname, failure?_of_getD hdescription,
      failure?_of_require htype, failure?_of_getD hdefaultValue]

theorem Field.ofJson_eq_ok_iff (v : Json) (f : Field) : Field.ofJson v = .ok f ↔ Field.Spells v f := by
  have hnodup : Field.shape.slots.Nodup := by decide
  have inputValues := list_eq_ok_iff InputValue.ofJson_eq_ok_iff
  unfold Field.ofJson
  simp only [bind_eq_ok_iff]
  constructor
  · rintro ⟨r, hr, _, -, name, hname, description, hdescription, args, hargs, type, htype,
      isDeprecated, hisDeprecated, deprecationReason, hdeprecationReason, _, hfinish, h⟩
    cases h
    obtain ⟨hrecord, hreads⟩ := reads_of_ofJson hnodup hr hfinish
    exact {
      record := hrecord
      name := (require_eq_ok_iff (hreads.value? rfl) text_eq_ok_iff).mp hname
      description := (getD_nullable_text_eq_ok_iff (hreads.value? rfl)).mp hdescription
      args := (getD_eq_ok_iff (hreads.value? rfl) inputValues).mp hargs
      type := (require_eq_ok_iff (hreads.value? rfl) TypeRef.ofJson_eq_ok_iff).mp htype
      isDeprecated := (getD_eq_ok_iff (hreads.value? rfl) flag_eq_ok_iff).mp hisDeprecated
      deprecationReason :=
        (getD_nullable_text_eq_ok_iff (hreads.value? rfl)).mp hdeprecationReason }
  · intro h
    obtain ⟨r, hreads⟩ := exists_reads hnodup h.record
    have hname := (require_eq_ok_iff (hreads.value? rfl) text_eq_ok_iff).mpr h.name
    have hdescription := (getD_nullable_text_eq_ok_iff (hreads.value? rfl)).mpr h.description
    have hargs := (getD_eq_ok_iff (hreads.value? rfl) inputValues).mpr h.args
    have htype := (require_eq_ok_iff (hreads.value? rfl) TypeRef.ofJson_eq_ok_iff).mpr h.type
    have hisDeprecated := (getD_eq_ok_iff (hreads.value? rfl) flag_eq_ok_iff).mpr h.isDeprecated
    have hdeprecationReason :=
      (getD_nullable_text_eq_ok_iff (hreads.value? rfl)).mpr h.deprecationReason
    refine ⟨r, hreads.ofJson, (), check_eq_ok r ?_, _, hname, _, hdescription, _, hargs, _, htype,
      _, hisDeprecated, _, hdeprecationReason, (), hreads.finish, rfl⟩
    simp [failure?_of_require hname, failure?_of_getD hdescription, failure?_of_getD hargs,
      failure?_of_require htype, failure?_of_getD hisDeprecated,
      failure?_of_getD hdeprecationReason]

theorem EnumValue.ofJson_eq_ok_iff (v : Json) (x : EnumValue) :
    EnumValue.ofJson v = .ok x ↔ EnumValue.Spells v x := by
  have hnodup : EnumValue.shape.slots.Nodup := by decide
  unfold EnumValue.ofJson
  simp only [bind_eq_ok_iff]
  constructor
  · rintro ⟨r, hr, _, -, name, hname, description, hdescription, isDeprecated, hisDeprecated,
      deprecationReason, hdeprecationReason, _, hfinish, h⟩
    cases h
    obtain ⟨hrecord, hreads⟩ := reads_of_ofJson hnodup hr hfinish
    exact {
      record := hrecord
      name := (require_eq_ok_iff (hreads.value? rfl) text_eq_ok_iff).mp hname
      description := (getD_nullable_text_eq_ok_iff (hreads.value? rfl)).mp hdescription
      isDeprecated := (getD_eq_ok_iff (hreads.value? rfl) flag_eq_ok_iff).mp hisDeprecated
      deprecationReason :=
        (getD_nullable_text_eq_ok_iff (hreads.value? rfl)).mp hdeprecationReason }
  · intro h
    obtain ⟨r, hreads⟩ := exists_reads hnodup h.record
    have hname := (require_eq_ok_iff (hreads.value? rfl) text_eq_ok_iff).mpr h.name
    have hdescription := (getD_nullable_text_eq_ok_iff (hreads.value? rfl)).mpr h.description
    have hisDeprecated := (getD_eq_ok_iff (hreads.value? rfl) flag_eq_ok_iff).mpr h.isDeprecated
    have hdeprecationReason :=
      (getD_nullable_text_eq_ok_iff (hreads.value? rfl)).mpr h.deprecationReason
    refine ⟨r, hreads.ofJson, (), check_eq_ok r ?_, _, hname, _, hdescription, _, hisDeprecated, _,
      hdeprecationReason, (), hreads.finish, rfl⟩
    simp [failure?_of_require hname, failure?_of_getD hdescription, failure?_of_getD hisDeprecated,
      failure?_of_getD hdeprecationReason]

theorem FullType.ofJson_eq_ok_iff (v : Json) (t : FullType) :
    FullType.ofJson v = .ok t ↔ FullType.Spells v t := by
  have hnodup : FullType.shape.slots.Nodup := by decide
  have fields := list_eq_ok_iff Field.ofJson_eq_ok_iff
  have inputValues := list_eq_ok_iff InputValue.ofJson_eq_ok_iff
  have typeRefs := list_eq_ok_iff TypeRef.ofJson_eq_ok_iff
  have enumValues := list_eq_ok_iff EnumValue.ofJson_eq_ok_iff
  unfold FullType.ofJson
  simp only [bind_eq_ok_iff]
  constructor
  · rintro ⟨r, hr, _, -, kind, hkind, name, hname, description, hdescription, fs, hfields,
      inputs, hinputFields, refs, hinterfaces, values, henumValues, types, hpossibleTypes, _,
      hfinish, h⟩
    cases h
    obtain ⟨hrecord, hreads⟩ := reads_of_ofJson hnodup hr hfinish
    exact {
      record := hrecord
      kind := (require_eq_ok_iff (hreads.value? rfl) TypeKind.ofJson_eq_ok_iff).mp hkind
      name := (require_eq_ok_iff (hreads.value? rfl) text_eq_ok_iff).mp hname
      description := (getD_nullable_text_eq_ok_iff (hreads.value? rfl)).mp hdescription
      fields := (getD_nullable_list_eq_ok_iff (hreads.value? rfl) fields).mp hfields
      inputFields :=
        (getD_nullable_list_eq_ok_iff (hreads.value? rfl) inputValues).mp hinputFields
      interfaces := (getD_nullable_list_eq_ok_iff (hreads.value? rfl) typeRefs).mp hinterfaces
      enumValues := (getD_nullable_list_eq_ok_iff (hreads.value? rfl) enumValues).mp henumValues
      possibleTypes :=
        (getD_nullable_list_eq_ok_iff (hreads.value? rfl) typeRefs).mp hpossibleTypes }
  · intro h
    obtain ⟨r, hreads⟩ := exists_reads hnodup h.record
    have hkind := (require_eq_ok_iff (hreads.value? rfl) TypeKind.ofJson_eq_ok_iff).mpr h.kind
    have hname := (require_eq_ok_iff (hreads.value? rfl) text_eq_ok_iff).mpr h.name
    have hdescription := (getD_nullable_text_eq_ok_iff (hreads.value? rfl)).mpr h.description
    have hfields := (getD_nullable_list_eq_ok_iff (hreads.value? rfl) fields).mpr h.fields
    have hinputFields :=
      (getD_nullable_list_eq_ok_iff (hreads.value? rfl) inputValues).mpr h.inputFields
    have hinterfaces :=
      (getD_nullable_list_eq_ok_iff (hreads.value? rfl) typeRefs).mpr h.interfaces
    have henumValues :=
      (getD_nullable_list_eq_ok_iff (hreads.value? rfl) enumValues).mpr h.enumValues
    have hpossibleTypes :=
      (getD_nullable_list_eq_ok_iff (hreads.value? rfl) typeRefs).mpr h.possibleTypes
    refine ⟨r, hreads.ofJson, (), check_eq_ok r ?_, _, hkind, _, hname, _, hdescription, _,
      hfields, _, hinputFields, _, hinterfaces, _, henumValues, _, hpossibleTypes, (),
      hreads.finish, rfl⟩
    simp [failure?_of_require hkind, failure?_of_require hname, failure?_of_getD hdescription,
      failure?_of_getD hfields, failure?_of_getD hinputFields, failure?_of_getD hinterfaces,
      failure?_of_getD henumValues, failure?_of_getD hpossibleTypes]

theorem Directive.ofJson_eq_ok_iff (v : Json) (d : Directive) :
    Directive.ofJson v = .ok d ↔ Directive.Spells v d := by
  have hnodup : Directive.shape.slots.Nodup := by decide
  have texts := list_eq_ok_iff text_eq_ok_iff
  have inputValues := list_eq_ok_iff InputValue.ofJson_eq_ok_iff
  unfold Directive.ofJson
  simp only [bind_eq_ok_iff]
  constructor
  · rintro ⟨r, hr, _, -, name, hname, description, hdescription, locations, hlocations, args,
      hargs, _, hfinish, h⟩
    cases h
    obtain ⟨hrecord, hreads⟩ := reads_of_ofJson hnodup hr hfinish
    exact {
      record := hrecord
      name := (require_eq_ok_iff (hreads.value? rfl) text_eq_ok_iff).mp hname
      description := (getD_nullable_text_eq_ok_iff (hreads.value? rfl)).mp hdescription
      locations := (getD_eq_ok_iff (hreads.value? rfl) texts).mp hlocations
      args := (getD_eq_ok_iff (hreads.value? rfl) inputValues).mp hargs }
  · intro h
    obtain ⟨r, hreads⟩ := exists_reads hnodup h.record
    have hname := (require_eq_ok_iff (hreads.value? rfl) text_eq_ok_iff).mpr h.name
    have hdescription := (getD_nullable_text_eq_ok_iff (hreads.value? rfl)).mpr h.description
    have hlocations := (getD_eq_ok_iff (hreads.value? rfl) texts).mpr h.locations
    have hargs := (getD_eq_ok_iff (hreads.value? rfl) inputValues).mpr h.args
    refine ⟨r, hreads.ofJson, (), check_eq_ok r ?_, _, hname, _, hdescription, _, hlocations, _,
      hargs, (), hreads.finish, rfl⟩
    simp [failure?_of_require hname, failure?_of_getD hdescription, failure?_of_getD hlocations,
      failure?_of_getD hargs]

namespace RootTypeName

theorem not_spells_null (x : RootTypeName) : ¬ Spells .null x :=
  fun h => h.record

theorem ofJson_eq_ok_iff (v : Json) (x : RootTypeName) : ofJson v = .ok x ↔ Spells v x := by
  have hnodup : shape.slots.Nodup := by decide
  unfold ofJson
  simp only [bind_eq_ok_iff]
  constructor
  · rintro ⟨r, hr, _, -, name, hname, _, hfinish, h⟩
    cases h
    obtain ⟨hrecord, hreads⟩ := reads_of_ofJson hnodup hr hfinish
    exact {
      record := hrecord
      name := (require_eq_ok_iff (hreads.value? rfl) text_eq_ok_iff).mp hname }
  · intro h
    obtain ⟨r, hreads⟩ := exists_reads hnodup h.record
    have hname := (require_eq_ok_iff (hreads.value? rfl) text_eq_ok_iff).mpr h.name
    refine ⟨r, hreads.ofJson, (), check_eq_ok r ?_, _, hname, (), hreads.finish, rfl⟩
    simp [failure?_of_require hname]

theorem getD_nullable_eq_ok_iff {r : Record} {name : String} {v? : Option Json}
    (hvalue : r.value? name = v?) {x : Option RootTypeName} :
    (r.slot name (Decode.nullable ofJson)).getD none = .ok x ↔ Optional Spells v? x :=
  Record.getD_nullable_eq_ok_iff hvalue (fun v _ => ofJson_eq_ok_iff v) not_spells_null

end RootTypeName

namespace Schema

theorem ofJson_object_eq_ok_iff (members : List (String × Json)) (s : Schema) :
    ofJson (.object members) = .ok s ↔ Spells members s := by
  have hnodup : shape.slots.Nodup := by decide
  have types := list_eq_ok_iff FullType.ofJson_eq_ok_iff
  have directives := list_eq_ok_iff Directive.ofJson_eq_ok_iff
  unfold ofJson
  simp only [bind_eq_ok_iff]
  constructor
  · rintro ⟨r, hr, _, -, queryType, hqueryType, mutationType, hmutationType, subscriptionType,
      hsubscriptionType, ts, htypes, ds, hdirectives, _, hfinish, h⟩
    cases h
    obtain ⟨-, hreads⟩ := reads_of_ofJson hnodup hr hfinish
    exact {
      queryType := (RootTypeName.getD_nullable_eq_ok_iff
        (hreads.value?_object (by decide))).mp hqueryType
      mutationType := (RootTypeName.getD_nullable_eq_ok_iff
        (hreads.value?_object (by decide))).mp hmutationType
      subscriptionType := (RootTypeName.getD_nullable_eq_ok_iff
        (hreads.value?_object (by decide))).mp hsubscriptionType
      types := (require_eq_ok_iff (hreads.value?_object (by decide)) types).mp htypes
      directives :=
        (getD_eq_ok_iff (hreads.value?_object (by decide)) directives).mp hdirectives }
  · intro h
    obtain ⟨r, hreads⟩ := exists_reads hnodup (show (Json.object members).IsRecord _ from trivial)
    have hqueryType := (RootTypeName.getD_nullable_eq_ok_iff
      (hreads.value?_object (by decide))).mpr h.queryType
    have hmutationType := (RootTypeName.getD_nullable_eq_ok_iff
      (hreads.value?_object (by decide))).mpr h.mutationType
    have hsubscriptionType := (RootTypeName.getD_nullable_eq_ok_iff
      (hreads.value?_object (by decide))).mpr h.subscriptionType
    have htypes := (require_eq_ok_iff (hreads.value?_object (by decide)) types).mpr h.types
    have hdirectives :=
      (getD_eq_ok_iff (hreads.value?_object (by decide)) directives).mpr h.directives
    refine ⟨r, hreads.ofJson, (), check_eq_ok r ?_, _, hqueryType, _, hmutationType, _,
      hsubscriptionType, _, htypes, _, hdirectives, (), hreads.finish, rfl⟩
    simp [failure?_of_getD hqueryType, failure?_of_getD hmutationType,
      failure?_of_getD hsubscriptionType, failure?_of_require htypes,
      failure?_of_getD hdirectives]

/-- Every value that spells a schema has types, so asking for them first refuses none. -/
theorem located_eq_ok_iff (v : Json) (s : Schema) :
    (if (v.member? "types").isNone then Except.error ResponseError.noTypes
      else (ofJson v).mapError .undecodable) = .ok s ↔
      ∃ members, v = .object members ∧ Spells members s := by
  cases v with
  | object members =>
      have hspells : (∃ ms, Json.object members = .object ms ∧ Spells ms s) ↔ Spells members s := by
        simp
      rw [hspells, ← ofJson_object_eq_ok_iff]
      constructor
      · intro h
        split at h
        · cases h
        · exact mapError_eq_ok_iff.mp h
      · intro h
        have hrequired := ((ofJson_object_eq_ok_iff members s).mp h).types
        have htypes : (Json.lastMember? "types" members).isNone = false := by
          generalize Json.lastMember? "types" members = types? at hrequired
          cases hrequired
          rfl
        rw [Json.member?, htypes]
        exact mapError_eq_ok_iff.mpr h
  | _ => simp [Json.member?]

theorem ofResponse_eq_ok_iff (v : Json) (s : Schema) :
    ofResponse v = .ok s ↔ (reportedError? v = none ∨ hasData v = true) ∧
      ∃ members, unwrapResponse v = .object members ∧ Spells members s := by
  rw [← located_eq_ok_iff]
  unfold ofResponse
  cases reportedError? v with
  | none => simp
  | some message => cases hasData v <;> simp

/-- A schema is decoded exactly from the values that spell it, be it on its own or inside the
envelopes of a response. -/
theorem decodes_iff_spells :
    (∀ members s, ofJson (.object members) = .ok s ↔ Spells members s) ∧
      ∀ v s, ofResponse v = .ok s ↔ (reportedError? v = none ∨ hasData v = true) ∧
        ∃ members, unwrapResponse v = .object members ∧ Spells members s :=
  ⟨ofJson_object_eq_ok_iff, ofResponse_eq_ok_iff⟩

end Schema

end SchemaClasses
