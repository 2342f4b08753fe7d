import SchemaClasses.Schema.Response

/-! The envelopes of a response. A schema is read alike on its own and inside either envelope or
both. A response that reports errors and carries no data is refused with the first of them, whatever
else it has; any other carries no schema exactly where the value inside the envelopes has no
types. -/

namespace SchemaClasses

namespace Json

/-- The response reports an error. -/
def ReportsErrors (v : Json) : Prop :=
  ∃ first rest, v.member? "errors" = some (.array (first :: rest))

/-- The response has no data, or null for it. -/
def LacksData (v : Json) : Prop :=
  v.member? "data" = none ∨ v.member? "data" = some .null

/-- The message that an error gives, or one for all the errors without a string for it. -/
def HasMessage (error : Json) (message : String) : Prop :=
  error.member? "message" = some (.string message) ∨
    (∀ text, error.member? "message" ≠ some (.string text)) ∧ message = "unknown GraphQL error"

/-- The value of a member, or the value itself where it has none of the name. -/
def Opens (name : String) (v inner : Json) : Prop :=
  v.member? name = some inner ∨ v.member? name = none ∧ inner = v

/-- The value inside the envelopes that are there, from the outer one to the inner one. -/
def Locates (v schema : Json) : Prop :=
  ∃ inner, v.Opens "data" inner ∧ inner.Opens "__schema" schema

/-- An object that can only be a schema, if it is anything of a response. -/
def Standalone (s : Json) : Prop :=
  (∃ members, s = .object members) ∧ s.member? "data" = none ∧ s.member? "__schema" = none ∧
    ¬ s.ReportsErrors

/-- The responses in which a value stands for the schema, whatever their other members are. -/
inductive Envelops (s : Json) : Json → Prop where
  | bare : Envelops s s
  | schema {v : Json} (hschema : v.member? "__schema" = some s) (hdata : v.member? "data" = none)
      (herrors : ¬ v.ReportsErrors) : Envelops s v
  | data {v : Json} (hdata : v.member? "data" = some s) : Envelops s v
  | both {v inner : Json} (hdata : v.member? "data" = some inner)
      (hschema : inner.member? "__schema" = some s) : Envelops s v

theorem opens_getD (name : String) (v : Json) : Opens name v ((v.member? name).getD v) := by
  unfold Opens
  cases v.member? name with
  | none => exact Or.inr ⟨rfl, rfl⟩
  | some inner => exact Or.inl rfl

theorem Opens.eq_getD {name : String} {v inner : Json} (h : Opens name v inner) :
    inner = (v.member? name).getD v := by
  rcases h with hmember | ⟨hnone, rfl⟩
  · rw [hmember]
    rfl
  · rw [hnone]
    rfl

theorem locates_iff (v schema : Json) : v.Locates schema ↔ schema = unwrapResponse v := by
  constructor
  · rintro ⟨inner, hdata, hschema⟩
    rw [hschema.eq_getD, hdata.eq_getD]
    rfl
  · rintro rfl
    exact ⟨_, opens_getD "data" v, opens_getD "__schema" _⟩

theorem ne_null_of_member? {name : String} {v inner : Json} (h : v.member? name = some inner) :
    v ≠ .null := by
  rintro rfl
  cases h

theorem not_lacksData_of_member? {v inner : Json} (hdata : v.member? "data" = some inner)
    (hinner : inner ≠ .null) : ¬ v.LacksData := by
  rintro (hnone | hnull)
  · rw [hdata] at hnone
    cases hnone
  · rw [hdata] at hnull
    exact hinner (Option.some.inj hnull)

/-- Each envelope is opened down to the schema, and none of the responses is refused: without data
there are no errors, and with data they do not matter. -/
theorem Envelops.locates_and_not_refused {s v : Json} (hs : s.Standalone) (h : Envelops s v) :
    v.Locates s ∧ ¬ (v.ReportsErrors ∧ v.LacksData) := by
  obtain ⟨⟨members, rfl⟩, hnoData, hnoSchema, hnoErrors⟩ := hs
  have hopens : (Json.object members).Opens "__schema" (.object members) :=
    Or.inr ⟨hnoSchema, rfl⟩
  cases h with
  | bare => exact ⟨⟨_, Or.inr ⟨hnoData, rfl⟩, hopens⟩, fun h => hnoErrors h.1⟩
  | schema hschema hdata herrors =>
      exact ⟨⟨v, Or.inr ⟨hdata, rfl⟩, Or.inl hschema⟩, fun h => herrors h.1⟩
  | data hdata =>
      exact ⟨⟨_, Or.inl hdata, hopens⟩,
        fun h => not_lacksData_of_member? hdata Json.noConfusion h.2⟩
  | both hdata hschema =>
      exact ⟨⟨_, Or.inl hdata, Or.inl hschema⟩,
        fun h => not_lacksData_of_member? hdata (ne_null_of_member? hschema) h.2⟩

end Json

/-- The errors of a text that is JSON but carries no schema. -/
def ResponseError.IsInvalid : ResponseError → Prop
  | refused _ | noTypes => True
  | malformed _ | undecodable _ => False

section

variable {v schema : Json}

theorem reportedError?_eq_none (h : ¬ v.ReportsErrors) : reportedError? v = none := by
  unfold reportedError?
  split
  · rename_i first rest herrors
    exact absurd ⟨first, rest, herrors⟩ h
  · rfl

theorem reportedError?_eq_some {first : Json} {rest : List Json}
    (herrors : v.member? "errors" = some (.array (first :: rest))) :
    ∃ message, first.HasMessage message ∧ reportedError? v = some message := by
  rw [reportedError?, herrors]
  refine ⟨_, ?_, rfl⟩
  unfold Json.HasMessage
  cases first.member? "message" with
  | none => exact Or.inr ⟨fun _ => by simp, rfl⟩
  | some value =>
      cases value with
      | string text => exact Or.inl rfl
      | _ => exact Or.inr ⟨fun _ => by simp, rfl⟩

theorem hasData_eq_false_iff : hasData v = false ↔ v.LacksData := by
  unfold hasData Json.LacksData
  cases v.member? "data" with
  | none => simp
  | some value => cases value <;> simp

namespace Schema

theorem ofResponse_eq_refused {first : Json} {rest : List Json}
    (herrors : v.member? "errors" = some (.array (first :: rest))) (hdata : v.LacksData) :
    ∃ message, first.HasMessage message ∧ ofResponse v = .error (.refused message) := by
  obtain ⟨message, hmessage, hreported⟩ := reportedError?_eq_some herrors
  refine ⟨message, hmessage, ?_⟩
  rw [ofResponse, hreported, hasData_eq_false_iff.mpr hdata]

/-- A response that is not refused comes to what the value inside its envelopes comes to. -/
theorem ofResponse_eq_of_locates (hlocates : v.Locates schema)
    (h : ¬ (v.ReportsErrors ∧ v.LacksData)) :
    ofResponse v = if (schema.member? "types").isNone then .error .noTypes
      else (ofJson schema).mapError .undecodable := by
  rw [(Json.locates_iff v schema).mp hlocates, ofResponse]
  by_cases herrors : v.ReportsErrors
  · have hdata : hasData v = true := by
      rw [← Bool.not_eq_false, hasData_eq_false_iff]
      exact fun hlacks => h ⟨herrors, hlacks⟩
    rw [hdata]
    split
    · contradiction
    · rfl
  · rw [reportedError?_eq_none herrors]

theorem invalid_iff (hlocates : v.Locates schema) (h : ¬ (v.ReportsErrors ∧ v.LacksData)) :
    (∃ e, ofResponse v = .error e ∧ e.IsInvalid) ↔ schema.member? "types" = none := by
  rw [ofResponse_eq_of_locates hlocates h]
  cases schema.member? "types" with
  | none => simp [ResponseError.IsInvalid]
  | some types =>
      -- What a value with types comes to is a schema, or the error of its decoding.
      have hdecoded : ¬ ∃ e, (ofJson schema).mapError ResponseError.undecodable = .error e ∧
          e.IsInvalid := by
        rintro ⟨e, he, hinvalid⟩
        cases hread : ofJson schema with
        | ok s =>
            rw [hread] at he
            cases he
        | error error =>
            rw [hread] at he
            cases he
            exact hinvalid
      simpa using hdecoded

/-- The law of the envelopes: in each of them a schema is read as on its own; a response of errors
alone is refused with the message of the first; any other has no schema exactly where the value
inside the envelopes has no types, as a value that is no object has none. -/
theorem ofResponse_envelops_and_refused_and_invalid_iff :
    (∀ s v : Json, s.Standalone → s.Envelops v → ofResponse v = ofResponse s) ∧
    (∀ (v first : Json) (rest : List Json),
      v.member? "errors" = some (.array (first :: rest)) → v.LacksData →
        ∃ message, first.HasMessage message ∧ ofResponse v = .error (.refused message)) ∧
    ∀ v : Json, ¬ (v.ReportsErrors ∧ v.LacksData) →
      ∃ schema, v.Locates schema ∧
        ((∃ e, ofResponse v = .error e ∧ e.IsInvalid) ↔ schema.member? "types" = none) ∧
        ((∀ members, schema ≠ .object members) → ofResponse v = .error .noTypes) := by
  refine ⟨?_, fun v first rest => ofResponse_eq_refused, ?_⟩
  · intro s v hs h
    obtain ⟨hlocates, hv⟩ := h.locates_and_not_refused hs
    obtain ⟨hself, hrefused⟩ := Json.Envelops.bare.locates_and_not_refused hs
    rw [ofResponse_eq_of_locates hlocates hv, ofResponse_eq_of_locates hself hrefused]
  · intro v h
    have hlocates := (Json.locates_iff v _).mpr rfl
    refine ⟨_, hlocates, invalid_iff hlocates h, fun hobject => ?_⟩
    have htypes : (unwrapResponse v).member? "types" = none := by
      unfold Json.member?
      split
      · rename_i members heq
        exact absurd heq (hobject members)
      · rfl
    rw [ofResponse_eq_of_locates hlocates h, htypes]
    rfl

end Schema

end

namespace Envelopes

def schema : Json :=
  .object [("types", .array [.object [("kind", .string "SCALAR"), ("name", .string "Int")]])]

/-- Both envelopes, with an error beside the data. -/
def response : Json :=
  .object [("errors", .array [.object [("message", .string "deprecated field")]]),
    ("data", .object [("__typename", .string "Query"), ("__schema", schema)])]

/-- A schema beside an error that has no message. -/
def refusal : Json :=
  .object [("errors", .array [.object [("path", .array [])], .string "timeout"]),
    ("data", .null), ("__schema", schema)]

/-- An error beside data that is no object. -/
def partialAnswer : Json :=
  .object [("errors", .array [.object [("message", .string "denied")]]), ("data", .array [])]

theorem ofResponse_envelops_and_refused_and_invalid_iff_in_responses :
    (schema.Standalone ∧ schema.Envelops response ∧ response.ReportsErrors ∧
      Schema.ofResponse response = .ok ⟨none, none, none, [.plain .scalar "Int"], []⟩) ∧
    (refusal.LacksData ∧
      Schema.ofResponse refusal = .error (.refused "unknown GraphQL error")) ∧
    partialAnswer.ReportsErrors ∧ Schema.ofResponse partialAnswer = .error .noTypes := by
  obtain ⟨hread, hrefused, hinvalid⟩ := Schema.ofResponse_envelops_and_refused_and_invalid_iff
  have hschema : schema.Standalone := by
    refine ⟨⟨_, rfl⟩, rfl, rfl, ?_⟩
    rintro ⟨first, rest, h⟩
    cases h
  have henvelops : schema.Envelops response := .both rfl rfl
  have hlacks : refusal.LacksData := Or.inr rfl
  have hpartial : ¬ (partialAnswer.ReportsErrors ∧ partialAnswer.LacksData) := by
    rintro ⟨-, h | h⟩ <;> cases h
  refine ⟨⟨hschema, henvelops, ⟨_, _, rfl⟩, ?_⟩, ⟨hlacks, ?_⟩, ⟨_, _, rfl⟩, ?_⟩
  · rw [hread schema response hschema henvelops]
    rfl
  · obtain ⟨message, hmessage, hresult⟩ := hrefused refusal _ _ rfl hlacks
    rcases hmessage with hstring | ⟨-, rfl⟩
    · cases hstring
    · exact hresult
  · obtain ⟨value, ⟨inner, hdata, hvalue⟩, -, hnoTypes⟩ := hinvalid partialAnswer hpartial
    apply hnoTypes
    rintro members rfl
    rcases hdata with hdata | ⟨hdata, -⟩
    · cases hdata
      rcases hvalue with h | ⟨-, h⟩ <;> cases h
    · cases hdata

end Envelopes

end SchemaClasses
