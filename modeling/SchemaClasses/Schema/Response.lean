import SchemaClasses.Json.Reader
import SchemaClasses.Schema.Decoding

/-! The answer to an introspection query. A schema is accepted inside the whole response, inside its
`data` member alone, and on its own. A response that only carries errors is refused with the first
of them. -/

namespace SchemaClasses

/-- Why a text holds no schema. -/
inductive ResponseError where
  /-- The text cannot be read as JSON. -/
  | malformed (error : Json.SyntaxError)
  | undecodable (error : DecodeError)
  /-- The service answered with an error and without data. -/
  | refused (message : String)
  | noTypes
deriving DecidableEq, Repr

def ResponseError.message : ResponseError → String
  | malformed error => "failed to parse introspection response: " ++ error.message
  | undecodable error => "failed to parse introspection response: " ++ error.message
  | refused message => "invalid introspection response: " ++ message
  | noTypes => "invalid introspection response: no `__schema.types` member found"

/-- The message of the first error that a response reports. -/
def reportedError? (v : Json) : Option String :=
  match v.member? "errors" with
  | some (.array (first :: _)) =>
    some (((first.member? "message").bind Json.text?).getD "unknown GraphQL error")
  | _ => none

/-- Whether a response carries data. -/
def hasData (v : Json) : Bool :=
  match v.member? "data" with
  | none | some .null => false
  | some _ => true

/-- The value inside the envelopes that are there. -/
def unwrapResponse (v : Json) : Json :=
  let inner := (v.member? "data").getD v
  (inner.member? "__schema").getD inner

namespace Schema

def ofResponse (v : Json) : Except ResponseError Schema :=
  match reportedError? v, hasData v with
  | some message, false => .error (.refused message)
  | _, _ =>
    let inner := unwrapResponse v
    if (inner.member? "types").isNone then .error .noTypes
    else (Schema.ofJson inner).mapError .undecodable

/-- The schema in a JSON text. -/
def ofText (text : String) : Except ResponseError Schema :=
  match Json.read text with
  | .error error => .error (.malformed error)
  | .ok v => ofResponse v

end Schema

end SchemaClasses
