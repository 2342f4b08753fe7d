import SchemaClasses.Json.Token

/-! Reading a JSON text. The tokens are taken one at a time, with a stack of the brackets that are
open; how many may be open at once is limited. The first character of a token says whether it may
stand there, so a fault within a token is only met where such a token is expected. -/

namespace SchemaClasses.Json

/-- An open bracket with what has been read behind it, last item first. -/
inductive Frame where
  | array (items : List Json)
  | object (members : List (String × Json))
  /-- An object whose next member has its name already. -/
  | member (members : List (String × Json)) (name : String)

/-- What may come next. -/
inductive Expected where
  | value
  /-- Behind an opening `[`. -/
  | valueOrClose
  /-- Behind an opening brace. -/
  | nameOrClose
  | name
  | colon
  /-- A comma or the closing bracket, behind a value. -/
  | separator
  | nothing

def startsValue (c : Char) : Bool :=
  c == '[' || c == '\x7b' || c == '"' || c == 'n' || c == 't' || c == 'f' || c == '-' ||
    (digit? c).isSome

structure Reading where
  frames : List Frame
  expected : Expected
  result : Json

/-- How many brackets may be open at once. -/
def nestingLimit : Nat := 127

namespace Reading

def start : Reading := ⟨[], .value, .null⟩

/-- A value is complete: it goes to the innermost open bracket, or is the whole text. -/
def close (v : Json) : List Frame → Option Reading
  | [] => some ⟨[], .nothing, v⟩
  | .array items :: frames => some ⟨.array (v :: items) :: frames, .separator, .null⟩
  | .member members name :: frames =>
    some ⟨.object ((name, v) :: members) :: frames, .separator, .null⟩
  | .object _ :: _ => none

def openFrame (frame : Frame) (expected : Expected) (frames : List Frame) : Option Reading :=
  if frames.length < nestingLimit then some ⟨frame :: frames, expected, .null⟩ else none

/-- A token where a value may stand. -/
def startValue (frames : List Frame) : Token → Option Reading
  | .literal v => close v frames
  | .number n => close (.number n) frames
  | .string text => close (.string (String.ofList text)) frames
  | .arrayOpen => openFrame (.array []) .valueOrClose frames
  | .objectOpen => openFrame (.object []) .nameOrClose frames
  | _ => none

/-- A token where the name of a member may stand. -/
def startMember : List Frame → Token → Option Reading
  | .object members :: frames, .string text =>
    some ⟨.member members (String.ofList text) :: frames, .colon, .null⟩
  | _, _ => none

def closeBracket : List Frame → Token → Option Reading
  | .array items :: frames, .arrayClose => close (.array items.reverse) frames
  | .object members :: frames, .objectClose => close (.object members.reverse) frames
  | _, _ => none

def step (r : Reading) (t : Token) : Option Reading :=
  match r.expected, t with
  | .value, t => startValue r.frames t
  | .valueOrClose, .arrayClose => closeBracket r.frames .arrayClose
  | .valueOrClose, t => startValue r.frames t
  | .nameOrClose, .objectClose => closeBracket r.frames .objectClose
  | .nameOrClose, t => startMember r.frames t
  | .name, t => startMember r.frames t
  | .colon, .colon => some { r with expected := .value }
  | .separator, .comma =>
    match r.frames with
    | .array _ :: _ => some { r with expected := .value }
    | _ => some { r with expected := .name }
  | .separator, t => closeBracket r.frames t
  | _, _ => none

/-- Why the text may not end here. -/
def endReason? (r : Reading) : Option Reason :=
  match r.expected, r.frames with
  | .value, _ | .name, _ => some .endInValue
  | .valueOrClose, _ | .separator, .array _ :: _ => some .endInList
  | .nameOrClose, _ | .colon, _ | .separator, _ => some .endInObject
  | .nothing, _ => none

/-- Why no token may begin with the character here. -/
def fault? (r : Reading) (c : Char) : Option Reason :=
  match r.expected, r.frames with
  | .value, .array _ :: _ =>
    if c = ']' then some .trailingComma
    else if startsValue c then none else some .expectedValue
  | .value, _ => if startsValue c then none else some .expectedValue
  | .valueOrClose, _ => if c = ']' ∨ startsValue c then none else some .expectedValue
  | .nameOrClose, _ => if c = '\x7d' ∨ c = '"' then none else some .nameNotString
  | .name, _ =>
    if c = '\x7d' then some .trailingComma
    else if c = '"' then none else some .nameNotString
  | .colon, _ => if c = ':' then none else some .expectedColon
  | .separator, .array _ :: _ => if c = ',' ∨ c = ']' then none else some .expectedListEnd
  | .separator, _ => if c = ',' ∨ c = '\x7d' then none else some .expectedObjectEnd
  | .nothing, _ => some .trailingCharacters

end Reading

/-- Goes on reading. A token whose first character may stand here is taken, unless it opens a
bracket too many. -/
def readFrom (r : Reading) (cs : List Char) : Except Fault Json :=
  match _ : cs.dropWhile isSpace with
  | [] =>
    match r.endReason? with
    | some reason => .error (.atEnd reason)
    | none => .ok r.result
  | c :: rest =>
    match r.fault? c with
    | some reason => .error (.found reason (c :: rest))
    | none =>
      match _ : token (c :: rest) with
      | .error fault => .error fault
      | .ok (t, tail) =>
        match r.step t with
        | none => .error (.found .nestedTooDeeply (c :: rest))
        | some next => readFrom next tail
termination_by cs.length
decreasing_by
  rename_i hspace htoken
  have htail := length_of_token htoken
  have hrest := hspace ▸ (List.dropWhile_suffix (l := cs) isSpace).length_le
  omega

/-- The value of a JSON text, or the first fault in it. -/
def read (text : String) : Except SyntaxError Json :=
  (readFrom .start text.toList).mapError (·.locate text.toList)

/-- The value of a JSON text, or nothing if the text is refused. -/
def read? (text : String) : Option Json :=
  (read text).toOption

theorem read?_eq_some_iff {text : String} {v : Json} : read? text = some v ↔ read text = .ok v := by
  unfold read?
  cases read text <;> simp [Except.toOption]

end SchemaClasses.Json
