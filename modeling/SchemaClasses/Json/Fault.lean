/-! Faults in a JSON text. A text is refused for the first fault that is met in it, and the message
says at which line and column that is. -/

namespace SchemaClasses.Json

/-- What is wrong with a text. -/
inductive Reason where
  | endInList
  | endInObject
  | endInString
  | endInValue
  | expectedColon
  | expectedListEnd
  | expectedObjectEnd
  | expectedLiteral
  | expectedValue
  | invalidEscape
  | invalidNumber
  /-- A number that no double comes close to. -/
  | numberTooLarge
  | controlCharacter
  | nameNotString
  /-- An escape for the second half of a surrogate pair without the first, or for a first half with
  another escape than the second behind it. -/
  | loneSurrogate
  | trailingComma
  | trailingCharacters
  /-- The first half of a surrogate pair with no escape by number behind it. -/
  | endInEscape
  | nestedTooDeeply
deriving DecidableEq, Repr

def Reason.message : Reason → String
  | endInList => "EOF while parsing a list"
  | endInObject => "EOF while parsing an object"
  | endInString => "EOF while parsing a string"
  | endInValue => "EOF while parsing a value"
  | expectedColon => "expected `:`"
  | expectedListEnd => "expected `,` or `]`"
  | expectedObjectEnd => "expected `,` or `\x7d`"
  | expectedLiteral => "expected ident"
  | expectedValue => "expected value"
  | invalidEscape => "invalid escape"
  | invalidNumber => "invalid number"
  | numberTooLarge => "number out of range"
  | controlCharacter => "control character (\\u0000-\\u001F) found while parsing a string"
  | nameNotString => "key must be a string"
  | loneSurrogate => "lone leading surrogate in hex escape"
  | trailingComma => "trailing comma"
  | trailingCharacters => "trailing characters"
  | endInEscape => "unexpected end of hex escape"
  | nestedTooDeeply => "recursion limit exceeded"

/-- The number of bytes that encode the characters. -/
def byteLength : List Char → Nat
  | [] => 0
  | c :: cs => c.utf8Size + byteLength cs

/-- What is wrong and where, told by what the text still has behind that place. -/
structure Fault where
  reason : Reason
  /-- The number of bytes behind the place. -/
  unread : Nat
deriving DecidableEq, Repr

namespace Fault

/-- The text ends where it should go on. -/
def atEnd (reason : Reason) : Fault :=
  ⟨reason, 0⟩

/-- What has just been read is wrong. -/
def before (reason : Reason) (rest : List Char) : Fault :=
  ⟨reason, byteLength rest⟩

/-- What comes next is wrong. Its first byte belongs to what has been read, whether or not that is
the whole character. -/
def found (reason : Reason) (rest : List Char) : Fault :=
  ⟨reason, byteLength rest - 1⟩

/-- What comes next is wrong, or nothing does. -/
def unexpected (atEnd reason : Reason) : List Char → Fault
  | [] => .atEnd atEnd
  | rest => .found reason rest

end Fault

/-- A place in a text. Lines are counted from one; a column is the number of bytes in front of the
place in its line. -/
structure Position where
  line : Nat
  column : Nat
deriving DecidableEq, Repr

/-- The place so many bytes further on in a text. -/
def Position.advance (p : Position) : Nat → List Char → Position
  | 0, _ => p
  | _, [] => p
  | bytes, '\n' :: cs => advance ⟨p.line + 1, 0⟩ (bytes - 1) cs
  | bytes, c :: cs =>
    advance ⟨p.line, p.column + min bytes c.utf8Size⟩ (bytes - c.utf8Size) cs

structure SyntaxError where
  reason : Reason
  position : Position
deriving DecidableEq, Repr

def SyntaxError.message (e : SyntaxError) : String :=
  e.reason.message ++ " at line " ++ toString e.position.line ++ " column " ++
    toString e.position.column

def Fault.locate (fault : Fault) (text : List Char) : SyntaxError :=
  ⟨fault.reason, .advance ⟨1, 0⟩ (byteLength text - fault.unread) text⟩

end SchemaClasses.Json
