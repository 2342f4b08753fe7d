import SchemaClasses.Text.Blank
import SchemaClasses.Text.CaseTables

/-! Upper and lower case by the full Unicode mappings: one character may become several, and a
capital sigma becomes a final sigma at the end of a word. -/

namespace SchemaClasses.Text

/-- The image of a code point that lies in the run. -/
def CaseRun.image? (run : CaseRun) (n : Nat) : Option Nat :=
  if run.first ≤ n ∧ n ≤ run.last ∧ (n - run.first) % run.step = 0 then
    some (run.target + (n - run.first))
  else none

def CaseMap.apply (m : CaseMap) (c : Char) : List Char :=
  match m.longer.lookup c.toNat with
  | some image => image.map Char.ofNat
  | none =>
    match m.runs.findSome? (·.image? c.toNat) with
    | some image => [Char.ofNat image]
    | none => [c]

/-- The upper-case form of a character. -/
def upper (c : Char) : List Char :=
  upperCase.apply c

/-- Whether the first character that is not ignored for case is a cased one. -/
def meetsCased (cs : List Char) : Bool :=
  match cs.dropWhile caseIgnorable.contains with
  | [] => false
  | c :: _ => cased.contains c

/-- The form of a capital sigma between `before`, nearest character first, and `after`. It is final
where a cased letter comes before it and none comes after it. -/
def sigma (before after : List Char) : Char :=
  if meetsCased before && !meetsCased after then 'ς' else 'σ'

/-- Lower-cases a text that stands behind `before`, nearest character first. -/
def lowerAfter (before : List Char) : List Char → List Char
  | [] => []
  | c :: rest =>
    (if c = 'Σ' then [sigma before rest] else lowerCase.apply c) ++ lowerAfter (c :: before) rest

/-- The lower-case form of a text that stands on its own. -/
def lower (cs : List Char) : List Char :=
  lowerAfter [] cs

/-! ### Word case

Names in word case: the words of a text, each with a capital at its head, joined by single
spaces. A name in camel case is one word, so only its first letter is raised. -/

/-- Puts a word's first character in upper case and changes the rest by `tail`. -/
def raise (tail : List Char → List Char) : List Char → List Char
  | [] => []
  | c :: rest => upper c ++ tail rest

/-- The words of a text, raised and joined by one space. -/
def joinWords (tail : List Char → List Char) (cs : List Char) : List Char :=
  [' '].intercalate ((words cs).map (raise tail))

/-- Raises every word and leaves its other characters as they are. -/
def pascal (cs : List Char) : List Char :=
  joinWords id cs

/-- Raises every word and lower-cases its other characters, as a text of their own. -/
def capitalized (cs : List Char) : List Char :=
  joinWords lower cs

def pascalCase (s : String) : String :=
  String.ofList (pascal s.toList)

def capitalize (s : String) : String :=
  String.ofList (capitalized s.toList)

end SchemaClasses.Text
