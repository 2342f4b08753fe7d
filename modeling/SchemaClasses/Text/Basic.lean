/-! Sets of characters by ascending ranges of code points, the lines of a text, and texts cut at a
separator. A line ends at a line feed, and a carriage return directly before that line feed belongs
to the ending. A text that ends with a line feed has no empty line after it. -/

namespace SchemaClasses.Text

/-! ### Sets of characters -/

/-- A set of code points as closed ranges, in ascending order and without overlap. -/
structure CodeSet where
  ranges : List (Nat × Nat)

namespace CodeSet

/-- Membership in ascending ranges. The search ends at the first range that is not wholly below
the code point. -/
def covers : List (Nat × Nat) → Nat → Bool
  | [], _ => false
  | (first, last) :: rest, n => if last < n then covers rest n else decide (first ≤ n)

def contains (s : CodeSet) (c : Char) : Bool :=
  covers s.ranges c.toNat

end CodeSet

/-! ### Lines -/

/-- The text cut behind every line feed: all pieces but the last end with one, and together they
are the text. -/
def pieces : List Char → List (List Char)
  | [] => []
  | c :: rest =>
    if c = '\n' then [c] :: pieces rest
    else match pieces rest with
      | [] => [[c]]
      | piece :: others => (c :: piece) :: others

/-- A piece without its line ending. -/
def dropEnding (piece : List Char) : List Char :=
  match piece.reverse with
  | '\n' :: '\r' :: line => line.reverse
  | '\n' :: line => line.reverse
  | _ => piece

def lines (cs : List Char) : List (List Char) :=
  (pieces cs).map dropEnding

/-! ### Parts -/

/-- The text before the first occurrence of a separator, and the text behind it. -/
def cutFirst? (sep : Char) : List Char → Option (List Char × List Char)
  | [] => none
  | c :: rest =>
    if c = sep then some ([], rest)
    else (cutFirst? sep rest).map fun (before, behind) => (c :: before, behind)

/-- The text before the last occurrence of a separator, and the text behind it. -/
def cutLast? (sep : Char) : List Char → Option (List Char × List Char)
  | [] => none
  | c :: rest =>
    match cutLast? sep rest with
    | some (before, behind) => some (c :: before, behind)
    | none => if c = sep then some ([], rest) else none

/-- Lower case for the letters A to Z only. -/
def asciiLower (s : String) : String :=
  String.ofList (s.toList.map Char.toLower)

end SchemaClasses.Text
