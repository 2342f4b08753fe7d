import SchemaClasses.Model.CSharp
import SchemaClasses.Proofs.CaseMappings
import SchemaClasses.Proofs.Words
import SchemaClasses.Proofs.Trimming

/-! Word case as a normal form. A text in word case is told by its words, each with its first
character raised, and is left as it is when it is put in word case again. No identifier in word case
is a keyword of C#, since these begin with small letters. -/

namespace SchemaClasses

/-- The keywords of C#. -/
def CSharp.keywords : List String :=
  ["abstract", "as", "base", "bool", "break", "byte", "case", "catch", "char", "checked", "class",
    "const", "continue", "decimal", "default", "delegate", "do", "double", "else", "enum", "event",
    "explicit", "extern", "false", "finally", "fixed", "float", "for", "foreach", "goto", "if",
    "implicit", "in", "int", "interface", "internal", "is", "lock", "long", "namespace", "new",
    "null", "object", "operator", "out", "override", "params", "private", "protected", "public",
    "readonly", "ref", "return", "sbyte", "sealed", "short", "sizeof", "stackalloc", "static",
    "string", "struct", "switch", "this", "throw", "true", "try", "typeof", "uint", "ulong",
    "unchecked", "unsafe", "ushort", "using", "virtual", "void", "volatile", "while"]

namespace Text

/-- The second word is the first one with its first character in upper case. -/
def Raises (word raised : List Char) : Prop :=
  ∃ first rest, word = first :: rest ∧ raised = upper first ++ rest

theorem raises_raise {word : List Char} (h : word ≠ []) : Raises word (raise id word) := by
  obtain ⟨first, rest, rfl⟩ := List.exists_cons_of_ne_nil h
  exact ⟨first, rest, rfl, rfl⟩

theorem isWord_raise {word : List Char} (h : IsWord word) : IsWord (raise id word) := by
  obtain ⟨first, rest, rfl⟩ := List.exists_cons_of_ne_nil h.1
  obtain ⟨hfirst, hrest⟩ := List.forall_mem_cons.mp h.2
  refine ⟨List.append_ne_nil_of_left_ne_nil (upper_ne_nil first) rest, fun c hc => ?_⟩
  rcases List.mem_append.mp hc with hc | hc
  · exact isBlank_of_mem_upper hfirst hc
  · exact hrest c hc

/-- A raised word begins with a character that is its own upper-case form. -/
theorem exists_raise_eq_cons {word : List Char} (h : word ≠ []) :
    ∃ head rest, raise id word = head :: rest ∧ upper head = [head] := by
  obtain ⟨first, rest, rfl⟩ := List.exists_cons_of_ne_nil h
  obtain ⟨head, others, hupper, hhead⟩ := exists_upper_eq_cons first
  refine ⟨head, others ++ rest, ?_, hhead⟩
  rw [raise, hupper]
  rfl

theorem raise_raise (word : List Char) : raise id (raise id word) = raise id word := by
  cases word with
  | nil => rfl
  | cons first rest =>
      obtain ⟨head, others, hraise, hhead⟩ := exists_raise_eq_cons (List.cons_ne_nil first rest)
      rw [hraise, raise, hhead]
      rfl

theorem words_pascal (cs : List Char) : words (pascal cs) = (words cs).map (raise id) :=
  words_joinWords fun _ => isWord_raise

theorem pascal_pascal (cs : List Char) : pascal (pascal cs) = pascal cs := by
  have hraise : raise id ∘ raise id = raise id := funext raise_raise
  calc
    pascal (pascal cs) = joined ((words (pascal cs)).map (raise id)) := rfl
    _ = joined ((words cs).map (raise id ∘ raise id)) := by rw [words_pascal, List.map_map]
    _ = pascal cs := by rw [hraise]; rfl

theorem isLower_of_mem_words_pascal {cs word : List Char} (hword : word ∈ words (pascal cs)) :
    ∀ c ∈ word.head?, c.isLower = false := by
  rw [words_pascal] at hword
  obtain ⟨unraised, hunraised, rfl⟩ := List.mem_map.mp hword
  obtain ⟨head, rest, hraise, hhead⟩ := exists_raise_eq_cons (isWord_of_mem_words hunraised).1
  rw [hraise]
  rintro _ ⟨⟩
  exact isLower_of_upper_eq_self hhead

theorem keywords_begin_small : ∀ word ∈ CSharp.keywords,
    words word.toList = [word.toList] ∧ word.toList.head?.any Char.isLower := by
  decide +kernel

theorem pascalCase_not_keyword (s : String) : pascalCase s ∉ CSharp.keywords := by
  intro hkeyword
  obtain ⟨hwords, hsmall⟩ := keywords_begin_small _ hkeyword
  have hheads : ∀ word ∈ words (pascalCase s).toList, ∀ c ∈ word.head?, c.isLower = false := by
    rw [pascalCase, String.toList_ofList]
    exact fun word => isLower_of_mem_words_pascal
  rw [hwords] at hheads
  obtain ⟨c, hc, hlower⟩ := Option.any_eq_true _ _ |>.mp hsmall
  rw [hheads _ List.mem_cons_self c hc] at hlower
  cases hlower

/-- What word case makes of a text. It has the words of the text, raised, with one space between
each two. It is told by these words, so it is in word case already, and texts with blanks between
them are put in word case each by itself. -/
structure HasNormalForm (x : String) : Prop where
  words_eq : words x.toList = (x.toList.splitOnP isBlank).filter fun part => !part.isEmpty
  raised : List.Forall₂ Raises (words x.toList) (words (pascalCase x).toList)
  eq_intercalate : (pascalCase x).toList = [' '].intercalate (words (pascalCase x).toList)
  singleSpaced : SingleSpaced (pascalCase x).toList
  eq_of_words_eq : ∀ y : String, words y.toList = words x.toList → pascalCase y = pascalCase x
  idempotent : pascalCase (pascalCase x) = pascalCase x
  append : ∀ blanks y : String, blanks ≠ "" → (∀ c ∈ blanks.toList, isBlank c) →
    (∃ c ∈ x.toList, ¬ isBlank c) → (∃ c ∈ y.toList, ¬ isBlank c) →
    pascalCase (x ++ blanks ++ y) = pascalCase x ++ " " ++ pascalCase y
  isLower_eq_false : ∀ word ∈ words (pascalCase x).toList, ∀ c ∈ word.head?, c.isLower = false

end Text

/-- The identifiers of a member and of a constant in C# are its name in word case, and no
keyword. -/
structure CSharp.NamesInWordCase (x : String) : Prop where
  storage : ∀ type, Dialect.csharp.storage x type =
    ["public " ++ type ++ " " ++ Text.pascalCase x ++ " \x7b get; set; \x7d"]
  signature : ∀ type, Dialect.csharp.signature x type =
    [type ++ " " ++ Text.pascalCase x ++ " \x7b get; set; \x7d"]
  constant : Dialect.csharp.constant x = Text.pascalCase x
  not_keyword : Text.pascalCase x ∉ CSharp.keywords

/-- Word case is a normal form for every text. No word of it begins with a small letter of ASCII,
and so no property and no constant of C# is called by a keyword. -/
theorem pascalCase_normal_form (x : String) : Text.HasNormalForm x ∧ CSharp.NamesInWordCase x := by
  have hwords : Text.words (Text.pascalCase x).toList =
      (Text.words x.toList).map (Text.raise id) := by
    rw [Text.pascalCase, String.toList_ofList, Text.words_pascal]
  constructor
  · refine
      { words_eq := Text.words_eq_filter x.toList
        raised := ?raised
        eq_intercalate := ?eq_intercalate
        singleSpaced := ?singleSpaced
        eq_of_words_eq := ?eq_of_words_eq
        idempotent := ?idempotent
        append := ?append
        isLower_eq_false := ?isLower_eq_false }
    case raised =>
      rw [hwords, List.forall₂_map_right_iff, List.forall₂_same]
      exact fun word hword => Text.raises_raise (Text.isWord_of_mem_words hword).1
    case eq_intercalate =>
      rw [hwords, Text.pascalCase, String.toList_ofList]
      rfl
    case singleSpaced =>
      rw [Text.pascalCase, String.toList_ofList]
      exact Text.singleSpaced_joinWords fun _ => Text.isWord_raise
    case eq_of_words_eq =>
      intro y hy
      rw [Text.pascalCase, Text.pascal, Text.joinWords_eq, hy]
      rfl
    case idempotent =>
      rw [Text.pascalCase, Text.pascalCase, String.toList_ofList, Text.pascal_pascal]
    case append =>
      intro blanks y hne hblanks hx hy
      have happend := Text.joinWords_append (by simpa using hne) hblanks hx hy id
      rw [← String.toList_inj]
      simpa [Text.pascalCase, Text.pascal] using happend
    case isLower_eq_false =>
      rw [Text.pascalCase, String.toList_ofList]
      exact fun word => Text.isLower_of_mem_words_pascal
  · refine ⟨fun type => ?_, fun _ => rfl, rfl, Text.pascalCase_not_keyword x⟩
    show ["public " ++ CSharp.property x type] = _
    rw [CSharp.property, String.append_assoc, String.append_assoc, String.append_assoc,
      String.append_assoc, String.append_assoc]

namespace Ligatures

/-- Words whose first characters become two, between blanks of several kinds. -/
def text : String := "\u2003ßeta \t ﬁeld\n"

def name : String := "ŉame"

theorem pascalCase_normal_form_of_text :
    Text.pascalCase text = "SSeta FIeld" ∧
    List.Forall₂ Text.Raises (["ßeta", "ﬁeld"].map String.toList)
      (["SSeta", "FIeld"].map String.toList) ∧
    Text.pascalCase (Text.pascalCase text) = Text.pascalCase text ∧
    (" \u0085" ≠ "" ∧ (∀ c ∈ " \u0085".toList, Text.isBlank c) ∧
      (∃ c ∈ text.toList, ¬ Text.isBlank c) ∧ ∃ c ∈ name.toList, ¬ Text.isBlank c) ∧
    Text.pascalCase (text ++ " \u0085" ++ name) =
      Text.pascalCase text ++ " " ++ Text.pascalCase name ∧
    Text.pascalCase name ∉ CSharp.keywords := by
  have hblanks : ∀ c ∈ " \u0085".toList, Text.isBlank c := Text.forall_mem_of_all (by decide)
  have htext : ∃ c ∈ text.toList, ¬ Text.isBlank c := ⟨'ß', by decide, by decide⟩
  have hname : ∃ c ∈ name.toList, ¬ Text.isBlank c := ⟨'a', by decide, by decide⟩
  have hpascal : Text.pascalCase text = "SSeta FIeld" := by decide +kernel
  obtain ⟨hform, -⟩ := pascalCase_normal_form text
  obtain ⟨-, hnames⟩ := pascalCase_normal_form name
  have hraised := hform.raised
  rw [hpascal] at hraised
  exact ⟨hpascal, hraised, hform.idempotent, ⟨by decide, hblanks, htext, hname⟩,
    hform.append _ name (by decide) hblanks htext hname, hnames.not_keyword⟩

end Ligatures

end SchemaClasses
