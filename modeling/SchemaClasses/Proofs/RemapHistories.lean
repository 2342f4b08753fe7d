import Mathlib.Data.Finset.Card
import Mathlib.Data.List.Perm.Basic
import SchemaClasses.Model.Options

/-! Tables of rules by their histories. Rules are entered one after the other into an empty table or
into the built-in one of a language. Whatever is entered, a name stands where it was entered first,
and has the type that was entered last. -/

namespace SchemaClasses

namespace RemapTable

/-! ### Single steps -/

theorem names_insert (table : RemapTable) (name : String) (type : TypeRef) :
    (table.insert name type).names =
      if name ∈ table.names then table.names else table.names ++ [name] :=
  Entries.keys_set name type table.rules

theorem get?_insert (table : RemapTable) (name other : String) (type : TypeRef) :
    (table.insert name type).get? other = if other = name then some type else table.get? other :=
  Entries.get?_set name other type table.rules

/-- A rule is entered into a table that is at hand, or into one that is made in a chain. -/
inductive Step where
  | insert (name : String) (type : TypeRef)
  | rule (name : String) (type : TypeRef)
deriving DecidableEq, Repr

namespace Step

def name : Step → String
  | insert name _ | rule name _ => name

def type : Step → TypeRef
  | insert _ type | rule _ type => type

end Step

def step (table : RemapTable) : Step → RemapTable
  | .insert name type => table.insert name type
  | .rule name type => table.rule name type

theorem step_eq_insert (table : RemapTable) (s : Step) :
    table.step s = table.insert s.name s.type := by
  cases s <;> rfl

/-! ### Runs -/

def stepped (table : RemapTable) (steps : List Step) : RemapTable :=
  steps.foldl step table

/-- The names that are not in the table, in the order in which they are first entered. -/
def newNames (table : RemapTable) (steps : List Step) : List String :=
  ((steps.map Step.name).filter (· ∉ table.names)).eraseDups

/-- The type in the last of the steps with the name, or else the one in the table. -/
def last? (table : RemapTable) (steps : List Step) (name : String) : Option TypeRef :=
  ((steps.filter (·.name = name)).getLast?.map Step.type).or (table.get? name)

theorem stepped_cons (table : RemapTable) (s : Step) (steps : List Step) :
    table.stepped (s :: steps) = (table.insert s.name s.type).stepped steps := by
  rw [stepped, List.foldl_cons, step_eq_insert]
  rfl

theorem names_stepped (table : RemapTable) (steps : List Step) :
    (table.stepped steps).names = table.names ++ table.newNames steps := by
  induction steps generalizing table with
  | nil => exact (List.append_nil _).symm
  | cons s steps ih =>
      rw [stepped_cons, ih, newNames, newNames, names_insert, List.map_cons]
      by_cases hs : s.name ∈ table.names
      · rw [if_pos hs, List.filter_cons_of_neg (by simpa using hs)]
      -- The names that are new from now on are the new ones but for that of the step.
      · have hfilter : (steps.map Step.name).filter (· ∉ table.names ++ [s.name]) =
            ((steps.map Step.name).filter (· ∉ table.names)).filter
              (fun name => !name == s.name) := by
          rw [List.filter_filter]
          apply List.filter_congr
          intro name _
          rw [Bool.eq_iff_iff]
          simp [and_comm]
        rw [if_neg hs, List.filter_cons_of_pos (by simpa using hs), List.eraseDups_cons, hfilter,
          List.append_assoc]
        rfl

theorem nodup_names_stepped {table : RemapTable} (h : table.names.Nodup) (steps : List Step) :
    (table.stepped steps).names.Nodup := by
  induction steps generalizing table with
  | nil => exact h
  | cons s steps ih =>
      rw [stepped_cons]
      exact ih (Entries.nodup_keys_set h s.name s.type)

theorem get?_stepped (table : RemapTable) (steps : List Step) (name : String) :
    (table.stepped steps).get? name = table.last? steps name := by
  induction steps generalizing table with
  | nil => rfl
  | cons s steps ih =>
      rw [stepped_cons, ih, last?, last?, get?_insert]
      by_cases hs : s.name = name
      · rw [if_pos hs.symm, List.filter_cons_of_pos (by simpa using hs), List.getLast?_cons]
        cases (steps.filter (·.name = name)).getLast? <;> rfl
      · rw [if_neg (Ne.symm hs), List.filter_cons_of_neg (by simpa using hs)]

theorem mem_names_stepped (table : RemapTable) (steps : List Step) (name : String) :
    name ∈ (table.stepped steps).names ↔ name ∈ table.names ++ steps.map Step.name := by
  rw [names_stepped, newNames, List.mem_append, List.mem_append, List.mem_eraseDups,
    List.mem_filter, decide_eq_true_iff]
  tauto

/-- Without repeated names, the rules of a table are what is found in it. -/
theorem mem_rules_iff {table : RemapTable} (h : table.names.Nodup) (name : String)
    (type : TypeRef) : (name, type) ∈ table.rules ↔ table.get? name = some type :=
  (Entries.get?_eq_some_iff_mem h name type).symm

/-! ### Histories -/

/-- What a history begins with. -/
inductive Start where
  | empty
  | builtIn (language : Language)
deriving DecidableEq, Repr

def Start.table : Start → RemapTable
  | empty => .empty
  | builtIn language => .builtIn language

theorem Start.nodup_names (start : Start) : start.table.names.Nodup := by
  cases start with
  | empty => exact List.nodup_nil
  | builtIn language => cases language <;> decide

structure History where
  start : Start
  steps : List Step
deriving DecidableEq, Repr

namespace History

def table (h : History) : RemapTable :=
  h.start.table.stepped h.steps

/-- The replacement that was entered last under a name, if there was one, at the start or after. -/
def replacement? (h : History) (name : String) : Option TypeRef :=
  h.start.table.last? h.steps name

theorem nodup_names (h : History) : h.table.names.Nodup :=
  nodup_names_stepped h.start.nodup_names h.steps

theorem get?_table (h : History) (name : String) : h.table.get? name = h.replacement? name :=
  get?_stepped h.start.table h.steps name

theorem apply_table (h : History) (name : String) (declared : TypeRef) :
    h.table.apply name declared = (h.replacement? name).getD declared :=
  congrArg (·.getD declared) (h.get?_table name)

theorem size_table (h : History) :
    h.table.size = (h.start.table.names ++ h.steps.map Step.name).toFinset.card := by
  have hnames : h.table.names.toFinset =
      (h.start.table.names ++ h.steps.map Step.name).toFinset := by
    ext name
    rw [List.mem_toFinset, List.mem_toFinset]
    exact mem_names_stepped h.start.table h.steps name
  rw [← hnames, List.toFinset_card_of_nodup h.nodup_names, names, List.length_map]
  rfl

theorem names_perm {h h' : History} (hsame : ∀ name, h.replacement? name = h'.replacement? name) :
    h.table.names.Perm h'.table.names := by
  rw [List.perm_ext_iff_of_nodup h.nodup_names h'.nodup_names]
  intro name
  rw [← isSome_get?_iff, ← isSome_get?_iff, get?_table, get?_table, hsame]

end History

end RemapTable

/-- The names of a table are those of the start and then the new ones in the order in which they
were first entered, none of them twice. Under each name there is what was entered last. Histories
that end in the same replacements make tables that are told apart only by the order of their
names. -/
theorem remapTable_of_history (h : RemapTable.History) :
    h.table.names.Nodup ∧
    h.table.names = h.start.table.names ++ h.start.table.newNames h.steps ∧
    (∀ name, h.table.get? name = h.replacement? name) ∧
    (∀ name declared, h.table.apply name declared = (h.replacement? name).getD declared) ∧
    (∀ name type, (name, type) ∈ h.table.rules ↔ h.replacement? name = some type) ∧
    h.table.size = (h.start.table.names ++ h.steps.map RemapTable.Step.name).toFinset.card ∧
    ∀ h' : RemapTable.History, (∀ name, h.replacement? name = h'.replacement? name) →
      (∀ name, h.table.get? name = h'.table.get? name) ∧
      (∀ name declared, h.table.apply name declared = h'.table.apply name declared) ∧
      h.table.names.Perm h'.table.names := by
  refine ⟨h.nodup_names, RemapTable.names_stepped _ _, h.get?_table, h.apply_table, ?_,
    h.size_table, fun h' hsame => ⟨fun name => ?_, fun name declared => ?_,
      RemapTable.History.names_perm hsame⟩⟩
  · intro name type
    rw [RemapTable.mem_rules_iff h.nodup_names, h.get?_table]
  · rw [h.get?_table, h'.get?_table, hsame]
  · rw [h.apply_table, h'.apply_table, hsame]

namespace Reentered

def date : TypeRef := .scalar "Date"

def status : TypeRef := .enumeration "Status"

/-- A built-in rule is replaced, and one of two new ones is entered twice. -/
def history : RemapTable.History where
  start := .builtIn .java
  steps := [.insert "status" date, .rule "itemType" date, .insert "ItemType" status,
    .rule "status" status]

/-- The same replacements, entered in another order. -/
def rearranged : RemapTable.History where
  start := .empty
  steps := [.rule "status" status, .insert "itemType" status, .rule "ItemType" status,
    .rule "namespaceId" (.enumeration RemapTable.contentNamespace), .rule "itemType" date,
    .rule "namespaceIds" (.listOf (.enumeration RemapTable.contentNamespace))]

theorem replacement?_rearranged (name : String) :
    history.replacement? name = rearranged.replacement? name := by
  by_cases hname : name ∈ history.table.names
  · have hall : ∀ name ∈ history.table.names,
        history.replacement? name = rearranged.replacement? name := by decide
    exact hall name hname
  · have hsame : ∀ name, name ∈ rearranged.table.names ↔ name ∈ history.table.names := by
      intro name
      exact List.Perm.mem_iff (by decide)
    have hname' := (hsame name).not.mpr hname
    rw [← RemapTable.isSome_get?_iff, RemapTable.History.get?_table, Bool.not_eq_true,
      Option.isSome_eq_false_iff, Option.isNone_iff_eq_none] at hname hname'
    rw [hname, hname']

theorem remapTable_of_history_in_two_orders :
    history.table.names = ["namespaceIds", "namespaceId", "itemType", "status", "ItemType"] ∧
    rearranged.table.names = ["status", "itemType", "ItemType", "namespaceId", "namespaceIds"] ∧
    (∀ name, history.replacement? name = rearranged.replacement? name) ∧
    (∀ name declared, history.table.apply name declared = rearranged.table.apply name declared) ∧
    history.table.get? "itemType" = some date ∧ history.table.get? "ItemType" = some status ∧
    history.table.size = 5 := by
  obtain ⟨-, hnames, hget, -, -, hsize, hsame⟩ := remapTable_of_history history
  obtain ⟨-, happly, -⟩ := hsame rearranged replacement?_rearranged
  refine ⟨?_, by decide, replacement?_rearranged, happly, ?_, ?_, ?_⟩
  · rw [hnames]
    decide
  · rw [hget]
    decide
  · rw [hget]
    decide
  · rw [hsize]
    decide

end Reentered

end SchemaClasses
