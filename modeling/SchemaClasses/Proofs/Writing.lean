import SchemaClasses.FileStore
import SchemaClasses.Proofs.Traversal

/-! Writing a text to a file. The draft is the only thing beside the file that writing touches, and
it is gone in the end, whatever the system did meanwhile. Paths lead through directories only, so
none of them notices the draft. -/

namespace SchemaClasses.FileStore

variable {s : FileStore} {l : Location} {path : String}

theorem ne_nil_of_node? (h : s.node? l ≠ some .directory) : l ≠ [] := by
  rintro rfl
  exact h rfl

theorem ne_nil_of_free (h : s.node? l = none) : l ≠ [] :=
  ne_nil_of_node? (by rw [h]; nofun)

theorem node?_put_self (hl : l ≠ []) (n : Node) : (s.put l n).node? l = some n := by
  rw [node?, if_neg hl]
  exact Entries.get?_set_self l n s.entries

theorem node?_put_of_ne {other : Location} (h : other ≠ l) (n : Node) :
    (s.put l n).node? other = s.node? other := by
  unfold node?
  rw [put, Entries.get?_set_of_ne h]

/-- What was put where nothing was can be removed without a trace. -/
theorem remove_put (h : s.node? l = none) (n : Node) : (s.put l n).remove l = s := by
  have hl := ne_nil_of_free h
  rw [node?, if_neg hl] at h
  rw [put, remove, Entries.erase_set h]

theorem follow_eq_ok_iff {part : String} {target : Location} :
    s.follow l part = .ok target ↔ s.node? l = some .directory ∧ enter l part = .ok target := by
  unfold follow
  split <;> rename_i hnode <;> simp [hnode]

theorem target?_eq_some_iff {target : Location} :
    s.target? path = some target ↔ s.locate path = .ok target ∧
      s.node? target ≠ some .directory ∧
      ∃ name, (parts path).getLast? = some name ∧ name ≠ "" ∧ name ≠ "." ∧ name ≠ ".." := by
  unfold target?
  cases s.locate path with
  | error e => simp
  | ok reached =>
      cases (parts path).getLast? with
      | none => simp
      | some name =>
          simp only [Except.ok.injEq, Option.some.injEq, exists_eq_left']
          constructor
          · intro h
            obtain ⟨hname, hreached⟩ := Option.ite_none_left_eq_some.mp h
            simp only [not_or] at hname
            obtain ⟨hempty, hdot, hdots, hnode⟩ := hname
            cases hreached
            exact ⟨rfl, hnode, hempty, hdot, hdots⟩
          · rintro ⟨rfl, hnode, hempty, hdot, hdots⟩
            have hname := not_or.mpr ⟨hempty, not_or.mpr ⟨hdot, not_or.mpr ⟨hdots, hnode⟩⟩⟩
            exact if_neg hname

theorem node?_of_draft? {names : List String} (h : s.draft? path names = some l) :
    s.node? l = none := by
  obtain ⟨draft, hdraft, hlocate⟩ := Option.bind_eq_some_iff.mp h
  have hfree := List.find?_some hdraft
  cases hreached : s.locate draft with
  | error e =>
      rw [hreached] at hlocate
      cases hlocate
  | ok reached =>
      rw [hreached] at hlocate
      cases hlocate
      simpa [isTaken, hreached] using hfree

/-! ### Paths beside a new file -/

section

variable (h : s.node? l = none) (content : ByteArray)

include h

theorem node?_put_eq_directory_iff (other : Location) :
    (s.put l (.file content)).node? other = some .directory ↔ s.node? other = some .directory := by
  by_cases hother : other = l
  · rw [hother, node?_put_self (ne_nil_of_free h), h]
    simp
  · rw [node?_put_of_ne hother]

/-- A new file changes no place that a path leads to. -/
theorem locate_put_eq_ok_iff (target : Location) :
    (s.put l (.file content)).locate path = .ok target ↔ s.locate path = .ok target := by
  -- a part is followed from a directory only, and the new file is none
  have hparts : ∀ (parts : List String) (start : Location),
      parts.foldlM (s.put l (.file content)).follow start = .ok target ↔
        parts.foldlM s.follow start = .ok target := by
    intro parts
    induction parts with
    | nil => exact fun start => Iff.rfl
    | cons part parts ih =>
        intro start
        rw [List.foldlM_cons, List.foldlM_cons, bind_eq_ok_iff, bind_eq_ok_iff]
        refine exists_congr fun next => and_congr ?_ (ih next)
        rw [follow_eq_ok_iff, follow_eq_ok_iff, node?_put_eq_directory_iff h]
  have hstart : (s.put l (.file content)).start path = s.start path := rfl
  unfold locate
  rw [hstart]
  split
  · rfl
  · split
    · rfl
    · exact hparts _ _

theorem target?_put : (s.put l (.file content)).target? path = s.target? path := by
  apply Option.ext
  intro target
  have hnode := node?_put_eq_directory_iff h content target
  rw [target?_eq_some_iff, target?_eq_some_iff, locate_put_eq_ok_iff h, ne_eq, hnode]

end

/-! ### The outcome of writing -/

/-- A store that differs from the one before in nothing but the node of one location. -/
structure Differs (before : FileStore) (l : Location) (n : Node) (after : FileStore) : Prop where
  node?_self : after.node? l = some n
  node?_of_ne : ∀ other, other ≠ l → after.node? other = before.node? other
  workingDirectory : after.workingDirectory = before.workingDirectory

theorem differs_put (hl : l ≠ []) (n : Node) : Differs s l n (s.put l n) where
  node?_self := node?_put_self hl n
  node?_of_ne _ h := node?_put_of_ne h n
  workingDirectory := rfl

theorem rename?_draft (hfree : s.node? l = none) (content : ByteArray) :
    (s.put l (.file content)).rename? l path =
      (s.target? path).map fun target => s.put target (.file content) := by
  rw [rename?, target?_put hfree, node?_put_self (ne_nil_of_free hfree), remove_put hfree]
  cases s.target? path <;> rfl

/-- Either writing ends well, and then the file holds the text, or the store is as it was. -/
theorem write_eq (s : FileStore) (c : Circumstances) (path text : String) :
    s.write c path text =
      match s.draft? path c.draftNames, c.fault, s.target? path with
      | some _, none, some target => (true, s.put target (.file text.toUTF8))
      | _, _, _ => (false, s) := by
  unfold write
  cases hdraft : s.draft? path c.draftNames with
  | none => rfl
  | some draft =>
      have hfree := node?_of_draft? hdraft
      cases c.fault with
      | some fault =>
          cases fault with
          | filling written => simp only [remove_put hfree]
          | moving => simp only [remove_put hfree]
      | none =>
          simp only [rename?_draft hfree, remove_put hfree]
          cases s.target? path <;> rfl

end SchemaClasses.FileStore
