import Mathlib.Data.List.Forall2

/-! Checks that end at the first fault. A check is described by the list of all faults that it looks
for, in the order in which it looks for them, whether or not it goes on behind the first one. -/

namespace SchemaClasses

variable {α β γ ε : Type}

/-- The check fails with the first of the faults, and ends well where there are none. -/
def Stops (x : Except ε α) (faults : List ε) : Prop :=
  match x with
  | .error e => faults.head? = some e
  | .ok _ => faults = []

namespace Stops

theorem ok (a : α) : Stops (.ok a) ([] : List ε) := rfl

theorem error (e : ε) (later : List ε) : Stops (.error e : Except ε α) (e :: later) := rfl

theorem error_iff {x : Except ε α} {faults : List ε} (hx : Stops x faults) (e : ε) :
    x = .error e ↔ faults.head? = some e := by
  cases x with
  | error e' => rw [show faults.head? = some e' from hx, Except.error.injEq, Option.some.injEq]
  | ok a => simp [show faults = [] from hx]

theorem ok_iff {x : Except ε α} {faults : List ε} (hx : Stops x faults) :
    (∃ a, x = .ok a) ↔ faults = [] := by
  cases x with
  | error e =>
      have hhead : faults.head? = some e := hx
      constructor
      · rintro ⟨a, h⟩
        cases h
      · rintro rfl
        cases hhead
  | ok a => exact ⟨fun _ => hx, fun _ => ⟨a, rfl⟩⟩

/-- Whatever faults a check looks for, it fails with the first of them. -/
theorem head?_eq {x : Except ε α} {faults others : List ε} (hx : Stops x faults)
    (hx' : Stops x others) : faults.head? = others.head? := by
  cases x with
  | error e =>
      have hhead : faults.head? = some e := hx
      have hhead' : others.head? = some e := hx'
      rw [hhead, hhead']
  | ok a => rw [show faults = [] from hx, show others = [] from hx']

theorem bind {x : Except ε α} {next : α → Except ε β} {faults later : List ε}
    (hx : Stops x faults) (hnext : ∀ a, x = .ok a → Stops (next a) later) :
    Stops (x >>= next) (faults ++ later) := by
  cases x with
  | error e =>
      have hhead : faults.head? = some e := hx
      show (faults ++ later).head? = some e
      rw [List.head?_append, hhead]
      rfl
  | ok a =>
      rw [show faults = [] from hx]
      exact hnext a rfl

theorem map {x : Except ε α} {faults : List ε} (hx : Stops x faults) (f : α → β) :
    Stops (x.map f) faults := by
  cases x with
  | error e => exact hx
  | ok a => exact hx

theorem mapM {step : α → Except ε β} {faults : α → List ε} (as : List α)
    (hstep : ∀ a ∈ as, Stops (step a) (faults a)) : Stops (as.mapM step) (as.flatMap faults) := by
  induction as with
  | nil => exact ok []
  | cons a as ih =>
      rw [List.mapM_cons, List.flatMap_cons]
      apply (hstep a List.mem_cons_self).bind
      intro b _
      exact (ih fun a' ha' => hstep a' (List.mem_cons_of_mem a ha')).map (b :: ·)

end Stops

/-- A step that ends well has begun well. -/
theorem eq_ok_of_bind {x : Except ε α} {next : α → Except ε β} {b : β}
    (h : (x >>= next) = .ok b) : ∃ a, x = .ok a ∧ next a = .ok b := by
  cases x with
  | error e => cases h
  | ok a => exact ⟨a, rfl, h⟩

theorem ok_bind (a : α) (next : α → Except ε β) : (.ok a >>= next) = next a := rfl

/-- Any step that is taken is taken with the result of the one before. -/
theorem bind_eq_ok_iff {x : Except ε α} {next : α → Except ε β} {b : β} :
    (x >>= next) = .ok b ↔ ∃ a, x = .ok a ∧ next a = .ok b :=
  ⟨eq_ok_of_bind, fun ⟨_, hx, hnext⟩ => by rw [hx]; exact hnext⟩

theorem mapError_eq_ok_iff {x : Except ε α} {f : ε → ε'} {a : α} :
    x.mapError f = .ok a ↔ x = .ok a := by
  cases x <;> simp [Except.mapError]

theorem map_eq_error_iff {x : Except ε α} {f : α → β} {e : ε} :
    x.map f = .error e ↔ x = .error e := by
  cases x <;> simp [Except.map]

theorem map_eq_ok_iff {x : Except ε α} {f : α → β} {b : β} :
    x.map f = .ok b ↔ ∃ a, x = .ok a ∧ b = f a := by
  cases x <;> simp [Except.map, eq_comm]

theorem mapM_congr {step other : α → Except ε β} {as : List α} (h : ∀ a ∈ as, step a = other a) :
    as.mapM step = as.mapM other := by
  induction as with
  | nil => rfl
  | cons a as ih =>
      rw [List.mapM_cons, List.mapM_cons, h a List.mem_cons_self,
        ih fun a' ha' => h a' (List.mem_cons_of_mem a ha')]

theorem mapM_map_result (step : α → Except ε β) (f : β → γ) (as : List α) :
    as.mapM (fun a => (step a).map f) = (as.mapM step).map (List.map f) := by
  induction as with
  | nil => rfl
  | cons a as ih =>
      rw [List.mapM_cons, List.mapM_cons, ih]
      cases step a with
      | error e => rfl
      | ok b => cases as.mapM step <;> rfl

/-- A traversal that ends well has gone through all elements, in order. -/
theorem forall₂_of_mapM {step : α → Except ε β} {as : List α} {bs : List β}
    (h : as.mapM step = .ok bs) : List.Forall₂ (fun a b => step a = .ok b) as bs := by
  induction as generalizing bs with
  | nil =>
      cases h
      exact .nil
  | cons a as ih =>
      rw [List.mapM_cons] at h
      obtain ⟨b, hhead, h⟩ := eq_ok_of_bind h
      obtain ⟨bs', htail, h⟩ := eq_ok_of_bind h
      cases h
      exact .cons hhead (ih htail)

theorem mapM_of_forall₂ {step : α → Except ε β} {as : List α} {bs : List β}
    (h : List.Forall₂ (fun a b => step a = .ok b) as bs) : as.mapM step = .ok bs := by
  induction h with
  | nil => rfl
  | cons hhead _ ih =>
      rw [List.mapM_cons, hhead, ih]
      rfl

/-- A traversal fails at the first element that fails, and as that one does. -/
theorem mapM_eq_error_iff {step : α → Except ε β} {as : List α} {e : ε} :
    as.mapM step = .error e ↔ ∃ before a behind, as = before ++ a :: behind ∧
      (∀ b ∈ before, ∃ c, step b = .ok c) ∧ step a = .error e := by
  constructor
  · intro h
    induction as with
    | nil => cases h
    | cons a as ih =>
        rw [List.mapM_cons] at h
        cases hstep : step a with
        | error e' =>
            rw [hstep] at h
            cases h
            exact ⟨[], a, as, rfl, nofun, hstep⟩
        | ok c =>
            rw [hstep] at h
            cases htail : as.mapM step with
            | ok cs =>
                rw [htail] at h
                cases h
            | error e' =>
                rw [htail] at h
                cases h
                obtain ⟨before, a', behind, has, hbefore, ha'⟩ := ih htail
                refine ⟨a :: before, a', behind, by rw [has]; rfl, ?_, ha'⟩
                exact List.forall_mem_cons.mpr ⟨⟨c, hstep⟩, hbefore⟩
  · rintro ⟨before, a, behind, rfl, hbefore, ha⟩
    induction before with
    | nil =>
        rw [List.nil_append, List.mapM_cons, ha]
        rfl
    | cons b before ih =>
        obtain ⟨⟨c, hb⟩, hbefore⟩ := List.forall_mem_cons.mp hbefore
        rw [List.cons_append, List.mapM_cons, hb, ih hbefore]
        rfl

theorem map_eq_map_of_forall₂ {R : α → α → Prop} (f : α → β) (hf : ∀ a b, R a b → f a = f b)
    {as bs : List α} (h : List.Forall₂ R as bs) : as.map f = bs.map f := by
  induction h with
  | nil => rfl
  | cons hhead _ ih => rw [List.map_cons, List.map_cons, hf _ _ hhead, ih]

theorem getElem?_of_forall₂ {R : α → β → Prop} {as : List α} {bs : List β}
    (h : List.Forall₂ R as bs) {i : Nat} {a : α} (ha : as[i]? = some a) :
    ∃ b, bs[i]? = some b ∧ R a b := by
  induction h generalizing i with
  | nil => cases ha
  | @cons a' b' _ _ hhead _ ih =>
      cases i with
      | zero =>
          cases ha
          exact ⟨b', rfl, hhead⟩
      | succ i => exact ih ha

theorem exists_mem_of_forall₂ {R : α → β → Prop} {as : List α} {bs : List β}
    (h : List.Forall₂ R as bs) {b : β} (hb : b ∈ bs) : ∃ a ∈ as, R a b := by
  induction h with
  | nil => cases hb
  | @cons a _ _ _ hhead _ ih =>
      rcases List.mem_cons.mp hb with rfl | hb
      · exact ⟨a, List.mem_cons_self, hhead⟩
      · obtain ⟨a', ha', hrelated⟩ := ih hb
        exact ⟨a', List.mem_cons_of_mem a ha', hrelated⟩

theorem filterMap_eq_map_of_forall₂ {f : α → Option γ} {g : β → γ} {as : List α} {bs : List β}
    (h : List.Forall₂ (fun a b => f a = some (g b)) as bs) : as.filterMap f = bs.map g := by
  induction h with
  | nil => rfl
  | cons hhead _ ih => rw [List.filterMap_cons_some hhead, ih, List.map_cons]

/-- What is kept and what it is mapped to stand in the same order. -/
theorem forall₂_filter_filterMap {p : α → Bool} {f : α → Option β} {as : List α}
    (h : ∀ a ∈ as, p a = (f a).isSome) :
    List.Forall₂ (fun a b => f a = some b) (as.filter p) (as.filterMap f) := by
  induction as with
  | nil => exact .nil
  | cons a as ih =>
      obtain ⟨hhead, htail⟩ := List.forall_mem_cons.mp h
      cases ha : f a with
      | none =>
          rw [List.filter_cons_of_neg (by rw [hhead, ha]; exact Bool.false_ne_true),
            List.filterMap_cons_none ha]
          exact ih htail
      | some b =>
          rw [List.filter_cons_of_pos (by rw [hhead, ha]; rfl), List.filterMap_cons_some ha]
          exact .cons ha (ih htail)

end SchemaClasses
