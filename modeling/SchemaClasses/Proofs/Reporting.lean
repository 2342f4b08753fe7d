import SchemaClasses.Model.Generate

/-! Steps that report. What a step reports never decides how it goes on, so it comes apart into a
result without any report and a list of diagnostics, which stands behind the earlier ones. -/

namespace SchemaClasses

namespace Report

/-- The report with further diagnostics behind its own. -/
def addAll (r : Report) (ds : List Diagnostic) : Report := ⟨r.entries ++ ds.toArray⟩

@[simp] theorem toList_addAll (r : Report) (ds : List Diagnostic) :
    (r.addAll ds).toList = r.toList ++ ds := by
  simp [addAll, toList]

@[simp] theorem addAll_nil (r : Report) : r.addAll [] = r := by
  simp [addAll]

theorem addAll_addAll (r : Report) (ds es : List Diagnostic) :
    (r.addAll ds).addAll es = r.addAll (ds ++ es) := by
  simp [addAll, Array.append_assoc]

theorem addAll_singleton (r : Report) (d : Diagnostic) : r.addAll [d] = r.add d := by
  simp [addAll, add]

end Report

namespace Reporting

/-- From every report the step has the same result, and if it ends well it adds `notes`. -/
def Gives (x : Reporting α) (result : Except GenerationError α) (notes : List Diagnostic) : Prop :=
  ∀ r : Report, x.run r = result.map fun a => (a, r.addAll notes)

theorem gives_pure (a : α) : Gives (pure a) (.ok a) [] := by
  intro r
  rw [StateT.run_pure, Except.map, r.addAll_nil]
  rfl

theorem gives_note (d : Diagnostic) : Gives (note d) (.ok ()) [d] := by
  intro r
  rw [Except.map, r.addAll_singleton]
  rfl

theorem gives_ofExcept (result : Except GenerationError α) : Gives (ofExcept result) result [] := by
  intro r
  cases result with
  | error e => rfl
  | ok a =>
      rw [Except.map, r.addAll_nil]
      rfl

/-- A step that fails reports nothing, so any list will do. -/
theorem gives_throw (e : GenerationError) (notes : List Diagnostic) :
    Gives (throw e : Reporting α) (.error e) notes := by
  intro r
  rfl

theorem Gives.bind {x : Reporting α} {result : Except GenerationError α} {notes : List Diagnostic}
    {next : α → Reporting β} {after : α → Except GenerationError β} {later : List Diagnostic}
    (hx : Gives x result notes) (hnext : ∀ a, result = .ok a → Gives (next a) (after a) later) :
    Gives (x >>= next) (result >>= after) (notes ++ later) := by
  intro r
  rw [StateT.run_bind, hx r]
  cases hresult : result with
  | error e => rfl
  | ok a =>
      change (next a).run (r.addAll notes) = _
      rw [hnext a hresult, r.addAll_addAll]
      rfl

theorem Gives.after_note {d : Diagnostic} {next : Unit → Reporting α}
    {result : Except GenerationError α} {notes : List Diagnostic}
    (hnext : Gives (next ()) result notes) : Gives (note d >>= next) result (d :: notes) :=
  (gives_note d).bind fun _ _ => hnext

theorem Gives.after_ofExcept {first : Except GenerationError α} {next : α → Reporting β}
    {after : α → Except GenerationError β} {notes : List Diagnostic}
    (hnext : ∀ a, first = .ok a → Gives (next a) (after a) notes) :
    Gives (ofExcept first >>= next) (first >>= after) notes :=
  (gives_ofExcept first).bind hnext

theorem Gives.bind_silent {x : Reporting α} {result : Except GenerationError α}
    {notes : List Diagnostic} {next : α → Reporting β} {after : α → Except GenerationError β}
    (hx : Gives x result notes) (hnext : ∀ a, result = .ok a → Gives (next a) (after a) []) :
    Gives (x >>= next) (result >>= after) notes := by
  have h := hx.bind hnext
  rwa [List.append_nil] at h

theorem Gives.mapM {step : α → Reporting β} {result : α → Except GenerationError β}
    {notes : α → List Diagnostic} (hstep : ∀ a, Gives (step a) (result a) (notes a)) (as : List α) :
    Gives (as.mapM step) (as.mapM result) (as.flatMap notes) := by
  induction as with
  | nil => exact gives_pure []
  | cons a as ih =>
      rw [List.mapM_cons, List.mapM_cons, List.flatMap_cons]
      apply (hstep a).bind
      intro b _
      apply ih.bind_silent
      intro bs _
      exact gives_pure (b :: bs)

end Reporting

end SchemaClasses
