import SchemaClasses.Proofs.Faults

/-! Two runs side by side. The first fault of a schema, the texts of its types and what is noted
about them settle a run, so two runs are compared type by type. -/

namespace SchemaClasses

namespace Report

/-- The report without the diagnostics of a code. -/
def without (code : String) (r : Report) : Report :=
  ⟨r.entries.filter (·.code ≠ code)⟩

theorem without_addAll (code : String) (r : Report) (ds : List Diagnostic) :
    (r.addAll ds).without code = (r.without code).addAll (ds.filter (·.code ≠ code)) := by
  simp [without, addAll]

end Report

namespace Generated

def without (code : String) (g : Generated) : Generated :=
  { g with report := g.report.without code }

/-- The same definitions with another report. -/
def noting (notes : List Diagnostic) (g : Generated) : Generated :=
  { g with report := Report.empty.addAll notes }

end Generated

/-- The faults of names depend on nothing else of the types. -/
theorem nameFaultsBehind_congr {before before' types types' : List FullType}
    (hbefore : before.map FullType.name = before'.map FullType.name)
    (h : types.map FullType.name = types'.map FullType.name) :
    nameFaultsBehind before types = nameFaultsBehind before' types' := by
  induction types generalizing before before' types' with
  | nil =>
      rw [List.map_nil, eq_comm, List.map_eq_nil_iff] at h
      rw [h]
      rfl
  | cons t types ih =>
      cases types' with
      | nil => cases h
      | cons t' types' =>
          obtain ⟨hname, htypes⟩ := List.cons.inj h
          have hlength : before.length = before'.length := by
            simpa using congrArg List.length hbefore
          have hbehind : (before ++ [t]).map FullType.name = (before' ++ [t']).map FullType.name := by
            rw [List.map_append, List.map_append, hbefore, List.map_singleton, List.map_singleton,
              hname]
          rw [nameFaultsBehind_cons, nameFaultsBehind_cons, hname, hbefore, hlength,
            ih hbehind htypes]

theorem head?_flatMap_eq_of_forall₂ {α β γ : Type} {f : α → List γ} {g : β → List γ} {as : List α}
    {bs : List β} (h : List.Forall₂ (fun a b => (f a).head? = (g b).head?) as bs) :
    (as.flatMap f).head? = (bs.flatMap g).head? := by
  induction h with
  | nil => rfl
  | cons hhead _ ih =>
      rw [List.flatMap_cons, List.flatMap_cons, List.head?_append, List.head?_append, hhead, ih]

section Types

variable {rules rules' : Rules} {types types' : List FullType}

/-- Schemas whose types bear the same names and fail for the same reasons fail for the same. -/
theorem head?_schemaFaults_eq (hnames : List.Forall₂ (fun t t' => t.name = t'.name) types types')
    (hfaults : List.Forall₂ (fun t t' => (t.faults rules).head? = (t'.faults rules').head?)
      types types') :
    (schemaFaults rules types).head? = (schemaFaults rules' types').head? := by
  have hnone : nameFaultsBehind [] types = nameFaultsBehind [] types' :=
    nameFaultsBehind_congr rfl (map_eq_map_of_forall₂ FullType.name (fun _ _ h => h) hnames)
  change nameFaults types = nameFaults types' at hnone
  rw [schemaFaults, schemaFaults, List.head?_append, List.head?_append, hnone,
    head?_flatMap_eq_of_forall₂ hfaults]

theorem FullType.head?_faults_eq {t t' : FullType} (h : t.outcome rules = t'.outcome rules') :
    (t.faults rules).head? = (t'.faults rules').head? := by
  have hstops := t'.stops_outcome rules'
  rw [← h] at hstops
  exact (t.stops_outcome rules).head?_eq hstops

/-- Of the rules a report tells only whose members they replaced. -/
theorem FullType.notes_congr (t : FullType)
    (hreplaces : ∀ d ∈ t.declared, rules'.replaces d.name = rules.replaces d.name) :
    t.notes rules' = t.notes rules := by
  have hdeclared : t.declared.flatMap (t.remapNotes rules') =
      t.declared.flatMap (t.remapNotes rules) := by
    apply List.flatMap_congr
    intro d hd
    unfold remapNotes
    rw [hreplaces d hd]
  unfold notes bodyNotes
  rw [hdeclared]

/-- Types that become the same have the same texts. -/
theorem blocks_eq_of_forall₂ (options : Options)
    (h : List.Forall₂ (fun t t' => t.outcome options.toRules = t'.outcome rules') types types') :
    options.blocks types = { options with toRules := rules' }.blocks types' := by
  induction h with
  | nil => rfl
  | @cons t t' _ _ hhead _ ih =>
      have hblock : options.block? t = { options with toRules := rules' }.block? t' := by
        unfold Options.block? FullType.definition?
        rw [hhead]
        rfl
      unfold Options.blocks at ih ⊢
      rw [List.filterMap_cons, List.filterMap_cons, hblock, ih]

/-- The head of a file does not tell by which rules it was generated. -/
theorem fileHead_toRules (options : Options) (rules : Rules) :
    { options with toRules := rules }.fileHead = options.fileHead := by
  rcases options with ⟨_, _, language, _, _, _⟩
  cases language <;> rfl

/-- What is generated from types that become the same differs in what is reported at most. -/
theorem generatedOf_eq_of_forall₂ (options : Options)
    (h : List.Forall₂ (fun t t' => t.outcome options.toRules = t'.outcome rules') types types') :
    { options with toRules := rules' }.generatedOf types' =
      (options.generatedOf types).noting (types'.flatMap (FullType.notes rules')) := by
  rw [Options.generatedOf, fileHead_toRules, ← blocks_eq_of_forall₂ options h]
  rfl

end Types

/-- Two runs that first come upon the same fault agree in whatever is equal in what both generate
where there is none. -/
theorem generate_map_eq_map {β : Type} {schema schema' : Schema} {options options' : Options}
    (view view' : Generated → β)
    (hfaults : (schemaFaults options.toRules schema.types).head? =
      (schemaFaults options'.toRules schema'.types).head?)
    (hgenerated : schemaFaults options.toRules schema.types = [] →
      view (options.generatedOf schema.types) = view' (options'.generatedOf schema'.types)) :
    (generate schema options).map view = (generate schema' options').map view' := by
  cases h : generate schema options with
  | error e =>
      have h' : generate schema' options' = .error e := by
        rw [(stops_generate _ _).error_iff] at h ⊢
        rw [← hfaults, h]
      rw [h']
      rfl
  | ok g =>
      obtain ⟨hnone, rfl⟩ := (generate_eq_ok_iff schema options g).mp h
      have h' : generate schema' options' = .ok (options'.generatedOf schema'.types) := by
        rw [generate_eq_ok_iff, ← List.head?_eq_none_iff, ← hfaults, hnone]
        exact ⟨rfl, rfl⟩
      rw [h', Except.map, Except.map, hgenerated hnone]

theorem generate_eq_map_noting {schema schema' : Schema} {options options' : Options}
    {notes : List Diagnostic}
    (hfaults : (schemaFaults options.toRules schema.types).head? =
      (schemaFaults options'.toRules schema'.types).head?)
    (hgenerated : options'.generatedOf schema'.types =
      (options.generatedOf schema.types).noting notes) :
    generate schema' options' = (generate schema options).map (Generated.noting notes) := by
  rw [generate_map_eq_map (Generated.noting notes) id hfaults fun _ => hgenerated.symm,
    Except.map_id]
  rfl

theorem toList_report_of_generate {schema : Schema} {options : Options} {g : Generated}
    (h : generate schema options = .ok g) :
    g.report.toList = schema.types.flatMap (FullType.notes options.toRules) := by
  rw [eq_generatedOf_of_generate h, Options.generatedOf, Report.toList_addAll, Report.toList_empty,
    List.nil_append]

/-- A report is what is noted about the types. -/
theorem map_noting_generate (schema : Schema) (options : Options) :
    (generate schema options).map
        (Generated.noting (schema.types.flatMap (FullType.notes options.toRules))) =
      generate schema options :=
  (generate_eq_map_noting rfl rfl).symm

theorem map_without_generate (code : String) (schema : Schema) (options : Options) :
    (generate schema options).map (Generated.without code) =
      (generate schema options).map (Generated.noting (schema.types.flatMap fun t =>
        (t.notes options.toRules).filter (·.code ≠ code))) := by
  apply generate_map_eq_map _ _ rfl
  intro _
  rw [Generated.without, Options.generatedOf, Report.without_addAll, List.filter_flatMap]
  rfl

end SchemaClasses
