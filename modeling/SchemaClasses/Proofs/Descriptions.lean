import SchemaClasses.Proofs.Comparison

/-! Descriptions. A schema may be described in other words: a type becomes the same, but for the
comments in its definition. -/

namespace SchemaClasses

variable (f : Option String → Option String)

def InputValue.redescribed (v : InputValue) : InputValue :=
  { v with description := f v.description }

def Field.redescribed (x : Field) : Field :=
  { x with description := f x.description, args := x.args.map (InputValue.redescribed f) }

def EnumValue.redescribed (v : EnumValue) : EnumValue :=
  { v with description := f v.description }

def Declared.redescribed (d : Declared) : Declared :=
  { d with description := f d.description }

def FullType.redescribed (t : FullType) : FullType :=
  { t with
    description := f t.description
    fields := t.fields.map (List.map (Field.redescribed f))
    inputFields := t.inputFields.map (List.map (InputValue.redescribed f))
    enumValues := t.enumValues.map (List.map (EnumValue.redescribed f)) }

def Directive.redescribed (d : Directive) : Directive :=
  { d with description := f d.description, args := d.args.map (InputValue.redescribed f) }

/-- The schema with every description replaced. -/
def Schema.redescribed (s : Schema) : Schema :=
  { s with
    types := s.types.map (FullType.redescribed f)
    directives := s.directives.map (Directive.redescribed f) }

/-- The schema without any description. -/
def Schema.undescribed (s : Schema) : Schema :=
  s.redescribed fun _ => none

/-- The schema without the descriptions that have nothing but blanks in them. -/
def Schema.withoutBlankDescriptions (s : Schema) : Schema :=
  s.redescribed (Option.filter fun text => ¬ Text.isBlankText text)

variable (g : Option String → Option String)

def Member.recommented (m : Member) : Member := { m with comment := g m.comment }

def Constant.recommented (c : Constant) : Constant := { c with comment := g c.comment }

def Body.recommented : Body → Body
  | .dataClass interfaces members => .dataClass interfaces (members.map (Member.recommented g))
  | .interface members => .interface (members.map (Member.recommented g))
  | .enumeration constants => .enumeration (constants.map (Constant.recommented g))

def Definition.recommented (d : Definition) : Definition :=
  ⟨d.name, g d.comment, d.body.recommented g⟩

theorem Definition.recommented_id : Definition.recommented id = id := by
  have hmember : Member.recommented id = id := rfl
  have hconstant : Constant.recommented id = id := rfl
  funext d
  rcases d with ⟨name, comment, interfaces, members | members | constants⟩ <;>
    simp [recommented, Body.recommented, hmember, hconstant]

namespace FullType

theorem declared_redescribed (t : FullType) :
    (t.redescribed f).declared = t.declared.map (Declared.redescribed f) := by
  have hfields : ((t.redescribed f).fields.getD []).map Declared.ofField =
      ((t.fields.getD []).map Declared.ofField).map (Declared.redescribed f) := by
    rcases hfields : t.fields with _ | fields
    · simp [redescribed, hfields]
    · simp [redescribed, hfields, Declared.ofField, Declared.redescribed, Field.redescribed]
  have hinputFields : ((t.redescribed f).inputFields.getD []).map Declared.ofInputValue =
      ((t.inputFields.getD []).map Declared.ofInputValue).map (Declared.redescribed f) := by
    rcases hfields : t.inputFields with _ | fields
    · simp [redescribed, hfields]
    · simp [redescribed, hfields, Declared.ofInputValue, Declared.redescribed,
        InputValue.redescribed]
  have hkind : (t.redescribed f).kind = t.kind := rfl
  have himplementors : (t.redescribed f).hasImplementors = t.hasImplementors := rfl
  unfold declared
  rw [hkind, himplementors, hfields, hinputFields]
  cases t.kind with
  | interface => cases t.hasImplementors <;> rfl
  | _ => rfl

/-- What is reported of a type tells nothing of descriptions. -/
theorem notes_redescribed (rules : Rules) (t : FullType) :
    (t.redescribed f).notes rules = t.notes rules := by
  have hdeclared : (t.redescribed f).declared.flatMap ((t.redescribed f).remapNotes rules) =
      t.declared.flatMap (t.remapNotes rules) := by
    rw [declared_redescribed, List.flatMap_map]
    rfl
  have hkind : (t.redescribed f).kind = t.kind := rfl
  have himplementors : (t.redescribed f).hasImplementors = t.hasImplementors := rfl
  unfold notes bodyNotes
  rw [hdeclared, hkind, himplementors]
  rfl

variable {f g} (h : ∀ d, commentOf (f d) = g (commentOf d))
include h

theorem membersOf_redescribed (rules : Rules) (t : FullType) :
    (t.redescribed f).membersOf rules =
      (t.membersOf rules).map (List.map (Member.recommented g)) := by
  rw [membersOf, declared_redescribed, List.mapM_map, membersOf, ← mapM_map_result]
  apply mapM_congr
  intro d _
  show (t.redescribed f).memberOf rules (d.redescribed f) =
    (t.memberOf rules d).map (Member.recommented g)
  unfold memberOf Declared.redescribed
  simp only [h]
  cases rules.shape d.name d.type <;> rfl

theorem constants_redescribed (values : List EnumValue) :
    constants (values.map (EnumValue.redescribed f)) =
      (constants values).map (Constant.recommented g) := by
  rw [constants, constants, List.map_map, List.map_map]
  exact List.map_congr_left fun v _ => congrArg (Constant.mk v.name) (h v.description)

theorem bodyOf_redescribed (rules : Rules) (t : FullType) :
    (t.redescribed f).bodyOf rules = (t.bodyOf rules).map (Option.map (Body.recommented g)) := by
  have hkind : (t.redescribed f).kind = t.kind := rfl
  have hname : (t.redescribed f).name = t.name := rfl
  have himplementors : (t.redescribed f).hasImplementors = t.hasImplementors := rfl
  have hmissing : (t.redescribed f).fields.isNone = t.fields.isNone := Option.isNone_map
  unfold bodyOf
  rw [membersOf_redescribed h, interfaceNames_congr hname, hkind, himplementors, hmissing]
  cases t.kind with
  | object =>
      have hfields : (t.redescribed f).fields = t.fields.map (List.map (Field.redescribed f)) := rfl
      have himplemented : (t.redescribed f).implemented = t.implemented := rfl
      rw [hfields, himplemented, hname]
      rcases t.fields with _ | _ | _ <;> try rfl
      cases t.membersOf rules with
      | error e => rfl
      | ok members => cases t.interfaceNames 0 t.implemented <;> rfl
  | inputObject =>
      have hfields : (t.redescribed f).inputFields =
          t.inputFields.map (List.map (InputValue.redescribed f)) := rfl
      rw [hfields, hname]
      rcases t.inputFields with _ | _ | _ <;> try rfl
      cases t.membersOf rules <;> rfl
  | interface =>
      rw [hname]
      cases t.hasImplementors && t.fields.isNone with
      | true => rfl
      | false => cases t.membersOf rules <;> rfl
  | enumeration =>
      have hvalues : (t.redescribed f).enumValues =
          t.enumValues.map (List.map (EnumValue.redescribed f)) := rfl
      rw [hvalues, hname]
      rcases t.enumValues with _ | _ | ⟨first, rest⟩ <;> try rfl
      exact congrArg (fun constants => Except.ok (some (Body.enumeration constants)))
        (constants_redescribed h (first :: rest))
  | scalar => rfl
  | union | list | nonNull | unknown =>
      rw [hname]
      cases rules.skipUnsupported <;> rfl

/-- What a type becomes in other words has the comments in other words. -/
theorem outcome_redescribed (rules : Rules) (t : FullType) :
    (t.redescribed f).outcome rules =
      (t.outcome rules).map (Option.map (Definition.recommented g)) := by
  have hintrospection : (t.redescribed f).isIntrospection = t.isIntrospection := rfl
  unfold outcome
  rw [hintrospection, bodyOf_redescribed h]
  cases t.isIntrospection with
  | true => rfl
  | false =>
      rcases t.bodyOf rules with e | _ | body
      · rfl
      · rfl
      · have hcomment := h t.description
        exact congrArg
          (fun comment => Except.ok (some (Definition.mk t.name comment (body.recommented g)))) hcomment

theorem definition?_redescribed (rules : Rules) (t : FullType) :
    (t.redescribed f).definition? rules =
      (t.definition? rules).map (Definition.recommented g) := by
  rw [definition?, outcome_redescribed h, definition?]
  cases t.outcome rules <;> rfl

end FullType

/-- The same run with other code. -/
def Generated.recoded (change : String → String) (generated : Generated) : Generated :=
  ⟨change generated.code, generated.report, generated.emitted⟩

/-- In other words the run comes to the same, but for the comments. -/
theorem generate_redescribed (strip : String → String) {f g : Option String → Option String}
    (h : ∀ d, commentOf (f d) = g (commentOf d)) (schema : Schema) (options : Options)
    (hstrip : strip (renderLines options.indent
        (options.dialect.fileLines options (options.definitions schema.types))) =
      renderLines options.indent (options.dialect.fileLines options
        ((options.definitions schema.types).map (Definition.recommented g)))) :
    generate (schema.redescribed f) options =
      (generate schema options).map (Generated.recoded strip) := by
  have hdefinitions : options.definitions (schema.redescribed f).types =
      (options.definitions schema.types).map (Definition.recommented g) := by
    rw [Schema.redescribed, Options.definitions, List.filterMap_map, Options.definitions,
      List.map_filterMap]
    exact List.filterMap_congr fun t _ => t.definition?_redescribed h options.toRules
  have hfaults : (schemaFaults options.toRules schema.types).head? =
      (schemaFaults options.toRules (schema.redescribed f).types).head? := by
    rw [Schema.redescribed]
    apply head?_schemaFaults_eq
    · rw [List.forall₂_map_right_iff, List.forall₂_same]
      exact fun _ _ => rfl
    · rw [List.forall₂_map_right_iff, List.forall₂_same]
      intro t _
      have hstops := (t.redescribed f).stops_outcome options.toRules
      rw [FullType.outcome_redescribed h] at hstops
      exact ((t.stops_outcome options.toRules).map _).head?_eq hstops
  have hgenerated : options.generatedOf (schema.redescribed f).types =
      (options.generatedOf schema.types).recoded strip := by
    have hcode : (options.generatedOf (schema.redescribed f).types).code =
        strip (options.generatedOf schema.types).code := by
      rw [options.code_generatedOf, options.code_generatedOf, hstrip, hdefinitions]
    have hemitted : (options.generatedOf (schema.redescribed f).types).emitted =
        (options.generatedOf schema.types).emitted := by
      rw [Options.generatedOf, Options.generatedOf, options.blocks_eq_map, options.blocks_eq_map,
        hdefinitions, List.length_map, List.length_map, List.length_map]
    have hreport : (options.generatedOf (schema.redescribed f).types).report =
        (options.generatedOf schema.types).report := by
      rw [Options.generatedOf, Options.generatedOf, Schema.redescribed, List.flatMap_map]
      exact congrArg Report.empty.addAll
        (List.flatMap_congr fun t _ => t.notes_redescribed f options.toRules)
    rw [Generated.recoded, ← hcode, ← hemitted, ← hreport]
  have hrun := generate_map_eq_map (Generated.recoded strip) id hfaults fun _ => hgenerated.symm
  rw [hrun, Except.map_id]
  rfl

end SchemaClasses
