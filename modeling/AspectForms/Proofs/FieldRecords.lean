import AspectForms.Proofs.NestedEntities
import AspectForms.Proofs.StructuredValues
import AspectForms.Proofs.ValidatorArrays

/-!
What a field holds besides its name.  Main statement: which parts of a field are present is told by its
kind, whatever the property looks like, since the tables of types that choose a kind and those that fill
in the parts have the same names.
-/

namespace AspectForms

open Validator

namespace FieldKind

/-- A kind that is told by the data type accepts just the types that it names. -/
theorem accepts_iff_of_typed {k : FieldKind} (h : k ∈ typed) (c : Characteristic DataType) :
    k.accepts c = true ↔ ∃ t, c.dataType? = some t ∧ t.short ∈ k.typeNames := by
  have haccepts : k.accepts c = c.dataType?.any fun t => k.typeNames.contains t.short := by
    cases k with
    | either => exact absurd h (by decide)
    | list => exact absurd h (by decide)
    | structured => exact absurd h (by decide)
    | complex => exact absurd h (by decide)
    | enumeration => exact absurd h (by decide)
    | fallback => exact absurd h (by decide)
    | _ =>
        simp only [accepts]
        cases c.dataType? <;> rfl
  rw [haccepts]
  cases c.dataType? <;> simp

end FieldKind

namespace PropertyOf

variable {p : Property DataType}

theorem exists_short_of_typed (h : p.kind ∈ FieldKind.typed) :
    ∃ s ∈ p.kind.typeNames, p.short? = some s := by
  have hkind : p.kind ≠ .fallback := fun heq => absurd (heq ▸ h) (by decide)
  obtain ⟨t, ht, hname⟩ := (FieldKind.accepts_iff_of_typed h _).mp (accepts_kind hkind)
  exact ⟨t.short, hname, by rw [short?, dataType?, ht, Option.map_some]⟩

/-- A table that has an entry for every type of some kinds has one for the type of
a property that gets one of these kinds. -/
theorem exists_entry {α : Type} (table : String → Option α) (kinds : List FieldKind)
    (htable : ∀ k ∈ kinds, k ∈ FieldKind.typed ∧ ∀ s ∈ k.typeNames, (table s).isSome)
    (h : p.kind ∈ kinds) :
    ∃ s a, p.short? = some s ∧ table s = some a := by
  obtain ⟨htyped, hentries⟩ := htable p.kind h
  obtain ⟨s, hs, hshort⟩ := exists_short_of_typed htyped
  obtain ⟨a, ha⟩ := Option.isSome_iff_exists.mp (hentries s hs)
  exact ⟨s, a, hshort, ha⟩

theorem exists_unwrapped_of_enumeration (h : p.kind = .enumeration) :
    ∃ n t values, p.characteristic.unwrapped = .enumeration n t values := by
  have haccepts := accepts_kind (p := p) (h ▸ nofun)
  rw [h] at haccepts
  generalize p.characteristic.unwrapped = shape at haccepts ⊢
  cases shape with
  | enumeration n t values => exact ⟨n, t, values, rfl⟩
  | _ => cases haccepts

theorem exists_unwrapped_of_either (h : p.kind = .either) :
    ∃ n l r, p.characteristic.unwrapped = .either n l r := by
  have haccepts := accepts_kind (p := p) (h ▸ nofun)
  rw [h] at haccepts
  generalize p.characteristic.unwrapped = shape at haccepts ⊢
  cases shape with
  | either n l r => exact ⟨n, l, r, rfl⟩
  | _ => cases haccepts

section Parts

variable (p) (children : List Field)

/-- The parts that are looked up or taken over, for each kind. -/
theorem toField_parts :
    let f := p.toField children
    let short := p.short?.getD ""
    f.example? = (if p.kind ∈ [.text, .textArea, .number, .fallback] then
        p.exampleText? else none) ∧
      f.unit? = (if p.kind ∈ [.text, .textArea, .number, .fallback, .time] then
        p.unitName? else none) ∧
      f.dataFormat? = (if p.kind ∈ [.date, .dateTime, .datePartial] then
        dateFormat? short else none) ∧
      f.placeholder? = (if p.kind = .duration then durationPlaceholder? short
        else if p.kind = .time then some timePlaceholder else none) ∧
      f.hint? = (if p.kind = .duration then
          (durationPlaceholder? short).map ("ISO 8601 duration, e.g. " ++ ·)
        else if p.kind = .datePartial then partialDateHint? short else none) := by
  unfold toField
  generalize (if p.kind.hasChildren then some children else none) = inside
  cases p.kind with
  | enumeration => cases p.characteristic.unwrapped <;> simp
  | structured => cases p.characteristic.unwrapped <;> simp
  | _ => simp

theorem values?_toField :
    (p.toField children).values? =
      match p.kind, p.characteristic.unwrapped with
      | .enumeration, .enumeration _ _ values => some values
      | _, _ => none := by
  unfold toField
  cases p.kind with
  | enumeration => cases p.characteristic.unwrapped <;> rfl
  | structured => cases p.characteristic.unwrapped <;> rfl
  | _ => rfl

theorem rule?_toField_of_ne (h : p.kind ≠ .structured) : (p.toField children).rule? = none := by
  unfold toField
  cases hkind : p.kind with
  | enumeration => cases p.characteristic.unwrapped <;> rfl
  | structured => exact absurd hkind h
  | _ => rfl

end Parts

end PropertyOf

/-- Whether a validator calls a factory that follows from a characteristic. -/
def Validator.checksType (v : Validator) : Bool :=
  v.factory?.any fun factory => typeFactories.contains factory

theorem Validator.Calls.checksType_iff {v : Validator} {factories : List String}
    (h : v.Calls factories) (hplain : ∀ f ∈ factories, '(' ∉ f.toList) :
    ∃ f ∈ factories, v.checksType = typeFactories.contains f := by
  obtain ⟨factory, hfactory, hcalled⟩ := h.exists_factory? hplain
  exact ⟨factory, hfactory, by rw [checksType, hcalled, Option.any_some]⟩

namespace PropertyOf

variable {p : Property DataType}

/-- Whatever constraints there are, the validators that call a factory for types are
those that follow from the characteristic. -/
theorem filter_checksType (p : Property DataType) :
    p.validators.filter checksType = p.typeValidators := by
  have hbase : p.baseValidators.filter checksType = [] := by
    rw [List.filter_eq_nil_iff]
    intro v hv
    unfold baseValidators at hv
    split at hv
    · cases hv
    · rw [List.mem_singleton.mp hv]
      decide
  have htype : p.typeValidators.filter checksType = p.typeValidators := by
    rw [List.filter_eq_self]
    intro v hv
    obtain ⟨factory, hfactory, hchecks⟩ :=
      (calls_of_mem_typeValidators hv).1.checksType_iff (by decide)
    rw [hchecks, List.contains_iff_mem]
    exact hfactory
  have hconstraint : p.constraintValidators.filter checksType = [] := by
    rw [List.filter_eq_nil_iff]
    intro v hv
    obtain ⟨c, _, hv⟩ := List.mem_flatMap.mp hv
    obtain ⟨factory, hfactory, hchecks⟩ :=
      (Constraint.calls_of_mem hv).1.checksType_iff (by decide)
    -- No constraint calls a factory for types, whichever type it stands on.
    have hother : ∀ f ∈ constraintFactories, f ∉ typeFactories := by decide
    rw [hchecks, List.contains_iff_mem]
    exact hother factory hfactory
  rw [validators, List.filter_append, List.filter_append, hbase, htype, hconstraint,
    List.nil_append, List.append_nil]

/-- A duration or a time of day has the validator of its own type. -/
theorem exists_typeValidators_eq (h : p.kind ∈ [.duration, .time]) :
    ∃ s v, p.short? = some s ∧ temporalValidator? s = some v ∧ p.typeValidators = [v] := by
  obtain ⟨s, v, hs, hv⟩ := exists_entry temporalValidator? _ (by decide) h
  refine ⟨s, v, hs, hv, ?_⟩
  unfold typeValidators
  rcases List.mem_pair.mp h with h | h
  all_goals
    rw [h, hs]
    simp [hv]

theorem kind_of_lifted {v : Validator} (hv : v ∈ p.validators) (hlifted : v.direct = false) :
    p.kind ∈ [.list, .complex] := by
  by_contra hkind
  have hlifts : p.kind.liftsRange = false := by
    cases hkind' : p.kind with
    | list => exact absurd (hkind' ▸ List.mem_cons_self) hkind
    | complex => exact absurd (hkind' ▸ List.mem_cons_of_mem _ List.mem_cons_self) hkind
    | _ => rfl
  exact Bool.false_ne_true (hlifted.symm.trans (direct_of_mem_validators hlifts hv))

end PropertyOf

/-- The field tells what the property `p` is shown as.  Which of its parts are present
is told by its kind. -/
structure Field.Represents (config : Config) (f : Field) (p : Property DataType) : Prop where
  children : f.children?.isSome ↔ f.kind ∈ [.complex, .either, .structured]
  branches : f.kind = .either → ∃ n l r, p.characteristic.unwrapped = .either n l r ∧
    f.children? = some [composeField config l, composeField config r]
  elements : f.kind = .structured → ∃ n t rule parts,
    p.characteristic.unwrapped = .structured n t rule parts ∧
    f.children? = some ((partProperties parts).map (composeField config))
  properties : f.kind = .complex → ∃ e, p.dataType? = some (.entity e) ∧
    f.children? =
      some ((e.properties.filter fun q => !config.excludes q).map (composeField config))
  values : f.values?.isSome ↔ f.kind = .enumeration
  rule : f.rule?.isSome ↔ f.kind = .structured
  dataFormat : f.dataFormat?.isSome ↔ f.kind ∈ [.date, .dateTime, .datePartial]
  placeholder : f.placeholder?.isSome ↔ f.kind ∈ [.duration, .time]
  hint : f.hint?.isSome ↔ f.kind ∈ [.duration, .datePartial]
  example? : f.example?.isSome → f.kind ∈ [.text, .textArea, .number, .fallback]
  unit : f.unit?.isSome → f.kind ∈ [.text, .textArea, .number, .fallback, .time]
  lifted : ∀ v ∈ f.validators, v.direct = false → f.kind ∈ [.list, .complex]
  temporal : f.kind ∈ [.duration, .time] → ∃ s v, p.short? = some s ∧
    temporalValidator? s = some v ∧ f.validators.filter checksType = [v] ∧
    f.validators = p.baseValidators ++ v :: p.constraintValidators

section Present

variable {α : Type} {b c : Prop} [Decidable b] [Decidable c] {x y : Option α}

theorem isSome_ite_none_iff : (if b then x else none).isSome ↔ b ∧ x.isSome := by
  split <;> simp [*]

/-- What is looked up in one of two places is there if it is in either. -/
theorem isSome_ite_ite_none_iff (hx : b → x.isSome) (hy : c → y.isSome) :
    (if b then x else if c then y else none).isSome ↔ b ∨ c := by
  split_ifs with hb hc
  · exact iff_of_true (hx hb) (.inl hb)
  · exact iff_of_true (hy hc) (.inr hc)
  · exact iff_of_false Bool.false_ne_true (not_or.mpr ⟨hb, hc⟩)

end Present

section Composed

variable (config : Config) (p : Property DataType)

theorem children?_composeField (h : p.kind.hasChildren = true) :
    (composeField config p).children? = some ((p.inner config).map (composeField config)) := by
  rw [composeField_eq, PropertyOf.children?_toField, if_pos h]

theorem isSome_values?_composeField :
    (composeField config p).values?.isSome ↔ p.kind = .enumeration := by
  rw [composeField_eq, PropertyOf.values?_toField]
  constructor
  · intro h
    split at h
    · assumption
    · cases h
  · intro h
    obtain ⟨n, t, values, hshape⟩ := PropertyOf.exists_unwrapped_of_enumeration h
    rw [h, hshape]
    rfl

theorem isSome_rule?_composeField :
    (composeField config p).rule?.isSome ↔ p.kind = .structured := by
  rw [composeField_eq]
  constructor
  · intro h
    by_contra hkind
    rw [PropertyOf.rule?_toField_of_ne p _ hkind] at h
    cases h
  · intro h
    obtain ⟨n, t, rule, parts, hshape⟩ := PropertyOf.exists_unwrapped_of_structured h
    rw [PropertyOf.rule?_toField hshape]
    rfl

theorem isSome_dataFormat?_composeField :
    (composeField config p).dataFormat?.isSome ↔ p.kind ∈ [.date, .dateTime, .datePartial] := by
  obtain ⟨_, _, hformat, _, _⟩ := p.toField_parts ((p.inner config).map (composeField config))
  rw [composeField_eq, hformat, isSome_ite_none_iff]
  refine and_iff_left_of_imp fun h => ?_
  obtain ⟨s, format, hs, hentry⟩ := PropertyOf.exists_entry dateFormat? _ (by decide) h
  rw [hs, Option.getD_some, hentry]
  rfl

theorem isSome_durationPlaceholder? {p : Property DataType} (h : p.kind = .duration) :
    (durationPlaceholder? (p.short?.getD "")).isSome := by
  obtain ⟨s, text, hs, hentry⟩ := PropertyOf.exists_entry durationPlaceholder? [.duration]
    (by decide) (List.mem_singleton.mpr h)
  rw [hs, Option.getD_some, hentry]
  rfl

theorem isSome_placeholder?_composeField :
    (composeField config p).placeholder?.isSome ↔ p.kind ∈ [.duration, .time] := by
  obtain ⟨_, _, _, hplaceholder, _⟩ :=
    p.toField_parts ((p.inner config).map (composeField config))
  rw [composeField_eq, hplaceholder,
    isSome_ite_ite_none_iff isSome_durationPlaceholder? fun _ => rfl, List.mem_pair]

theorem isSome_hint?_composeField :
    (composeField config p).hint?.isSome ↔ p.kind ∈ [.duration, .datePartial] := by
  obtain ⟨_, _, _, _, hhint⟩ := p.toField_parts ((p.inner config).map (composeField config))
  rw [composeField_eq, hhint, isSome_ite_ite_none_iff, List.mem_pair]
  · intro h
    rw [Option.isSome_map]
    exact isSome_durationPlaceholder? h
  · intro h
    obtain ⟨s, text, hs, hentry⟩ := PropertyOf.exists_entry partialDateHint? [.datePartial]
      (by decide) (List.mem_singleton.mpr h)
    rw [hs, Option.getD_some, hentry]
    rfl

/-- The field of a property represents it. -/
theorem represents_composeField : (composeField config p).Represents config p where
  children := by
    rw [PropertyOf.isSome_children?_composeField, kind_composeField]
    cases p.kind <;> decide
  branches := by
    rw [kind_composeField]
    intro h
    obtain ⟨n, l, r, hshape⟩ := PropertyOf.exists_unwrapped_of_either h
    refine ⟨n, l, r, hshape, ?_⟩
    rw [children?_composeField config p (by rw [h]; rfl), PropertyOf.inner, hshape]
    rfl
  elements := by
    rw [kind_composeField]
    intro h
    obtain ⟨n, t, rule, parts, hshape⟩ := PropertyOf.exists_unwrapped_of_structured h
    refine ⟨n, t, rule, parts, hshape, ?_⟩
    rw [children?_composeField config p (by rw [h]; rfl),
      PropertyOf.inner_of_structured hshape]
  properties := by
    rw [kind_composeField]
    intro h
    obtain ⟨e, he⟩ := PropertyOf.kind_eq_complex_iff.mp h
    refine ⟨e, PropertyOf.dataType?_of_entity? he, ?_⟩
    rw [children?_composeField config p (by rw [h]; rfl),
      PropertyOf.inner_of_entity? config he, Element.shown]
  values := by
    rw [isSome_values?_composeField, kind_composeField]
  rule := by
    rw [isSome_rule?_composeField, kind_composeField]
  dataFormat := by
    rw [isSome_dataFormat?_composeField, kind_composeField]
  placeholder := by
    rw [isSome_placeholder?_composeField, kind_composeField]
  hint := by
    rw [isSome_hint?_composeField, kind_composeField]
  example? := by
    obtain ⟨hexample, _⟩ := p.toField_parts ((p.inner config).map (composeField config))
    rw [kind_composeField, composeField_eq, hexample, isSome_ite_none_iff]
    exact And.left
  unit := by
    obtain ⟨_, hunit, _⟩ := p.toField_parts ((p.inner config).map (composeField config))
    rw [kind_composeField, composeField_eq, hunit, isSome_ite_none_iff]
    exact And.left
  lifted := by
    rw [validators_composeField, kind_composeField]
    exact fun v hv => PropertyOf.kind_of_lifted hv
  temporal := by
    rw [validators_composeField, kind_composeField]
    intro h
    obtain ⟨s, v, hs, hv, htype⟩ := PropertyOf.exists_typeValidators_eq h
    refine ⟨s, v, hs, hv, ?_, ?_⟩
    · rw [PropertyOf.filter_checksType, htype]
    · rw [PropertyOf.validators, htype, List.append_assoc, List.singleton_append]

end Composed

/-- Every field in the forest of an element, at whatever depth, represents one of the
properties that the element shows. -/
theorem Element.exists_represents (e : Element DataType) (config : Config) {f : Field}
    (hf : Field.OccursIn (e.fields config) f) :
    ∃ p, e.Shows config p ∧ composeField config p = f ∧ f.Represents config p := by
  obtain ⟨p, hp, rfl⟩ := Element.occursIn_fields_iff.mp hf
  exact ⟨p, hp, rfl, represents_composeField config p⟩

namespace FieldRecordsWitness

open SiblingsWitness (text)

/-- Two traits around an entity that goes by the name of a scalar type. -/
def wait : Property DataType :=
  ⟨"wait", none, false, none,
    .trait "Limited"
      (.trait "Short" (.singleEntity "Wait" (.entity ⟨"duration", none, []⟩)) [])
      [.length (some "duration") none (some 9)]⟩

def call : Element DataType :=
  ⟨"Call", none,
    [⟨"phase", none, false, none,
      .either "Phase" wait (text (.scalar "http://www.w3.org/2001/XMLSchema#string") "note")⟩]⟩

theorem exists_represents_of_wait :
    Field.OccursIn (call.fields {}) (composeField {} wait) ∧ wait.kind = .duration ∧
      (composeField {} wait).validators.map (·.definition) =
        ["Validators.required", "FormValidators.durationValidator()",
          "FormValidators.lengthValidator(undefined, 9)"] ∧
      ∃ p, call.Shows {} p ∧ composeField {} p = composeField {} wait ∧
        (composeField {} wait).Represents {} p := by
  have hphase : call.Shows {} _ := .top List.mem_cons_self
  have hwait : call.Shows {} wait := hphase.inside List.mem_cons_self
  have hf : Field.OccursIn (call.fields {}) (composeField {} wait) :=
    Element.occursIn_fields_iff.mpr ⟨wait, hwait, rfl⟩
  exact ⟨hf, by decide +kernel, by decide +kernel, call.exists_represents {} hf⟩

end FieldRecordsWitness

end AspectForms
