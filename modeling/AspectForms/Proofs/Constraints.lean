import AspectForms.Proofs.Siblings

/-!
What becomes of the constraints of an element, wherever a trait stands inside its properties.  Main
statement: each one is checked by a validator of the field of the nearest property around it, or lint
reports a finding at that property or at one around it.  The element characteristics of collections are
the exception, since neither fields nor findings are made of them.
-/

namespace AspectForms

variable {τ : Type} {c : Constraint}

/-- A constraint stands in a trait somewhere inside a characteristic.  The
properties between the two are listed from the outside in, and `inElement`
tells whether the way leads through the element of a collection. -/
inductive Characteristic.Bears (c : Constraint) :
    (inElement : Bool) → List (Property τ) → Characteristic τ → Prop
  | here {n b cs} (hc : c ∈ cs) : Bears c false [] (.trait n b cs)
  | base {n b cs inElement between} (h : Bears c inElement between b) :
    Bears c inElement between (.trait n b cs)
  | left {n l r inElement between}
    (h : Bears c inElement between l.characteristic) :
    Bears c inElement (l :: between) (.either n l r)
  | right {n l r inElement between}
    (h : Bears c inElement between r.characteristic) :
    Bears c inElement (r :: between) (.either n l r)
  | part {n t rule parts p inElement between} (hp : p ∈ partProperties parts)
    (h : Bears c inElement between p.characteristic) :
    Bears c inElement (p :: between) (.structured n t rule parts)
  | element {n k t d inElement between} (h : Bears c inElement between d) :
    Bears c true between (.collection n k t (some d))

/-- A constraint stands inside a property of an element, below the properties
`around`. -/
inductive Element.Bears (e : Element τ) (c : Constraint) (inElement : Bool) :
    List (Property τ) → Prop
  | property {p between} (hp : p ∈ e.properties)
    (h : p.characteristic.Bears c inElement between) :
    Bears e c inElement (p :: between)

/-- A forest has the fields of the properties `around`, each inside the one
before it, and the last of them has a validator for the constraint. -/
inductive Field.Checks (config : Config) (c : Constraint) :
    List Field → List (Property DataType) → Prop
  | here {fields p v} (hp : composeField config p ∈ fields)
    (hv : v ∈ (composeField config p).validators)
    (hc : v ∈ c.validators p.kind) : Checks config c fields [p]
  | inside {fields p around} (hp : composeField config p ∈ fields)
    (h : Checks config c (composeField config p).children around) :
    Checks config c fields (p :: around)

/-- The place that lint gives to the last of some properties, each inside the
one before it. -/
def Lint.locate (owner : String) (around : List (Property τ)) : String :=
  around.foldl (fun place p => place ++ "." ++ p.name) owner

/-- Among some issues is one that was found at one of the properties `around`
and is located there. -/
def Lint.Reports (issues : List Issue) (owner : String)
    (around : List (Property DataType)) : Prop :=
  ∃ above p, above ++ [p] <+: around ∧ ∃ found ∈ ownFindings p,
    ⟨locate owner (above ++ [p]), found⟩ ∈ issues

/-- Whether a finding says that a constraint makes no validator. -/
def Finding.deniesValidator (found : Finding) : Bool :=
  found.kind ∈ ["vacuous_constraint", "unsupported_encoding"]

theorem Lint.patternFinding?_cases {role : PatternRole} {pattern : String} {found : Finding}
    (h : patternFinding? role pattern = some found) :
    found = .uncheckedPattern role pattern ∨ ∃ fault, found = .invalidPattern role pattern fault := by
  unfold patternFinding? at h
  split at h
  · cases h
  · exact .inl (Option.some.inj h).symm
  · split at h
    · exact .inl (Option.some.inj h).symm
    · exact .inr ⟨_, (Option.some.inj h).symm⟩

theorem Lint.deniesValidator_patternFinding? {role : PatternRole} {pattern : String}
    {found : Finding} (h : patternFinding? role pattern = some found) : found.deniesValidator = false := by
  rcases patternFinding?_cases h with rfl | ⟨fault, rfl⟩
  · rfl
  · cases role <;> rfl

/-- A constraint makes one validator, or lint finds that it makes none. -/
theorem Constraint.validators_cases (c : Constraint) (owner : FieldKind) :
    (∃ v, c.validators owner = [v] ∧
      ∀ found, Lint.constraintFinding? c = some found → found.deniesValidator = false) ∨
    (c.validators owner = [] ∧
      ∃ found, Lint.constraintFinding? c = some found ∧ found.deniesValidator = true) := by
  cases c with
  | range name min max lower upper =>
      by_cases hgiven : (isGiven min || isGiven max) = true
      · exact .inl ⟨_, if_pos hgiven, by simp [Lint.constraintFinding?, hgiven]⟩
      · exact .inr ⟨if_neg hgiven, _, if_neg hgiven, rfl⟩
  | length name min max =>
      by_cases hgiven : (min.isSome || max.isSome) = true
      · exact .inl ⟨_, if_pos hgiven, by simp [Lint.constraintFinding?, hgiven]⟩
      · exact .inr ⟨if_neg hgiven, _, if_neg hgiven, rfl⟩
  | pattern name expression =>
      by_cases hempty : expression.isEmpty = true
      · exact .inr ⟨if_pos hempty, _, if_pos hempty, rfl⟩
      · refine .inl ⟨_, if_neg hempty, fun found hfound => ?_⟩
        rw [Lint.constraintFinding?, if_neg hempty] at hfound
        exact Lint.deniesValidator_patternFinding? hfound
  | encoding name value =>
      cases hencoding : supportedEncoding? value with
      | some e =>
          exact .inl ⟨_, by rw [validators, hencoding], by simp [Lint.constraintFinding?, hencoding]⟩
      | none =>
          exact .inr ⟨by rw [validators, hencoding], .unsupportedEncoding value,
            by rw [Lint.constraintFinding?, hencoding], rfl⟩
  | fixedPoint name integer scale =>
      exact .inl ⟨_, rfl, by simp [Lint.constraintFinding?]⟩

/-- A constraint that makes no validator is a finding. -/
theorem Lint.exists_finding_of_validators_eq_nil {owner : FieldKind}
    (h : c.validators owner = []) : ∃ found, constraintFinding? c = some found := by
  rcases c.validators_cases owner with ⟨v, hv, _⟩ | ⟨_, found, hfound, _⟩
  · rw [h] at hv
    cases hv
  · exact ⟨found, hfound⟩

namespace Lint

variable {p q : Property DataType}

theorem constraintFinding_mem {found : Finding}
    (hc : c ∈ p.characteristic.constraints)
    (hfound : constraintFinding? c = some found) : found ∈ ownFindings p := by
  have hmem : found ∈ p.characteristic.constraints.filterMap constraintFinding? :=
    List.mem_filterMap.mpr ⟨c, hc, hfound⟩
  simp [ownFindings, hmem]

theorem nestedTrait_mem {outer inner : String} {base : Characteristic DataType}
    {cs ds : List Constraint}
    (hp : p.characteristic = .trait outer (.trait inner base cs) ds) :
    .nestedTrait outer inner ∈ ownFindings p := by
  simp [ownFindings, hp]

theorem own_mem_property {location : String} {found : Finding}
    (h : found ∈ ownFindings p) : ⟨location, found⟩ ∈ property location p := by
  rw [property_eq]
  exact List.mem_append_left _ (List.mem_map_of_mem h)

/-- Lint goes on to the properties written inside. -/
theorem property_subset {location : String} (hq : q ∈ p.nested) :
    property (location ++ "." ++ q.name) q ⊆ property location p := by
  intro i hi
  rw [property_eq location p]
  exact List.mem_append_right _ (List.mem_flatMap.mpr ⟨q, hq, hi⟩)

end Lint

theorem PropertyOf.inner_of_nested {p q : Property DataType} {config : Config}
    (hq : q ∈ p.nested) : q ∈ p.inner config := by
  unfold nested at hq
  unfold inner
  cases hshape : p.characteristic.unwrapped with
  | either n l r => simpa [hshape] using hq
  | structured n t rule parts => simpa [hshape] using hq
  | _ => simp [hshape] at hq

namespace Characteristic.Bears

variable {p : Property DataType} {between : List (Property DataType)}

/-- Below a shape that is no trait the way leads on through a property written
inside. -/
theorem exists_nested {shape : Characteristic DataType}
    (hshape : p.characteristic.unwrapped = shape)
    (hplain : ∀ n b cs, shape ≠ .trait n b cs)
    (h : shape.Bears c false between) :
    ∃ q rest, between = q :: rest ∧ q ∈ p.nested ∧
      q.characteristic.Bears c false rest := by
  unfold PropertyOf.nested
  rw [hshape]
  cases h with
  | here hc => exact absurd rfl (hplain _ _ _)
  | base h => exact absurd rfl (hplain _ _ _)
  | left h => exact ⟨_, _, rfl, by simp, h⟩
  | right h => exact ⟨_, _, rfl, by simp, h⟩
  | part hp h => exact ⟨_, _, rfl, hp, h⟩

/-- A constraint stands in the outermost trait of a property, or in a property
written inside, unless lint finds one trait around another. -/
theorem cases_property (h : p.characteristic.Bears c false between) :
    (between = [] ∧ c ∈ p.characteristic.constraints) ∨
      (∃ q rest, between = q :: rest ∧ q ∈ p.nested ∧
        q.characteristic.Bears c false rest) ∨
      ∃ found, found ∈ Lint.ownFindings p := by
  cases hshape : p.characteristic with
  | trait outer base cs =>
      rw [hshape] at h
      cases h with
      | here hc => exact .inl ⟨rfl, by simpa [constraints] using hc⟩
      | base h =>
          have hbase : p.characteristic.unwrapped = base := by rw [hshape, unwrapped]
          cases base with
          | trait inner d ds =>
              exact .inr (.inr ⟨_, Lint.nestedTrait_mem hshape⟩)
          | _ => exact .inr (.inl (exists_nested hbase (by simp) h))
  | _ =>
      rw [hshape] at h
      have hsame := congrArg unwrapped hshape
      exact .inr (.inl (exists_nested hsame (by simp [unwrapped]) h))

end Characteristic.Bears

namespace Lint.Reports

variable {issues : List Issue} {owner : String} {p : Property DataType}
  {around : List (Property DataType)}

theorem here {found : Finding} (hfound : found ∈ ownFindings p)
    (hissues : property (owner ++ "." ++ p.name) p ⊆ issues) :
    Reports issues owner (p :: around) :=
  ⟨[], p, by simp, found, hfound, hissues (own_mem_property hfound)⟩

theorem inside (h : Reports issues (owner ++ "." ++ p.name) around) :
    Reports issues owner (p :: around) := by
  obtain ⟨above, q, hle, found, hfound, hmem⟩ := h
  exact ⟨p :: above, q, by simpa using hle, found, hfound, hmem⟩

end Lint.Reports

variable {config : Config}

/-- A constraint in the outermost trait of a property makes a validator of its
field or is a finding. -/
theorem PropertyOf.exists_validator_or_finding {p : Property DataType}
    (hc : c ∈ p.characteristic.constraints) :
    (∃ v ∈ (composeField config p).validators, v ∈ c.validators p.kind) ∨
      ∃ found, found ∈ Lint.ownFindings p := by
  by_cases hnone : c.validators p.kind = []
  · obtain ⟨found, hfound⟩ := Lint.exists_finding_of_validators_eq_nil hnone
    exact .inr ⟨found, Lint.constraintFinding_mem hc hfound⟩
  · obtain ⟨v, hv⟩ := List.exists_mem_of_ne_nil _ hnone
    refine .inl ⟨v, ?_, hv⟩
    rw [composeField_eq, validators_toField, validators]
    exact List.mem_append_right _ (List.mem_flatMap.mpr ⟨c, hc, hv⟩)

/-- Composition and lint go down to the constraint side by side, until there is
a validator or a finding. -/
theorem Field.checks_or_reports {fields : List Field} {issues : List Issue}
    {owner : String} {p : Property DataType}
    {between : List (Property DataType)}
    (hfield : composeField config p ∈ fields)
    (hissues : Lint.property (owner ++ "." ++ p.name) p ⊆ issues)
    (h : p.characteristic.Bears c false between) :
    Checks config c fields (p :: between) ∨
      Lint.Reports issues owner (p :: between) := by
  induction between generalizing p fields owner with
  | nil =>
      rcases h.cases_property with ⟨_, hc⟩ | ⟨q, rest, hcons, _⟩ | ⟨found, hfound⟩
      · rcases p.exists_validator_or_finding hc with ⟨v, hv, hmem⟩ | ⟨found, hfound⟩
        · exact .inl (.here hfield hv hmem)
        · exact .inr (.here hfound hissues)
      · cases hcons
      · exact .inr (.here hfound hissues)
  | cons q between ih =>
      rcases h.cases_property with ⟨hnil, _⟩ | ⟨_, _, hcons, hq, hrest⟩ | ⟨found, hfound⟩
      · cases hnil
      · obtain ⟨rfl, rfl⟩ := List.cons.inj hcons
        have hchild : composeField config q ∈ (composeField config p).children := by
          rw [children_composeField]
          exact List.mem_map_of_mem (PropertyOf.inner_of_nested hq)
        have hbelow : Lint.property (owner ++ "." ++ p.name ++ "." ++ q.name) q ⊆
            issues := fun i hi => hissues (Lint.property_subset hq hi)
        exact (ih hchild hbelow hrest).imp (.inside hfield) .inside
      · exact .inr (.here hfound hissues)

theorem Lint.property_subset_properties {owner : String} {seen : List String}
    {ps : List (Property DataType)} {p : Property DataType} (hp : p ∈ ps) :
    property (owner ++ "." ++ p.name) p ⊆ properties owner seen ps := by
  induction ps generalizing seen with
  | nil => cases hp
  | cons q ps ih =>
      intro i hi
      rw [properties]
      rcases List.mem_cons.mp hp with rfl | hp
      · exact List.mem_append_left _ (List.mem_append_right _ hi)
      · exact List.mem_append_right _ (ih hp hi)

theorem Model.element_subset_lint {model : Model} {e : Element DataType}
    (he : e ∈ model.aspect :: model.entities) : Lint.element e ⊆ model.lint := by
  intro i hi
  rcases List.mem_cons.mp he with rfl | he
  · exact List.mem_append_left _ hi
  · exact List.mem_append_right _ (List.mem_flatMap.mpr ⟨e, he, hi⟩)

/-- Every constraint of an aspect or entity that does not stand in the element
of a collection has a validator on the field of the nearest property around
it, or lint reports a finding at a property around it. -/
theorem Model.checks_or_reports_constraint {model : Model} {e : Element DataType}
    {around : List (Property DataType)} (hall : config.exclusions = [])
    (he : e ∈ model.aspect :: model.entities) (h : e.Bears c false around) :
    Field.Checks config c (e.fields config) around ∨
      Lint.Reports model.lint e.name around := by
  obtain ⟨hp, hbears⟩ := h
  rename_i p between
  have hfield : composeField config p ∈ e.fields config := by
    rw [Element.fields_eq]
    apply List.mem_map_of_mem
    simp [Element.shown, Config.excludes, hall, hp]
  refine Field.checks_or_reports hfield ?_ hbears
  intro i hi
  exact Model.element_subset_lint he (Lint.property_subset_properties hp hi)

namespace ConstraintsWitness

/-- At most five characters. -/
def limit : Constraint := .length none none (some 5)

/-- A text that keeps to the limit. -/
def limited {τ : Type} (type : τ) : Characteristic τ :=
  .trait "Limited" (.scalar "Text" (some type) none) [limit]

def xsdString : DataType := .scalar "http://www.w3.org/2001/XMLSchema#string"

def serial : Property DataType := ⟨"serial", none, false, none, limited xsdString⟩

/-- One of the branches is a value whose second element keeps to the limit. -/
def label : Property DataType :=
  ⟨"label", none, true, none,
    .structured "Label" (some xsdString) "([A-Z]+)@(.*)"
      [.property ⟨"maker", none, false, none, .scalar "Text" (some xsdString) none⟩,
        .literal "-", .property serial]⟩

def mark : Property DataType :=
  ⟨"mark", none, false, none,
    .trait "Mark" (.either "Mark" label ⟨"none", none, false, none,
      .scalar "Flag" (some (.scalar "http://www.w3.org/2001/XMLSchema#boolean")) none⟩) []⟩

def part : Element DataType := ⟨"Part", none, [mark]⟩

def parts : Model :=
  ⟨⟨"Stock", none, [⟨"part", none, false, none, .singleEntity "Part" (.entity part)⟩]⟩,
    [part]⟩

theorem checks_or_reports_of_serial :
    part.Bears limit false [mark, label, serial] ∧
      (Field.Checks {} limit (part.fields {}) [mark, label, serial] ∨
        Lint.Reports parts.lint "Part" [mark, label, serial]) := by
  have hlimit : serial.characteristic.Bears limit false [] :=
    .here List.mem_cons_self
  have hlabel : label.characteristic.Bears limit false [serial] :=
    .part (by simp [partProperties]) hlimit
  have hbears : part.Bears limit false [mark, label, serial] :=
    .property List.mem_cons_self (.base (.left hlabel))
  refine ⟨hbears, Model.checks_or_reports_constraint rfl ?_ hbears⟩
  exact List.mem_cons_of_mem _ List.mem_cons_self

/-- A list of texts that keep to the limit. -/
def samples {τ : Type} (type : τ) : Property τ :=
  ⟨"samples", none, false, none,
    .collection "Samples" .list (some type) (some (limited type))⟩

def document : Document where
  aspect := ⟨"Reading", none, [samples (.scalar "xsd:string")]⟩
  entities := []
  ascending := .nil

def model : Model := ⟨⟨"Reading", none, [samples xsdString]⟩, []⟩

/-- Neither the field of a list nor lint says anything about a constraint on its
items. -/
theorem item_constraint_dropped :
    document.resolve = .ok model ∧
      model.aspect.Bears limit true [samples xsdString] ∧
      ¬(Field.Checks {} limit (model.aspect.fields {}) [samples xsdString] ∨
        Lint.Reports model.lint "Reading" [samples xsdString]) := by
  refine ⟨Document.resolve_of_unfold (by decide +kernel) rfl,
    .property List.mem_cons_self (.element (.here List.mem_cons_self)), ?_⟩
  have hfields : ∀ v ∈ (composeField {} (samples xsdString)).validators,
      v ∉ limit.validators (samples xsdString).kind := by decide
  have hlint : model.lint = [] := List.isEmpty_iff.mp (by decide +kernel)
  rintro (hchecks | hreports)
  · cases hchecks with
    | here _ hv hc => exact hfields _ hv hc
    | inside _ h => cases h
  · obtain ⟨_, _, _, found, _, hmem⟩ := hreports
    rw [hlint] at hmem
    cases hmem

end ConstraintsWitness

end AspectForms
