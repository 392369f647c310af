import AspectForms.Proofs.Coverage
import AspectForms.Proofs.Paths
import AspectForms.Proofs.Validators

/-!
The deconstruction rules of structured values.  Main statement: where lint finds as many parts as elements,
the validator of a structured value has each of its fields beside its own part of the rule.
-/

namespace AspectForms

open Validator

/-- The validator of a structured value for some names, each with its part of the
rule. -/
def Validator.ofParts (pairs : List (String × String)) : Validator :=
  let objects := pairs.map fun e =>
    Value.object [("name", .string e.1), ("rule", .string e.2)]
  ⟨"deconstructionRule", call "deconstructionRuleValidator" [Json.text (.array objects)], true⟩

theorem Validator.calls_ofParts (pairs : List (String × String)) :
    (ofParts pairs).Calls ["deconstructionRuleValidator"] := by
  refine ⟨_, List.mem_cons_self, _, rfl, ?_⟩
  intro a ha
  rw [List.mem_singleton.mp ha]
  exact Script.balanced_text _

/-- Whether a validator calls the factory for deconstruction rules. -/
def Validator.checksParts (v : Validator) : Bool :=
  v.factory? == some "deconstructionRuleValidator"

/-- The field checks its rule with one validator, which has the fields inside it in
order, each with its part of the rule. -/
structure Field.RuleAligned (f : Field) (rule : String) (pairs : List (String × String)) :
    Prop where
  own : f.rule? = some rule
  checked : f.validators.filter checksParts = [.ofParts pairs]
  names : pairs.map Prod.fst = f.children.map Field.name
  joined : Text.join "@" (pairs.map Prod.snd) = rule

namespace PropertyOf

variable {p : Property DataType} {n rule : String} {t : Option DataType}
  {parts : List (Part DataType)}

theorem exists_unwrapped_of_structured (h : p.kind = .structured) :
    ∃ n t rule parts, p.characteristic.unwrapped = .structured n t rule parts := by
  have haccepts := accepts_kind (p := p) (h ▸ nofun)
  rw [h] at haccepts
  generalize p.characteristic.unwrapped = shape at haccepts ⊢
  cases shape with
  | structured n t rule parts => exact ⟨n, t, rule, parts, rfl⟩
  | _ => cases haccepts

section Structured

variable (hshape : p.characteristic.unwrapped = .structured n t rule parts)
include hshape

theorem kind_of_structured : p.kind = .structured := by
  unfold kind
  rw [hshape]
  rfl

theorem rule?_toField (children : List Field) :
    (p.toField children).rule? = some rule := by
  unfold toField
  rw [kind_of_structured hshape, hshape]

theorem inner_of_structured (config : Config) : p.inner config = partProperties parts := by
  unfold inner
  rw [hshape]

theorem typeValidators_of_structured :
    p.typeValidators =
      [.ofParts (((partProperties parts).map (·.name)).zip (ruleParts rule))] := by
  have hpairs : rulePairs rule parts =
      (((partProperties parts).map (·.name)).zip (ruleParts rule)).map fun e =>
        .object [("name", .string e.1), ("rule", .string e.2)] := by
    rw [rulePairs, List.zip_map_left, List.map_map]
    rfl
  unfold typeValidators
  rw [kind_of_structured hshape, hshape]
  dsimp only
  rw [hpairs, Validator.ofParts]

/-- No constraint calls the factory for deconstruction rules, whatever its name. -/
theorem filter_validators_of_structured :
    p.validators.filter checksParts =
      [.ofParts (((partProperties parts).map (·.name)).zip (ruleParts rule))] := by
  have hbase : p.baseValidators.filter checksParts = [] := by
    rw [List.filter_eq_nil_iff]
    intro v hv
    unfold baseValidators at hv
    split at hv
    · cases hv
    · rw [List.mem_singleton.mp hv]
      decide
  have hconstraint : p.constraintValidators.filter checksParts = [] := by
    rw [List.filter_eq_nil_iff]
    intro v hv
    obtain ⟨c, _, hv⟩ := List.mem_flatMap.mp hv
    obtain ⟨factory, hfactory, hcalled⟩ :=
      (Constraint.calls_of_mem hv).1.exists_factory? (by decide)
    rw [checksParts, hcalled, beq_iff_eq]
    intro heq
    rw [Option.some.inj heq] at hfactory
    revert hfactory
    decide
  rw [validators, List.filter_append, List.filter_append, hbase, hconstraint,
    typeValidators_of_structured hshape, List.nil_append, List.append_nil]
  obtain ⟨factory, hfactory, hcalled⟩ := (calls_ofParts _).exists_factory? (by decide)
  apply List.filter_cons_of_pos
  rw [checksParts, hcalled, List.mem_singleton.mp hfactory, beq_self_eq_true]

end Structured

end PropertyOf

/-- Where lint finds no mismatch, the fields inside a structured value are aligned
with the parts of its rule. -/
theorem Document.exists_ruleAligned {doc : Document} {model : Model}
    (h : doc.resolve = .ok model)
    (hlint : ∀ i ∈ model.lint, i.finding.kind ≠ "structured_value_mismatch")
    {config : Config} {name? : Option String} {selection : Selection}
    (hselect : model.select name? = .ok selection) {f : Field}
    (hf : Field.OccursIn (selection.element.fields config) f)
    (hkind : f.kind = .structured) : ∃ rule pairs, f.RuleAligned rule pairs := by
  obtain ⟨p, hp, rfl⟩ := Element.occursIn_fields_iff.mp hf
  rw [kind_composeField] at hkind
  obtain ⟨n, t, rule, parts, hshape⟩ := PropertyOf.exists_unwrapped_of_structured hkind
  have hlength : (PropertyOf.ruleParts rule).length = (partProperties parts).length := by
    by_contra hne
    have hfound : .partMismatch n (PropertyOf.ruleParts rule).length
        (partProperties parts).length ∈ Lint.ownFindings p := by
      simp [Lint.ownFindings, hshape, hne]
    obtain ⟨location, hissue⟩ := exists_issue h (Model.mem_of_select hselect) hp hfound
    exact hlint _ hissue rfl
  have hchildren : (composeField config p).children.map Field.name =
      (partProperties parts).map (·.name) := by
    rw [children_composeField, PropertyOf.inner_of_structured hshape, names_composeField]
  refine ⟨rule, ((partProperties parts).map (·.name)).zip (PropertyOf.ruleParts rule),
    ?_, ?_, ?_, ?_⟩
  · rw [composeField_eq, PropertyOf.rule?_toField hshape]
  · rw [validators_composeField, PropertyOf.filter_validators_of_structured hshape]
  · rw [hchildren, List.map_fst_zip (by simp [hlength])]
  · rw [List.map_snd_zip (by simp [hlength])]
    exact Text.join_splitOn rfl rule

namespace StructuredValuesWitness

open SiblingsWitness (text)

/-- A number and its unit. -/
def amount {τ : Type} (type : τ) : Property τ :=
  ⟨"amount", none, false, none,
    .structured "Amount" (some type) "([0-9]+)@([a-z]+)"
      [.property (text type "number"), .literal " ", .property (text type "unit")]⟩

/-- A price holds an amount, one structured value inside another. -/
def price {τ : Type} (type : τ) : Property τ :=
  ⟨"price", none, false, none,
    .trait "Price" (.structured "Price" (some type) "(.*)@([A-Z])"
      [.property (amount type), .literal "/", .property (text type "class")]) []⟩

def offer {τ : Type} (ticket : τ) : Element τ :=
  ⟨"Offer", none, [⟨"ticket", none, false, none, .singleEntity "Ticket" ticket⟩]⟩

def ticket {τ : Type} (type : τ) : Element τ := ⟨"Ticket", none, [price type]⟩

def document : Document where
  aspect := offer (.entity "Ticket")
  entities := [ticket (.scalar "xsd:string")]

def string : DataType := .scalar "http://www.w3.org/2001/XMLSchema#string"

def model : Model := ⟨offer (.entity (ticket string)), [ticket string]⟩

theorem exists_ruleAligned_of_amount :
    document.resolve = .ok model ∧
      (∀ i ∈ model.lint, i.finding.kind ≠ "structured_value_mismatch") ∧
      ∃ rule pairs, (composeField {} (amount string)).RuleAligned rule pairs := by
  have hresolve : document.resolve = .ok model :=
    Document.resolve_of_unfold (by decide +kernel) rfl
  have hlint : ∀ i ∈ model.lint, i.finding.kind ≠ "structured_value_mismatch" := by
    decide +kernel
  have hselect : model.select none = .ok (.aspect model.aspect) := rfl
  have hticket : model.aspect.Shows {} _ := .top List.mem_cons_self
  have hprice : model.aspect.Shows {} (price string) := hticket.inside List.mem_cons_self
  have hamount : model.aspect.Shows {} (amount string) := hprice.inside List.mem_cons_self
  have hf : Field.OccursIn (model.aspect.fields {}) (composeField {} (amount string)) :=
    Element.occursIn_fields_iff.mpr ⟨_, hamount, rfl⟩
  exact ⟨hresolve, hlint, Document.exists_ruleAligned hresolve hlint hselect hf rfl⟩

end StructuredValuesWitness

end AspectForms
