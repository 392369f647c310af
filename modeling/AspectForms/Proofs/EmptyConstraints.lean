import AspectForms.Proofs.Coverage

/-!
Constraints that make no validator.  Main statement: lint reports just these, each once and in their order,
while the field has one validator for every other constraint; so all constraints of a property are accounted
for.
-/

namespace AspectForms

/-- What lint reports about the constraints of a property itself that make no
validator. -/
def Lint.denials (location : String) (p : Property DataType) : List Issue :=
  (property location p).filter fun i => i.location = location && i.finding.deniesValidator

/-- Each constraint of a property has either made a validator or been reported. -/
structure PropertyOf.AccountsFor (config : Config) (location : String) (p : Property DataType)
    (made : List Validator) : Prop where
  built : (composeField config p).validators = p.baseValidators ++ p.typeValidators ++ made
  at_most_one : ∀ c ∈ p.characteristic.constraints, (c.validators p.kind).length ≤ 1
  in_order : List.Forall₂ (fun c v => c.validators p.kind = [v])
    (p.characteristic.constraints.filter fun c => !(c.validators p.kind).isEmpty) made
  denied : List.Forall₂ (fun c i => Lint.constraintFinding? c = some i.finding)
    (p.characteristic.constraints.filter fun c => (c.validators p.kind).isEmpty)
    (Lint.denials location p)
  denied_iff : ∀ c ∈ p.characteristic.constraints,
    (∃ i ∈ Lint.denials location p, Lint.constraintFinding? c = some i.finding) ↔
      c.validators p.kind = []
  total : made.length + (Lint.denials location p).length =
    p.characteristic.constraints.length

/-- The validators stand in the order of the constraints that make them. -/
theorem forall₂_validators (owner : FieldKind) (cs : List Constraint) :
    List.Forall₂ (fun c v => c.validators owner = [v])
      (cs.filter fun c => !(c.validators owner).isEmpty)
      (cs.flatMap fun c => c.validators owner) := by
  induction cs with
  | nil => exact .nil
  | cons c cs ih =>
      rcases c.validators_cases owner with ⟨v, hv, _⟩ | ⟨hnone, _⟩
      · rw [List.filter_cons_of_pos (by simp [hv]), List.flatMap_cons, hv]
        exact .cons hv ih
      · rw [List.filter_cons_of_neg (by simp [hnone]), List.flatMap_cons, hnone]
        exact ih

/-- The findings that deny a validator stand in the order of the constraints that
make none. -/
theorem forall₂_findings (owner : FieldKind) (cs : List Constraint) :
    List.Forall₂ (fun c found => Lint.constraintFinding? c = some found)
      (cs.filter fun c => (c.validators owner).isEmpty)
      ((cs.filterMap Lint.constraintFinding?).filter Finding.deniesValidator) := by
  induction cs with
  | nil => exact .nil
  | cons c cs ih =>
      rcases c.validators_cases owner with ⟨v, hv, hother⟩ | ⟨hnone, found, hfound, hdenies⟩
      · rw [List.filter_cons_of_neg (by simp [hv]), List.filterMap_cons]
        -- a validator may still come with a finding, that its pattern is none
        cases hfinding : Lint.constraintFinding? c with
        | none => exact ih
        | some found =>
            rw [List.filter_cons_of_neg (by simp [hother found hfinding])]
            exact ih
      · rw [List.filter_cons_of_pos (by simp [hnone]), List.filterMap_cons_some hfound,
          List.filter_cons_of_pos hdenies]
        exact .cons hfound ih

namespace Lint

/-- Every issue of a property has its place there or below. -/
theorem prefix_location (p : Property DataType) (location : String) :
    ∀ i ∈ property location p, location.toList <+: i.location.toList := by
  induction p using PropertyOf.nested_induction generalizing location with
  | step p ih =>
      intro i hi
      rw [property_eq] at hi
      rcases List.mem_append.mp hi with hi | hi
      · obtain ⟨found, _, rfl⟩ := List.mem_map.mp hi
        exact List.prefix_refl _
      · obtain ⟨q, hq, hi⟩ := List.mem_flatMap.mp hi
        have hbelow := ih q hq _ i hi
        rw [String.toList_append, String.toList_append, List.append_assoc] at hbelow
        exact (List.prefix_append _ _).trans hbelow

theorem location_ne_of_nested {q : Property DataType} {location : String} {i : Issue}
    (hi : i ∈ property (location ++ "." ++ q.name) q) : i.location ≠ location := by
  intro heq
  have hlength := (prefix_location q _ i hi).length_le
  rw [heq, String.toList_append, String.toList_append, List.length_append,
    List.length_append] at hlength
  have hdot : ".".toList.length = 1 := rfl
  omega

/-- What is found at a property itself besides its constraints denies no validator. -/
theorem exists_ownFindings_around (p : Property DataType) :
    ∃ before after, ownFindings p =
        before ++ p.characteristic.constraints.filterMap constraintFinding? ++ after ∧
      (∀ found ∈ before, found.deniesValidator = false) ∧
      ∀ found ∈ after, found.deniesValidator = false := by
  refine ⟨_, _, rfl, ?_, ?_⟩
  · intro found hmem
    rcases List.mem_append.mp hmem with hmem | hmem
    · rcases List.mem_append.mp hmem with hmem | hmem
      · split at hmem
        · cases hmem
        · rw [List.mem_singleton.mp hmem]
          rfl
      · split at hmem
        · rw [List.mem_singleton.mp hmem]
          rfl
        · cases hmem
    · split at hmem
      · rw [List.mem_singleton.mp hmem]
        rfl
      · cases hmem
  · intro found hmem
    split at hmem
    · split at hmem
      · rw [List.mem_singleton.mp hmem]
        rfl
      · cases hmem
    · rcases List.mem_append.mp hmem with hmem | hmem
      · split at hmem
        · cases hmem
        · rw [List.mem_singleton.mp hmem]
          rfl
      · obtain ⟨piece, _, hfound⟩ := List.mem_filterMap.mp hmem
        exact deniesValidator_patternFinding? hfound
    · cases hmem

theorem filter_ownFindings (p : Property DataType) :
    (ownFindings p).filter Finding.deniesValidator =
      (p.characteristic.constraints.filterMap constraintFinding?).filter
        Finding.deniesValidator := by
  have hnone {founds : List Finding} (h : ∀ found ∈ founds, found.deniesValidator = false) :
      founds.filter Finding.deniesValidator = [] := by
    rw [List.filter_eq_nil_iff]
    intro found hmem
    simp [h found hmem]
  obtain ⟨before, after, heq, hbefore, hafter⟩ := exists_ownFindings_around p
  rw [heq, List.filter_append, List.filter_append, hnone hbefore, hnone hafter,
    List.nil_append, List.append_nil]

/-- Only the constraints of the property itself are denied validators there. -/
theorem denials_eq (location : String) (p : Property DataType) :
    denials location p =
      ((p.characteristic.constraints.filterMap constraintFinding?).filter
        Finding.deniesValidator).map (⟨location, ·⟩) := by
  have hbelow : (p.nested.flatMap fun q => property (location ++ "." ++ q.name) q).filter
      (fun i => i.location = location && i.finding.deniesValidator) = [] := by
    rw [List.filter_eq_nil_iff]
    intro i hi
    obtain ⟨q, _, hi⟩ := List.mem_flatMap.mp hi
    simp [location_ne_of_nested hi]
  rw [denials, property_eq, List.filter_append, hbelow, List.append_nil, List.filter_map,
    ← filter_ownFindings]
  congr 1
  apply List.filter_congr
  simp

end Lint

/-- Lint and the field agree about the constraints that make no validator. -/
theorem PropertyOf.exists_accountsFor (config : Config) (location : String)
    (p : Property DataType) : ∃ made, p.AccountsFor config location made := by
  have hmade := forall₂_validators p.kind p.characteristic.constraints
  have hdenied : List.Forall₂ (fun c i => Lint.constraintFinding? c = some i.finding)
      (p.characteristic.constraints.filter fun c => (c.validators p.kind).isEmpty)
      (Lint.denials location p) := by
    rw [Lint.denials_eq, List.forall₂_map_right_iff]
    exact forall₂_findings p.kind p.characteristic.constraints
  refine ⟨p.constraintValidators, ⟨?_, ?_, hmade, hdenied, ?_, ?_⟩⟩
  · rw [validators_composeField]
    rfl
  · intro c _
    rcases c.validators_cases p.kind with ⟨v, hv, _⟩ | ⟨hnone, _⟩
    · rw [hv, List.length_singleton]
    · rw [hnone]
      exact Nat.zero_le 1
  · intro c hc
    constructor
    · rintro ⟨i, hi, hfinding⟩
      rcases c.validators_cases p.kind with ⟨_, _, hother⟩ | ⟨hnone, _⟩
      · have hdenies := (Bool.and_eq_true_iff.mp (List.mem_filter.mp hi).2).2
        rw [hother _ hfinding] at hdenies
        cases hdenies
      · exact hnone
    · intro hnone
      have hmem : c ∈ p.characteristic.constraints.filter fun c => (c.validators p.kind).isEmpty :=
        List.mem_filter.mpr ⟨hc, List.isEmpty_iff.mpr hnone⟩
      exact exists_right_of_forall₂ hdenied c hmem
  · rw [constraintValidators, ← hmade.length_eq, ← hdenied.length_eq, Nat.add_comm]
    exact (List.length_eq_length_filter_add _).symm

namespace EmptyConstraintsWitness

open ConstraintsWitness (xsdString)

/-- Constraints with bounds that are `null`, an empty pattern, one that is none, and encodings known
and unknown. -/
def code : Property DataType :=
  ⟨"code", none, false, none,
    .trait "Code" (.scalar "Text" (some xsdString) none)
      [.range none (some .null) none .atLeast .atMost, .length none none (some 5),
        .pattern (some "form") "", .pattern none "(", .encoding none "urn:sets#utf-8",
        .encoding none "EBCDIC", .fixedPoint none 2 1]⟩

theorem exists_accountsFor_of_code :
    (∃ made, code.AccountsFor {} "Reading.code" made) ∧
      (Lint.denials "Reading.code" code).map (·.finding.kind) =
        ["vacuous_constraint", "vacuous_constraint", "unsupported_encoding"] :=
  ⟨code.exists_accountsFor {} "Reading.code", by decide +kernel⟩

end EmptyConstraintsWitness

end AspectForms
