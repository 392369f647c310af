import Mathlib.Logic.Relation
import AspectForms.Proofs.Coverage

/-!
What makes lint report an error.  Main statement: a model has errors exactly if an aspect or entity lists a
name twice, or if from its list a property is reached through branches and elements of structured values
that has one of four faults.
-/

namespace AspectForms

/-- The check of patterns makes an error of a text. -/
def Lint.Rejects (role : PatternRole) (pattern : String) : Prop :=
  ∃ found, patternFinding? role pattern = some found ∧ found.severity = .error

namespace PropertyOf

/-- One property stands in the characteristic of another one, below a trait or not: it is a
branch of an either or an element of a structured value. -/
inductive LeadsTo (p : Property DataType) : Property DataType → Prop
  | left {n l r} (h : p.characteristic.unwrapped = .either n l r) : LeadsTo p l
  | right {n l r} (h : p.characteristic.unwrapped = .either n l r) : LeadsTo p r
  | element {n t rule parts q} (h : p.characteristic.unwrapped = .structured n t rule parts)
    (hq : q ∈ partProperties parts) : LeadsTo p q

/-- The faults of a property itself. -/
inductive Wrong (p : Property DataType) : Prop
  | branches {n l r} (h : p.characteristic.unwrapped = .either n l r) (hname : l.name = r.name)
  | parts {n t rule parts} (h : p.characteristic.unwrapped = .structured n t rule parts)
    (hlength : (Text.splitOn '@' rule).length ≠ (partProperties parts).length)
  | rulePart {n t rule parts part}
    (h : p.characteristic.unwrapped = .structured n t rule parts)
    (hpart : part ∈ Text.splitOn '@' rule) (hrejects : Lint.Rejects .rulePart part)
  | constraint {name? expression}
    (hmem : .pattern name? expression ∈ p.characteristic.constraints) (hne : expression ≠ "")
    (hrejects : Lint.Rejects .constraint expression)

end PropertyOf

/-- A property is reached from the list of an aspect or entity. -/
def Element.Reaches (e : Element DataType) (p : Property DataType) : Prop :=
  ∃ top ∈ e.properties, Relation.ReflTransGen PropertyOf.LeadsTo top p

section AtProperty

variable {p q : Property DataType}

theorem PropertyOf.leadsTo_iff : p.LeadsTo q ↔ q ∈ p.nested := by
  unfold nested
  constructor
  · rintro (h | h | ⟨h, hq⟩)
    · simp [h]
    · simp [h]
    · rw [h]
      exact hq
  · intro hq
    cases hshape : p.characteristic.unwrapped with
    | either n l r =>
        rw [hshape] at hq
        rcases List.mem_pair.mp hq with rfl | rfl
        · exact .left hshape
        · exact .right hshape
    | structured n t rule parts =>
        rw [hshape] at hq
        exact .element hshape hq
    | _ => simp [hshape] at hq

namespace Lint

/-- The only error that a constraint can be is a pattern that is none. -/
theorem rejects_of_constraintFinding? {c : Constraint} {found : Finding}
    (h : constraintFinding? c = some found) (herror : found.severity = .error) :
    ∃ name? expression, c = .pattern name? expression ∧ expression ≠ "" ∧
      Rejects .constraint expression := by
  cases c with
  | pattern name? expression =>
      rw [constraintFinding?] at h
      split at h
      · obtain rfl := Option.some.inj h
        cases herror
      · rename_i hgiven
        exact ⟨name?, expression, rfl, by simpa using hgiven, found, h, herror⟩
  | fixedPoint => cases h
  | _ =>
      rw [constraintFinding?] at h
      split at h <;> cases h
      cases herror

theorem wrong_of_mem_ownFindings {found : Finding} (h : found ∈ ownFindings p)
    (herror : found.severity = .error) : p.Wrong := by
  simp only [ownFindings, List.mem_append] at h
  rcases h with (((hname | htrait) | hkind) | hconstraint) | hshape
  -- A name, a trait around a trait and a plain text field are never more than warnings.
  · split at hname
    · cases hname
    · obtain rfl := List.mem_singleton.mp hname
      cases herror
  · split at htrait
    · obtain rfl := List.mem_singleton.mp htrait
      cases herror
    · cases htrait
  · split at hkind
    · obtain rfl := List.mem_singleton.mp hkind
      cases herror
    · cases hkind
  · obtain ⟨c, hc, hfound⟩ := List.mem_filterMap.mp hconstraint
    obtain ⟨name?, expression, rfl, hne, hrejects⟩ :=
      rejects_of_constraintFinding? hfound herror
    exact .constraint hc hne hrejects
  · split at hshape
    · rename_i n l r heither
      split at hshape
      · exact .branches heither ‹l.name = r.name›
      · cases hshape
    · rename_i n t rule parts hstructured
      rcases List.mem_append.mp hshape with hcount | hpart
      · split at hcount
        · cases hcount
        · exact .parts hstructured ‹_›
      · obtain ⟨part, hpart, hfound⟩ := List.mem_filterMap.mp hpart
        exact .rulePart hstructured hpart ⟨found, hfound, herror⟩
    · cases hshape

theorem exists_error_of_wrong (h : p.Wrong) :
    ∃ found ∈ ownFindings p, found.severity = .error := by
  cases h with
  | @branches n l r hshape hname =>
      exact ⟨.duplicateBranch n l.name, by simp [ownFindings, hshape, hname], rfl⟩
  | @parts n t rule parts hshape hlength =>
      have hcount : (PropertyOf.ruleParts rule).length ≠ (partProperties parts).length := hlength
      exact ⟨.partMismatch n (PropertyOf.ruleParts rule).length (partProperties parts).length,
        by simp [ownFindings, hshape, hcount], rfl⟩
  | @rulePart n t rule parts part hshape hpart hrejects =>
      obtain ⟨found, hfound, herror⟩ := hrejects
      have hmem : found ∈ (PropertyOf.ruleParts rule).filterMap (patternFinding? .rulePart) :=
        List.mem_filterMap.mpr ⟨part, hpart, hfound⟩
      exact ⟨found, by simp [ownFindings, hshape, hmem], herror⟩
  | @constraint name? expression hmem hne hrejects =>
      obtain ⟨found, hfound, herror⟩ := hrejects
      have hconstraint : constraintFinding? (.pattern name? expression) = some found := by
        rw [constraintFinding?, if_neg (by simpa using hne), hfound]
      exact ⟨found, constraintFinding_mem hmem hconstraint, herror⟩

/-- One step of lint: an error is found at a property or at one that it leads to. -/
theorem hasErrors_property_step (location : String) (p : Property DataType) :
    hasErrors (property location p) = true ↔
      p.Wrong ∨ ∃ q, p.LeadsTo q ∧ hasErrors (property (location ++ "." ++ q.name) q) = true := by
  have hown : hasErrors ((ownFindings p).map (⟨location, ·⟩)) = true ↔ p.Wrong := by
    rw [hasErrors, List.any_map, List.any_eq_true]
    constructor
    · rintro ⟨found, hfound, herror⟩
      exact wrong_of_mem_ownFindings hfound (eq_of_beq herror)
    · intro hwrong
      obtain ⟨found, hfound, herror⟩ := exists_error_of_wrong hwrong
      exact ⟨found, hfound, beq_iff_eq.mpr herror⟩
  rw [property_eq, hasErrors_append, Bool.or_eq_true, hown]
  simp only [hasErrors, List.any_flatMap, List.any_eq_true, PropertyOf.leadsTo_iff]

/-- The errors of a property are the faults of the properties that it leads to in any number
of steps. -/
theorem hasErrors_property_iff (location : String) (p : Property DataType) :
    hasErrors (property location p) = true ↔
      ∃ q, Relation.ReflTransGen PropertyOf.LeadsTo p q ∧ q.Wrong := by
  induction p using PropertyOf.nested_induction generalizing location with
  | step p ih =>
      rw [hasErrors_property_step]
      constructor
      · rintro (hwrong | ⟨q, hq, herrors⟩)
        · exact ⟨p, .refl, hwrong⟩
        · obtain ⟨x, hx, hwrong⟩ := (ih q (PropertyOf.leadsTo_iff.mp hq) _).mp herrors
          exact ⟨x, .head hq hx, hwrong⟩
      · rintro ⟨x, hx, hwrong⟩
        rcases hx.cases_head with rfl | ⟨q, hq, hx⟩
        · exact .inl hwrong
        · exact .inr ⟨q, hq, (ih q (PropertyOf.leadsTo_iff.mp hq) _).mpr ⟨x, hx, hwrong⟩⟩

end Lint

end AtProperty

/-- A list of properties has errors if a name is there twice or among those before it, or if
one of the properties has errors. -/
theorem Lint.hasErrors_properties_iff (owner : String) (seen : List String)
    (ps : List (Property DataType)) :
    hasErrors (properties owner seen ps) = true ↔
      (∃ p ∈ ps, p.name ∈ seen) ∨ ¬(ps.map (·.name)).Nodup ∨
        ∃ p ∈ ps, hasErrors (property (owner ++ "." ++ p.name) p) = true := by
  induction ps generalizing seen with
  | nil => simp [properties, hasErrors]
  | cons p ps ih =>
      have hseen : hasErrors (if p.name ∈ seen then
          [⟨owner ++ "." ++ p.name, .duplicateProperty p.name owner⟩] else []) = true ↔
            p.name ∈ seen := by
        split
        · simpa [hasErrors, Issue.severity, Finding.severity]
        · simpa [hasErrors]
      rw [properties, hasErrors_append, hasErrors_append, Bool.or_eq_true, Bool.or_eq_true, hseen,
        ih]
      simp only [List.map_cons, List.nodup_cons, List.mem_map, List.mem_cons, exists_eq_or_imp,
        and_or_left, exists_or, not_and_or, not_not]
      -- The same cases on both sides: a name of the rest can be that of the head.
      simp only [or_assoc, or_left_comm]

theorem Element.hasErrors_element_iff (e : Element DataType) :
    hasErrors (Lint.element e) = true ↔
      ¬(e.properties.map (·.name)).Nodup ∨ ∃ p, e.Reaches p ∧ p.Wrong := by
  rw [Lint.element, Lint.hasErrors_properties_iff]
  simp only [Lint.hasErrors_property_iff, List.not_mem_nil, and_false, exists_false, false_or]
  refine or_congr_right ?_
  constructor
  · rintro ⟨top, htop, p, hp, hwrong⟩
    exact ⟨p, ⟨top, htop, hp⟩, hwrong⟩
  · rintro ⟨p, ⟨top, htop, hp⟩, hwrong⟩
    exact ⟨top, htop, p, hp, hwrong⟩

/-- Lint reports an error exactly if two properties of an aspect or entity have one name, or a
property that is reached from there is wrong in itself: the branches of an either have one name,
the rule of a structured value has not as many parts as there are elements, or a part of it or a
pattern that is not empty is refused by the check of patterns. -/
theorem Model.hasErrors_lint_iff (m : Model) :
    hasErrors m.lint = true ↔
      ∃ e ∈ m.aspect :: m.entities,
        ¬(e.properties.map (·.name)).Nodup ∨ ∃ p, e.Reaches p ∧ p.Wrong := by
  have hmodel : hasErrors m.lint = true ↔
      ∃ e ∈ m.aspect :: m.entities, hasErrors (Lint.element e) = true := by
    rw [Model.lint, hasErrors_append, Bool.or_eq_true]
    simp [hasErrors]
  simp only [hmodel, Element.hasErrors_element_iff]

end AspectForms
