import AspectForms.Proofs.ReadBack
import AspectForms.Proofs.StructuredValues

/-!
The arguments of validators that are made of free texts: names, rule parts and patterns.  Main statement:
each one stands in its call without control characters and reads as exactly the texts it was made of,
whatever these hold.
-/

namespace AspectForms

/-- The definition calls a factory with a text without control characters that reads as `argument`. -/
def Validator.Passes (v : Validator) (factory : String) (argument : Value) : Prop :=
  ∃ written : String, v.definition = "FormValidators." ++ factory ++ "(" ++ written ++ ")" ∧
    Json.Printable written.toList ∧ Json.parse? written = some argument

theorem Validator.passes_call {depth : Nat} {argument : Value} (hwordy : argument.IsWordy depth)
    (hdepth : depth ≤ Json.nestingLimit) (name factory : String) (direct : Bool) :
    (Validator.mk name (call factory [Json.text argument]) direct).Passes factory argument := by
  refine ⟨Json.text argument, ?_, ?_, Json.parse?_text hwordy hdepth⟩
  · rfl
  · rw [Json.text, String.toList_ofList]
    exact Json.printable_compact argument

/-- The parts of a text between the occurrences of a separator. -/
structure Text.CutAt (sep : Char) (t : String) (parts : List String) : Prop where
  some_part : parts ≠ []
  no_separator : ∀ part ∈ parts, sep ∉ part.toList
  joined : Text.join (String.singleton sep) parts = t

/-- Names, each with the part in the same place, as long as there are both. -/
structure Value.PairsUp (names parts : List String) (pairs : List Value) : Prop where
  length : pairs.length = min names.length parts.length
  pair {i : Nat} {name part : String} : names[i]? = some name → parts[i]? = some part →
    pairs[i]? = some (.object [("name", .string name), ("rule", .string part)])

/-- The validators that a property makes of names, rules and patterns have them as arguments. -/
structure PropertyOf.PassesTexts (config : Config) (p : Property DataType) : Prop where
  branches {n : String} {l r : Property DataType} :
    p.characteristic.unwrapped = .either n l r →
      ∃ v, (composeField config p).validators = p.baseValidators ++ v :: p.constraintValidators ∧
        v.Passes "uniqueValuesValidator" (.array [.string l.name, .string r.name])
  elements {n : String} {t : Option DataType} {rule : String} {parts : List (Part DataType)} :
    p.characteristic.unwrapped = .structured n t rule parts →
      ∃ v ruleParts pairs,
        (composeField config p).validators = p.baseValidators ++ v :: p.constraintValidators ∧
        Text.CutAt '@' rule ruleParts ∧
        Value.PairsUp ((partProperties parts).map (·.name)) ruleParts pairs ∧
        v.Passes "deconstructionRuleValidator" (.array pairs)
  patterns {name? : Option String} {expression : String} : expression ≠ "" →
    ∃ v, (∀ owner, (Constraint.pattern name? expression).validators owner = [v]) ∧
      (.pattern name? expression ∈ p.characteristic.constraints →
        v ∈ (composeField config p).validators) ∧
      v.Passes "patternValidator" (.string expression)

theorem Text.cutAt_splitOn (sep : Char) (t : String) : CutAt sep t (splitOn sep t) where
  some_part := by
    rw [splitOn, ne_eq, List.map_eq_nil_iff]
    exact splitWhen_ne_nil _ _
  no_separator := by
    intro part hpart hsep
    obtain ⟨w, hw, rfl⟩ := List.mem_map.mp hpart
    rw [String.toList_ofList] at hsep
    simpa using not_mem_splitWhen _ _ w hw sep hsep
  joined := join_splitOn (by simp) t

theorem Value.pairsUp_zip (names parts : List String) :
    PairsUp names parts ((names.zip parts).map fun e =>
      .object [("name", .string e.1), ("rule", .string e.2)]) where
  length := by
    rw [List.length_map, List.length_zip]
  pair := by
    intro i name part hname hpart
    have hpair : (names.zip parts)[i]? = some (name, part) :=
      List.getElem?_zip_eq_some.mpr ⟨hname, hpart⟩
    rw [List.getElem?_map, hpair]
    rfl

/-- No other list pairs up the same names and parts. -/
theorem Value.PairsUp.unique {names parts : List String} {xs ys : List Value}
    (hxs : PairsUp names parts xs) (hys : PairsUp names parts ys) : xs = ys := by
  apply List.ext_getElem?
  intro i
  by_cases hi : i < min names.length parts.length
  · obtain ⟨hname, hpart⟩ := Nat.lt_min.mp hi
    rw [hxs.pair (List.getElem?_eq_getElem hname) (List.getElem?_eq_getElem hpart),
      hys.pair (List.getElem?_eq_getElem hname) (List.getElem?_eq_getElem hpart)]
  · rw [List.getElem?_eq_none (by rw [hxs.length]; omega),
      List.getElem?_eq_none (by rw [hys.length]; omega)]

theorem Validator.passes_ofParts (pairs : List (String × String)) :
    (ofParts pairs).Passes "deconstructionRuleValidator"
      (.array (pairs.map fun e => .object [("name", .string e.1), ("rule", .string e.2)])) := by
  have hwordy : (Value.array (pairs.map fun e =>
      .object [("name", .string e.1), ("rule", .string e.2)])).IsWordy 2 := by
    refine .array fun v hv => ?_
    obtain ⟨pair, _, rfl⟩ := List.mem_map.mp hv
    refine .object (by simp) ?_
    simp only [List.forall_mem_cons]
    exact ⟨.string, .string, nofun⟩
  exact passes_call hwordy (by decide) _ _ _

section Property

variable {p : Property DataType}

theorem PropertyOf.typeValidators_of_either {n : String} {l r : Property DataType}
    (hshape : p.characteristic.unwrapped = .either n l r) :
    p.typeValidators =
      [⟨"uniqueValues", Validator.call "uniqueValuesValidator"
        [Json.text (.array [.string l.name, .string r.name])], true⟩] := by
  have hkind : p.kind = .either := by
    unfold kind
    rw [hshape]
    rfl
  unfold typeValidators
  rw [hkind, hshape]

theorem validators_of_typeValidators {config : Config} {v : Validator}
    (h : p.typeValidators = [v]) :
    (composeField config p).validators = p.baseValidators ++ v :: p.constraintValidators := by
  rw [validators_composeField, PropertyOf.validators, h, List.append_assoc, List.singleton_append]

theorem mem_validators_of_constraint {config : Config} {c : Constraint} {v : Validator}
    (hc : c ∈ p.characteristic.constraints) (hv : v ∈ c.validators p.kind) :
    v ∈ (composeField config p).validators := by
  rw [validators_composeField]
  exact List.mem_append_right _ (List.mem_flatMap.mpr ⟨c, hc, hv⟩)

/-- Whatever names, rules and patterns hold, the validators made of them get just these texts. -/
theorem PropertyOf.passesTexts (config : Config) (p : Property DataType) :
    p.PassesTexts config where
  branches := by
    intro n l r hshape
    have hwordy : (Value.array [.string l.name, .string r.name]).IsWordy 1 := by
      refine .array ?_
      simp only [List.forall_mem_cons]
      exact ⟨.string, .string, nofun⟩
    exact ⟨_, validators_of_typeValidators (typeValidators_of_either hshape),
      Validator.passes_call hwordy (by decide) _ _ _⟩
  elements := by
    intro n t rule parts hshape
    exact ⟨_, ruleParts rule, _,
      validators_of_typeValidators (typeValidators_of_structured hshape),
      Text.cutAt_splitOn '@' rule, Value.pairsUp_zip _ _, Validator.passes_ofParts _⟩
  patterns := by
    intro name? expression hne
    have hmade : ∀ owner, (Constraint.pattern name? expression).validators owner =
        [⟨name?.getD "pattern",
          Validator.call "patternValidator" [Json.text (.string expression)], true⟩] := by
      intro owner
      have hempty : expression.isEmpty = false := by simpa using hne
      simp only [Constraint.validators, hempty, Bool.false_eq_true, ↓reduceIte]
      rfl
    have hwordy : (Value.string expression).IsWordy 0 := .string
    refine ⟨_, hmade, fun hc => mem_validators_of_constraint hc ?_,
      Validator.passes_call hwordy (by decide) _ _ _⟩
    rw [hmade]
    exact List.mem_singleton_self _

end Property

namespace QuotedArgumentsWitness

open SiblingsWitness (text)

/-- Three elements for two parts, with quotes, a backslash and a line break among their
names. -/
def ratio : Property DataType :=
  ⟨"ratio", none, true, none,
    .structured "Ratio" (some StructuredValuesWitness.string) "(\\d+\")@\x01)"
      [.property (text StructuredValuesWitness.string "a\"b"), .literal "/",
        .property (text StructuredValuesWitness.string "c\\\n"),
        .property (text StructuredValuesWitness.string "rest")]⟩

theorem passesTexts_of_ratio :
    ∃ v, (composeField {} ratio).validators = [v] ∧
      v.Passes "deconstructionRuleValidator" (.array
        [.object [("name", .string "a\"b"), ("rule", .string "(\\d+\")")],
          .object [("name", .string "c\\\n"), ("rule", .string "\x01)")]]) := by
  obtain ⟨v, parts, pairs, hvalidators, hcut, hpairs, hpasses⟩ :=
    (PropertyOf.passesTexts {} ratio).elements rfl
  have hparts : parts = ["(\\d+\")", "\x01)"] := by
    have hsplit : Text.splitOn '@' (Text.join (String.singleton '@') parts) = parts :=
      Text.splitOn_join (by simp) hcut.some_part hcut.no_separator
    rw [← hsplit, hcut.joined]
    decide
  rw [hparts] at hpairs
  have hlist := hpairs.unique (Value.pairsUp_zip _ _)
  rw [hlist] at hpasses
  exact ⟨v, hvalidators, hpasses⟩

end QuotedArgumentsWitness

end AspectForms
