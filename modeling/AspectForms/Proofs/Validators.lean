import AspectForms.Component.SharedValidators
import AspectForms.Proofs.Composition
import AspectForms.Proofs.Expressions

/-!
Where the validators of a field come from.  Main statement: each one demands a value or calls a factory of
the shared module, and only the fields of lists and entities hand validators down.
-/

namespace AspectForms

open Script

namespace Validator

/-- The shared factory that a definition calls: the name behind that of the
class. -/
def factory? (v : Validator) : Option String :=
  if sharedClass.toList.isPrefixOf v.definition.toList then
    some (String.ofList
      ((v.definition.toList.drop sharedClass.toList.length).takeWhile (· != '(')))
  else none

/-- The shared module has a static member of that name, behind the line that opens
the class. -/
def IsShared (factory : String) : Prop :=
  ∃ rest, ["export class FormValidators \x7b", "  static " ++ factory ++ "(" ++ rest].Sublist
    sharedValidatorLines

/-- The factories that follow from a characteristic. -/
def typeFactories : List String :=
  ["uniqueValuesValidator", "deconstructionRuleValidator", "durationValidator",
    "dayTimeDurationValidator", "yearMonthDurationValidator", "timeValidator"]

/-- The factories that follow from constraints. -/
def constraintFactories : List String :=
  ["rangeValidator", "lengthValidator", "patternValidator", "encodingValidator",
    "fixedPointValidator"]

theorem isShared_of_mem {factory : String}
    (h : factory ∈ constraintFactories ++ typeFactories) : IsShared factory := by
  have hclass : "export class FormValidators \x7b" ∈ sharedValidatorLines.take 36 :=
    List.mem_of_getElem? (i := 35) rfl
  have hshared {factory : String} (i : Nat) (rest : String)
      (hline : sharedValidatorLines[36 + i]? =
        some ("  static " ++ factory ++ "(" ++ rest)) : IsShared factory := by
    have hmember : "  static " ++ factory ++ "(" ++ rest ∈ sharedValidatorLines.drop 36 :=
      List.mem_of_getElem? (List.getElem?_drop.trans hline)
    refine ⟨rest, ?_⟩
    rw [← List.take_append_drop 36 sharedValidatorLines]
    exact (List.singleton_sublist.mpr hclass).append (List.singleton_sublist.mpr hmember)
  revert factory
  simp only [constraintFactories, typeFactories, List.cons_append, List.nil_append,
    List.forall_mem_cons]
  exact ⟨hshared 0 "" (by simp [sharedValidatorLines]),
    hshared 22 "min: number | undefined, max: number | undefined): ValidatorFn \x7b" (by simp [sharedValidatorLines]),
    hshared 34 "pattern: string): ValidatorFn \x7b" (by simp [sharedValidatorLines]),
    hshared 38 "encoding: string): ValidatorFn \x7b" (by simp [sharedValidatorLines]),
    hshared 60 "integer: number, scale: number): ValidatorFn \x7b" (by simp [sharedValidatorLines]),
    hshared 65 "names: string[]): ValidatorFn \x7b" (by simp [sharedValidatorLines]),
    hshared 74 "rules: DeconstructionRule[]): ValidatorFn \x7b" (by simp [sharedValidatorLines]),
    hshared 87 "): ValidatorFn \x7b" (by simp [sharedValidatorLines]),
    hshared 91 "): ValidatorFn \x7b" (by simp [sharedValidatorLines]),
    hshared 95 "): ValidatorFn \x7b" (by simp [sharedValidatorLines]),
    hshared 99 "): ValidatorFn \x7b" (by simp [sharedValidatorLines]), nofun⟩

/-- The definition calls one of some factories, each argument being one
expression. -/
def Calls (factories : List String) (v : Validator) : Prop :=
  ∃ factory ∈ factories, ∃ arguments, v.definition = call factory arguments ∧
    ∀ a ∈ arguments, Balanced false a.toList

variable {factories : List String} {v : Validator}

theorem toList_call (factory : String) (arguments : List String) :
    (call factory arguments).toList =
      sharedClass.toList ++ (factory.toList ++
        '(' :: ((Text.join ", " arguments).toList ++ [')'])) := by
  simp only [call, String.toList_append, List.append_assoc]
  rfl

theorem Calls.exists_factory? (h : v.Calls factories)
    (hplain : ∀ f ∈ factories, '(' ∉ f.toList) :
    ∃ factory ∈ factories, v.factory? = some factory := by
  obtain ⟨factory, hfactory, arguments, hdefinition, _⟩ := h
  refine ⟨factory, hfactory, ?_⟩
  have hname : ∀ c ∈ factory.toList, (c != '(') = true := by
    intro c hc
    rw [bne_iff_ne]
    exact fun heq => hplain factory hfactory (heq ▸ hc)
  rw [factory?, hdefinition, toList_call,
    if_pos (List.isPrefixOf_iff_prefix.mpr (List.prefix_append _ _)), List.drop_left,
    List.takeWhile_append_of_pos hname, List.takeWhile_cons_of_neg (by simp),
    List.append_nil, String.ofList_toList]

theorem Calls.mono {others : List String} (h : v.Calls factories)
    (hsub : factories ⊆ others) : v.Calls others := by
  obtain ⟨factory, hfactory, hcall⟩ := h
  exact ⟨factory, hsub hfactory, hcall⟩

/-- A call of a shared factory is one expression. -/
theorem Calls.isItem (h : v.Calls (constraintFactories ++ typeFactories)) :
    IsItem v.definition := by
  obtain ⟨factory, hfactory, arguments, hdefinition, harguments⟩ := h
  have hplain : ∀ f ∈ constraintFactories ++ typeFactories,
      isPlainText f.toList = true := by
    decide
  have hclass : Balanced false sharedClass.toList := .of_text _ (by decide)
  have hname : Balanced false factory.toList :=
    .of_text _ (hplain factory hfactory)
  have hinner : Balanced true (Text.join ", " arguments).toList :=
    .join balanced_comma fun a ha => (harguments a ha).loosen
  have hcall : (call factory arguments).toList.head? = some 'F' := by
    rw [toList_call]
    rfl
  rw [hdefinition]
  refine .of_head ?_ hcall (by decide)
  rw [toList_call]
  exact hclass.append (hname.append (.bracket (by decide) (by decide) hinner .nil))

theorem isItem_required : IsItem requiredDefinition :=
  .of_head (.of_text _ (by decide)) (c := 'V') rfl (by decide)

end Validator

open Validator

/-- A text between single quotes, without what would have to be escaped. -/
theorem Script.balanced_single {word : String}
    (h : '\\' ∉ word.toList ∧ '\x27' ∉ word.toList) :
    Balanced false ("'" ++ word ++ "'").toList := by
  have hbody : ∀ cs : List Char, '\\' ∉ cs ∧ '\x27' ∉ cs → Quoted '\x27' cs := by
    intro cs
    induction cs with
    | nil => exact fun _ => .nil
    | cons c cs ih =>
        simp only [List.mem_cons, not_or]
        rintro ⟨⟨hslash, hrest⟩, hquote, hrest'⟩
        exact .plain (Ne.symm hslash) (Ne.symm hquote) (ih ⟨hrest, hrest'⟩)
  simp only [String.toList_append, List.append_assoc]
  exact .quoted (by decide) (hbody word.toList h) .nil

theorem balanced_valueArgument (bound? : Option Value) :
    Balanced false (valueArgument bound?).toList := by
  unfold valueArgument
  split
  · exact .of_text _ (by decide)
  · exact .of_text _ (by decide)
  · exact balanced_text _

theorem balanced_lengthArgument (length? : Option Nat) :
    Balanced false (lengthArgument length?).toList := by
  cases length? with
  | none => exact .of_text _ (by decide)
  | some n =>
      exact .of_plain fun c hc => (isNumeral_of_mem_toDigits (Nat.toList_repr ▸ hc)).plain

/-- A constraint is checked by a call of its own factory, and only ranges are
handed down. -/
theorem Constraint.calls_of_mem {c : Constraint} {owner : FieldKind} {v : Validator}
    (hv : v ∈ c.validators owner) :
    v.Calls constraintFactories ∧ (v.direct = false → owner.liftsRange = true) := by
  cases c with
  | range name min max lower upper =>
      simp only [Constraint.validators] at hv
      split at hv
      · obtain rfl := List.mem_singleton.mp hv
        refine ⟨⟨"rangeValidator", by decide, _, rfl, ?_⟩, by simp⟩
        have hword (bound : Bound) : Balanced false ("'" ++ bound.word ++ "'").toList :=
          balanced_single (by cases bound <;> decide)
        simp only [List.forall_mem_cons]
        exact ⟨balanced_valueArgument min, balanced_valueArgument max, hword lower,
          hword upper, nofun⟩
      · cases hv
  | length name min max =>
      simp only [Constraint.validators] at hv
      split at hv
      · obtain rfl := List.mem_singleton.mp hv
        refine ⟨⟨"lengthValidator", by decide, _, rfl, ?_⟩, by simp⟩
        simp only [List.forall_mem_cons]
        exact ⟨balanced_lengthArgument min, balanced_lengthArgument max, nofun⟩
      · cases hv
  | pattern name expression =>
      simp only [Constraint.validators] at hv
      split at hv
      · cases hv
      · obtain rfl := List.mem_singleton.mp hv
        refine ⟨⟨"patternValidator", by decide, _, rfl, ?_⟩, by simp⟩
        simpa [Json.quoteText] using balanced_quote expression.toList
  | encoding name value =>
      simp only [Constraint.validators] at hv
      split at hv
      · rename_i e hencoding
        obtain rfl := List.mem_singleton.mp hv
        have hknown : ∀ e ∈ supportedEncodings,
            '\\' ∉ e.toList ∧ '\x27' ∉ e.toList := by
          decide
        refine ⟨⟨"encodingValidator", by decide, _, rfl, ?_⟩, by simp⟩
        rw [supportedEncoding?] at hencoding
        simp only [List.forall_mem_cons]
        exact ⟨balanced_single (hknown e (List.mem_of_find?_eq_some hencoding)), nofun⟩
      · cases hv
  | fixedPoint name integer scale =>
      obtain rfl := List.mem_singleton.mp hv
      refine ⟨⟨"fixedPointValidator", by decide, _, rfl, ?_⟩, by simp⟩
      simp only [List.forall_mem_cons]
      exact ⟨balanced_lengthArgument (some integer), balanced_lengthArgument (some scale),
        nofun⟩

theorem calls_of_temporalValidator? {short : String} {v : Validator}
    (h : temporalValidator? short = some v) : v.Calls typeFactories ∧ v.direct = true := by
  unfold temporalValidator? at h
  split at h
  · obtain rfl := Option.some.inj h
    exact ⟨⟨"durationValidator", by decide, [], rfl, nofun⟩, rfl⟩
  · obtain rfl := Option.some.inj h
    exact ⟨⟨"dayTimeDurationValidator", by decide, [], rfl, nofun⟩, rfl⟩
  · obtain rfl := Option.some.inj h
    exact ⟨⟨"yearMonthDurationValidator", by decide, [], rfl, nofun⟩, rfl⟩
  · obtain rfl := Option.some.inj h
    exact ⟨⟨"timeValidator", by decide, [], rfl, nofun⟩, rfl⟩
  · cases h

namespace PropertyOf

variable {p : Property DataType} {v : Validator}

theorem calls_of_mem_typeValidators (hv : v ∈ p.typeValidators) :
    v.Calls typeFactories ∧ v.direct = true := by
  have htext (value : Value) : ∀ a ∈ [Json.text value], Balanced false a.toList := by
    intro a ha
    rw [List.mem_singleton.mp ha]
    exact balanced_text value
  unfold typeValidators at hv
  split at hv
  · obtain ⟨short, _, htemporal⟩ := Option.bind_eq_some_iff.mp (Option.mem_toList.mp hv)
    exact calls_of_temporalValidator? htemporal
  · obtain ⟨short, _, htemporal⟩ := Option.bind_eq_some_iff.mp (Option.mem_toList.mp hv)
    exact calls_of_temporalValidator? htemporal
  · obtain rfl := List.mem_singleton.mp hv
    exact ⟨⟨"uniqueValuesValidator", by decide, _, rfl, htext _⟩, rfl⟩
  · obtain rfl := List.mem_singleton.mp hv
    exact ⟨⟨"deconstructionRuleValidator", by decide, _, rfl, htext _⟩, rfl⟩
  · cases hv

/-- A validator of a property demands a value or calls a shared factory.  Only
ranges are handed down. -/
theorem validators_cases (hv : v ∈ p.validators) :
    v = Validator.required ∨ v.Calls (constraintFactories ++ typeFactories) ∧
      (v.direct = false → p.kind.liftsRange = true) := by
  rcases List.mem_append.mp hv with hv | hv
  · rcases List.mem_append.mp hv with hv | hv
    · unfold baseValidators at hv
      split at hv
      · cases hv
      · exact .inl (List.mem_singleton.mp hv)
    · obtain ⟨hcalls, hdirect⟩ := calls_of_mem_typeValidators hv
      refine .inr ⟨hcalls.mono (List.subset_append_right _ _), ?_⟩
      rw [hdirect]
      exact nofun
  · obtain ⟨c, _, hv⟩ := List.mem_flatMap.mp hv
    obtain ⟨hcalls, hlifts⟩ := Constraint.calls_of_mem hv
    exact .inr ⟨hcalls.mono (List.subset_append_left _ _), hlifts⟩

theorem isItem_definition (hv : v ∈ p.validators) : IsItem v.definition := by
  rcases validators_cases hv with rfl | ⟨hcalls, _⟩
  · exact isItem_required
  · exact hcalls.isItem

/-- What a field that is neither a list nor a group of an entity checks, it checks
itself. -/
theorem direct_of_mem_validators (h : p.kind.liftsRange = false)
    (hv : v ∈ p.validators) : v.direct = true := by
  rcases validators_cases hv with rfl | ⟨_, hlifts⟩
  · rfl
  · by_contra hdirect
    have hlifted := hlifts (Bool.eq_false_iff.mpr hdirect)
    exact Bool.false_ne_true (h.symm.trans hlifted)

end PropertyOf

end AspectForms
