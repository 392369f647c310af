import AspectForms.Proofs.FieldRecords

/-!
The order in which the kinds of fields are tried.  Main statement: the kind of a field is the first that
accepts its characteristic, and any order gives the same one that tries all kinds told by structure before
those told by the data type, since of either group no two kinds accept the same characteristic.
-/

namespace AspectForms

namespace FieldKind

/-- The kinds that are told by the shape of the characteristic. -/
def structural : List FieldKind := [either, list, structured, complex, enumeration]

/-- The first kind of a list that accepts a characteristic. -/
def firstOf (order : List FieldKind) (c : Characteristic DataType) : FieldKind :=
  (order.find? (·.accepts c)).getD fallback

theorem candidates_eq : candidates = structural ++ typed := rfl

/-- The kind that the shape of a characteristic tells, if it tells one. -/
def ofShape? : Characteristic DataType → Option FieldKind
  | .either .. => some either
  | .collection .. => some list
  | .structured .. => some structured
  | .enumeration .. => some enumeration
  | .singleEntity _ (.entity _) => some complex
  | .scalar _ (some (.entity _)) _ => some complex
  | _ => none

theorem ofShape?_of_accepts {k : FieldKind} (hk : k ∈ structural) {c : Characteristic DataType}
    (h : k.accepts c = true) : ofShape? c = some k := by
  simp only [structural, List.mem_cons, List.not_mem_nil, or_false] at hk
  rcases hk with rfl | rfl | rfl | rfl | rfl
  · cases c with
    | either => rfl
    | _ => cases h
  · cases c with
    | collection => rfl
    | _ => cases h
  · cases c with
    | structured => rfl
    | _ => cases h
  · cases c with
    | singleEntity _ type =>
        cases type with
        | scalar => cases h
        | entity => rfl
    | scalar _ type? _ =>
        rcases type? with _ | _ | _
        · cases h
        · cases h
        · rfl
    | _ => cases h
  · cases c with
    | enumeration => rfl
    | _ => cases h

theorem eq_of_accepts_of_structural {a b : FieldKind} (ha : a ∈ structural) (hb : b ∈ structural)
    {c : Characteristic DataType} (hac : a.accepts c = true) (hbc : b.accepts c = true) :
    a = b :=
  Option.some.inj ((ofShape?_of_accepts ha hac).symm.trans (ofShape?_of_accepts hb hbc))

/-- No type is named by two kinds. -/
theorem eq_of_mem_typeNames :
    ∀ a ∈ typed, ∀ b ∈ typed, ∀ s ∈ a.typeNames, s ∈ b.typeNames → a = b := by
  decide

theorem eq_of_accepts_of_typed {a b : FieldKind} (ha : a ∈ typed) (hb : b ∈ typed)
    {c : Characteristic DataType} (hac : a.accepts c = true) (hbc : b.accepts c = true) :
    a = b := by
  obtain ⟨t, ht, hat⟩ := (accepts_iff_of_typed ha c).mp hac
  obtain ⟨u, hu, hbu⟩ := (accepts_iff_of_typed hb c).mp hbc
  obtain rfl : t = u := Option.some.inj (ht.symm.trans hu)
  exact eq_of_mem_typeNames a ha b hb t.short hat hbu

/-- The second kind may be tried after the first: structure is not asked for when the
data type has been. -/
def MayPrecede (a b : FieldKind) : Prop := ¬(a ∈ typed ∧ b ∈ structural)

theorem eq_of_mayPrecede {a b : FieldKind} (ha : a ∈ candidates) (hb : b ∈ candidates)
    {c : Characteristic DataType} (hac : a.accepts c = true) (hbc : b.accepts c = true)
    (hab : MayPrecede a b) (hba : MayPrecede b a) : a = b := by
  rw [candidates_eq, List.mem_append] at ha hb
  rcases ha with ha | ha <;> rcases hb with hb | hb
  · exact eq_of_accepts_of_structural ha hb hac hbc
  · exact absurd ⟨hb, ha⟩ hba
  · exact absurd ⟨ha, hb⟩ hab
  · exact eq_of_accepts_of_typed ha hb hac hbc

theorem pairwise_mayPrecede_candidates : candidates.Pairwise MayPrecede := by
  unfold MayPrecede
  decide

/-- The kinds that accept a characteristic come in one order only. -/
theorem filter_accepts_eq {order : List FieldKind} (hperm : order.Perm candidates)
    (horder : order.Pairwise MayPrecede) (c : Characteristic DataType) :
    order.filter (·.accepts c) = candidates.filter (·.accepts c) := by
  refine List.Perm.eq_of_pairwise ?_ (horder.filter _) (pairwise_mayPrecede_candidates.filter _)
    (hperm.filter _)
  intro a b ha hb hab hba
  obtain ⟨hamem, hac⟩ := List.mem_filter.mp ha
  obtain ⟨hbmem, hbc⟩ := List.mem_filter.mp hb
  exact eq_of_mayPrecede (hperm.mem_iff.mp hamem) hbmem hac hbc hab hba

theorem firstOf_eq_select {order : List FieldKind} (hperm : order.Perm candidates)
    (horder : order.Pairwise MayPrecede) (c : Characteristic DataType) :
    firstOf order c = select c := by
  rw [firstOf, select, ← List.head?_filter, filter_accepts_eq hperm horder, List.head?_filter]

theorem select_of_isEntity {t : DataType} (h : t.isEntity = true) (name : String)
    (unit : Option UnitOfMeasure) :
    select (.scalar name (some t) unit) = complex ∧ select (.singleEntity name t) = complex := by
  constructor <;> simp [select, candidates, accepts, h]

/-- Any order of the candidates that keeps the kinds told by structure before those told by the
data type selects the same kind, whatever the characteristic is.  At most one kind of each group
accepts it, and an entity is edited by its own fields even if its name is that of a scalar type. -/
theorem select_independent_of_order (c : Characteristic DataType) :
    (∀ order : List FieldKind, order.Perm candidates →
        (order.Pairwise fun a b => ¬(a ∈ typed ∧ b ∈ structural)) →
        firstOf order c = select c) ∧
      (∀ a ∈ structural, ∀ b ∈ structural,
        a.accepts c = true → b.accepts c = true → a = b) ∧
      (∀ a ∈ typed, ∀ b ∈ typed, a.accepts c = true → b.accepts c = true → a = b) ∧
      ∀ (name : String) (e : Element DataType) (unit : Option UnitOfMeasure),
        select (.scalar name (some (.entity e)) unit) = complex ∧
          select (.singleEntity name (.entity e)) = complex :=
  ⟨fun _ hperm horder => firstOf_eq_select hperm horder c,
    fun _ ha _ hb => eq_of_accepts_of_structural ha hb,
    fun _ ha _ hb => eq_of_accepts_of_typed ha hb,
    fun name _ unit => select_of_isEntity rfl name unit⟩

/-- Between the groups the order matters: a list of numbers is a list. -/
example :
    let c : Characteristic DataType := .collection "Limits" .list (some (.scalar "#decimal")) none
    select c = list ∧ firstOf (typed ++ structural) c = number := by decide +kernel

end FieldKind

namespace CandidateOrderWitness

open FieldKind

/-- Both groups from the end. -/
def backwards : List FieldKind := structural.reverse ++ typed.reverse

/-- An entity called like a scalar type. -/
def named : Characteristic DataType := .scalar "Named" (some (.entity ⟨"string", none, []⟩)) none

/-- The entity and the text that its name stands for both accept it. -/
theorem select_backwards :
    backwards.Perm candidates ∧ (backwards.Pairwise fun a b => ¬(a ∈ typed ∧ b ∈ structural)) ∧
      text.accepts named = true ∧ firstOf backwards named = select named ∧
      firstOf backwards named = complex := by
  have hperm : backwards.Perm candidates := by decide
  have horder : backwards.Pairwise fun a b => ¬(a ∈ typed ∧ b ∈ structural) := by decide
  have hall := select_independent_of_order named
  exact ⟨hperm, horder, by decide +kernel, hall.1 backwards hperm horder,
    (hall.1 backwards hperm horder).trans (hall.2.2.2 "Named" ⟨"string", none, []⟩ none).1⟩

end CandidateOrderWitness

end AspectForms
