import AspectForms.Proofs.FieldRecords

/-!
Two configurations, the second of which names all the properties that the first one names and perhaps more.
Main statement: its forest is what is left of the other one when the fields of the properties that it names
are taken out, at the top and inside entities.  All other fields stay where they are and as they are.
-/

namespace AspectForms

/-- A configuration has the identifier of a property among those to drop. -/
def Config.Names (config : Config) (p : Property DataType) : Prop :=
  ∃ x ∈ config.exclusions, x.identifier = p.identifier

/-- Every identifier that a configuration has to drop is one that the other has to drop. -/
def Config.NamesLess (config further : Config) : Prop :=
  ∀ x ∈ config.exclusions, ∃ y ∈ further.exclusions, y.identifier = x.identifier

section Relation

variable (config further : Config)

mutual

/-- What is left of the field of a property: itself, with what is left of the fields inside it. -/
inductive Field.PrunedTo : Property DataType → Field → Field → Prop
  | leaf {p f} (hf : f.children? = none) : PrunedTo p f f
  | group {p f fs gs} (hf : f.children? = some fs)
    (hinside : PrunedAll (f.kind = .complex) (p.inner config) fs gs) :
    PrunedTo p f { f with children? := some gs }

/-- What is left of the fields of some properties.  Only where they are `droppable` is a field
taken out, and then whenever `further` names its property. -/
inductive Field.PrunedAll :
    (droppable : Prop) → List (Property DataType) → List Field → List Field → Prop
  | nil {droppable} : PrunedAll droppable [] [] []
  | drop {droppable p ps fs gs} (hdroppable : droppable) (hp : further.Names p)
    (hrest : PrunedAll droppable ps fs gs) :
    PrunedAll droppable (p :: ps) (composeField config p :: fs) gs
  | keep {droppable p ps fs g gs} (hp : droppable → ¬further.Names p)
    (hfield : PrunedTo p (composeField config p) g)
    (hrest : PrunedAll droppable ps fs gs) :
    PrunedAll droppable (p :: ps) (composeField config p :: fs) (g :: gs)

end

end Relation

section Forests

variable {config further : Config} {p : Property DataType}

theorem Config.excludes_iff : config.excludes p = true ↔ config.Names p := by
  simp [excludes, Names]

theorem Config.NamesLess.names (hless : config.NamesLess further) (hp : config.Names p) :
    further.Names p := by
  obtain ⟨x, hx, hname⟩ := hp
  obtain ⟨y, hy, hsame⟩ := hless x hx
  exact ⟨y, hy, hsame.trans hname⟩

theorem Element.mem_shown_iff {e : Element DataType} :
    p ∈ e.shown config ↔ p ∈ e.properties ∧ ¬config.Names p := by
  rw [shown, List.mem_filter, ← Config.excludes_iff, Bool.not_eq_true', Bool.not_eq_true]

namespace Field

/-- If what is left of each field is told by the field, so is what is left of them all. -/
theorem PrunedAll.unique {droppable : Prop} {ps : List (Property DataType)}
    {fs gs hs : List Field}
    (hfields : ∀ f ∈ fs, ∀ p g h, PrunedTo config further p f g →
      PrunedTo config further p f h → g = h)
    (hgs : PrunedAll config further droppable ps fs gs)
    (hhs : PrunedAll config further droppable ps fs hs) : gs = hs := by
  induction ps generalizing fs gs hs with
  | nil =>
      cases hgs
      cases hhs
      rfl
  | cons p ps ih =>
      cases hgs with
      | drop hdroppable hp hgs =>
          have hrest := fun f hf => hfields f (List.mem_cons_of_mem _ hf)
          cases hhs with
          | drop _ _ hhs => exact ih hrest hgs hhs
          | keep hkept _ _ => exact absurd hp (hkept hdroppable)
      | keep hkept hg hgs =>
          have hrest := fun f hf => hfields f (List.mem_cons_of_mem _ hf)
          cases hhs with
          | drop hdroppable hp _ => exact absurd hp (hkept hdroppable)
          | keep _ hh hhs =>
              rw [hfields _ List.mem_cons_self _ _ _ hg hh, ih hrest hgs hhs]

theorem PrunedTo.unique {f g h : Field} (hg : PrunedTo config further p f g)
    (hh : PrunedTo config further p f h) : g = h := by
  induction f using Field.induction generalizing p g h with
  | step f ih =>
      cases hg with
      | leaf hleaf =>
          cases hh with
          | leaf _ => rfl
          | group hgroup _ => exact absurd (hleaf.symm.trans hgroup) nofun
      | @group _ _ fs gs hgroup hgs =>
          cases hh with
          | leaf hleaf => exact absurd (hleaf.symm.trans hgroup) nofun
          | @group _ _ others hs hgroup' hhs =>
              obtain rfl := Option.some.inj (hgroup.symm.trans hgroup')
              have hchildren : f.children = fs := by rw [children, hgroup, Option.getD_some]
              rw [hgs.unique (fun f hf _ _ _ => ih f (hchildren ▸ hf)) hhs]

end Field

namespace PropertyOf

/-- A field that holds no fields does without those that it is given. -/
theorem toField_of_leaf (h : p.kind.hasChildren = false) (before after : List Field) :
    p.toField after = p.toField before := by
  simp only [toField, h]
  rfl

/-- The fields inside a field have no part in the rest of it. -/
theorem toField_of_group (h : p.kind.hasChildren = true) (before after : List Field) :
    p.toField after = { p.toField before with children? := some after } := by
  unfold toField
  rw [if_pos h, if_pos h]
  cases p.kind with
  | enumeration => cases p.characteristic.unwrapped <;> rfl
  | structured => cases p.characteristic.unwrapped <;> rfl
  | _ => rfl

end PropertyOf

namespace Field

/-- Where nothing is droppable every field is kept. -/
theorem prunedAll_of_forall {droppable : Prop} {ps : List (Property DataType)}
    (hkept : ¬droppable)
    (h : ∀ q ∈ ps, PrunedTo config further q (composeField config q) (composeField further q)) :
    PrunedAll config further droppable ps (ps.map (composeField config))
      (ps.map (composeField further)) := by
  induction ps with
  | nil => exact .nil
  | cons q ps ih =>
      refine .keep (fun hdroppable => absurd hdroppable hkept) (h q List.mem_cons_self) ?_
      exact ih fun r hr => h r (List.mem_cons_of_mem _ hr)

/-- Of the properties that the first configuration shows, the second one takes out those that
it names. -/
theorem prunedAll_filter {droppable : Prop} (hdroppable : droppable)
    (hless : config.NamesLess further) {ps : List (Property DataType)}
    (h : ∀ q ∈ ps, ¬config.Names q →
      PrunedTo config further q (composeField config q) (composeField further q)) :
    PrunedAll config further droppable (ps.filter fun q => !config.excludes q)
      ((ps.filter fun q => !config.excludes q).map (composeField config))
      ((ps.filter fun q => !further.excludes q).map (composeField further)) := by
  induction ps with
  | nil => exact .nil
  | cons q ps ih =>
      have hrest := ih fun r hr => h r (List.mem_cons_of_mem _ hr)
      by_cases hq : config.Names q
      · have hdropped := Config.excludes_iff.mpr hq
        have hdropped' := Config.excludes_iff.mpr (hless.names hq)
        rw [List.filter_cons_of_neg (by simp [hdropped]),
          List.filter_cons_of_neg (by simp [hdropped'])]
        exact hrest
      · have hshown := mt Config.excludes_iff.mp hq
        rw [List.filter_cons_of_pos (by simp [hshown]), List.map_cons]
        by_cases hq' : further.Names q
        · have hdropped := Config.excludes_iff.mpr hq'
          rw [List.filter_cons_of_neg (by simp [hdropped])]
          exact .drop hdroppable hq' hrest
        · have hshown' := mt Config.excludes_iff.mp hq'
          rw [List.filter_cons_of_pos (by simp [hshown']), List.map_cons]
          exact .keep (fun _ => hq') (h q List.mem_cons_self hq) hrest

/-- Inside a field only an entity's properties are taken out. -/
theorem prunedAll_inner (hless : config.NamesLess further)
    (h : ∀ q ∈ p.inner config,
      PrunedTo config further q (composeField config q) (composeField further q)) :
    PrunedAll config further (p.kind = .complex) (p.inner config)
      ((p.inner config).map (composeField config))
      ((p.inner further).map (composeField further)) := by
  cases hentity : p.entity? with
  | none =>
      have hplain : p.kind ≠ .complex := by
        intro hcomplex
        obtain ⟨e, he⟩ := PropertyOf.kind_eq_complex_iff.mp hcomplex
        exact absurd (hentity.symm.trans he) nofun
      rw [PropertyOf.inner_of_entity?_eq_none config hentity] at h ⊢
      rw [PropertyOf.inner_of_entity?_eq_none further hentity]
      exact prunedAll_of_forall hplain h
  | some e =>
      have hcomplex := PropertyOf.kind_eq_complex_iff.mpr ⟨e, hentity⟩
      rw [PropertyOf.inner_of_entity? config hentity] at h ⊢
      rw [PropertyOf.inner_of_entity? further hentity]
      refine prunedAll_filter hcomplex hless ?_
      exact fun q hq hshown => h q (Element.mem_shown_iff.mpr ⟨hq, hshown⟩)

/-- Under the second configuration the field of a property is what is left of the one
under the first. -/
theorem prunedTo_composeField (hless : config.NamesLess further) (p : Property DataType) :
    PrunedTo config further p (composeField config p) (composeField further p) := by
  induction p using PropertyOf.inner_induction config with
  | step p ih =>
      rw [composeField_eq further]
      cases hkind : p.kind.hasChildren with
      | false =>
          have hleaf : (composeField config p).children? = none := by
            rw [PropertyOf.children?_composeField_eq_none_iff, hkind]
          rw [PropertyOf.toField_of_leaf hkind ((p.inner config).map (composeField config)),
            ← composeField_eq]
          exact .leaf hleaf
      | true =>
          rw [PropertyOf.toField_of_group hkind ((p.inner config).map (composeField config)),
            ← composeField_eq]
          refine .group (children?_composeField config p hkind) ?_
          rw [kind_composeField]
          exact prunedAll_inner hless ih

end Field

/-- The forest of an element under a configuration that names more is what is left of its
forest under the other one, and nothing else is. -/
theorem Element.prunedAll_fields_iff (hless : config.NamesLess further) (e : Element DataType)
    {gs : List Field} :
    Field.PrunedAll config further True (e.shown config) (e.fields config) gs ↔
      gs = e.fields further := by
  have hpruned : Field.PrunedAll config further True (e.shown config) (e.fields config)
      (e.fields further) := by
    rw [fields_eq, fields_eq]
    exact Field.prunedAll_filter trivial hless fun q _ _ =>
      Field.prunedTo_composeField hless q
  constructor
  · intro hgs
    exact hgs.unique (fun _ _ _ _ _ => Field.PrunedTo.unique) hpruned
  · rintro rfl
    exact hpruned

end Forests

namespace ExclusionWitness

open SiblingsWitness (text)

def string : DataType := .scalar "http://www.w3.org/2001/XMLSchema#string"

/-- A point, of which the mark goes by its urn. -/
def point : Element DataType :=
  ⟨"Point", none,
    [text string "x", text string "y",
      ⟨"mark", some "urn:mark", true, none, .scalar "Text" (some string) none⟩]⟩

/-- A point in one branch and a structured value in the other. -/
def stop : Property DataType :=
  ⟨"stop", none, false, none,
    .either "Stop" ⟨"place", none, false, none, .singleEntity "Place" (.entity point)⟩
      ⟨"label", none, false, none,
        .structured "Label" (some string) "([a-z])@([0-9]+)"
          [.property (text string "line"), .property (text string "x")]⟩⟩

def trip : Element DataType :=
  ⟨"Trip", none, [text string "note", stop, text string "place"]⟩

def config : Config where
  exclusions := [⟨"Trip", "note"⟩]

def further : Config where
  exclusions := [⟨"Point", "x"⟩, ⟨"Trip", "place"⟩, ⟨"Point", "mark"⟩, ⟨"", "note"⟩]

/-- The branch and the part of a structured value stay, whatever their names. -/
theorem prunedAll_fields_iff_of_trip :
    config.NamesLess further ∧
      ((trip.fields config).map Field.name, (trip.fields further).map Field.name) =
        (["stop", "place"], ["stop"]) ∧
      (composeField further stop).children.map (fun f => (f.name, f.children.map Field.name)) =
        [("place", ["y", "mark"]), ("label", ["line", "x"])] ∧
      (∀ gs, Field.PrunedAll config further True (trip.shown config) (trip.fields config) gs ↔
        gs = trip.fields further) := by
  have hless : config.NamesLess further := by
    intro x hx
    obtain rfl := List.mem_singleton.mp hx
    exact ⟨⟨"", "note"⟩, by decide, rfl⟩
  refine ⟨hless, by decide +kernel, by decide +kernel, ?_⟩
  exact fun _ => Element.prunedAll_fields_iff hless trip

end ExclusionWitness

end AspectForms
