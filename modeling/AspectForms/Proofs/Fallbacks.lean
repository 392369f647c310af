import AspectForms.Proofs.Coverage
import AspectForms.Proofs.Nodes

/-!
Plain text fields that stand in for something better, and what lint says of them.  Main statement: for
each container lint reports exactly those that are met in its forest above the entities, in the same
order and with the same dotted locations, and every one in any forest is reported at the container
nearest around it.
-/

namespace AspectForms

mutual

/-- The fields met on a walk through a field at `location`, each with its place:
the field and then, unless it is complex, those inside it. -/
def Field.met (location : String) : Field → List (String × Field)
  | ⟨name, dashed, kind, validators, ex, values, unit, children, format, placeholder, hint, rule⟩ =>
    let f : Field :=
      ⟨name, dashed, kind, validators, ex, values, unit, children, format, placeholder, hint, rule⟩
    (location, f) :: if kind = .complex then [] else metOption location children
termination_by structural f => f

def metOption (location : String) : Option (List Field) → List (String × Field)
  | none => []
  | some fs => metAll location fs
termination_by structural fs => fs

/-- The fields met on a walk through a forest at `location`. -/
def metAll (location : String) : List Field → List (String × Field)
  | [] => []
  | f :: fs => f.met (location ++ "." ++ f.name) ++ metAll location fs
termination_by structural fs => fs

end

theorem met_eq (location : String) (f : Field) :
    f.met location =
      (location, f) :: if f.kind = .complex then [] else metAll location f.children := by
  obtain ⟨n, d, k, vs, x, values, u, children?, format, placeholder, hint, rule⟩ := f
  cases children? <;> rfl

theorem metAll_eq (location : String) (fs : List Field) :
    metAll location fs = fs.flatMap fun f => f.met (location ++ "." ++ f.name) := by
  induction fs with
  | nil => rfl
  | cons f fs ih => rw [metAll, ih, List.flatMap_cons]

/-- Where plain text fields stand in, among the fields met on a walk. -/
def fallbackPlaces (met : List (String × Field)) : List String :=
  (met.filter fun m => m.2.kind == .fallback).map Prod.fst

theorem fallbackPlaces_flatMap {α : Type} (met : α → List (String × Field)) (xs : List α) :
    fallbackPlaces (xs.flatMap met) = xs.flatMap fun x => fallbackPlaces (met x) := by
  simp [fallbackPlaces, List.filter_flatMap, List.map_flatMap]

namespace Lint

/-- Where some issues say that a plain text field stands in. -/
def fallbacks (issues : List Issue) : List String :=
  (issues.filter fun i => i.finding.kind == "default_strategy").map Issue.location

theorem fallbacks_append (is js : List Issue) :
    fallbacks (is ++ js) = fallbacks is ++ fallbacks js := by
  simp [fallbacks]

theorem fallbacks_flatMap {α : Type} (issues : α → List Issue) (xs : List α) :
    fallbacks (xs.flatMap issues) = xs.flatMap fun x => fallbacks (issues x) := by
  simp [fallbacks, List.filter_flatMap, List.map_flatMap]

theorem mem_fallbacks {issues : List Issue} {location c : String} {t : Option String}
    (h : ⟨location, .fallback c t⟩ ∈ issues) : location ∈ fallbacks issues :=
  List.mem_map.mpr ⟨_, List.mem_filter.mpr ⟨h, rfl⟩, rfl⟩

theorem isDefault_iff {found : Finding} :
    (found.kind == "default_strategy") = true ↔ ∃ c t, found = .fallback c t := by
  cases found with
  | fallback c t => simp [Finding.kind]
  | invalidPattern role pattern fault => cases role <;> simp [Finding.kind]
  | _ => simp [Finding.kind]

theorem patternFinding?_ne_fallback {role : PatternRole} {pattern c : String}
    {t : Option String} : patternFinding? role pattern ≠ some (.fallback c t) := by
  intro h
  rcases patternFinding?_cases h with h | ⟨fault, h⟩ <;> cases h

theorem constraintFinding?_ne_fallback {constraint : Constraint} {c : String}
    {t : Option String} : constraintFinding? constraint ≠ some (.fallback c t) := by
  cases constraint with
  | pattern name expression =>
      simp only [constraintFinding?]
      split
      · simp
      · exact patternFinding?_ne_fallback
  | encoding name value =>
      simp only [constraintFinding?]
      split <;> simp
  | _ =>
      simp only [constraintFinding?]
      try split
      all_goals simp

/-- Among what is found at a property itself, a plain text field comes up once
if the property gets one, and not otherwise. -/
theorem exists_ownFindings_eq (p : Property DataType) :
    ∃ before after, ownFindings p = before ++
        (if p.kind = .fallback then
          [.fallback p.characteristic.unwrapped.name
            (p.characteristic.unwrapped.dataType?.map DataType.short)]
        else []) ++ after ∧
      (∀ c t, .fallback c t ∉ before) ∧ ∀ c t, .fallback c t ∉ after := by
  refine ⟨_, _, List.append_assoc _ _ _, ?_, ?_⟩
  · intro c t hmem
    rcases List.mem_append.mp hmem with hmem | hmem
    · split at hmem <;> simp at hmem
    · split at hmem <;> simp at hmem
  · intro c t hmem
    rcases List.mem_append.mp hmem with hmem | hmem
    · obtain ⟨_, _, heq⟩ := List.mem_filterMap.mp hmem
      exact constraintFinding?_ne_fallback heq
    · split at hmem
      · split at hmem <;> simp at hmem
      · rcases List.mem_append.mp hmem with hmem | hmem
        · split at hmem <;> simp at hmem
        · obtain ⟨_, _, heq⟩ := List.mem_filterMap.mp hmem
          exact patternFinding?_ne_fallback heq
      · cases hmem

theorem fallbacks_own (location : String) (p : Property DataType) :
    fallbacks ((ownFindings p).map (⟨location, ·⟩)) =
      if p.kind = .fallback then [location] else [] := by
  have hnone {founds : List Finding} (h : ∀ c t, .fallback c t ∉ founds) :
      fallbacks (founds.map (⟨location, ·⟩)) = [] := by
    rw [fallbacks, List.map_eq_nil_iff, List.filter_eq_nil_iff]
    intro i hi hdefault
    obtain ⟨found, hfound, rfl⟩ := List.mem_map.mp hi
    obtain ⟨c, t, rfl⟩ := isDefault_iff.mp hdefault
    exact h c t hfound
  obtain ⟨before, after, heq, hbefore, hafter⟩ := exists_ownFindings_eq p
  rw [heq, List.map_append, List.map_append, fallbacks_append, fallbacks_append,
    hnone hbefore, hnone hafter, List.nil_append, List.append_nil]
  split <;> rfl

theorem fallbacks_property (location : String) (p : Property DataType) :
    fallbacks (property location p) =
      (if p.kind = .fallback then [location] else []) ++
        p.nested.flatMap fun q =>
          fallbacks (property (location ++ "." ++ q.name) q) := by
  rw [property_eq, fallbacks_append, fallbacks_own, fallbacks_flatMap]

end Lint

variable {config : Config}

theorem fallbackPlaces_met (location : String) (p : Property DataType) :
    fallbackPlaces ((composeField config p).met location) =
      (if p.kind = .fallback then [location] else []) ++
        if p.kind = .complex then []
        else (p.inner config).flatMap fun q =>
          fallbackPlaces ((composeField config q).met (location ++ "." ++ q.name)) := by
  rw [met_eq, kind_composeField, children_composeField, metAll_eq, List.flatMap_map]
  simp only [name_composeField]
  by_cases hcomplex : p.kind = .complex
  · simp [fallbackPlaces, hcomplex]
  · rw [if_neg hcomplex, if_neg hcomplex, ← fallbackPlaces_flatMap]
    by_cases hfallback : p.kind = .fallback
    · simp [fallbackPlaces, hfallback]
    · simp [fallbackPlaces, hfallback]

/-- Lint goes through a property as the walk goes through its field. -/
theorem Lint.fallbacks_property_eq (config : Config) (location : String)
    (p : Property DataType) :
    fallbacks (property location p) =
      fallbackPlaces ((composeField config p).met location) := by
  induction p using PropertyOf.nested_induction generalizing location with
  | step p ih =>
      rw [fallbacks_property, fallbackPlaces_met]
      congr 1
      split
      · rename_i hcomplex
        obtain ⟨e, he⟩ := PropertyOf.kind_eq_complex_iff.mp hcomplex
        rw [PropertyOf.nested_of_entity? he, List.flatMap_nil]
      · rename_i hplain
        have hnone : p.entity? = none := by
          cases he : p.entity? with
          | none => rfl
          | some e => exact absurd (PropertyOf.kind_eq_complex_iff.mpr ⟨e, he⟩) hplain
        rw [PropertyOf.inner_of_entity?_eq_none config hnone]
        exact List.flatMap_congr fun q hq => ih q hq _

theorem Lint.fallbacks_properties (config : Config) (owner : String)
    (seen : List String) (ps : List (Property DataType)) :
    fallbacks (properties owner seen ps) = ps.flatMap fun p =>
      fallbackPlaces ((composeField config p).met (owner ++ "." ++ p.name)) := by
  induction ps generalizing seen with
  | nil => rfl
  | cons p ps ih =>
      have hduplicate : fallbacks (if p.name ∈ seen then
          [⟨owner ++ "." ++ p.name, .duplicateProperty p.name owner⟩] else []) = [] := by
        split <;> rfl
      rw [properties, fallbacks_append, fallbacks_append, hduplicate, List.nil_append,
        fallbacks_property_eq config, ih, List.flatMap_cons]

/-- Without exclusions the plain text fields that lint reports for a container
are those met in its forest. -/
theorem Lint.fallbacks_element (hall : config.exclusions = []) (e : Element DataType) :
    fallbacks (element e) = fallbackPlaces (metAll e.name (e.fields config)) := by
  have hshown : e.shown config = e.properties := by
    simp [Element.shown, Config.excludes, hall]
  rw [element, fallbacks_properties config, metAll_eq, Element.fields_eq, hshown,
    List.flatMap_map, fallbackPlaces_flatMap]
  simp only [name_composeField]

/-- The fields `outer`, each inside the one before it, lead from the top of the
forest of `e` into an entity; without any they stay in `e` itself. -/
inductive Element.LeadsInto (config : Config) (e : Element DataType) :
    List Field → Element DataType → Prop
  | self : LeadsInto config e [] e
  | entity {outer x above p d} (h : LeadsInto config e outer x)
    (hp : x.ShowsOwn config above p) (hd : p.entity? = some d) :
    LeadsInto config e (outer ++ (above ++ [p]).map (composeField config)) d

/-- The place of a field in the forest of `e` is that of the property `p` which
`x` shows on its own account below the properties `above`.  No field between
`x` and the place is complex. -/
structure Node.BelongsTo (config : Config) (e x : Element DataType)
    (above : List (Property DataType)) (p : Property DataType) (n : Node) : Prop where
  leads : ∃ outer, e.LeadsInto config outer x ∧
    n.above = outer ++ above.map (composeField config)
  shows : x.ShowsOwn config above p
  field : n.field = composeField config p
  between : ∀ q ∈ above, q.kind ≠ .complex

theorem PropertyOf.kind_ne_complex_of_nested {p q : Property DataType}
    (hq : q ∈ p.nested) : p.kind ≠ .complex := by
  intro hcomplex
  obtain ⟨e, he⟩ := kind_eq_complex_iff.mp hcomplex
  rw [nested_of_entity? he] at hq
  cases hq

theorem Element.ShowsOwn.kind_ne_complex {e : Element DataType}
    {above : List (Property DataType)} {p : Property DataType}
    (h : e.ShowsOwn config above p) : ∀ q ∈ above, q.kind ≠ .complex := by
  induction h with
  | top hp => simp
  | nested hp hq ih =>
      intro r hr
      rcases List.mem_append.mp hr with hr | hr
      · exact ih r hr
      · rw [List.mem_singleton.mp hr]
        exact PropertyOf.kind_ne_complex_of_nested hq

/-- Below fields that belong to one container every place belongs to one. -/
theorem Node.exists_belongsTo_of_fields {e x : Element DataType} {n : Node}
    {fields outer : List Field} {qs above : List (Property DataType)}
    (hn : n.StandsIn fields) (hfields : fields = qs.map (composeField config))
    (hleads : e.LeadsInto config outer x)
    (hqs : ∀ q ∈ qs, x.ShowsOwn config above q) (address : List Nat) :
    ∃ y between p, Node.BelongsTo config e y between p
      ⟨address, outer ++ above.map (composeField config) ++ n.above, n.field⟩ := by
  induction hn generalizing outer x qs above with
  | top hf =>
      subst hfields
      obtain ⟨q, hq, rfl⟩ := List.mem_map.mp (List.mem_of_getElem? hf)
      have hown := hqs q hq
      exact ⟨x, above, q, ⟨outer, hleads, List.append_nil _⟩, hown, rfl, hown.kind_ne_complex⟩
  | inside hf _ ih =>
      subst hfields
      obtain ⟨q, hq, rfl⟩ := List.mem_map.mp (List.mem_of_getElem? hf)
      have hown := hqs q hq
      have hchildren := children_composeField config q
      cases hentity : q.entity? with
      | none =>
          rw [PropertyOf.inner_of_entity?_eq_none config hentity] at hchildren
          have hnested : ∀ r ∈ q.nested, x.ShowsOwn config (above ++ [q]) r :=
            fun r hr => .nested hown hr
          simpa using ih hchildren hleads hnested
      | some d =>
          rw [PropertyOf.inner_of_entity? config hentity] at hchildren
          have hshown : ∀ r ∈ d.shown config, d.ShowsOwn config [] r := fun r hr => .top hr
          simpa using ih hchildren (.entity hleads hown hentity) hshown

/-- Every place in the forest of an element belongs to a container. -/
theorem Node.exists_belongsTo {e : Element DataType} {n : Node}
    (hn : n.StandsIn (e.fields config)) : ∃ x above p, n.BelongsTo config e x above p :=
  exists_belongsTo_of_fields hn (Element.fields_eq config e) .self
    (fun _ hp => .top hp) n.address

namespace Document

variable {doc : Document} {model : Model} {e x : Element DataType}

theorem mem_of_leadsInto (h : doc.resolve = .ok model)
    (he : e ∈ model.aspect :: model.entities) {outer : List Field}
    (hleads : e.LeadsInto config outer x) : x ∈ model.aspect :: model.entities := by
  induction hleads with
  | self => exact he
  | entity _ hp hd ih => exact mem_of_entity? h ih hp hd

end Document

/-- What lint says about plain text fields: for each container those that a walk
through its forest meets, and every field of every forest at the container that
is nearest around it. -/
structure Model.ReportsFallbacks (model : Model) : Prop where
  containers : model.lint = (model.aspect :: model.entities).flatMap Lint.element
  met : ∀ config : Config, config.exclusions = [] →
    ∀ e ∈ model.aspect :: model.entities,
      Lint.fallbacks (Lint.element e) = fallbackPlaces (metAll e.name (e.fields config))
  nearest : ∀ (config : Config) (name? : Option String) (selection : Selection) (n : Node),
    model.select name? = .ok selection →
    n.StandsIn (selection.element.fields config) → n.field.kind = .fallback →
    ∃ x ∈ model.aspect :: model.entities, ∃ above p,
      n.BelongsTo config selection.element x above p ∧
        Lint.locate x.name (above ++ [p]) ∈ Lint.fallbacks (Lint.element x)

/-- Lint predicts every plain text field that stands in for something better. -/
theorem Document.reportsFallbacks {doc : Document} {model : Model}
    (h : doc.resolve = .ok model) : model.ReportsFallbacks where
  containers := rfl
  met := fun _ hall e _ => Lint.fallbacks_element hall e
  nearest := by
    intro config name? selection n hselect hn hkind
    obtain ⟨x, above, p, hbelongs⟩ := Node.exists_belongsTo hn
    obtain ⟨outer, hleads, _⟩ := hbelongs.leads
    have hx := mem_of_leadsInto h (Model.mem_of_select hselect) hleads
    refine ⟨x, hx, above, p, hbelongs, ?_⟩
    rw [hbelongs.field, kind_composeField] at hkind
    have hfound : .fallback p.characteristic.unwrapped.name
        (p.characteristic.unwrapped.dataType?.map DataType.short) ∈ Lint.ownFindings p := by
      simp [Lint.ownFindings, hkind]
    exact Lint.mem_fallbacks (hbelongs.shows.property_subset (Lint.own_mem_property hfound))

namespace FallbacksWitness

def untyped {τ : Type} (name : String) : Property τ :=
  ⟨name, none, true, none, .scalar "Note" none none⟩

/-- An either with an untyped branch, an entity and an untyped property, over the
type of the entity. -/
def trip {τ : Type} (place : τ) : Element τ :=
  ⟨"Trip", none,
    [⟨"outcome", none, false, none,
        .trait "Outcome" (.either "Outcome" (untyped "remark") (untyped "fault")) []⟩,
      ⟨"place", none, false, none, .singleEntity "Place" place⟩,
      untyped "note"]⟩

def document : Document where
  aspect := trip (.entity "Place")
  entities := [⟨"Place", none, [untyped "mark"]⟩]

def place : Element DataType := ⟨"Place", none, [untyped "mark"]⟩

def model : Model := ⟨trip (.entity place), [place]⟩

theorem reportsFallbacks_of_trip :
    document.resolve = .ok model ∧
      Lint.fallbacks model.lint =
        ["Trip.outcome.remark", "Trip.outcome.fault", "Trip.note", "Place.mark"] ∧
      model.ReportsFallbacks := by
  have hresolve : document.resolve = .ok model :=
    Document.resolve_of_unfold (by decide +kernel) rfl
  exact ⟨hresolve, by decide +kernel, Document.reportsFallbacks hresolve⟩

end FallbacksWitness

end AspectForms
