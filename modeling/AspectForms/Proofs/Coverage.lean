import AspectForms.Proofs.Constraints
import AspectForms.Proofs.Placement

/-!
What lint has been at.  Main statement: a property that is shown in the forest of an aspect or entity, at
whatever depth, is shown by an element of the model on its own account, and lint reports there what it
finds at the property.
-/

namespace AspectForms

namespace PropertyOf

variable {p : Property DataType} {e : Element DataType}

/-- The entity that the field of a property opens into. -/
def entity? (p : Property DataType) : Option (Element DataType) :=
  match p.characteristic.unwrapped with
  | .singleEntity _ t => t.entity?
  | .scalar _ (some t) _ => t.entity?
  | _ => none

theorem unwrapped_of_entity? (h : p.entity? = some e) :
    (∃ n, p.characteristic.unwrapped = .singleEntity n (.entity e)) ∨
      ∃ n unit, p.characteristic.unwrapped = .scalar n (some (.entity e)) unit := by
  unfold entity? at h
  split at h
  · rename_i n t hshape
    cases t with
    | scalar urn => cases h
    | entity d =>
        obtain rfl := Option.some.inj h
        exact .inl ⟨n, hshape⟩
  · rename_i n t unit hshape
    cases t with
    | scalar urn => cases h
    | entity d =>
        obtain rfl := Option.some.inj h
        exact .inr ⟨n, unit, hshape⟩
  · cases h

theorem inner_of_entity? (config : Config) (h : p.entity? = some e) :
    p.inner config = e.shown config := by
  unfold inner
  rcases unwrapped_of_entity? h with ⟨n, hshape⟩ | ⟨n, unit, hshape⟩
  all_goals rw [hshape]; rfl

theorem nested_of_entity? (h : p.entity? = some e) : p.nested = [] := by
  unfold nested
  rcases unwrapped_of_entity? h with ⟨n, hshape⟩ | ⟨n, unit, hshape⟩
  all_goals rw [hshape]

theorem entity?_mem_references (h : p.entity? = some e) :
    (p.name, .entity e) ∈ propertyReferences p := by
  rw [propertyReferences_eq, ← Characteristic.references_unwrapped]
  rcases unwrapped_of_entity? h with ⟨n, hshape⟩ | ⟨n, unit, hshape⟩
  all_goals rw [hshape]; exact List.mem_cons_self

/-- A field that opens into no entity holds what is written in the
characteristic of its property. -/
theorem inner_of_entity?_eq_none (config : Config) (h : p.entity? = none) :
    p.inner config = p.nested := by
  unfold entity? at h
  unfold inner nested
  generalize p.characteristic.unwrapped = shape at h ⊢
  cases shape with
  | singleEntity n t =>
      cases t with
      | scalar urn => rfl
      | entity d => cases h
  | scalar n t unit =>
      rcases t with _ | _ | d
      · rfl
      · rfl
      · cases h
  | _ => rfl

theorem exists_entity?_of_accepts
    (h : FieldKind.complex.accepts p.characteristic.unwrapped = true) :
    ∃ e, p.entity? = some e := by
  unfold entity?
  generalize p.characteristic.unwrapped = shape at h ⊢
  cases shape with
  | singleEntity n t =>
      cases t with
      | scalar urn => cases h
      | entity d => exact ⟨d, rfl⟩
  | scalar n t unit =>
      rcases t with _ | _ | d
      · cases h
      · cases h
      · exact ⟨d, rfl⟩
  | _ => cases h

/-- Every kind but the last resort has accepted the characteristic. -/
theorem accepts_kind (h : p.kind ≠ .fallback) :
    p.kind.accepts p.characteristic.unwrapped = true := by
  unfold kind FieldKind.select at h ⊢
  generalize p.characteristic.unwrapped = shape at h ⊢
  cases hfind : FieldKind.candidates.find? (·.accepts shape) with
  | none => exact absurd (by rw [hfind]; rfl) h
  | some k => exact (List.find?_eq_some_iff_append.mp hfind).1

/-- The complex fields are those that open into an entity. -/
theorem kind_eq_complex_iff : p.kind = .complex ↔ ∃ e, p.entity? = some e := by
  constructor
  · intro hkind
    have haccepts := accepts_kind (p := p) (hkind ▸ nofun)
    exact exists_entity?_of_accepts (hkind ▸ haccepts)
  · rintro ⟨e, he⟩
    unfold kind
    rcases unwrapped_of_entity? he with ⟨n, hshape⟩ | ⟨n, unit, hshape⟩
    all_goals rw [hshape]; rfl

end PropertyOf

/-- What holds of a property as soon as it holds of those shown inside its field holds of
them all. -/
theorem PropertyOf.inner_induction (config : Config) {P : Property DataType → Prop}
    (step : ∀ p : Property DataType, (∀ q ∈ p.inner config, P q) → P p)
    (p : Property DataType) : P p := by
  generalize hfield : composeField config p = f
  induction f using Field.induction generalizing p with
  | step f ih =>
      subst hfield
      refine step p fun q hq => ih _ ?_ q rfl
      rw [children_composeField]
      exact List.mem_map_of_mem hq

theorem PropertyOf.nested_induction {P : Property DataType → Prop}
    (step : ∀ p : Property DataType, (∀ q ∈ p.nested, P q) → P p) (p : Property DataType) :
    P p :=
  inner_induction {} (fun p ih => step p fun q hq => ih q (inner_of_nested hq)) p

/-- An element shows a property without the help of an entity: in its own list
or, below the properties `above`, written in their characteristics. -/
inductive Element.ShowsOwn (config : Config) (e : Element DataType) :
    List (Property DataType) → Property DataType → Prop
  | top {p} (hp : p ∈ e.shown config) : ShowsOwn config e [] p
  | nested {above p q} (hp : ShowsOwn config e above p) (hq : q ∈ p.nested) :
    ShowsOwn config e (above ++ [p]) q

theorem Lint.locate_concat {τ : Type} (owner : String) (above : List (Property τ))
    (p : Property τ) : locate owner (above ++ [p]) = locate owner above ++ "." ++ p.name :=
  List.foldl_concat _ _ _ _

namespace Element.ShowsOwn

variable {config : Config} {e : Element DataType}
  {above : List (Property DataType)} {p : Property DataType}

/-- Lint of the element goes through the property. -/
theorem property_subset (h : e.ShowsOwn config above p) :
    Lint.property (Lint.locate e.name (above ++ [p])) p ⊆ Lint.element e := by
  induction h with
  | top hp => exact Lint.property_subset_properties (List.mem_filter.mp hp).1
  | nested _ hq ih =>
      rw [Lint.locate_concat]
      exact List.Subset.trans (Lint.property_subset hq) ih

theorem references_subset (h : e.ShowsOwn config above p) :
    propertyReferences p ⊆ e.references := by
  induction h with
  | top hp =>
      intro r hr
      exact List.mem_flatMap.mpr ⟨_, (List.mem_filter.mp hp).1, hr⟩
  | nested _ hq ih =>
      exact List.Subset.trans (PropertyOf.references_of_nested hq) ih

end Element.ShowsOwn

namespace Document

variable {doc : Document} {model : Model} {config : Config}
  {e x d : Element DataType} {above : List (Property DataType)}
  {p : Property DataType}

/-- The entity that a shown property opens into is one of the model. -/
theorem mem_of_entity? (h : doc.resolve = .ok model)
    (hx : x ∈ model.aspect :: model.entities) (hp : x.ShowsOwn config above p)
    (hd : p.entity? = some d) : d ∈ model.aspect :: model.entities := by
  have hmention : x.Mentions d :=
    ⟨p.name, hp.references_subset (PropertyOf.entity?_mem_references hd)⟩
  exact List.mem_cons_of_mem _ (mem_of_named? (named?_of_mentions h hx hmention))

/-- What the forest of an element shows, an element of the model shows on its
own account. -/
theorem exists_showsOwn (h : doc.resolve = .ok model)
    (he : e ∈ model.aspect :: model.entities) (hp : e.Shows config p) :
    ∃ x ∈ model.aspect :: model.entities, ∃ above, x.ShowsOwn config above p := by
  induction hp with
  | top hp => exact ⟨e, he, [], .top hp⟩
  | @inside p q _ hq ih =>
      obtain ⟨x, hx, above, hp⟩ := ih
      cases hentity : p.entity? with
      | none =>
          rw [PropertyOf.inner_of_entity?_eq_none config hentity] at hq
          exact ⟨x, hx, above ++ [p], .nested hp hq⟩
      | some d =>
          rw [PropertyOf.inner_of_entity? config hentity] at hq
          exact ⟨d, mem_of_entity? h hx hp hentity, [], .top hq⟩

/-- Lint reports whatever it finds at a shown property. -/
theorem exists_issue (h : doc.resolve = .ok model)
    (he : e ∈ model.aspect :: model.entities) (hp : e.Shows config p)
    {found : Finding} (hfound : found ∈ Lint.ownFindings p) :
    ∃ location, ⟨location, found⟩ ∈ model.lint := by
  obtain ⟨x, hx, above, hown⟩ := exists_showsOwn h he hp
  refine ⟨Lint.locate x.name (above ++ [p]), Model.element_subset_lint hx ?_⟩
  exact hown.property_subset (Lint.own_mem_property hfound)

end Document

end AspectForms
