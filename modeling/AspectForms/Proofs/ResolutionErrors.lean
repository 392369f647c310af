import AspectForms.Model.Registry
import AspectForms.Proofs.NestedEntities

/-!
What the errors of resolution say about a document.  Main statement: an error names either entities that
refer to each other in a circle, with the way into it, or an entity that is not defined together with the
innermost property that refers to it.
-/

namespace AspectForms

section Places

variable {τ : Type}

/-- A reference to a data type is written in a characteristic with no other
property around it, be it in the base of a trait or in the element of a
collection. -/
inductive Characteristic.RefersTo (r : τ) : Characteristic τ → Prop
  | scalar {n u} : RefersTo r (.scalar n (some r) u)
  | enumeration {n vs} : RefersTo r (.enumeration n (some r) vs)
  | collection {n k e} : RefersTo r (.collection n k (some r) e)
  | element {n k t c} (h : RefersTo r c) : RefersTo r (.collection n k t (some c))
  | structured {n rule parts} : RefersTo r (.structured n (some r) rule parts)
  | singleEntity {n} : RefersTo r (.singleEntity n r)
  | base {n b cs} (h : RefersTo r b) : RefersTo r (.trait n b cs)

/-- The second property is the first one, or is written inside it at some
depth. -/
def PropertyOf.Encloses : Property τ → Property τ → Prop :=
  Relation.ReflTransGen fun p q => p.characteristic.Holds q

/-- A property is written in an element, in its list or inside one of these. -/
def Element.Writes (e : Element τ) (q : Property τ) : Prop :=
  ∃ p ∈ e.properties, p.Encloses q

variable {r : τ} {o owner : String} {p q : Property τ}

theorem mem_map_owner_iff {t : Option τ} :
    (o, r) ∈ t.toList.map (owner, ·) ↔ o = owner ∧ t = some r := by
  cases t with
  | none => simp
  | some s => simp [eq_comm]

/-- A reference of a characteristic has no property around it inside, or is one
of a property that the characteristic holds. -/
theorem Characteristic.mem_references_cases {c : Characteristic τ}
    (h : (o, r) ∈ c.references owner) :
    o = owner ∧ c.RefersTo r ∨ ∃ p, c.Holds p ∧ (o, r) ∈ propertyReferences p := by
  induction c using Characteristic.induction with
  | scalar n t u =>
      obtain ⟨rfl, rfl⟩ := mem_map_owner_iff.mp h
      exact .inl ⟨rfl, .scalar⟩
  | enumeration n t vs =>
      obtain ⟨rfl, rfl⟩ := mem_map_owner_iff.mp h
      exact .inl ⟨rfl, .enumeration⟩
  | collection n k t e ih =>
      rcases List.mem_append.mp h with helement | htype
      · cases e with
        | none => cases helement
        | some c =>
            rcases ih c rfl helement with ⟨rfl, hc⟩ | ⟨p, hp, hr⟩
            · exact .inl ⟨rfl, .element hc⟩
            · exact .inr ⟨p, .element hp, hr⟩
      · obtain ⟨rfl, rfl⟩ := mem_map_owner_iff.mp htype
        exact .inl ⟨rfl, .collection⟩
  | either n left right _ _ =>
      rcases List.mem_append.mp h with hleft | hright
      · exact .inr ⟨left, .left, hleft⟩
      · exact .inr ⟨right, .right, hright⟩
  | structured n t rule parts _ =>
      rcases List.mem_append.mp h with hparts | htype
      · rw [partsReferences_eq] at hparts
        obtain ⟨p, hp, hr⟩ := List.mem_flatMap.mp hparts
        exact .inr ⟨p, .part hp, hr⟩
      · obtain ⟨rfl, rfl⟩ := mem_map_owner_iff.mp htype
        exact .inl ⟨rfl, .structured⟩
  | singleEntity n t =>
      obtain ⟨rfl, rfl⟩ := Prod.mk.inj (List.mem_singleton.mp h)
      exact .inl ⟨rfl, .singleEntity⟩
  | trait n b cs ih =>
      rcases ih h with ⟨rfl, hb⟩ | ⟨p, hp, hr⟩
      · exact .inl ⟨rfl, .base hb⟩
      · exact .inr ⟨p, .base hp, hr⟩

/-- The references of a property are those of the properties that it encloses,
each at the innermost one around it. -/
theorem PropertyOf.exists_encloses_of_mem (h : (o, r) ∈ propertyReferences p) :
    ∃ q, p.Encloses q ∧ q.name = o ∧ q.characteristic.RefersTo r := by
  have hstep {p : Property τ}
      (hheld : ∀ q, p.characteristic.Holds q → (o, r) ∈ propertyReferences q →
        ∃ s, q.Encloses s ∧ s.name = o ∧ s.characteristic.RefersTo r)
      (hr : (o, r) ∈ propertyReferences p) :
      ∃ s, p.Encloses s ∧ s.name = o ∧ s.characteristic.RefersTo r := by
    rw [propertyReferences_eq] at hr
    rcases Characteristic.mem_references_cases hr with ⟨rfl, hown⟩ | ⟨q, hq, hin⟩
    · exact ⟨p, .refl, rfl, hown⟩
    · obtain ⟨s, hs, hname, hrefers⟩ := hheld q hq hin
      exact ⟨s, .head hq hs, hname, hrefers⟩
  -- what holds of the properties below carries over to those that hold them
  have hheld (c : Characteristic τ) : ∀ q, c.Holds q →
      (o, r) ∈ propertyReferences q →
        ∃ s, q.Encloses s ∧ s.name = o ∧ s.characteristic.RefersTo r := by
    induction c using Characteristic.induction with
    | scalar n t u => exact nofun
    | enumeration n t vs => exact nofun
    | collection n k t e ih =>
        intro q hq
        cases hq with
        | element hq => exact ih _ rfl q hq
    | either n left right ihl ihr =>
        intro q hq
        cases hq with
        | left => exact hstep ihl
        | right => exact hstep ihr
    | structured n t rule parts ih =>
        intro q hq
        cases hq with
        | part hq => exact hstep (ih q hq)
    | singleEntity n t => exact nofun
    | trait n b cs ih =>
        intro q hq
        cases hq with
        | base hq => exact ih q hq
  exact hstep (hheld p.characteristic) h

theorem Element.exists_writes_of_mem {e : Element τ} (h : (o, r) ∈ e.references) :
    ∃ q, e.Writes q ∧ q.name = o ∧ q.characteristic.RefersTo r := by
  obtain ⟨p, hp, hr⟩ := List.mem_flatMap.mp h
  obtain ⟨q, hq, hname, hrefers⟩ := PropertyOf.exists_encloses_of_mem hr
  exact ⟨q, ⟨p, hp, hq⟩, hname, hrefers⟩

end Places

namespace Document

/-- The entity `a` is defined, and a property written in it has the entity `b` as
a data type. -/
def LeadsTo (doc : Document) (a b : String) : Prop :=
  ∃ e, doc.entity? a = some e ∧
    ∃ p, e.Writes p ∧ p.characteristic.RefersTo (.entity b)

/-- Names of entities of which each leads to the next and the last closes a
circle. -/
structure Circle (doc : Document) (chain : List String) : Prop where
  long : 2 ≤ chain.length
  defined : ∀ name ∈ chain, name ∈ doc.names
  linked : chain.IsChain doc.LeadsTo
  distinct : chain.dropLast.Nodup
  closed : ∃ name ∈ chain.dropLast, chain.getLast? = some name

/-- The entity `name` is not defined, and a property `owner` of the aspect or of
an entity is the innermost one around a reference to it. -/
structure Misses (doc : Document) (name owner : String) : Prop where
  missing : name ∉ doc.names
  wanted : ∃ e ∈ doc.aspect :: doc.entities, ∃ p, e.Writes p ∧ p.name = owner ∧
    p.characteristic.RefersTo (.entity name)

variable {doc : Document}

theorem LeadsTo.of_refers {a b : String} (h : doc.Refers a b) : doc.LeadsTo a b := by
  obtain ⟨e, owner, he, href⟩ := h
  obtain ⟨p, hp, _, hrefers⟩ := Element.exists_writes_of_mem href
  exact ⟨e, he, p, hp, hrefers⟩

theorem circle_of_certified {chain : List String}
    (h : (ModelError.cyclicEntity chain).Certified doc) : doc.Circle chain := by
  obtain ⟨path, name, rfl, hnodup, hmem, hdefined, hchain⟩ := h
  refine ⟨?_, ?_, ?_, ?_, ?_⟩
  · have hpos := List.length_pos_of_mem hmem
    rw [List.length_append, List.length_singleton]
    omega
  · intro n hn
    rcases List.mem_append.mp hn with hn | hn
    · exact hdefined hn
    · exact List.mem_singleton.mp hn ▸ hdefined hmem
  · exact hchain.imp fun _ _ => LeadsTo.of_refers
  · rwa [List.dropLast_concat]
  · exact ⟨name, List.dropLast_concat ▸ hmem, List.getLast?_concat⟩

theorem misses_of_certified {name owner : String}
    (h : (ModelError.unknownEntity name owner).Certified doc) :
    doc.Misses name owner := by
  obtain ⟨hmissing, e, he, href⟩ := h
  obtain ⟨p, hp, hname, hrefers⟩ := Element.exists_writes_of_mem href
  exact ⟨hmissing, e, he, p, hp, hname, hrefers⟩

/-- Where resolution fails it names entities that lead to each other in a circle,
or an entity that is not defined and the innermost property that wants it. -/
theorem circle_or_misses_of_resolve {e : ModelError} (h : doc.resolve = .error e) :
    (∃ chain, e = .cyclicEntity chain ∧ doc.Circle chain) ∨
      ∃ name owner, e = .unknownEntity name owner ∧ doc.Misses name owner := by
  have hcertified := resolve_error h
  cases e with
  | cyclicEntity chain => exact .inl ⟨chain, rfl, circle_of_certified hcertified⟩
  | unknownEntity name owner =>
      exact .inr ⟨name, owner, rfl, misses_of_certified hcertified⟩
  | unknownElement name => exact absurd hcertified id
  | unsupportedFormat path => exact absurd hcertified id

end Document

namespace ResolutionErrorsWitness

def typed (name entity : String) : Property TypeRef :=
  ⟨name, none, false, none, .singleEntity "SingleEntity" (.entity entity)⟩

/-- A property with a branch. -/
def branching (name : String) (left : Property TypeRef) : Property TypeRef :=
  ⟨name, none, false, none, .either "Either" left
    ⟨"other", none, false, none, .scalar "Text" (some (.scalar "xsd:string")) none⟩⟩

/-- `Alpha` leads into the circle of the two others. -/
def circular : Document where
  aspect := ⟨"Loop", none, []⟩
  entities :=
    [⟨"Alpha", none, [typed "next" "Beta"]⟩,
      ⟨"Beta", none, [branching "choice" (typed "next" "Gamma")]⟩,
      ⟨"Gamma", none, [typed "back" "Beta"]⟩]
  ascending := by decide +kernel

/-- What is wanted inside a branch is not there. -/
def broken : Document :=
  .ofElements ⟨"Broken", none, [branching "choice" (typed "ghost" "Missing")]⟩ []

def error? (doc : Document) : Option ModelError :=
  match doc.resolve with
  | .ok _ => none
  | .error e => some e

theorem resolve_of_error? {doc : Document} {e : ModelError} (h : error? doc = some e) :
    doc.resolve = .error e := by
  unfold error? at h
  split at h
  · cases h
  · rename_i hresolve
    exact Option.some.inj h ▸ hresolve

theorem resolve_circular :
    circular.resolve = .error (.cyclicEntity ["Alpha", "Beta", "Gamma", "Beta"]) :=
  resolve_of_error? (by decide +kernel)

theorem resolve_broken :
    broken.resolve = .error (.unknownEntity "Missing" "ghost") :=
  resolve_of_error? (by decide +kernel)

theorem circle_or_misses_of_both :
    (circular.resolve = .error (.cyclicEntity ["Alpha", "Beta", "Gamma", "Beta"]) ∧
      circular.Circle ["Alpha", "Beta", "Gamma", "Beta"]) ∧
    broken.resolve = .error (.unknownEntity "Missing" "ghost") ∧
      broken.Misses "Missing" "ghost" := by
  refine ⟨⟨resolve_circular, ?_⟩, resolve_broken, ?_⟩
  · rcases Document.circle_or_misses_of_resolve resolve_circular with
      ⟨chain, heq, hcircle⟩ | ⟨_, _, heq, _⟩
    · exact ModelError.cyclicEntity.inj heq ▸ hcircle
    · cases heq
  · rcases Document.circle_or_misses_of_resolve resolve_broken with
      ⟨_, heq, _⟩ | ⟨name, owner, heq, hmisses⟩
    · cases heq
    · obtain ⟨rfl, rfl⟩ := ModelError.unknownEntity.inj heq
      exact hmisses

end ResolutionErrorsWitness

end AspectForms
