import AspectForms.Proofs.Expressions
import AspectForms.Proofs.Locality

/-!
Shorthands of type identifiers and the full urns that they stand for.  Main statement: a document resolves to
the same model if every scalar type in it is written in full, so that neither lint nor any form can tell the
two spellings apart.
-/

namespace AspectForms

open Script (Misses Differs)

theorem cases_of_mem_shorthands {s : String × String} (hs : s ∈ shorthands) :
    s = ("xsd:", xsdNamespace) ∨ s = ("rdf:", rdfNamespace) ∨ s = ("samm:", sammNamespace) := by
  simpa [shorthands] using hs

theorem isPrefixOf?_of_misses {start line : String} (h : Misses start line) :
    start.toList.isPrefixOf? line.toList = none := by
  rw [← Option.not_isSome_iff_eq_none, List.isSome_isPrefixOf?_eq_isPrefixOf]
  exact Bool.not_eq_true _ ▸ h

theorem isPrefixOf?_append (start rest : String) :
    start.toList.isPrefixOf? (start ++ rest).toList = some rest.toList := by
  rw [List.isPrefixOf?_eq_some_iff_append_eq, String.toList_append]

/-- A text that starts with no shorthand is taken for a full urn. -/
theorem expandUrn_of_misses {urn : String} (h : ∀ s ∈ shorthands, Misses s.1 urn) :
    expandUrn urn = urn := by
  have hnone : (shorthands.findSome? fun s =>
      (s.1.toList.isPrefixOf? urn.toList).map fun rest => s.2 ++ String.ofList rest) = none := by
    rw [List.findSome?_eq_none_iff]
    intro s hs
    rw [isPrefixOf?_of_misses (h s hs), Option.map_none]
  rw [expandUrn, hnone]

/-- A text that starts with a shorthand is written in full, since no shorthand is the beginning of
another one. -/
theorem expandUrn_append {s : String × String} (hs : s ∈ shorthands) (rest : String) :
    expandUrn (s.1 ++ rest) = s.2 ++ rest := by
  have hfirst (t : String) (h : Differs t s.1) :
      t.toList.isPrefixOf? (s.1 ++ rest).toList = none :=
    isPrefixOf?_of_misses (h.append rest).misses
  have hown : (s.1.toList.isPrefixOf? (s.1 ++ rest).toList).map
      (fun rest => s.2 ++ String.ofList rest) = some (s.2 ++ rest) := by
    rw [isPrefixOf?_append, Option.map_some, String.ofList_toList]
  rcases cases_of_mem_shorthands hs with rfl | rfl | rfl
  · rw [expandUrn, shorthands, List.findSome?_cons, hown]
  · rw [expandUrn, shorthands, List.findSome?_cons, hfirst "xsd:" (.of_lists rfl),
      Option.map_none, List.findSome?_cons, hown]
  · rw [expandUrn, shorthands, List.findSome?_cons, hfirst "xsd:" (.of_lists rfl),
      Option.map_none, List.findSome?_cons, hfirst "rdf:" (.of_lists rfl), Option.map_none,
      List.findSome?_cons, hown]

theorem exists_expandUrn_eq (urn : String) :
    (∃ s ∈ shorthands, ∃ rest, urn = s.1 ++ rest ∧ expandUrn urn = s.2 ++ rest) ∨
      expandUrn urn = urn := by
  by_cases h : ∀ s ∈ shorthands, Misses s.1 urn
  · exact .inr (expandUrn_of_misses h)
  · push Not at h
    obtain ⟨s, hs, hopens⟩ := h
    obtain ⟨rest, hrest⟩ := List.isPrefixOf_iff_prefix.mp (Bool.of_not_eq_false hopens)
    have hurn : urn = s.1 ++ String.ofList rest := by
      rw [← String.toList_inj, String.toList_append, String.toList_ofList, hrest]
    exact .inl ⟨s, hs, _, hurn, hurn ▸ expandUrn_append hs _⟩

/-- The namespaces start with no shorthand themselves. -/
theorem expandUrn_namespace {s : String × String} (hs : s ∈ shorthands) (rest : String) :
    expandUrn (s.2 ++ rest) = s.2 ++ rest := by
  refine expandUrn_of_misses fun t ht => (Differs.append ?_ rest).misses
  rcases cases_of_mem_shorthands hs with rfl | rfl | rfl
  all_goals rcases cases_of_mem_shorthands ht with rfl | rfl | rfl
  all_goals exact .of_lists rfl

theorem expandUrn_expandUrn (urn : String) : expandUrn (expandUrn urn) = expandUrn urn := by
  rcases exists_expandUrn_eq urn with ⟨s, hs, rest, _, hfull⟩ | hfull
  · rw [hfull, expandUrn_namespace hs]
  · rw [hfull, hfull]

theorem shortUrn_of_hash (front l : String) (hl : '#' ∉ l.toList) :
    shortUrn (front ++ "#" ++ l) = l := by
  have hchars : (front ++ "#" ++ l).toList = front.toList ++ '#' :: l.toList := by
    rw [String.toList_append, String.toList_append, List.append_assoc]
    rfl
  have hmem : '#' ∈ (front ++ "#" ++ l).toList := by
    rw [hchars]
    exact List.mem_append_right _ List.mem_cons_self
  rw [shortUrn, if_pos hmem, hchars, Text.afterLast, Text.splitWhen_append,
    Text.splitWhen_of_not_mem hl, List.getLastD_concat, String.ofList_toList]

theorem exists_namespace_eq {s : String × String} (hs : s ∈ shorthands) :
    ∃ front, s.2 = front ++ "#" := by
  rcases cases_of_mem_shorthands hs with rfl | rfl | rfl
  · exact ⟨"http://www.w3.org/2001/XMLSchema", rfl⟩
  · exact ⟨"http://www.w3.org/1999/02/22-rdf-syntax-ns", rfl⟩
  · exact ⟨"urn:samm:org.eclipse.esmf.samm:meta-model:2.1.0", rfl⟩

/-- What is written after a shorthand is the short name of the type. -/
theorem shortUrn_expandUrn {s : String × String} (hs : s ∈ shorthands) {l : String}
    (hl : '#' ∉ l.toList) : shortUrn (expandUrn (s.1 ++ l)) = l := by
  obtain ⟨front, hfront⟩ := exists_namespace_eq hs
  rw [expandUrn_append hs, hfront, shortUrn_of_hash front l hl]

/-- A written type, in full if it is a scalar. -/
def TypeRef.expanded : TypeRef → TypeRef
  | .scalar urn => .scalar (expandUrn urn)
  | .entity name => .entity name

/-- An element with its types written in full. -/
def Element.expanded (e : Element TypeRef) : Element TypeRef :=
  { e with properties := e.properties.map (PropertyOf.mapTypes TypeRef.expanded) }

/-- A document with its types written in full. -/
def Document.expanded (doc : Document) : Document where
  aspect := doc.aspect.expanded
  entities := doc.entities.map Element.expanded
  ascending := by
    rw [List.map_map]
    exact doc.ascending

section Fusion

variable {τ υ : Type} (g : τ → υ)

section References

theorem optionReferences_map (owner : String) {c : Option (Characteristic τ)}
    (h : ∀ d ∈ c, (d.mapTypes g owner).references owner =
      (d.references owner).map fun r => (r.1, g r.2)) :
    optionReferences owner (c.map (·.mapTypes g owner)) =
      (optionReferences owner c).map fun r => (r.1, g r.2) := by
  cases c with
  | none => rfl
  | some d => exact h d rfl

theorem toList_references_map (owner : String) (t : Option τ) :
    (t.map g).toList.map (owner, ·) =
      (t.toList.map (owner, ·)).map fun r => (r.1, g r.2) := by
  cases t <;> rfl

/-- The references of a characteristic whose types are turned are turned ones. -/
theorem Characteristic.references_mapTypes (c : Characteristic τ) (owner : String) :
    (c.mapTypes g owner).references owner =
      (c.references owner).map fun r => (r.1, g r.2) := by
  induction c using Characteristic.induction generalizing owner with
  | scalar n t u => rw [mapTypes_scalar, references, references, toList_references_map]
  | enumeration n t vs =>
      rw [mapTypes_enumeration, references, references, toList_references_map]
  | collection n k t e ih =>
      rw [mapTypes_collection, references, references, List.map_append, toList_references_map,
        optionReferences_map g owner fun c hc => ih c hc owner]
  | either n l r ihl ihr =>
      rw [mapTypes_either, references, references, List.map_append]
      simp only [propertyReferences_eq, PropertyOf.mapTypes, ihl, ihr]
  | structured n t rule ps ih =>
      rw [mapTypes_structured, references, references, List.map_append, toList_references_map,
        partsReferences_eq, partsReferences_eq, partProperties_mapTypes, List.flatMap_map,
        List.map_flatMap]
      refine congrArg (· ++ _) (List.flatMap_congr fun p hp => ?_)
      simp only [propertyReferences_eq, PropertyOf.mapTypes, ih p hp]
  | singleEntity n t => rfl
  | trait n b cs ih => exact ih owner

theorem references_expanded (e : Element TypeRef) :
    e.expanded.references = e.references.map fun r => (r.1, r.2.expanded) := by
  rw [Element.references, Element.references, Element.expanded, List.flatMap_map,
    List.map_flatMap]
  refine List.flatMap_congr fun p _ => ?_
  rw [propertyReferences_eq, propertyReferences_eq, PropertyOf.mapTypes,
    Characteristic.references_mapTypes]

end References

section Traversal

variable {ω : Type} {m : Type → Type} [Monad m] (f : String → υ → m ω)

theorem mapM_type?_map (owner : String) (t : Option τ) :
    (t.map g).mapM (f owner) = t.mapM fun x => f owner (g x) := by
  cases t <;> rfl

theorem traverseProperty_mapTypes {p : Property τ}
    (h : (p.characteristic.mapTypes g p.name).traverse f p.name =
      p.characteristic.traverse (fun owner x => f owner (g x)) p.name) :
    traverseProperty f (p.mapTypes g) = traverseProperty (fun owner x => f owner (g x)) p := by
  obtain ⟨n, u, o, x, c⟩ := p
  rw [PropertyOf.mapTypes, traverseProperty, traverseProperty, h]

theorem traverseParts_mapTypes {ps : List (Part τ)}
    (h : ∀ p ∈ partProperties ps, traverseProperty f (p.mapTypes g) =
      traverseProperty (fun owner x => f owner (g x)) p) :
    traverseParts f (ps.map (PartOf.mapTypes g)) =
      traverseParts (fun owner x => f owner (g x)) ps := by
  induction ps with
  | nil => rfl
  | cons p ps ih =>
      cases p with
      | literal s =>
          rw [List.map_cons, PartOf.mapTypes, traverseParts, traverseParts, ih h, traversePart,
            traversePart]
      | property p =>
          rw [List.map_cons, PartOf.mapTypes, traverseParts, traverseParts,
            ih fun q hq => h q (List.mem_cons_of_mem p hq), traversePart, traversePart,
            h p List.mem_cons_self]

/-- A traversal reads the types where `mapTypes` turns them. -/
theorem Characteristic.traverse_mapTypes (c : Characteristic τ) (owner : String) :
    (c.mapTypes g owner).traverse f owner = c.traverse (fun owner x => f owner (g x)) owner := by
  induction c using Characteristic.induction generalizing owner with
  | scalar n t u => rw [mapTypes_scalar, traverse, traverse, mapM_type?_map]
  | enumeration n t vs => rw [mapTypes_enumeration, traverse, traverse, mapM_type?_map]
  | collection n k t e ih =>
      have helement : traverseOption f owner (e.map (·.mapTypes g owner)) =
          traverseOption (fun owner x => f owner (g x)) owner e := by
        cases e with
        | none => rfl
        | some c => rw [Option.map_some, traverseOption, traverseOption, ih c rfl]
      rw [mapTypes_collection, traverse, traverse, helement, mapM_type?_map]
  | either n l r ihl ihr =>
      rw [mapTypes_either, traverse, traverse, traverseProperty_mapTypes g f (ihl l.name),
        traverseProperty_mapTypes g f (ihr r.name)]
  | structured n t rule ps ih =>
      rw [mapTypes_structured, traverse, traverse, mapM_type?_map,
        traverseParts_mapTypes g f fun p hp => traverseProperty_mapTypes g f (ih p hp p.name)]
  | singleEntity n t => rfl
  | trait n b cs ih => rw [mapTypes_trait, traverse, traverse, ih]

end Traversal

end Fusion

section Resolution

variable (entity : String → String → Resolving (Element DataType))

theorem TypeRef.resolve_expanded (owner : String) (r : TypeRef) :
    r.expanded.resolve entity owner = r.resolve entity owner := by
  cases r with
  | scalar urn => rw [expanded, resolve, resolve, expandUrn_expandUrn]
  | entity name => rfl

theorem Element.traverse_expanded (e : Element TypeRef) :
    e.expanded.traverse (TypeRef.resolve entity) = e.traverse (TypeRef.resolve entity) := by
  have hproperty (p : Property TypeRef) :
      traverseProperty (TypeRef.resolve entity) (p.mapTypes TypeRef.expanded) =
        traverseProperty (TypeRef.resolve entity) p := by
    rw [traverseProperty_mapTypes _ _ (Characteristic.traverse_mapTypes _ _ _ _)]
    simp only [TypeRef.resolve_expanded]
  rw [traverse, traverse, expanded, List.mapM_map]
  simp only [Function.comp_def, hproperty]

end Resolution

namespace Document

variable {doc : Document}

theorem entity?_expanded (doc : Document) (name : String) :
    doc.expanded.entity? name = (doc.entity? name).map Element.expanded :=
  List.find?_map

/-- The search meets the same names in either spelling. -/
theorem resolveEntity_expanded (budget : Nat) (path : List String) (owner name : String) :
    doc.expanded.resolveEntity budget path owner name =
      doc.resolveEntity budget path owner name := by
  induction budget generalizing path owner name with
  | zero =>
      rw [resolveEntity, resolveEntity, entity?_expanded]
      cases doc.entity? name <;> rfl
  | succ budget ih =>
      have hinner : doc.expanded.resolveEntity budget (path ++ [name]) =
          doc.resolveEntity budget (path ++ [name]) := by
        funext owner inner
        exact ih _ owner inner
      -- What is remembered and what lies above are told by names, which are the same.
      rw [resolveEntity, resolveEntity, entity?_expanded]
      cases doc.entity? name with
      | none => rfl
      | some written => simp only [Option.map_some, Element.traverse_expanded, hinner]

theorem resolve_expanded (doc : Document) : doc.expanded.resolve = doc.resolve := by
  have hentity : doc.expanded.resolveEntity doc.expanded.entities.length [] =
      doc.resolveEntity doc.entities.length [] := by
    funext owner name
    rw [expanded, List.length_map]
    exact resolveEntity_expanded _ _ owner name
  have haspect : doc.expanded.aspect = doc.aspect.expanded := rfl
  have hentities : doc.expanded.entities = doc.entities.map Element.expanded := rfl
  rw [resolve, resolve, resolveAll, resolveAll, hentity, haspect, hentities]
  simp only [List.mapM_map, Element.traverse_expanded]
  rfl

end Document

/-- Writing a type in full twice changes nothing more, and the short name of a shorthand is what
follows it.  Where each scalar type of a document is written in full, wherever it stands, the
document resolves to the same model or fails with the same error, so that the issues of lint and
the forest of every element are the same. -/
theorem shorthands_interchangeable :
    (∀ urn : String, expandUrn (expandUrn urn) = expandUrn urn) ∧
      (∀ s ∈ ["xsd:", "rdf:", "samm:"], ∀ l : String, '#' ∉ l.toList →
        shortUrn (expandUrn (s ++ l)) = l) ∧
      (∀ e : Element TypeRef,
        e.expanded.references = e.references.map fun r => (r.1, r.2.expanded)) ∧
      ∀ doc : Document, doc.expanded.resolve = doc.resolve ∧
        doc.expanded.resolve.map Model.lint = doc.resolve.map Model.lint ∧
        ∀ (name? : Option String) (config : Config),
          (doc.expanded.resolve.bind (·.select name?)).map (·.element.fields config) =
            (doc.resolve.bind (·.select name?)).map (·.element.fields config) := by
  refine ⟨expandUrn_expandUrn, ?_, references_expanded, fun doc => ?_⟩
  · intro s hs l hl
    obtain ⟨short, hshort, rfl⟩ : ∃ short ∈ shorthands, short.1 = s := List.mem_map.mp hs
    exact shortUrn_expandUrn hshort hl
  · rw [doc.resolve_expanded]
    exact ⟨rfl, rfl, fun _ _ => rfl⟩

namespace ShorthandsWitness

open UnfoldingWitness (typed)

/-- A list of places; both branches of its elements have the type. -/
def tour {τ : Type} (place type : τ) : Element τ :=
  ⟨"Tour", none, [⟨"stops", none, false, none,
    .trait "StopsTrait" (.collection "Stops" .list (some place)
      (some (.either "Stop" (typed "title" type) (typed "code" type)))) []⟩]⟩

def document : Document where
  aspect := tour (.entity "Place") (.scalar "xsd:string")
  entities := [⟨"Place", none, [typed "since" (.scalar "xsd:date")]⟩]
  ascending := by decide +kernel

/-- The place as it is resolved. -/
def place : Element DataType :=
  ⟨"Place", none, [typed "since" (.scalar "http://www.w3.org/2001/XMLSchema#date")]⟩

def model : Model :=
  ⟨tour (.entity place) (.scalar "http://www.w3.org/2001/XMLSchema#string"), [place]⟩

/-- A name may hold slashes and colons, and a shorthand after the first one is part of the
name. -/
theorem interchangeable_in_tour :
    '#' ∉ "xsd:a/b".toList ∧ shortUrn (expandUrn ("samm:" ++ "xsd:a/b")) = "xsd:a/b" ∧
      document.expanded.aspect.references =
        [("title", .scalar "http://www.w3.org/2001/XMLSchema#string"),
          ("code", .scalar "http://www.w3.org/2001/XMLSchema#string"),
          ("stops", .entity "Place")] ∧
      document.resolve = .ok model ∧ document.expanded.resolve = .ok model := by
  obtain ⟨_, hshort, hreferences, hdocument⟩ := shorthands_interchangeable
  have hname : '#' ∉ "xsd:a/b".toList := by decide +kernel
  have hresolve : document.resolve = .ok model :=
    Document.resolve_of_unfold (by decide +kernel) rfl
  refine ⟨hname, hshort "samm:" (by decide +kernel) "xsd:a/b" hname, ?_, hresolve,
    (hdocument document).1.trans hresolve⟩
  exact (hreferences document.aspect).trans (by decide +kernel)

end ShorthandsWitness

end AspectForms
