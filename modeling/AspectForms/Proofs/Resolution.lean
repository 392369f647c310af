import AspectForms.Proofs.References
import Mathlib.Data.List.Chain
import Mathlib.Data.List.Nodup
import Mathlib.Logic.Relation

/-!
Resolution as a search in the graph of references.  Main statements: a document resolves exactly if every
entity it refers to is defined and no entity refers to itself, directly or through others; and the number
of entities is budget enough for any search.
-/

namespace AspectForms

/-- The first of some elements that has this name. -/
abbrev named? {τ : Type} (es : List (Element τ)) (name : String) :
    Option (Element τ) :=
  es.find? (·.name == name)

theorem name_of_named? {τ : Type} {es : List (Element τ)} {name : String}
    {e : Element τ} (h : named? es name = some e) : e.name = name := by
  simpa using List.find?_some h

theorem mem_of_named? {τ : Type} {es : List (Element τ)} {name : String}
    {e : Element τ} (h : named? es name = some e) : e ∈ es :=
  List.mem_of_find?_eq_some h

theorem named?_eq_none_iff {τ : Type} {es : List (Element τ)}
    {name : String} : named? es name = none ↔ name ∉ es.map Element.name := by
  simp [List.find?_eq_none]

theorem named?_of_mem {τ : Type} {es : List (Element τ)} {e : Element τ}
    (hnodup : (es.map Element.name).Nodup) (he : e ∈ es) :
    named? es e.name = some e := by
  cases hfound : named? es e.name with
  | none =>
      exact absurd (List.mem_map_of_mem he) (named?_eq_none_iff.mp hfound)
  | some d =>
      have hd := mem_of_named? hfound
      rw [List.inj_on_of_nodup_map hnodup hd he (name_of_named? hfound)]

/-- What is found stays found when a registry grows. -/
theorem named?_mono {τ : Type} {s t : List (Element τ)} {name : String}
    {e : Element τ} (hst : s <+: t) (h : named? s name = some e) :
    named? t name = some e := by
  obtain ⟨rest, rfl⟩ := hst
  simp [List.find?_append, h]

namespace Document

def names (doc : Document) : List String := doc.entities.map Element.name

theorem names_nodup (doc : Document) : doc.names.Nodup :=
  doc.ascending.imp fun h => String.ne_of_lt h

/-- A property of the entity `a` refers to an entity `b`. -/
def Refers (doc : Document) (a b : String) : Prop :=
  ∃ e owner, doc.entity? a = some e ∧ (owner, .entity b) ∈ e.references

/-- All references to entities are to entities of the document. -/
def Closed (doc : Document) : Prop :=
  ∀ e ∈ doc.aspect :: doc.entities, ∀ owner name,
    (owner, TypeRef.entity name) ∈ e.references → name ∈ doc.names

/-- No entity refers to itself, neither directly nor through others. -/
def Acyclic (doc : Document) : Prop :=
  ∀ name, ¬ Relation.TransGen doc.Refers name name

theorem entity?_eq_none_iff {doc : Document} {name : String} :
    doc.entity? name = none ↔ name ∉ doc.names :=
  named?_eq_none_iff

theorem entity?_of_mem {doc : Document} {e : Element TypeRef}
    (he : e ∈ doc.entities) : doc.entity? e.name = some e :=
  named?_of_mem doc.names_nodup he

theorem mem_names_of_entity? {doc : Document} {name : String}
    {e : Element TypeRef} (h : doc.entity? name = some e) :
    name ∈ doc.names := by
  rw [← name_of_named? h]
  exact List.mem_map_of_mem (mem_of_named? h)

end Document

/-- A reference with what `entity` gives for its name. -/
def TypeRef.fill (entity : String → Option (Element DataType)) :
    TypeRef → Option DataType
  | .scalar urn => some (.scalar (expandUrn urn))
  | .entity name => (entity name).map .entity

/-- The registries that a search can build: every entity is the one of the
document, its references looked up among the entities before it. -/
inductive Document.Builds (doc : Document) : Registry → Prop
  | empty : doc.Builds []
  | add {registry : Registry} {written : Element TypeRef}
      {entity : Element DataType} : doc.Builds registry →
      named? registry written.name = none →
      doc.entity? written.name = some written →
      written.traverse (fun _ => TypeRef.fill (named? registry)) =
        some entity →
      doc.Builds (registry ++ [entity])

/-- What an error says about the document is true. -/
def ModelError.Certified (doc : Document) : ModelError → Prop
  | .cyclicEntity chain => ∃ path name, chain = path ++ [name] ∧
      path.Nodup ∧ name ∈ path ∧ path ⊆ doc.names ∧ chain.IsChain doc.Refers
  | .unknownEntity name owner => name ∉ doc.names ∧
      ∃ e ∈ doc.aspect :: doc.entities,
        (owner, TypeRef.entity name) ∈ e.references
  | .unknownElement _ => False
  | .unsupportedFormat _ => False

/-- What a step inside the entities `path` does to a registry: it only adds
entities, and none that are still being resolved. -/
structure Document.Grows (doc : Document) (path : List String)
    (s t : Registry) : Prop where
  builds : doc.Builds t
  longer : s <+: t
  pending : ∀ name ∈ path, named? s name = none → named? t name = none

/-- The step `x` inside the entities `path` has the result that `y` looks up
in the registry it ends with, or fails for a reason that the document gives. -/
structure Document.Tracks (doc : Document) (path : List String) {α : Type}
    (x : Resolving α) (y : ReaderT Registry Option α) : Prop where
  mono : ∀ {s t a}, s <+: t → y.run s = some a → y.run t = some a
  ok : ∀ {s t a}, doc.Builds s → x.run s = .ok (a, t) →
    doc.Grows path s t ∧ y.run t = some a
  error : ∀ {s e}, doc.Builds s → x.run s = .error e → e.Certified doc

namespace Document

variable {doc : Document} {path : List String} {α β : Type}

theorem Grows.refl {s : Registry} (hs : doc.Builds s) :
    doc.Grows path s s :=
  ⟨hs, List.prefix_rfl, fun _ _ h => h⟩

theorem Grows.trans {s t u : Registry} (hst : doc.Grows path s t)
    (htu : doc.Grows path t u) : doc.Grows path s u where
  builds := htu.builds
  longer := hst.longer.trans htu.longer
  pending name hname h := htu.pending name hname (hst.pending name hname h)

theorem tracks_pure (a : α) :
    doc.Tracks path (pure a) (pure a : ReaderT Registry Option α) where
  mono _ h := h
  ok hs h := by
    obtain ⟨rfl, rfl⟩ := Prod.mk.inj (Except.ok.inj h)
    exact ⟨Grows.refl hs, rfl⟩
  error _ h := nomatch h

theorem tracks_bind {x : Resolving α} {y : ReaderT Registry Option α}
    {f : α → Resolving β} {g : α → ReaderT Registry Option β}
    (hx : doc.Tracks path x y) (hf : ∀ a, doc.Tracks path (f a) (g a)) :
    doc.Tracks path (x >>= f) (y >>= g) where
  mono hst h := by
    obtain ⟨a, ha, hb⟩ := Option.bind_eq_some_iff.mp h
    exact Option.bind_eq_some_iff.mpr
      ⟨a, hx.mono hst ha, (hf a).mono hst hb⟩
  ok {s u b} hs h := by
    rw [StateT.run_bind] at h
    cases hrun : x.run s with
    | error e => rw [hrun] at h; cases h
    | ok r =>
        obtain ⟨a, t⟩ := r
        rw [hrun] at h
        obtain ⟨hst, ha⟩ := hx.ok hs hrun
        obtain ⟨htu, hb⟩ := (hf a).ok hst.builds h
        refine ⟨hst.trans htu, Option.bind_eq_some_iff.mpr ⟨a, ?_, hb⟩⟩
        exact hx.mono htu.longer ha
  error {s e} hs h := by
    rw [StateT.run_bind] at h
    cases hrun : x.run s with
    | error d =>
        rw [hrun] at h
        obtain rfl := Except.error.inj h
        exact hx.error hs hrun
    | ok r =>
        rw [hrun] at h
        exact (hf r.1).error (hx.ok hs hrun).1.builds h

/-- Steps that track what they look up, as a relation that traversals keep. -/
def tracking (doc : Document) (path : List String) :
    Simulation Resolving (ReaderT Registry Option) :=
  ⟨doc.Tracks path, tracks_pure, tracks_bind⟩

end Document

/-- A reference looked up in a registry. -/
def TypeRef.lookup (r : TypeRef) : ReaderT Registry Option DataType :=
  fun registry => r.fill (named? registry)

/-- Computations that read a registry, beside what they read in one. -/
def reading (registry : Registry) :
    Simulation (ReaderT Registry Option) Option where
  rel x y := x.run registry = y
  pure _ := rfl
  bind {_ _ x _ f _} hx hf := by
    rw [ReaderT.run_bind, hx]
    exact congrArg _ (funext hf)

theorem run_traverse_lookup (e : Element TypeRef) (registry : Registry) :
    (e.traverse fun _ => TypeRef.lookup).run registry =
      e.traverse fun _ => TypeRef.fill (named? registry) :=
  (reading registry).element_of fun _ _ => rfl

theorem name_traverse {τ υ : Type} {f : String → τ → Option υ}
    {e : Element τ} {d : Element υ} (h : e.traverse f = some d) :
    d.name = e.name := by
  obtain ⟨ps, _, hd⟩ := Option.bind_eq_some_iff.mp h
  exact congrArg Element.name (Option.some.inj hd).symm

namespace Document

variable {doc : Document} {path : List String}

/-- The cases of a search for an entity: it is known, or it is being resolved
already, or it is missing, or its properties come next. -/
theorem run_resolveEntity (doc : Document) (budget : Nat)
    (path : List String) (owner name : String) (s : Registry) :
    (doc.resolveEntity budget path owner name).run s =
      match named? s name with
      | some done => .ok (done, s)
      | none =>
        if name ∈ path then .error (.cyclicEntity (path ++ [name]))
        else
          match doc.entity? name, budget with
          | none, _ => .error (.unknownEntity name owner)
          | some _, 0 => .error (.cyclicEntity (path ++ [name]))
          | some written, budget + 1 => do
            let (entity, t) ← (written.traverse (TypeRef.resolve
              (doc.resolveEntity budget (path ++ [name])))).run s
            return (entity, t ++ [entity]) := by
  rw [Document.resolveEntity]
  cases hfound : named? s name with
  | some done =>
      simp only [StateT.run_bind, StateT.run_get, pure_bind, hfound]
      rfl
  | none =>
      simp only [StateT.run_bind, StateT.run_get, pure_bind, hfound]
      by_cases hpath : name ∈ path
      · simp only [hpath, ↓reduceIte]
        rfl
      · simp only [hpath, ↓reduceIte]
        cases doc.entity? name with
        | none => rfl
        | some written => cases budget <;> rfl

theorem tracks_resolve {entity : String → String → Resolving (Element DataType)}
    {owner : String} {r : TypeRef}
    (h : ∀ name, r = .entity name →
      doc.Tracks path (entity owner name) fun s => named? s name) :
    doc.Tracks path (r.resolve entity owner) r.lookup := by
  cases r with
  | scalar urn => exact tracks_pure _
  | entity name =>
      have hlookup : TypeRef.lookup (.entity name) =
          (ReaderT.mk fun s => named? s name) >>= fun e => pure (.entity e) := by
        funext s
        exact Option.map_eq_bind
      rw [hlookup]
      exact tracks_bind (h name rfl) fun e => tracks_pure _

/-- The search has come to `name` through the distinct entities `path`, each
referring to the next. -/
structure Route (doc : Document) (path : List String) (name : String) :
    Prop where
  chain : (path ++ [name]).IsChain doc.Refers
  nodup : path.Nodup
  defined : path ⊆ doc.names

theorem Route.start (doc : Document) (name : String) : doc.Route [] name :=
  ⟨.singleton name, List.nodup_nil, List.nil_subset _⟩

theorem Route.extend {name next : String} (hroute : doc.Route path name)
    (hfresh : name ∉ path) (hname : name ∈ doc.names)
    (hnext : doc.Refers name next) : doc.Route (path ++ [name]) next where
  chain := by
    rw [List.append_assoc]
    refine List.IsChain.append hroute.chain.left_of_append
      (.cons_cons hnext (.singleton next)) fun last hlast head hhead => ?_
    obtain rfl := Option.some.inj hhead
    exact (List.isChain_append.mp hroute.chain).2.2 last hlast _ rfl
  nodup := List.concat_eq_append ▸ hroute.nodup.concat hfresh
  defined := List.append_subset.mpr ⟨hroute.defined, by simpa using hname⟩

/-- Distinct entities that do not include `name` are fewer than all. -/
theorem length_lt_of_fresh {name : String} (hnodup : path.Nodup)
    (hdefined : path ⊆ doc.names) (hfresh : name ∉ path)
    (hname : name ∈ doc.names) : path.length < doc.entities.length := by
  have hcons : (name :: path).Nodup := List.nodup_cons.mpr ⟨hfresh, hnodup⟩
  have hsub : name :: path ⊆ doc.names :=
    List.cons_subset.mpr ⟨hname, hdefined⟩
  have hle := hcons.length_le_of_subset hsub
  rw [names, List.length_map] at hle
  exact hle

theorem Builds.snoc {s t : Registry} {name : String}
    {written : Element TypeRef} {entity : Element DataType}
    (hwritten : doc.entity? name = some written)
    (hgrows : doc.Grows (path ++ [name]) s t) (hs : named? s name = none)
    (hfresh : name ∉ path)
    (hentity : written.traverse (fun _ => TypeRef.fill (named? t)) =
      some entity) :
    doc.Grows path s (t ++ [entity]) ∧
      named? (t ++ [entity]) name = some entity := by
  have hname : written.name = name := name_of_named? hwritten
  have hentityName : entity.name = name :=
    (name_traverse hentity).trans hname
  have hnone : named? t name = none :=
    hgrows.pending name (by simp) hs
  refine ⟨⟨?_, ?_, ?_⟩, ?_⟩
  · subst hname
    exact .add hgrows.builds hnone hwritten hentity
  · exact hgrows.longer.trans (List.prefix_append t [entity])
  · intro other hother hsother
    have htother := hgrows.pending other (by simp [hother]) hsother
    have hne : entity.name ≠ other := by
      rintro rfl
      exact hfresh (hentityName ▸ hother)
    simp [List.find?_append, htother, hne]
  · simp [List.find?_append, hnone, hentityName]

/-- One step of a search, given that the properties of the entity it comes to
are tracked. -/
theorem tracks_step {budget : Nat} {owner name : String}
    (hroute : doc.Route path name)
    (howner : name ∉ doc.names → ∃ e ∈ doc.aspect :: doc.entities,
      (owner, TypeRef.entity name) ∈ e.references)
    (hinner : name ∉ path → ∀ {written}, doc.entity? name = some written →
      ∃ rest, budget = rest + 1 ∧ doc.Tracks (path ++ [name])
        (written.traverse (TypeRef.resolve
          (doc.resolveEntity rest (path ++ [name]))))
        (written.traverse fun _ => TypeRef.lookup)) :
    doc.Tracks path (doc.resolveEntity budget path owner name)
      fun s => named? s name where
  mono := named?_mono
  ok {s t a} hs h := by
    rw [run_resolveEntity] at h
    cases hfound : named? s name with
    | some done =>
        rw [hfound] at h
        obtain ⟨rfl, rfl⟩ := Prod.mk.inj (Except.ok.inj h)
        exact ⟨Grows.refl hs, hfound⟩
    | none =>
        by_cases hpath : name ∈ path
        · simp [hfound, hpath] at h
        cases hwritten : doc.entity? name with
        | none => simp [hfound, hpath, hwritten] at h
        | some written =>
            obtain ⟨rest, rfl, htracks⟩ := hinner hpath hwritten
            simp only [hfound, hpath, hwritten, ↓reduceIte] at h
            cases hrun : (written.traverse (TypeRef.resolve
                (doc.resolveEntity rest (path ++ [name])))).run s with
            | error e => rw [hrun] at h; cases h
            | ok r =>
                obtain ⟨entity, u⟩ := r
                rw [hrun] at h
                obtain ⟨rfl, rfl⟩ := Prod.mk.inj (Except.ok.inj h)
                obtain ⟨hgrows, hentity⟩ := htracks.ok hs hrun
                rw [run_traverse_lookup] at hentity
                exact Builds.snoc hwritten hgrows hfound hpath hentity
  error {s e} hs h := by
    rw [run_resolveEntity] at h
    cases hfound : named? s name with
    | some done => rw [hfound] at h; cases h
    | none =>
        by_cases hpath : name ∈ path
        · simp only [hfound, hpath, ↓reduceIte, Except.error.injEq] at h
          subst h
          exact ⟨path, name, rfl, hroute.nodup, hpath, hroute.defined,
            hroute.chain⟩
        cases hwritten : doc.entity? name with
        | none =>
            simp only [hfound, hpath, hwritten, ↓reduceIte,
              Except.error.injEq] at h
            subst h
            have hmissing := entity?_eq_none_iff.mp hwritten
            exact ⟨hmissing, howner hmissing⟩
        | some written =>
            obtain ⟨rest, rfl, htracks⟩ := hinner hpath hwritten
            simp only [hfound, hpath, hwritten, ↓reduceIte] at h
            cases hrun : (written.traverse (TypeRef.resolve
                (doc.resolveEntity rest (path ++ [name])))).run s with
            | ok r => rw [hrun] at h; cases h
            | error d =>
                rw [hrun] at h
                obtain rfl := Except.error.inj h
                exact htracks.error hs hrun

/-- A search for an entity finds in the registry it ends with what it returns,
and fails for a reason that the document gives. -/
theorem tracks_resolveEntity {budget : Nat} {owner name : String}
    (hroute : doc.Route path name)
    (howner : name ∉ doc.names → ∃ e ∈ doc.aspect :: doc.entities,
      (owner, TypeRef.entity name) ∈ e.references)
    (hbudget : doc.entities.length ≤ budget + path.length) :
    doc.Tracks path (doc.resolveEntity budget path owner name)
      fun s => named? s name := by
  induction budget generalizing path owner name with
  | zero =>
      apply tracks_step hroute howner
      intro hfresh written hwritten
      have hlt := length_lt_of_fresh hroute.nodup hroute.defined hfresh
        (mem_names_of_entity? hwritten)
      omega
  | succ budget ih =>
      apply tracks_step hroute howner
      intro hfresh written hwritten
      refine ⟨budget, rfl, ?_⟩
      apply (doc.tracking _).element_of
      intro r hr
      apply tracks_resolve
      intro next hnext
      have hrefers : doc.Refers name next := ⟨written, r.1, hwritten, hnext ▸ hr⟩
      apply ih (hroute.extend hfresh (mem_names_of_entity? hwritten) hrefers)
      · intro _
        exact ⟨written, List.mem_cons_of_mem _ (mem_of_named? hwritten),
          hnext ▸ hr⟩
      · simp only [List.length_append, List.length_singleton]
        omega

end Document

theorem TypeRef.fill_mono {f g : String → Option (Element DataType)}
    (h : ∀ name e, f name = some e → g name = some e) (r : TypeRef) :
    refining.rel (r.fill f) (r.fill g) := by
  intro t ht
  cases r with
  | scalar urn => exact ht
  | entity name =>
      obtain ⟨e, he, rfl⟩ := Option.map_eq_some_iff.mp ht
      exact Option.map_eq_some_iff.mpr ⟨e, h name e he, rfl⟩

theorem TypeRef.fill_eq_entity {f : String → Option (Element DataType)}
    {r : TypeRef} {e : Element DataType} (h : r.fill f = some (.entity e)) :
    ∃ name, r = .entity name ∧ f name = some e := by
  cases r with
  | scalar urn => cases h
  | entity name =>
      obtain ⟨d, hd, hde⟩ := Option.map_eq_some_iff.mp h
      exact ⟨name, rfl, DataType.entity.inj hde ▸ hd⟩

namespace Document

variable {doc : Document}

/-- Every entity of a registry is the one of the document, its references
looked up in the registry. -/
theorem Builds.mem {registry : Registry} (h : doc.Builds registry)
    {e : Element DataType} (he : e ∈ registry) :
    ∃ written, doc.entity? e.name = some written ∧
      written.traverse (fun _ => TypeRef.fill (named? registry)) = some e := by
  induction h with
  | empty => cases he
  | @add registry written entity _ _ hwritten hentity ih =>
      have hmono (w : Element TypeRef) :
          refining.rel (w.traverse fun _ => TypeRef.fill (named? registry))
            (w.traverse fun _ =>
              TypeRef.fill (named? (registry ++ [entity]))) :=
        refining.element_of fun r _ => TypeRef.fill_mono
          (fun _ _ hold => named?_mono (List.prefix_append _ _) hold) r.2
      rcases List.mem_append.mp he with hold | hnew
      · obtain ⟨w, hw, htraverse⟩ := ih hold
        exact ⟨w, hw, hmono w e htraverse⟩
      · obtain rfl := List.mem_singleton.mp hnew
        have hname := name_traverse hentity
        exact ⟨written, hname ▸ hwritten, hmono written e hentity⟩

/-- References only lead to entities before, so following them ends. -/
theorem Builds.accessible {registry : Registry} (h : doc.Builds registry)
    {e : Element DataType} (he : e ∈ registry) :
    Acc (flip doc.Refers) e.name := by
  induction h generalizing e with
  | empty => cases he
  | @add registry written entity _ _ hwritten hentity ih =>
      rcases List.mem_append.mp he with hold | hnew
      · exact ih hold
      · obtain rfl := List.mem_singleton.mp hnew
        refine .intro _ fun next hnext => ?_
        obtain ⟨w, owner, hw, href⟩ := hnext
        rw [name_traverse hentity, hwritten] at hw
        obtain rfl := Option.some.inj hw
        obtain ⟨s, _, hs, _⟩ := exists_right_of_forall₂ (turned_element hentity) _ href
        obtain ⟨d, hd, _⟩ := Option.map_eq_some_iff.mp hs
        exact name_of_named? hd ▸ ih (mem_of_named? hd)

theorem tracks_resolveAll (doc : Document) :
    doc.Tracks [] doc.resolveAll (do
      let entities ← doc.entities.mapM fun e =>
        ReaderT.mk fun s => named? s e.name
      let aspect ← doc.aspect.traverse fun _ => TypeRef.lookup
      return ⟨aspect, entities⟩) := by
  have hbudget : doc.entities.length ≤
      doc.entities.length + ([] : List String).length := by simp
  refine tracks_bind ((doc.tracking []).mapM_list ?_) fun entities =>
    tracks_bind ((doc.tracking []).element_of ?_) fun aspect => tracks_pure _
  · intro e he
    refine tracks_resolveEntity (Route.start doc e.name) ?_ hbudget
    exact fun hmissing => absurd (List.mem_map_of_mem he) hmissing
  · intro r hr
    apply tracks_resolve
    intro name hname
    refine tracks_resolveEntity (Route.start doc name) ?_ hbudget
    exact fun _ => ⟨doc.aspect, List.mem_cons_self, hname ▸ hr⟩

theorem resolve_eq (doc : Document) :
    doc.resolve = Prod.fst <$> doc.resolveAll.run [] := rfl

/-- What a successful resolution returns, read off the registry it built. -/
theorem resolve_ok {model : Model} (h : doc.resolve = .ok model) :
    ∃ registry, doc.Builds registry ∧
      doc.entities.mapM (fun e => named? registry e.name) =
        some model.entities ∧
      doc.aspect.traverse (fun _ => TypeRef.fill (named? registry)) =
        some model.aspect := by
  rw [resolve_eq] at h
  cases hrun : doc.resolveAll.run [] with
  | error e => rw [hrun] at h; cases h
  | ok r =>
      obtain ⟨result, registry⟩ := r
      rw [hrun] at h
      obtain rfl := Except.ok.inj h
      obtain ⟨hgrows, hmodel⟩ := doc.tracks_resolveAll.ok .empty hrun
      obtain ⟨entities, hentities, hrest⟩ := Option.bind_eq_some_iff.mp hmodel
      obtain ⟨aspect, haspect, hresult⟩ := Option.bind_eq_some_iff.mp hrest
      obtain rfl := Option.some.inj hresult
      have hread : (doc.entities.mapM fun e =>
            ReaderT.mk fun s : Registry => named? s e.name).run registry =
          doc.entities.mapM fun e => named? registry e.name :=
        (reading registry).mapM_list fun _ _ => rfl
      exact ⟨registry, hgrows.builds, hread ▸ hentities,
        run_traverse_lookup doc.aspect registry ▸ haspect⟩

/-- An error of resolution tells the truth about the document. -/
theorem resolve_error {e : ModelError} (h : doc.resolve = .error e) :
    e.Certified doc := by
  rw [resolve_eq] at h
  cases hrun : doc.resolveAll.run [] with
  | error d =>
      rw [hrun] at h
      obtain rfl := Except.error.inj h
      exact doc.tracks_resolveAll.error .empty hrun
  | ok r => rw [hrun] at h; cases h

/-- The registry of a resolved document has all its entities. -/
theorem exists_registered {registry : Registry}
    {entities : List (Element DataType)}
    (h : doc.entities.mapM (fun e => named? registry e.name) = some entities)
    {written : Element TypeRef} (hwritten : written ∈ doc.entities) :
    ∃ e ∈ registry, e.name = written.name := by
  obtain ⟨e, _, he⟩ :=
    exists_right_of_forall₂ (forall₂_of_mapM h) written hwritten
  exact ⟨e, mem_of_named? he, name_of_named? he⟩

theorem closed_of_resolve {model : Model} (h : doc.resolve = .ok model) :
    doc.Closed := by
  obtain ⟨registry, hbuilds, hentities, haspect⟩ := resolve_ok h
  have hdefined {w : Element TypeRef} {e : Element DataType}
      (hw : w.traverse (fun _ => TypeRef.fill (named? registry)) = some e)
      {owner name : String} (href : (owner, TypeRef.entity name) ∈ w.references) :
      name ∈ doc.names := by
    obtain ⟨s, _, hs, _⟩ := exists_right_of_forall₂ (turned_element hw) _ href
    obtain ⟨d, hd, _⟩ := Option.map_eq_some_iff.mp hs
    obtain ⟨_, hwritten, _⟩ := hbuilds.mem (mem_of_named? hd)
    exact name_of_named? hd ▸ mem_names_of_entity? hwritten
  intro e he owner name href
  rcases List.mem_cons.mp he with rfl | he
  · exact hdefined haspect href
  · obtain ⟨d, hd, hname⟩ := exists_registered hentities he
    obtain ⟨w, hw, htraverse⟩ := hbuilds.mem hd
    rw [hname, entity?_of_mem he] at hw
    obtain rfl := Option.some.inj hw
    exact hdefined htraverse href

theorem irrefl_of_acc {α : Type} {r : α → α → Prop} {a : α} (h : Acc r a) :
    ¬ r a a := by
  induction h with
  | intro a _ ih => exact fun hself => ih a hself hself

theorem acyclic_of_resolve {model : Model} (h : doc.resolve = .ok model) :
    doc.Acyclic := by
  obtain ⟨registry, hbuilds, hentities, _⟩ := resolve_ok h
  intro name hcycle
  obtain ⟨next, ⟨written, owner, hwritten, _⟩, _⟩ :=
    Relation.TransGen.head'_iff.mp hcycle
  obtain ⟨e, he, hname⟩ :=
    exists_registered hentities (mem_of_named? hwritten)
  have hacc := (hbuilds.accessible he).transGen
  rw [hname, name_of_named? hwritten] at hacc
  have hback : Relation.TransGen (flip doc.Refers) name name :=
    Relation.transGen_swap.mpr hcycle
  exact irrefl_of_acc hacc hback

/-- A document whose references are all defined and never lead back cannot
give a reason to fail. -/
theorem not_certified {e : ModelError} (hclosed : doc.Closed)
    (hacyclic : doc.Acyclic) : ¬ e.Certified doc := by
  cases e with
  | unknownEntity name owner =>
      rintro ⟨hmissing, e, he, href⟩
      exact hmissing (hclosed e he owner name href)
  | cyclicEntity chain =>
      rintro ⟨path, name, rfl, _, hpath, _, hchain⟩
      obtain ⟨before, after, rfl⟩ := List.append_of_mem hpath
      rw [List.append_assoc, List.cons_append] at hchain
      have hloop := hchain.right_of_append.imp fun _ _ h =>
        Relation.TransGen.single h
      exact hacyclic name (List.rel_of_pairwise_cons
        (List.isChain_iff_pairwise.mp hloop) (by simp))
  | unknownElement name => exact id
  | unsupportedFormat path => exact id

theorem resolveEntity_congr {path : List String} {small large : Nat}
    (hinner : ∀ name ∉ path, name ∈ doc.names → ∃ less more,
      small = less + 1 ∧ large = more + 1 ∧
      doc.resolveEntity less (path ++ [name]) =
        doc.resolveEntity more (path ++ [name])) :
    doc.resolveEntity small path = doc.resolveEntity large path := by
  funext owner name
  refine StateT.ext fun s => ?_
  rw [run_resolveEntity, run_resolveEntity]
  cases named? s name with
  | some done => rfl
  | none =>
      by_cases hpath : name ∈ path
      · simp only [hpath, ↓reduceIte]
      cases hwritten : doc.entity? name with
      | none => rfl
      | some written =>
          obtain ⟨less, more, rfl, rfl, heq⟩ :=
            hinner name hpath (mem_names_of_entity? hwritten)
          simp only [heq]

/-- All budgets that are enough for a search give the same answers, so the
search itself always ends. -/
theorem resolveEntity_budget {path : List String} {small large : Nat}
    (hnodup : path.Nodup) (hdefined : path ⊆ doc.names)
    (hsmall : doc.entities.length ≤ small + path.length)
    (hlarge : doc.entities.length ≤ large + path.length) :
    doc.resolveEntity small path = doc.resolveEntity large path := by
  induction small generalizing path large with
  | zero =>
      apply resolveEntity_congr
      intro name hfresh hname
      have hlt := length_lt_of_fresh hnodup hdefined hfresh hname
      omega
  | succ small ih =>
      apply resolveEntity_congr
      intro name hfresh hname
      have hlt := length_lt_of_fresh hnodup hdefined hfresh hname
      obtain ⟨more, rfl⟩ : ∃ more, large = more + 1 :=
        Nat.exists_eq_succ_of_ne_zero (by omega)
      have hlength : (path ++ [name]).length = path.length + 1 := by simp
      refine ⟨small, more, rfl, rfl, ih ?_ ?_ (by omega) (by omega)⟩
      · exact List.concat_eq_append ▸ hnodup.concat hfresh
      · exact List.append_subset.mpr ⟨hdefined, by simpa using hname⟩

/-- A document resolves exactly if every entity that a property refers to is
defined and no entity refers to itself, directly or through others.  Whatever
the references are, the search ends within the budget it is given: a larger
one changes nothing. -/
theorem exists_resolve_iff (doc : Document) :
    ((∃ model, doc.resolve = .ok model) ↔ doc.Closed ∧ doc.Acyclic) ∧
      ∀ extra, doc.resolveEntity (doc.entities.length + extra) [] =
        doc.resolveEntity doc.entities.length [] := by
  constructor
  · constructor
    · rintro ⟨model, hmodel⟩
      exact ⟨closed_of_resolve hmodel, acyclic_of_resolve hmodel⟩
    · rintro ⟨hclosed, hacyclic⟩
      cases hresolve : doc.resolve with
      | ok model => exact ⟨model, rfl⟩
      | error e =>
          exact absurd (resolve_error hresolve)
            (not_certified hclosed hacyclic)
  · intro extra
    apply resolveEntity_budget List.nodup_nil (List.nil_subset _)
    · exact Nat.le_add_right_of_le (Nat.le_add_right _ extra)
    · exact Nat.le_add_right _ _

end Document

end AspectForms
