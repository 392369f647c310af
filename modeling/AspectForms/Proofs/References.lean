import AspectForms.Model.Resolve
import Mathlib.Data.List.Forall2

/-!
The references of an element and what a traversal does with them.  Main statements: two traversals that
agree on every reference agree as a whole, and the references of a result are those of the source, one by
one, as the traversal turned them.
-/

namespace AspectForms

/-- Induction over a characteristic and the properties inside it.  The lists
and options that lie between them take no part in it. -/
theorem Characteristic.induction {τ : Type} {P : Characteristic τ → Prop}
    (scalar : ∀ n t u, P (.scalar n t u))
    (enumeration : ∀ n t vs, P (.enumeration n t vs))
    (collection : ∀ n k t e, (∀ c ∈ e, P c) → P (.collection n k t e))
    (either : ∀ n l r, P l.characteristic → P r.characteristic →
      P (.either n l r))
    (structured : ∀ n t rule ps,
      (∀ p ∈ partProperties ps, P p.characteristic) →
      P (.structured n t rule ps))
    (singleEntity : ∀ n t, P (.singleEntity n t))
    (trait : ∀ n b cs, P b → P (.trait n b cs)) (c : Characteristic τ) :
    P c := by
  induction c using Characteristic.rec
    (motive_2 := fun e => ∀ c ∈ e, P c)
    (motive_3 := fun p => P p.characteristic)
    (motive_4 := fun ps => ∀ p ∈ partProperties ps, P p.characteristic)
    (motive_5 := fun p => ∀ q ∈ partProperties [p], P q.characteristic) with
  | scalar n t u => exact scalar n t u
  | enumeration n t vs => exact enumeration n t vs
  | collection n k t e ih => exact collection n k t e ih
  | either n l r ihl ihr => exact either n l r ihl ihr
  | structured n t rule ps ih => exact structured n t rule ps ih
  | singleEntity n t => exact singleEntity n t
  | trait n b cs ih => exact trait n b cs ih
  | none c hc => cases hc
  | some c ih d hd => exact Option.some.inj hd ▸ ih
  | mk n u o e c ih => exact ih
  | nil p hp => cases hp
  | cons p ps ihp ihps q hq =>
      cases p with
      | literal s => exact ihps q hq
      | property p =>
          rcases List.mem_cons.mp hq with rfl | hq
          · exact ihp _ List.mem_cons_self
          · exact ihps q hq
  | literal s q hq => cases hq
  | property p ih q hq => exact List.mem_singleton.mp hq ▸ ih

section References

variable {τ : Type}

mutual

/-- The data type references of a characteristic, in the order in which they
are resolved, each with the nearest property around it. -/
def Characteristic.references (owner : String) :
    Characteristic τ → List (String × τ)
  | .scalar _ t _ => t.toList.map (owner, ·)
  | .enumeration _ t _ => t.toList.map (owner, ·)
  | .collection _ _ t e =>
    optionReferences owner e ++ t.toList.map (owner, ·)
  | .either _ l r => propertyReferences l ++ propertyReferences r
  | .structured _ t _ ps => partsReferences ps ++ t.toList.map (owner, ·)
  | .singleEntity _ t => [(owner, t)]
  | .trait _ b _ => b.references owner
termination_by structural c => c

/-- The references of a characteristic that may be missing. -/
def optionReferences (owner : String) :
    Option (Characteristic τ) → List (String × τ)
  | none => []
  | some c => c.references owner
termination_by structural c => c

/-- The references of a property; it is the nearest one around its own. -/
def propertyReferences :
    PropertyOf (Characteristic τ) → List (String × τ)
  | ⟨n, _, _, _, c⟩ => c.references n
termination_by structural p => p

/-- The references of a part. -/
def partReferences : PartOf (Characteristic τ) → List (String × τ)
  | .literal _ => []
  | .property p => propertyReferences p
termination_by structural p => p

def partsReferences : List (PartOf (Characteristic τ)) → List (String × τ)
  | [] => []
  | p :: ps => partReferences p ++ partsReferences ps
termination_by structural ps => ps

end

/-- The references of an element's properties, in order. -/
def Element.references (e : Element τ) : List (String × τ) :=
  e.properties.flatMap propertyReferences

@[simp] theorem propertyReferences_eq (p : Property τ) :
    propertyReferences p = p.characteristic.references p.name := by
  cases p
  rfl

theorem partsReferences_eq (ps : List (Part τ)) :
    partsReferences ps = (partProperties ps).flatMap propertyReferences := by
  induction ps with
  | nil => rfl
  | cons p ps ih =>
      cases p with
      | literal s => exact ih
      | property p => exact congrArg (propertyReferences p ++ ·) ih

end References

/-- A relation between computations of two monads that returning a value and
sequencing keep. -/
structure Simulation (m n : Type → Type) [Monad m] [Monad n] where
  rel : {α : Type} → m α → n α → Prop
  pure : ∀ {α : Type} (a : α), rel (pure a : m α) (pure a)
  bind : ∀ {α β : Type} {x : m α} {y : n α} {f : α → m β} {g : α → n β},
    rel x y → (∀ a, rel (f a) (g a)) → rel (x >>= f) (y >>= g)

namespace Simulation

variable {m n : Type → Type} [Monad m] [Monad n] (S : Simulation m n)
  {τ υ : Type} {f : String → τ → m υ} {g : String → τ → n υ}

theorem traverseProperty_of {p : Property τ}
    (h : S.rel (p.characteristic.traverse f p.name)
      (p.characteristic.traverse g p.name)) :
    S.rel (traverseProperty f p) (traverseProperty g p) := by
  cases p
  exact S.bind h fun c => S.pure _

theorem traverseParts_of {ps : List (Part τ)}
    (h : ∀ p ∈ partProperties ps,
      S.rel (traverseProperty f p) (traverseProperty g p)) :
    S.rel (traverseParts f ps) (traverseParts g ps) := by
  induction ps with
  | nil => exact S.pure []
  | cons p ps ih =>
      have hpart : S.rel (traversePart f p) (traversePart g p) := by
        cases p with
        | literal s => exact S.pure _
        | property p =>
            exact S.bind (h p List.mem_cons_self) fun q => S.pure _
      have htail : S.rel (traverseParts f ps) (traverseParts g ps) := by
        apply ih
        intro q hq
        cases p with
        | literal s => exact h q hq
        | property p => exact h q (List.mem_cons_of_mem p hq)
      exact S.bind hpart fun a => S.bind htail fun as => S.pure (a :: as)

variable [LawfulMonad m] [LawfulMonad n]

theorem map {α β : Type} {x : m α} {y : n α} (f : α → β) (h : S.rel x y) :
    S.rel (f <$> x) (f <$> y) := by
  rw [map_eq_pure_bind, map_eq_pure_bind]
  exact S.bind h fun a => S.pure (f a)

theorem mapM_list {α β : Type} {f : α → m β} {g : α → n β} {xs : List α}
    (h : ∀ x ∈ xs, S.rel (f x) (g x)) :
    S.rel (xs.mapM f) (xs.mapM g) := by
  induction xs with
  | nil => exact S.pure []
  | cons x xs ih =>
      rw [List.mapM_cons, List.mapM_cons]
      have htail := ih fun y hy => h y (List.mem_cons_of_mem x hy)
      exact S.bind (h x List.mem_cons_self) fun a =>
        S.bind htail fun as => S.pure (a :: as)

theorem mapM_option {α β : Type} {f : α → m β} {g : α → n β} {t : Option α}
    (h : ∀ x ∈ t, S.rel (f x) (g x)) : S.rel (t.mapM f) (t.mapM g) := by
  cases t with
  | none => exact S.pure none
  | some x => exact S.map some (h x rfl)

/-- Traversals of a characteristic are related if they are at each of its
references. -/
theorem traverse_of (c : Characteristic τ) {owner : String}
    (h : ∀ r ∈ c.references owner, S.rel (f r.1 r.2) (g r.1 r.2)) :
    S.rel (c.traverse f owner) (c.traverse g owner) := by
  have type? {owner : String} {t : Option τ}
      (ht : ∀ r ∈ t.toList.map (owner, ·), S.rel (f r.1 r.2) (g r.1 r.2)) :
      S.rel (t.mapM (f owner)) (t.mapM (g owner)) := by
    apply S.mapM_option
    intro x hx
    exact ht (owner, x) (List.mem_map_of_mem (Option.mem_toList.mpr hx))
  induction c using Characteristic.induction generalizing owner with
  | scalar n t u => exact S.bind (type? h) fun t => S.pure _
  | enumeration n t vs => exact S.bind (type? h) fun t => S.pure _
  | collection n k t e ih =>
      simp only [Characteristic.references, List.forall_mem_append] at h
      have helement :
          S.rel (traverseOption f owner e) (traverseOption g owner e) := by
        cases e with
        | none => exact S.pure none
        | some c => exact S.bind (ih c rfl h.1) fun c => S.pure (some c)
      exact S.bind helement fun e => S.bind (type? h.2) fun t => S.pure _
  | either n l r ihl ihr =>
      simp only [Characteristic.references, propertyReferences_eq,
        List.forall_mem_append] at h
      exact S.bind (S.traverseProperty_of (ihl h.1)) fun l =>
        S.bind (S.traverseProperty_of (ihr h.2)) fun r => S.pure _
  | structured n t rule ps ih =>
      simp only [Characteristic.references, partsReferences_eq,
        List.forall_mem_append] at h
      have hparts : S.rel (traverseParts f ps) (traverseParts g ps) := by
        apply S.traverseParts_of
        intro p hp
        apply S.traverseProperty_of
        apply ih p hp
        intro r hr
        exact h.1 r (List.mem_flatMap.mpr ⟨p, hp, by simpa using hr⟩)
      exact S.bind hparts fun ps => S.bind (type? h.2) fun t => S.pure _
  | singleEntity n t =>
      exact S.bind (h (owner, t) List.mem_cons_self) fun t => S.pure _
  | trait n b cs ih => exact S.bind (ih h) fun b => S.pure _

/-- Traversals of an element are related if they are at each of its
references. -/
theorem element_of {e : Element τ}
    (h : ∀ r ∈ e.references, S.rel (f r.1 r.2) (g r.1 r.2)) :
    S.rel (e.traverse f) (e.traverse g) := by
  have hproperties :
      S.rel (e.properties.mapM (traverseProperty f))
        (e.properties.mapM (traverseProperty g)) := by
    apply S.mapM_list
    intro p hp
    apply S.traverseProperty_of
    apply S.traverse_of
    intro r hr
    exact h r (List.mem_flatMap.mpr ⟨p, hp, by simpa using hr⟩)
  exact S.bind hproperties fun ps => S.pure _

end Simulation

/-- Computations that may give nothing, and others that give the same wherever
those give something. -/
def refining : Simulation Option Option where
  rel x y := ∀ a, x = some a → y = some a
  pure _ _ h := h
  bind hx hf b h := by
    obtain ⟨a, ha, hb⟩ := Option.bind_eq_some_iff.mp h
    exact Option.bind_eq_some_iff.mpr ⟨a, hx a ha, hf a b hb⟩

section Pointwise

variable {α β : Type} {R : α → β → Prop} {xs : List α} {ys : List β}

theorem exists_right_of_forall₂ (h : List.Forall₂ R xs ys) :
    ∀ x ∈ xs, ∃ y ∈ ys, R x y := by
  induction h with
  | nil => simp
  | cons hxy _ ih =>
      intro x hx
      rcases List.mem_cons.mp hx with rfl | hx
      · exact ⟨_, List.mem_cons_self, hxy⟩
      · obtain ⟨y, hy, hrel⟩ := ih x hx
        exact ⟨y, List.mem_cons_of_mem _ hy, hrel⟩

theorem exists_left_of_forall₂ (h : List.Forall₂ R xs ys) :
    ∀ y ∈ ys, ∃ x ∈ xs, R x y :=
  exists_right_of_forall₂ h.flip

theorem forall₂_of_mapM {f : α → Option β} (h : xs.mapM f = some ys) :
    List.Forall₂ (fun x y => f x = some y) xs ys := by
  induction xs generalizing ys with
  | nil =>
      obtain rfl := Option.some.inj h
      exact .nil
  | cons x xs ih =>
      rw [List.mapM_cons] at h
      obtain ⟨y, hy, hrest⟩ := Option.bind_eq_some_iff.mp h
      obtain ⟨rest, htail, hys⟩ := Option.bind_eq_some_iff.mp hrest
      obtain rfl := Option.some.inj hys
      exact .cons hy (ih htail)

end Pointwise

section Turned

variable {τ υ : Type} {f : String → τ → Option υ}

/-- `s` is the reference `r` as `f` turns it, at the same property. -/
def Turned (f : String → τ → Option υ) (r : String × τ) (s : String × υ) :
    Prop :=
  f r.1 r.2 = some s.2 ∧ r.1 = s.1

theorem turned_type {owner : String} {t : Option τ} {u : Option υ}
    (h : t.mapM (f owner) = some u) :
    List.Forall₂ (Turned f) (t.toList.map (owner, ·))
      (u.toList.map (owner, ·)) := by
  cases t with
  | none =>
      obtain rfl : none = u := Option.some.inj h
      exact .nil
  | some x =>
      obtain ⟨y, hy, rfl⟩ := Option.map_eq_some_iff.mp h
      exact .cons ⟨hy, rfl⟩ .nil

theorem turned_property {p : Property τ} {q : Property υ}
    (hp : ∀ {c}, p.characteristic.traverse f p.name = some c →
      List.Forall₂ (Turned f) (p.characteristic.references p.name)
        (c.references p.name))
    (h : traverseProperty f p = some q) :
    List.Forall₂ (Turned f) (propertyReferences p) (propertyReferences q) := by
  cases p
  obtain ⟨c, hc, hq⟩ := Option.bind_eq_some_iff.mp h
  obtain rfl := Option.some.inj hq
  exact hp hc

theorem turned_parts {ps : List (Part τ)} {qs : List (Part υ)}
    (hp : ∀ p ∈ partProperties ps, ∀ {q}, traverseProperty f p = some q →
      List.Forall₂ (Turned f) (propertyReferences p) (propertyReferences q))
    (h : traverseParts f ps = some qs) :
    List.Forall₂ (Turned f) (partsReferences ps) (partsReferences qs) := by
  induction ps generalizing qs with
  | nil =>
      obtain rfl : [] = qs := Option.some.inj h
      exact .nil
  | cons p ps ih =>
      obtain ⟨q, hq, hrest⟩ := Option.bind_eq_some_iff.mp h
      obtain ⟨rest, htail, hqs⟩ := Option.bind_eq_some_iff.mp hrest
      obtain rfl := Option.some.inj hqs
      cases p with
      | literal s =>
          obtain rfl := Option.some.inj hq
          have hrest := ih hp htail
          exact hrest
      | property p =>
          obtain ⟨r, hr, hq⟩ := Option.bind_eq_some_iff.mp hq
          obtain rfl := Option.some.inj hq
          exact List.rel_append (hp p List.mem_cons_self hr)
            (ih (fun p hps => hp p (List.mem_cons_of_mem _ hps)) htail)

/-- The references of a traversed characteristic are those of the source, one
by one. -/
theorem turned_references (c : Characteristic τ) {owner : String}
    {d : Characteristic υ} (h : c.traverse f owner = some d) :
    List.Forall₂ (Turned f) (c.references owner) (d.references owner) := by
  induction c using Characteristic.induction generalizing owner d with
  | scalar n t u =>
      obtain ⟨s, hs, hd⟩ := Option.bind_eq_some_iff.mp h
      obtain rfl := Option.some.inj hd
      exact turned_type hs
  | enumeration n t vs =>
      obtain ⟨s, hs, hd⟩ := Option.bind_eq_some_iff.mp h
      obtain rfl := Option.some.inj hd
      exact turned_type hs
  | collection n k t e ih =>
      obtain ⟨e', he, hrest⟩ := Option.bind_eq_some_iff.mp h
      obtain ⟨s, hs, hd⟩ := Option.bind_eq_some_iff.mp hrest
      obtain rfl := Option.some.inj hd
      refine List.rel_append ?_ (turned_type hs)
      cases e with
      | none =>
          obtain rfl := Option.some.inj he
          exact .nil
      | some c =>
          obtain ⟨c', hc, he⟩ := Option.bind_eq_some_iff.mp he
          obtain rfl := Option.some.inj he
          exact ih c rfl hc
  | either n l r ihl ihr =>
      obtain ⟨l', hl, hrest⟩ := Option.bind_eq_some_iff.mp h
      obtain ⟨r', hr, hd⟩ := Option.bind_eq_some_iff.mp hrest
      obtain rfl := Option.some.inj hd
      exact List.rel_append (turned_property ihl hl) (turned_property ihr hr)
  | structured n t rule ps ih =>
      obtain ⟨qs, hqs, hrest⟩ := Option.bind_eq_some_iff.mp h
      obtain ⟨s, hs, hd⟩ := Option.bind_eq_some_iff.mp hrest
      obtain rfl := Option.some.inj hd
      refine List.rel_append ?_ (turned_type hs)
      exact turned_parts (fun p hp => turned_property (ih p hp)) hqs
  | singleEntity n t =>
      obtain ⟨s, hs, hd⟩ := Option.bind_eq_some_iff.mp h
      obtain rfl := Option.some.inj hd
      exact .cons ⟨hs, rfl⟩ .nil
  | trait n b cs ih =>
      obtain ⟨b', hb, hd⟩ := Option.bind_eq_some_iff.mp h
      obtain rfl := Option.some.inj hd
      have hbase := ih hb
      exact hbase

/-- The references of a traversed element are those of the source, one by
one. -/
theorem turned_element {e : Element τ} {d : Element υ}
    (h : e.traverse f = some d) :
    List.Forall₂ (Turned f) e.references d.references := by
  obtain ⟨qs, hqs, hd⟩ := Option.bind_eq_some_iff.mp h
  obtain rfl := Option.some.inj hd
  apply List.rel_flatMap (forall₂_of_mapM hqs)
  intro p q hpq
  exact turned_property (turned_references p.characteristic) hpq

end Turned

end AspectForms
