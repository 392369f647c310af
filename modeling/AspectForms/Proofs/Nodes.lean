import AspectForms.Proofs.Placement

/-!
The fields of a forest at their places.  Main statement: the list of all fields of a form has every place
once, in depth-first post-order.  Where the directories of siblings have different names, the names of the
directories on the way tell a place from all others.
-/

namespace AspectForms

/-- A field at its place in a forest: its position at every level, and the
fields around it from the top down. -/
structure Node where
  address : List Nat
  above : List Field
  field : Field

namespace Node

/-- The place exists in a forest. -/
inductive StandsIn : List Field → Node → Prop
  | top {fields i f} (hf : fields[i]? = some f) : StandsIn fields ⟨[i], [], f⟩
  | inside {fields i f n} (hf : fields[i]? = some f)
    (hn : StandsIn f.children n) :
    StandsIn fields ⟨i :: n.address, f :: n.above, n.field⟩

/-- The fields from the top of the forest to this one. -/
def way (n : Node) : List Field := n.above ++ [n.field]

def names (n : Node) : List String := n.way.map Field.name

/-- The names of the directories from that of the form to that of the field. -/
def dashes (n : Node) : List String := n.way.map Field.dashed

/-- Post-order: what is inside a place comes before it, and otherwise what
stands earlier. -/
def Before : List Nat → List Nat → Prop
  | [], _ => False
  | _ :: _, [] => True
  | i :: a, j :: b => i < j ∨ i = j ∧ Before a b

theorem not_before_self (a : List Nat) : ¬Before a a := by
  induction a with
  | nil => simp [Before]
  | cons i a ih => simp [Before, ih]

theorem address_ne_nil {fields : List Field} {n : Node}
    (h : n.StandsIn fields) : n.address ≠ [] := by
  cases h <;> simp

theorem dashes_ne_nil (n : Node) : n.dashes ≠ [] := by
  simp [dashes, way]

theorem before_asymm {a b : List Nat} (h : Before a b) : ¬Before b a := by
  induction a generalizing b with
  | nil => cases h
  | cons i a ih =>
      cases b with
      | nil => exact id
      | cons j b =>
          rcases h with hij | ⟨rfl, hab⟩
          · rintro (hji | ⟨rfl, _⟩)
            · exact Nat.lt_asymm hij hji
            · exact Nat.lt_irrefl _ hij
          · rintro (hii | ⟨_, hba⟩)
            · exact Nat.lt_irrefl i hii
            · exact ih hab hba

/-- The place of a field inside that of a place. -/
def child (n : Node) (i : Nat) (g : Field) : Node :=
  ⟨n.address ++ [i], n.above ++ [n.field], g⟩

theorem before_child (n : Node) (i : Nat) (g : Field) :
    Before (n.child i g).address n.address := by
  have happend (a : List Nat) : Before (a ++ [i]) a := by
    induction a with
    | nil => trivial
    | cons j a ih => exact .inr ⟨rfl, ih⟩
  exact happend n.address

theorem StandsIn.child {fields : List Field} {n : Node} {i : Nat} {g : Field}
    (h : n.StandsIn fields) (hg : n.field.children[i]? = some g) :
    (n.child i g).StandsIn fields := by
  induction h with
  | top hf => exact .inside hf (.top hg)
  | inside hf _ ih => exact .inside hf (ih hg)

/-- A place is at the top or inside another one. -/
theorem StandsIn.top_or_child {fields : List Field} {n : Node}
    (h : n.StandsIn fields) :
    (∃ i f, fields[i]? = some f ∧ n = ⟨[i], [], f⟩) ∨
      ∃ (m : Node) (i : Nat) (g : Field), m.StandsIn fields ∧
        m.field.children[i]? = some g ∧ n = m.child i g := by
  induction h with
  | top hf => exact .inl ⟨_, _, hf, rfl⟩
  | @inside _ i f n hf _ ih =>
      rcases ih with ⟨j, g, hg, rfl⟩ | ⟨m, j, g, hm, hg, rfl⟩
      · exact .inr ⟨⟨[i], [], f⟩, j, g, .top hf, hg, rfl⟩
      · exact .inr ⟨⟨i :: m.address, f :: m.above, m.field⟩, j, g,
          .inside hf hm, hg, rfl⟩

/-- The same place seen from the forest that `f` is the first field of. -/
def under (f : Field) (n : Node) : Node :=
  ⟨0 :: n.address, f :: n.above, n.field⟩

/-- The same place after a field has been put in front of the forest. -/
def later : Node → Node
  | ⟨i :: rest, above, f⟩ => ⟨(i + 1) :: rest, above, f⟩
  | n => n

theorem not_standsIn_nil (n : Node) : ¬n.StandsIn [] := by
  intro h
  cases h with
  | top hf => cases hf
  | inside hf => cases hf

theorem standsIn_cons_iff {f : Field} {fs : List Field} {n : Node} :
    n.StandsIn (f :: fs) ↔
      (∃ m : Node, m.StandsIn f.children ∧ m.under f = n) ∨ n = ⟨[0], [], f⟩ ∨
        ∃ m : Node, m.StandsIn fs ∧ m.later = n := by
  constructor
  · intro h
    cases h with
    | @top _ i g hf =>
        cases i with
        | zero =>
            obtain rfl : f = g := by simpa using hf
            exact .inr (.inl rfl)
        | succ i => exact .inr (.inr ⟨⟨[i], [], g⟩, .top (by simpa using hf), rfl⟩)
    | @inside _ i g m hf hm =>
        cases i with
        | zero =>
            obtain rfl : f = g := by simpa using hf
            exact .inl ⟨m, hm, rfl⟩
        | succ i => exact .inr (.inr ⟨_, .inside (by simpa using hf) hm, rfl⟩)
  · have hfirst : (f :: fs)[0]? = some f := rfl
    rintro (⟨m, hm, rfl⟩ | rfl | ⟨m, hm, rfl⟩)
    · exact .inside hfirst hm
    · exact .top hfirst
    · cases hm with
      | top hf => exact .top (by simpa using hf)
      | inside hf hm => exact .inside (by simpa using hf) hm

end Node

/-- The places of a forest, each once, what is inside a field before it. -/
structure Postorder (fields : List Field) (nodes : List Node) : Prop where
  sorted : nodes.Pairwise fun m n => Node.Before m.address n.address
  mem_iff : ∀ n, n ∈ nodes ↔ n.StandsIn fields

namespace Postorder

theorem nodup {fields : List Field} {nodes : List Node}
    (h : Postorder fields nodes) : nodes.Nodup := by
  apply h.sorted.imp
  rintro m n hbefore rfl
  exact Node.not_before_self _ hbefore

/-- What comes before a place in post-order stands earlier in the list. -/
theorem exists_lt {fields : List Field} {nodes : List Node}
    (h : Postorder fields nodes) {m n : Node} {j : Nat} (hm : nodes[j]? = some m)
    (hn : n.StandsIn fields) (hbefore : Node.Before n.address m.address) :
    ∃ i < j, nodes[i]? = some n := by
  obtain ⟨i, hi⟩ := List.mem_iff_getElem?.mp ((h.mem_iff n).mpr hn)
  refine ⟨i, ?_, hi⟩
  obtain ⟨hjlt, rfl⟩ := List.getElem?_eq_some_iff.mp hm
  obtain ⟨hilt, rfl⟩ := List.getElem?_eq_some_iff.mp hi
  rcases Nat.lt_trichotomy i j with hij | rfl | hji
  · exact hij
  · exact absurd hbefore (Node.not_before_self _)
  · have hlater := List.pairwise_iff_getElem.mp h.sorted j i hjlt hilt hji
    exact absurd hbefore (Node.before_asymm hlater)

theorem nil : Postorder [] [] where
  sorted := .nil
  mem_iff n := by
    simp only [List.not_mem_nil, false_iff]
    exact n.not_standsIn_nil

/-- The places inside the first field, its own, and those inside and at the
fields after it. -/
theorem cons {f : Field} {fs : List Field} {inner rest : List Node}
    (hinner : Postorder f.children inner) (hrest : Postorder fs rest) :
    Postorder (f :: fs)
      (inner.map (Node.under f) ++ ⟨[0], [], f⟩ :: rest.map Node.later) where
  sorted := by
    have hhead : ∀ n ∈ rest.map Node.later, ∃ i a, n.address = (i + 1) :: a := by
      intro n hn
      obtain ⟨⟨address, above, g⟩, hm, rfl⟩ := List.mem_map.mp hn
      have hne := Node.address_ne_nil ((hrest.mem_iff _).mp hm)
      cases address with
      | nil => exact absurd rfl hne
      | cons i a => exact ⟨i, a, rfl⟩
    rw [List.pairwise_append, List.pairwise_cons, List.pairwise_map,
      List.pairwise_map]
    refine ⟨?_, ⟨?_, ?_⟩, ?_⟩
    · exact hinner.sorted.imp fun hbefore => .inr ⟨rfl, hbefore⟩
    · intro n hn
      obtain ⟨i, a, haddress⟩ := hhead n hn
      rw [haddress]
      exact .inl (Nat.succ_pos i)
    · refine hrest.sorted.imp_of_mem ?_
      rintro ⟨m, ma, mf⟩ ⟨n, na, nf⟩ hm hn hbefore
      have hmne := Node.address_ne_nil ((hrest.mem_iff _).mp hm)
      have hnne := Node.address_ne_nil ((hrest.mem_iff _).mp hn)
      cases m with
      | nil => exact absurd rfl hmne
      | cons i a =>
          cases n with
          | nil => exact absurd rfl hnne
          | cons j b => simpa [Node.later, Node.Before] using hbefore
    · intro m hm n hn
      obtain ⟨m, hm', rfl⟩ := List.mem_map.mp hm
      rcases List.mem_cons.mp hn with rfl | hn
      · obtain ⟨i, a, haddress⟩ := List.exists_cons_of_ne_nil
          (Node.address_ne_nil ((hinner.mem_iff m).mp hm'))
        simp [Node.under, Node.Before, haddress]
      · obtain ⟨i, a, haddress⟩ := hhead n hn
        rw [haddress]
        exact .inl (Nat.succ_pos i)
  mem_iff n := by
    rw [Node.standsIn_cons_iff, List.mem_append, List.mem_cons, List.mem_map,
      List.mem_map]
    simp only [hinner.mem_iff, hrest.mem_iff]

end Postorder

/-- The way to what lies below some fields, each inside the one before it. -/
def Trail.along (t : Trail) (fs : List Field) : Trail := fs.foldl Trail.down t

@[simp] theorem Trail.names_along (t : Trail) (fs : List Field) :
    (t.along fs).names = t.names ++ fs.map Field.name := by
  induction fs generalizing t with
  | nil => simp [along]
  | cons f fs ih => simpa [along, down] using ih (t.down f)

@[simp] theorem Trail.dashes_along (t : Trail) (fs : List Field) :
    (t.along fs).dashes = t.dashes ++ fs.map Field.dashed := by
  induction fs generalizing t with
  | nil => simp [along]
  | cons f fs ih => simpa [along, down] using ih (t.down f)

def Node.placed (t : Trail) (n : Node) : PlacedField :=
  ⟨t.along n.above, n.field⟩

theorem Node.names_placed (n : Node) :
    ((n.placed {}).trail.down n.field).names = n.names := by
  simp [placed, Trail.down, names, way]

theorem Node.dashes_placed (n : Node) : (n.placed {}).dashes = n.dashes := by
  simp [placed, PlacedField.dashes, Trail.down, dashes, way]

/-- The fields of a forest are listed in post-order if those inside each of them
are. -/
theorem exists_postorder_of_children {fields : List Field}
    (h : ∀ f ∈ fields, ∃ nodes, Postorder f.children nodes ∧
      ∀ t, insideAll t f.children = nodes.map (Node.placed t)) :
    ∃ nodes, Postorder fields nodes ∧
      ∀ t, insideAll t fields = nodes.map (Node.placed t) := by
  induction fields with
  | nil => exact ⟨[], .nil, fun t => rfl⟩
  | cons f fs ih =>
      obtain ⟨inner, hinner, hinside⟩ := h f List.mem_cons_self
      obtain ⟨rest, hrest, hafter⟩ := ih fun g hg => h g (List.mem_cons_of_mem f hg)
      refine ⟨_, hinner.cons hrest, ?_⟩
      intro t
      have hunder : Node.placed t ∘ Node.under f = Node.placed (t.down f) := rfl
      have hlater : Node.placed t ∘ Node.later = Node.placed t := by
        funext ⟨address, above, g⟩
        cases address <;> rfl
      rw [insideAll, inside_eq, hinside, hafter, List.map_append, List.map_cons,
        List.map_map, List.map_map, hunder, hlater, List.append_assoc]
      rfl

theorem exists_postorder (fields : List Field) :
    ∃ nodes, Postorder fields nodes ∧
      ∀ t, insideAll t fields = nodes.map (Node.placed t) := by
  have hinside (f : Field) : ∃ nodes, Postorder f.children nodes ∧
      ∀ t, insideAll t f.children = nodes.map (Node.placed t) := by
    induction f using Field.induction with
    | step f ih => exact exists_postorder_of_children ih
  exact exists_postorder_of_children fun f _ => hinside f

/-- The list of all fields of a form is that of its places. -/
theorem exists_postorder_placedFields (fields : List Field) :
    ∃ nodes, Postorder fields nodes ∧
      placedFields fields = nodes.map (Node.placed {}) := by
  obtain ⟨nodes, hnodes, hinside⟩ := exists_postorder fields
  exact ⟨nodes, hnodes, hinside {}⟩

/-- At every level of a forest the directories of siblings have different
names. -/
def Field.DirectoriesDistinct (fields : List Field) : Prop :=
  (fields.map Field.dashed).Nodup ∧
    ∀ f, Field.OccursIn fields f → (f.children.map Field.dashed).Nodup

theorem Field.DirectoriesDistinct.children {fields : List Field} {f : Field}
    (h : DirectoriesDistinct fields) (hf : f ∈ fields) :
    DirectoriesDistinct f.children := by
  refine ⟨h.2 f (.top hf), fun g hg => h.2 g (hg.trans ?_)⟩
  intro d hd
  exact .inside (.top hf) hd

namespace Node

variable {fields : List Field} {m n : Node}

theorem occursIn (h : n.StandsIn fields) : Field.OccursIn fields n.field := by
  induction h with
  | top hf => exact .top (List.mem_of_getElem? hf)
  | inside hf _ ih =>
      exact ih.trans fun g hg => .inside (.top (List.mem_of_getElem? hf)) hg

theorem occursIn_above (h : n.StandsIn fields) :
    ∀ f ∈ n.above, Field.OccursIn fields f := by
  induction h with
  | top hf => simp
  | inside hf _ ih =>
      have htop := List.mem_of_getElem? hf
      intro g hg
      rcases List.mem_cons.mp hg with rfl | hg
      · exact .top htop
      · exact (ih g hg).trans fun d hd => .inside (.top htop) hd

theorem exists_of_occursIn {f : Field} (h : Field.OccursIn fields f) :
    ∃ n : Node, n.StandsIn fields ∧ n.field = f := by
  induction h with
  | top hf =>
      obtain ⟨i, hi⟩ := List.mem_iff_getElem?.mp hf
      exact ⟨_, .top hi, rfl⟩
  | inside _ hg ih =>
      obtain ⟨n, hn, rfl⟩ := ih
      obtain ⟨i, hi⟩ := List.mem_iff_getElem?.mp hg
      exact ⟨_, hn.child hi, rfl⟩

theorem forall_dashes {P : String → Prop} (h : n.StandsIn fields)
    (hP : ∀ f, Field.OccursIn fields f → P f.dashed) : ∀ d ∈ n.dashes, P d := by
  intro d hd
  obtain ⟨f, hf, rfl⟩ := List.mem_map.mp hd
  rcases List.mem_append.mp hf with hf | hf
  · exact hP f (occursIn_above h f hf)
  · exact List.mem_singleton.mp hf ▸ hP _ (occursIn h)

theorem eq_of_dashed {i j : Nat} {f g : Field}
    (h : (fields.map Field.dashed).Nodup) (hf : fields[i]? = some f)
    (hg : fields[j]? = some g) (heq : f.dashed = g.dashed) : i = j ∧ f = g := by
  have hi : i < (fields.map Field.dashed).length := by
    rw [List.length_map]
    exact (List.getElem?_eq_some_iff.mp hf).1
  have hij : i = j := by
    refine (List.getElem?_inj hi h).mp ?_
    rw [List.getElem?_map, List.getElem?_map, hf, hg, Option.map_some,
      Option.map_some, heq]
  subst hij
  exact ⟨rfl, Option.some.inj (hf.symm.trans hg)⟩

/-- Two places with the same directories on their ways are the same. -/
theorem eq_of_dashes (h : Field.DirectoriesDistinct fields)
    (hm : m.StandsIn fields) (hn : n.StandsIn fields)
    (heq : m.dashes = n.dashes) : m = n := by
  induction hm generalizing n with
  | top hf =>
      cases hn with
      | top hg =>
          obtain ⟨rfl, rfl⟩ := eq_of_dashed h.1 hf hg (by simpa [dashes, way] using heq)
          rfl
      | inside hg hn => simp [dashes, way] at heq
  | inside hf hm ih =>
      cases hn with
      | top hg => simp [dashes, way] at heq
      | inside hg hn =>
          obtain ⟨hhead, htail⟩ := List.cons.inj heq
          obtain ⟨rfl, rfl⟩ := eq_of_dashed h.1 hf hg hhead
          obtain rfl := ih (h.children (List.mem_of_getElem? hf)) hn htail
          rfl

end Node

/-- The list of all fields of a form has every field of the forest. -/
theorem Field.forall_occursIn_iff {P : Field → Prop} {fields : List Field} :
    (∀ f, OccursIn fields f → P f) ↔ ∀ p ∈ placedFields fields, P p.field := by
  obtain ⟨nodes, hnodes, hlist⟩ := exists_postorder_placedFields fields
  rw [hlist]
  constructor
  · intro h p hp
    obtain ⟨n, hn, rfl⟩ := List.mem_map.mp hp
    exact h n.field (Node.occursIn ((hnodes.mem_iff n).mp hn))
  · intro h f hf
    obtain ⟨n, hn, rfl⟩ := Node.exists_of_occursIn hf
    exact h _ (List.mem_map_of_mem ((hnodes.mem_iff n).mpr hn))

end AspectForms
