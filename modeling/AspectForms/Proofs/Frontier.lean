import AspectForms.Proofs.ColumnKeys
import AspectForms.Proofs.Nodes

/-!
Columns as places of a forest.  Main statement: the columns of a forest are those of the places where
giving way ends, in depth-first order, so that every field at the top has some, and the order in which
shown names are listed is without effect.
-/

namespace AspectForms

namespace Field

/-- A field shows those of its children that the configuration lists for its name, or
all of them. -/
def Shows (config : Config) (f g : Field) : Prop :=
  ∀ names, config.shownOf? f.name = some names → g.name ∈ names

/-- A complex field that shows one of its children. -/
def Expanded (config : Config) (f : Field) : Prop :=
  f.kind = .complex ∧ ∃ g ∈ f.children, f.Shows config g

/-- An expanded field and one that it shows. -/
def GivesWay (config : Config) (f g : Field) : Prop :=
  f.Expanded config ∧ f.Shows config g

theorem isShown_iff {config : Config} {f g : Field} :
    isShown (config.shownOf? f.name) g.name = true ↔ f.Shows config g := by
  unfold isShown Shows
  cases config.shownOf? f.name <;> simp

theorem expands_iff {config : Config} {f : Field} :
    f.expands config = true ↔ f.Expanded config := by
  simp only [expands, Expanded, Bool.and_eq_true, beq_iff_eq, List.any_eq_true, isShown_iff]

end Field

namespace Node

/-- The fields on the way give way to each other, and the last one to none. -/
def OnFrontier (config : Config) (n : Node) : Prop :=
  n.way.IsChain (Field.GivesWay config) ∧ ¬n.field.Expanded config

/-- The column of a place on its own. -/
def column (n : Node) : Column where
  path := n.names
  kind := n.field.kind
  header := Text.join " " (n.above.map (fun f => Text.titleCase f.name) ++ [n.field.label])

/-- The column of a place that lies below some fields outside the forest. -/
def columnBelow (above : List String) (n : Node) : Column :=
  n.field.column (above ++ n.above.map Field.name)

theorem columnBelow_nil (n : Node) : n.columnBelow [] = n.column := by
  simp [columnBelow, column, Field.column, names, way, Function.comp_def]

theorem columnBelow_under (above : List String) (f : Field) (n : Node) :
    (n.under f).columnBelow above = n.columnBelow (above ++ [f.name]) := by
  simp [columnBelow, under]

theorem later_eq (n : Node) : n.later.above = n.above ∧ n.later.field = n.field := by
  obtain ⟨_ | ⟨i, a⟩, above, f⟩ := n <;> exact ⟨rfl, rfl⟩

@[simp] theorem way_later (n : Node) : n.later.way = n.way := by
  rw [way, way, (later_eq n).1, (later_eq n).2]

@[simp] theorem way_under (f : Field) (n : Node) : (n.under f).way = f :: n.way := rfl

theorem columnBelow_later (above : List String) (n : Node) :
    n.later.columnBelow above = n.columnBelow above := by
  rw [columnBelow, columnBelow, (later_eq n).1, (later_eq n).2]

theorem onFrontier_later {config : Config} {n : Node} :
    n.later.OnFrontier config ↔ n.OnFrontier config := by
  rw [OnFrontier, OnFrontier, way_later, (later_eq n).2]

theorem onFrontier_top {config : Config} {i : Nat} {f : Field} :
    OnFrontier config ⟨[i], [], f⟩ ↔ ¬f.Expanded config := by
  simp [OnFrontier, way]

theorem onFrontier_under {config : Config} {f : Field} {n : Node} :
    (n.under f).OnFrontier config ↔
      f.Expanded config ∧ (∀ g ∈ n.way.head?, f.Shows config g) ∧ n.OnFrontier config := by
  have hway : ∃ g, n.way.head? = some g :=
    Option.isSome_iff_exists.mp (by simp [way])
  obtain ⟨g, hg⟩ := hway
  simp only [OnFrontier, way_under, List.isChain_cons, hg, Option.mem_def,
    Option.some.injEq, forall_eq', Field.GivesWay, and_assoc]
  rfl

end Node

/-- The places of a forest where giving way ends, each once and in depth-first order, of
those fields at the top that are `shown`. -/
structure Frontier (config : Config) (shown : Field → Prop) (fields : List Field)
    (nodes : List Node) : Prop where
  sorted : nodes.Pairwise fun m n => m.address < n.address
  mem_iff : ∀ n, n ∈ nodes ↔
    n.StandsIn fields ∧ n.OnFrontier config ∧ ∀ f ∈ n.way.head?, shown f

namespace Frontier

variable {config : Config} {shown : Field → Prop} {f : Field} {fs : List Field}
  {inner rest : List Node}

theorem nil : Frontier config shown [] [] where
  sorted := .nil
  mem_iff n := by
    simp only [List.not_mem_nil, false_iff]
    rintro ⟨hn, -⟩
    exact n.not_standsIn_nil hn

theorem sorted_later (h : Frontier config shown fs rest) :
    (rest.map Node.later).Pairwise fun m n => m.address < n.address := by
  rw [List.pairwise_map]
  refine h.sorted.imp_of_mem ?_
  rintro ⟨a, ma, mf⟩ ⟨b, na, nf⟩ hm hn hlt
  have hane := Node.address_ne_nil ((h.mem_iff _).mp hm).1
  have hbne := Node.address_ne_nil ((h.mem_iff _).mp hn).1
  obtain ⟨i, a, rfl⟩ := List.exists_cons_of_ne_nil hane
  obtain ⟨j, b, rfl⟩ := List.exists_cons_of_ne_nil hbne
  simpa [Node.later, List.cons_lt_cons_iff] using hlt

theorem lt_later (h : Frontier config shown fs rest) {m n : Node} {a : List Nat}
    (hm : m.address = 0 :: a) (hn : n ∈ rest.map Node.later) : m.address < n.address := by
  obtain ⟨⟨b, above, g⟩, hmem, rfl⟩ := List.mem_map.mp hn
  have hne := Node.address_ne_nil ((h.mem_iff _).mp hmem).1
  obtain ⟨i, b, rfl⟩ := List.exists_cons_of_ne_nil hne
  rw [hm]
  exact List.cons_lt_cons_iff.mpr (.inl (Nat.succ_pos i))

theorem mem_later_iff (h : Frontier config shown fs rest) {n : Node} :
    n ∈ rest.map Node.later ↔
      (∃ m : Node, m.StandsIn fs ∧ m.later = n) ∧ n.OnFrontier config ∧
        ∀ f ∈ n.way.head?, shown f := by
  simp only [List.mem_map, h.mem_iff]
  constructor
  · rintro ⟨m, ⟨hm, hfrontier, hshown⟩, rfl⟩
    exact ⟨⟨m, hm, rfl⟩, Node.onFrontier_later.mpr hfrontier, by rwa [Node.way_later]⟩
  · rintro ⟨⟨m, hm, rfl⟩, hfrontier, hshown⟩
    exact ⟨m, ⟨hm, Node.onFrontier_later.mp hfrontier, by rwa [Node.way_later] at hshown⟩, rfl⟩

/-- A field at the top that is not shown leaves the frontier to those after it. -/
theorem cons_of_hidden (hrest : Frontier config shown fs rest) (hf : ¬shown f) :
    Frontier config shown (f :: fs) (rest.map Node.later) where
  sorted := hrest.sorted_later
  mem_iff n := by
    rw [hrest.mem_later_iff, Node.standsIn_cons_iff]
    constructor
    · rintro ⟨hn, hfrontier⟩
      exact ⟨.inr (.inr hn), hfrontier⟩
    · rintro ⟨⟨m, -, rfl⟩ | rfl | hn, hfrontier, hshown⟩
      · exact absurd (hshown f rfl) hf
      · exact absurd (hshown f rfl) hf
      · exact ⟨hn, hfrontier, hshown⟩

/-- An expanded field gives way to the frontier of its children. -/
theorem cons_of_expanded (hrest : Frontier config shown fs rest) (hf : shown f)
    (hexpanded : f.Expanded config)
    (hinner : Frontier config (f.Shows config) f.children inner) :
    Frontier config shown (f :: fs) (inner.map (Node.under f) ++ rest.map Node.later) where
  sorted := by
    rw [List.pairwise_append]
    refine ⟨?_, hrest.sorted_later, ?_⟩
    · rw [List.pairwise_map]
      exact hinner.sorted.imp fun hlt => List.cons_lt_cons_iff.mpr (.inr ⟨rfl, hlt⟩)
    · intro m hm n hn
      obtain ⟨m, -, rfl⟩ := List.mem_map.mp hm
      exact hrest.lt_later rfl hn
  mem_iff n := by
    rw [List.mem_append, hrest.mem_later_iff, Node.standsIn_cons_iff]
    simp only [List.mem_map, hinner.mem_iff]
    constructor
    · rintro (⟨m, ⟨hm, hfrontier, hshown⟩, rfl⟩ | ⟨hn, hfrontier⟩)
      · exact ⟨.inl ⟨m, hm, rfl⟩, Node.onFrontier_under.mpr ⟨hexpanded, hshown, hfrontier⟩,
          fun g hg => Option.some.inj hg ▸ hf⟩
      · exact ⟨.inr (.inr hn), hfrontier⟩
    · rintro ⟨⟨m, hm, rfl⟩ | rfl | hn, hfrontier, hshown⟩
      · obtain ⟨-, hfirst, hfrontier⟩ := Node.onFrontier_under.mp hfrontier
        exact .inl ⟨m, ⟨hm, hfrontier, hfirst⟩, rfl⟩
      · exact absurd hexpanded (Node.onFrontier_top.mp hfrontier)
      · exact .inr ⟨hn, hfrontier, hshown⟩

/-- A field that is not expanded is on the frontier itself. -/
theorem cons_of_not_expanded (hrest : Frontier config shown fs rest) (hf : shown f)
    (hexpanded : ¬f.Expanded config) :
    Frontier config shown (f :: fs) (⟨[0], [], f⟩ :: rest.map Node.later) where
  sorted := List.pairwise_cons.mpr ⟨fun _ hn => hrest.lt_later rfl hn, hrest.sorted_later⟩
  mem_iff n := by
    rw [List.mem_cons, hrest.mem_later_iff, Node.standsIn_cons_iff]
    constructor
    · rintro (rfl | ⟨hn, hfrontier⟩)
      · exact ⟨.inr (.inl rfl), Node.onFrontier_top.mpr hexpanded,
          fun g hg => Option.some.inj hg ▸ hf⟩
      · exact ⟨.inr (.inr hn), hfrontier⟩
    · rintro ⟨⟨m, -, rfl⟩ | rfl | hn, hfrontier, hshown⟩
      · exact absurd (Node.onFrontier_under.mp hfrontier).1 hexpanded
      · exact .inl rfl
      · exact .inr ⟨hn, hfrontier, hshown⟩

end Frontier

section Columns

variable {config : Config} {fields : List Field}

/-- The columns of the shown fields of a forest are those of its frontier if this holds
for the children of each of them. -/
theorem exists_frontier_of_children (names? : Option (List String))
    (h : ∀ f ∈ fields, ∃ inner, Frontier config (f.Shows config) f.children inner ∧
      ∀ above, childColumns config above (config.shownOf? f.name) f.children =
        inner.map (Node.columnBelow above)) :
    ∃ nodes, Frontier config (fun f => isShown names? f.name = true) fields nodes ∧
      ∀ above, childColumns config above names? fields =
        nodes.map (Node.columnBelow above) := by
  induction fields with
  | nil => exact ⟨[], .nil, fun _ => rfl⟩
  | cons f fs ih =>
      obtain ⟨inner, hinner, hinside⟩ := h f List.mem_cons_self
      obtain ⟨rest, hrest, hafter⟩ := ih fun g hg => h g (List.mem_cons_of_mem f hg)
      have hlater (above : List String) :
          (rest.map Node.later).map (Node.columnBelow above) =
            childColumns config above names? fs := by
        rw [hafter, List.map_map]
        exact List.map_congr_left fun n _ => Node.columnBelow_later above n
      by_cases hshown : isShown names? f.name = true
      · by_cases hexpanded : f.Expanded config
        · refine ⟨_, hrest.cons_of_expanded hshown hexpanded hinner, fun above => ?_⟩
          have hunder : (inner.map (Node.under f)).map (Node.columnBelow above) =
              fieldColumns config above f := by
            rw [fieldColumns_eq, if_pos (Field.expands_iff.mpr hexpanded), ← childColumns_eq,
              hinside, List.map_map]
            exact List.map_congr_left fun n _ => Node.columnBelow_under above f n
          rw [childColumns, if_pos hshown, List.map_append, hunder, hlater]
        · refine ⟨_, hrest.cons_of_not_expanded hshown hexpanded, fun above => ?_⟩
          have hown : fieldColumns config above f =
              [Node.columnBelow above ⟨[0], [], f⟩] := by
            rw [fieldColumns_eq, if_neg (mt Field.expands_iff.mp hexpanded)]
            simp [Node.columnBelow]
          rw [childColumns, if_pos hshown, List.map_cons, hown, hlater, List.singleton_append]
      · refine ⟨_, hrest.cons_of_hidden hshown, fun above => ?_⟩
        rw [childColumns, if_neg hshown, hlater]

theorem exists_frontier_children (config : Config) (f : Field) :
    ∃ inner, Frontier config (f.Shows config) f.children inner ∧
      ∀ above, childColumns config above (config.shownOf? f.name) f.children =
        inner.map (Node.columnBelow above) := by
  induction f using Field.induction with
  | step f ih =>
      obtain ⟨inner, hinner, hcolumns⟩ := exists_frontier_of_children (config.shownOf? f.name) ih
      simp only [Field.isShown_iff] at hinner
      exact ⟨inner, hinner, hcolumns⟩

/-- The columns of a forest are those of its frontier. -/
theorem exists_frontier (config : Config) (fields : List Field) :
    ∃ nodes : List Node, nodes.Pairwise (fun m n => m.address < n.address) ∧
      (∀ n, n ∈ nodes ↔ n.StandsIn fields ∧ n.OnFrontier config) ∧
      resolveColumns config fields = nodes.map Node.column := by
  obtain ⟨nodes, hnodes, hcolumns⟩ :=
    exists_frontier_of_children none fun f (_ : f ∈ fields) => exists_frontier_children config f
  refine ⟨nodes, hnodes.sorted, fun n => ?_, ?_⟩
  · simp [hnodes.mem_iff, isShown]
  · rw [resolveColumns, hcolumns]
    exact List.map_congr_left fun n _ => n.columnBelow_nil

theorem fieldColumns_ne_nil (config : Config) (above : List String) (f : Field) :
    fieldColumns config above f ≠ [] := by
  induction f using Field.induction generalizing above with
  | step f ih =>
      rw [fieldColumns_eq]
      split
      · rename_i hexpands
        obtain ⟨-, g, hg, hshows⟩ := Field.expands_iff.mp hexpands
        intro hnil
        have hall := List.flatMap_eq_nil_iff.mp hnil g
        exact ih g hg _ (hall (List.mem_filter.mpr ⟨hg, Field.isShown_iff.mpr hshows⟩))
      · exact List.cons_ne_nil _ _

end Columns

/-- Two configurations show the same, up to the order in which they list names. -/
def Config.ShowsAlike (config other : Config) : Prop :=
  List.Forall₂ (fun s t => s.property = t.property ∧ s.names.Perm t.names)
    config.showings other.showings

section Order

variable {config other : Config}

theorem Config.ShowsAlike.isShown_shownOf? (h : config.ShowsAlike other) (property name : String) :
    isShown (config.shownOf? property) name = isShown (other.shownOf? property) name := by
  unfold ShowsAlike at h
  unfold Config.shownOf?
  generalize config.showings = ss at h ⊢
  generalize other.showings = ts at h ⊢
  induction h with
  | nil => rfl
  | @cons s t ss ts hst _ ih =>
      obtain ⟨hproperty, hnames⟩ := hst
      rw [List.find?_cons, List.find?_cons, ← hproperty]
      cases s.property == property with
      | false => exact ih
      | true =>
          have hempty : s.names.isEmpty = t.names.isEmpty := by
            rw [Bool.eq_iff_iff, List.isEmpty_iff, List.isEmpty_iff, ← List.length_eq_zero_iff,
              ← List.length_eq_zero_iff, hnames.length_eq]
          simp only [hempty]
          split
          · rfl
          · exact hnames.contains_eq

theorem fieldColumns_of_showsAlike (h : config.ShowsAlike other) (above : List String) (f : Field) :
    fieldColumns config above f = fieldColumns other above f := by
  induction f using Field.induction generalizing above with
  | step f ih =>
      have hexpands : f.expands config = f.expands other := by
        simp only [Field.expands, h.isShown_shownOf?]
      simp only [fieldColumns_eq _ _ f, hexpands, h.isShown_shownOf?]
      split
      · rw [List.flatMap_congr fun g hg => ih g (List.mem_of_mem_filter hg) _]
      · rfl

theorem resolveColumns_of_showsAlike (h : config.ShowsAlike other) (fields : List Field) :
    resolveColumns other fields = resolveColumns config fields := by
  rw [resolveColumns_eq, resolveColumns_eq]
  exact List.flatMap_congr fun f _ => (fieldColumns_of_showsAlike h [] f).symm

end Order

/-- How a forest is flattened to columns: they are those of its frontier, every field at
the top has a block of its own, and only which names are shown matters. -/
structure Config.Flattens (config : Config) (fields : List Field) : Prop where
  frontier : ∃ nodes : List Node, nodes.Pairwise (fun m n => m.address < n.address) ∧
    (∀ n, n ∈ nodes ↔ n.StandsIn fields ∧ n.OnFrontier config) ∧
    resolveColumns config fields = nodes.map Node.column
  blocks : resolveColumns config fields = fields.flatMap fun f => resolveColumns config [f]
  block_ne_nil : ∀ f ∈ fields, resolveColumns config [f] ≠ []
  block_path : ∀ f ∈ fields, ∀ c ∈ resolveColumns config [f], [f.name] <+: c.path
  alike : ∀ other, config.ShowsAlike other →
    resolveColumns other fields = resolveColumns config fields

/-- Every configuration flattens every forest in this way. -/
theorem Config.flattens (config : Config) (fields : List Field) : config.Flattens fields := by
  have hblock (f : Field) : resolveColumns config [f] = fieldColumns config [] f := by
    rw [resolveColumns_eq, List.flatMap_singleton]
  refine ⟨exists_frontier config fields, ?_, ?_, ?_, ?_⟩
  · simp only [hblock, resolveColumns_eq]
  · intro f _
    rw [hblock]
    exact fieldColumns_ne_nil config [] f
  · intro f _ c hc
    rw [hblock] at hc
    exact prefix_path_of_mem_fieldColumns hc
  · exact fun other h => resolveColumns_of_showsAlike h fields

namespace FrontierWitness

def leaf (name : String) : Field where
  name := name
  dashed := name
  kind := .text

def group (name : String) (children : List Field) : Field where
  name := name
  dashed := name
  kind := .complex
  children? := some children

/-- A point of three coordinates at both ends of a leg. -/
def legs : List Field :=
  [leaf "title", group "leg" [group "start" [leaf "x", leaf "y", leaf "z"],
    group "goal" [leaf "x", leaf "y"]]]

/-- Of a start two coordinates are shown, and of a goal none that it has. -/
def config (names : List String) : Config where
  showings := [⟨"start", names⟩, ⟨"goal", ["z"]⟩]

theorem flattens_of_legs :
    (config ["x", "z"]).ShowsAlike (config ["z", "x"]) ∧
      (resolveColumns (config ["x", "z"]) legs).map Column.path =
        [["title"], ["leg", "start", "x"], ["leg", "start", "z"], ["leg", "goal"]] ∧
      (config ["x", "z"]).Flattens legs ∧
      resolveColumns (config ["z", "x"]) legs = resolveColumns (config ["x", "z"]) legs := by
  have halike : (config ["x", "z"]).ShowsAlike (config ["z", "x"]) :=
    .cons ⟨rfl, .swap "z" "x" []⟩ (.cons ⟨rfl, .refl _⟩ .nil)
  have hflattens := (config ["x", "z"]).flattens legs
  exact ⟨halike, by decide +kernel, hflattens, hflattens.alike _ halike⟩

end FrontierWitness

end AspectForms
