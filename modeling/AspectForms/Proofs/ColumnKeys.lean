import AspectForms.Component.View
import AspectForms.Proofs.Coverage
import AspectForms.Proofs.Expressions
import AspectForms.Proofs.Placement

/-!
The keys of columns.  Main statement: where lint finds no name twice and none that cannot name a member, a
table declares every column once.
-/

namespace AspectForms

theorem Field.OccursIn.of_single {fields : List Field} {f g : Field}
    (h : OccursIn [f] g) (hf : OccursIn fields f) : OccursIn fields g :=
  h.trans fun _ hd => List.mem_singleton.mp hd ▸ hf

section Columns

variable {config : Config} {above : List String} {c : Column} {f : Field}
  {fields : List Field}

theorem childColumns_eq (config : Config) (above : List String)
    (names? : Option (List String)) (fields : List Field) :
    childColumns config above names? fields =
      (fields.filter fun f => isShown names? f.name).flatMap (fieldColumns config above) := by
  induction fields with
  | nil => rfl
  | cons f fs ih =>
      rw [childColumns, ih, List.filter_cons]
      split
      · rw [List.flatMap_cons]
      · rfl

theorem fieldColumns_eq (config : Config) (above : List String) (f : Field) :
    fieldColumns config above f =
      if f.expands config then
        (f.children.filter fun g => isShown (config.shownOf? f.name) g.name).flatMap
          (fieldColumns config (above ++ [f.name]))
      else [f.column above] := by
  rw [← childColumns_eq]
  obtain ⟨n, d, k, vs, x, values, u, children?, format, placeholder, hint, rule⟩ := f
  cases children? <;> rfl

/-- The path of a column leads through the field that it is made for. -/
theorem prefix_path_of_mem_fieldColumns (h : c ∈ fieldColumns config above f) :
    above ++ [f.name] <+: c.path := by
  induction f using Field.induction generalizing above with
  | step f ih =>
      rw [fieldColumns_eq] at h
      split at h
      · obtain ⟨g, hg, hc⟩ := List.mem_flatMap.mp h
        have hbelow := ih g (List.mem_of_mem_filter hg) hc
        exact (List.prefix_append _ _).trans hbelow
      · rw [List.mem_singleton.mp h]
        exact List.prefix_rfl

/-- The names on the path of a column are those of fields. -/
theorem name_of_mem_path (h : c ∈ fieldColumns config above f) {n : String}
    (hn : n ∈ c.path) : n ∈ above ∨ ∃ g, Field.OccursIn [f] g ∧ g.name = n := by
  have hself : Field.OccursIn [f] f := .top List.mem_cons_self
  induction f using Field.induction generalizing above with
  | step f ih =>
      rw [fieldColumns_eq] at h
      split at h
      · obtain ⟨g, hg, hc⟩ := List.mem_flatMap.mp h
        have hchild := List.mem_of_mem_filter hg
        rcases ih g hchild hc (.top List.mem_cons_self) with habove | ⟨d, hd, rfl⟩
        · rcases List.mem_append.mp habove with habove | hname
          · exact .inl habove
          · exact .inr ⟨f, hself, (List.mem_singleton.mp hname).symm⟩
        · exact .inr ⟨d, hd.of_single (hself.inside hchild), rfl⟩
      · rw [List.mem_singleton.mp h] at hn
        rcases List.mem_append.mp hn with habove | hname
        · exact .inl habove
        · exact .inr ⟨f, hself, (List.mem_singleton.mp hname).symm⟩

/-- At the top of a forest and below its complex fields the names of siblings are
distinct. -/
structure Field.ColumnNamesDistinct (fields : List Field) : Prop where
  top : (fields.map Field.name).Nodup
  below : ∀ f, Field.OccursIn fields f → f.kind = .complex →
    (f.children.map Field.name).Nodup

theorem nodup_paths_flatMap (hnames : (fields.map Field.name).Nodup)
    (h : ∀ f ∈ fields, ((fieldColumns config above f).map Column.path).Nodup) :
    ((fields.flatMap (fieldColumns config above)).map Column.path).Nodup := by
  rw [List.map_flatMap, List.nodup_flatMap]
  refine ⟨h, (List.pairwise_map.mp hnames).imp ?_⟩
  intro f g hne path hf hg
  obtain ⟨c, hc, rfl⟩ := List.mem_map.mp hf
  obtain ⟨d, hd, heq⟩ := List.mem_map.mp hg
  have hfirst := prefix_path_of_mem_fieldColumns hc
  have hsecond := prefix_path_of_mem_fieldColumns hd
  rw [heq] at hsecond
  have hsame : above ++ [f.name] = above ++ [g.name] :=
    (List.prefix_of_prefix_length_le hfirst hsecond (by simp)).eq_of_length (by simp)
  exact hne (List.singleton_inj.mp (List.append_cancel_left hsame))

theorem nodup_paths_fieldColumns
    (h : ∀ g, Field.OccursIn [f] g → g.kind = .complex → (g.children.map Field.name).Nodup) :
    ((fieldColumns config above f).map Column.path).Nodup := by
  have hself : Field.OccursIn [f] f := .top List.mem_cons_self
  induction f using Field.induction generalizing above with
  | step f ih =>
      rw [fieldColumns_eq]
      split
      · rename_i hexpands
        have hkind : f.kind = .complex := by
          rw [Field.expands, Bool.and_eq_true, beq_iff_eq] at hexpands
          exact hexpands.1
        apply nodup_paths_flatMap
        · exact (h f hself hkind).sublist (List.filter_sublist.map Field.name)
        · intro g hg
          have hchild := List.mem_of_mem_filter hg
          refine ih g hchild ?_ (.top List.mem_cons_self)
          intro d hd
          exact h d (hd.of_single (hself.inside hchild))
      · exact List.nodup_singleton _

theorem resolveColumns_eq (config : Config) (fields : List Field) :
    resolveColumns config fields = fields.flatMap (fieldColumns config []) := by
  rw [resolveColumns, childColumns_eq]
  simp [isShown]

/-- No two columns of a forest have one path. -/
theorem nodup_paths_resolveColumns (h : Field.ColumnNamesDistinct fields) :
    ((resolveColumns config fields).map Column.path).Nodup := by
  rw [resolveColumns_eq]
  apply nodup_paths_flatMap h.top
  intro f hf
  apply nodup_paths_fieldColumns
  intro g hg
  exact h.below g (hg.of_single (.top hf))

/-- The keys of columns are as distinct as their paths if no name holds the dot that
joins them. -/
theorem nodup_keys_of_paths
    (hpaths : ((resolveColumns config fields).map Column.path).Nodup)
    (hnames : ∀ f, Field.OccursIn fields f → '.' ∉ f.name.toList) :
    ((resolveColumns config fields).map Column.key).Nodup := by
  have hpath : ∀ c ∈ resolveColumns config fields,
      c.path ≠ [] ∧ ∀ n ∈ c.path, '.' ∉ n.toList := by
    intro c hc
    rw [resolveColumns_eq] at hc
    obtain ⟨f, hf, hc⟩ := List.mem_flatMap.mp hc
    constructor
    · intro hnil
      have hprefix := prefix_path_of_mem_fieldColumns hc
      rw [hnil] at hprefix
      exact List.cons_ne_nil _ _ (List.prefix_nil.mp hprefix)
    · intro n hn
      rcases name_of_mem_path hc hn with habove | ⟨g, hg, rfl⟩
      · cases habove
      · exact hnames g (hg.of_single (.top hf))
  have hkey : ∀ c ∈ resolveColumns config fields, Text.splitOn '.' c.key = c.path :=
    fun c hc => Text.splitOn_join rfl (hpath c hc).1 (hpath c hc).2
  have hsplit : ((resolveColumns config fields).map Column.key).map (Text.splitOn '.') =
      (resolveColumns config fields).map Column.path := by
    rw [List.map_map]
    exact List.map_congr_left hkey
  exact .of_map (Text.splitOn '.') (hsplit ▸ hpaths)

end Columns

namespace Lint

/-- A list of properties in which lint finds no name twice has distinct names, none of
which was seen before. -/
theorem nodup_of_properties {owner : String} {seen : List String}
    {ps : List (Property DataType)}
    (h : ∀ i ∈ properties owner seen ps, i.finding.kind ≠ "duplicate_property") :
    (ps.map (·.name)).Nodup ∧ ∀ p ∈ ps, p.name ∉ seen := by
  induction ps generalizing seen with
  | nil => simp
  | cons p ps ih =>
      simp only [properties, List.forall_mem_append] at h
      obtain ⟨⟨hown, _⟩, hrest⟩ := h
      obtain ⟨hnodup, hunseen⟩ := ih hrest
      have hnew : p.name ∉ seen := by
        intro hseen
        rw [if_pos hseen] at hown
        exact hown _ List.mem_cons_self rfl
      refine ⟨List.nodup_cons.mpr ⟨?_, hnodup⟩, List.forall_mem_cons.mpr ⟨hnew, ?_⟩⟩
      · intro hmem
        obtain ⟨q, hq, hname⟩ := List.mem_map.mp hmem
        exact hunseen q hq (hname ▸ List.mem_cons_self)
      · intro q hq hseen
        exact hunseen q hq (List.mem_cons_of_mem _ hseen)

theorem dot_not_mem_of_isIdentifier {name : String} (h : isIdentifier name = true) :
    '.' ∉ name.toList := by
  unfold isIdentifier at h
  intro hdot
  cases hname : name.toList with
  | nil => rw [hname] at hdot; cases hdot
  | cons c cs =>
      rw [hname] at h hdot
      simp only [Bool.and_eq_true] at h
      rcases List.mem_cons.mp hdot with rfl | hdot
      · exact absurd h.1 (by decide)
      · exact absurd (List.all_eq_true.mp h.2 '.' hdot) (by decide)

end Lint

namespace Document

variable {doc : Document} {model : Model} {config : Config} {e : Element DataType}

theorem names_shown_nodup
    (hlint : ∀ i ∈ model.lint, i.finding.kind ≠ "duplicate_property")
    (he : e ∈ model.aspect :: model.entities) : ((e.shown config).map (·.name)).Nodup := by
  have hown : ∀ i ∈ Lint.properties e.name [] e.properties,
      i.finding.kind ≠ "duplicate_property" :=
    fun i hi => hlint i (Model.element_subset_lint he hi)
  exact (Lint.nodup_of_properties hown).1.sublist (List.filter_sublist.map _)

/-- Where lint finds no name twice, the names on the way to columns are distinct. -/
theorem columnNamesDistinct (h : doc.resolve = .ok model)
    (hlint : ∀ i ∈ model.lint, i.finding.kind ≠ "duplicate_property")
    (he : e ∈ model.aspect :: model.entities) :
    Field.ColumnNamesDistinct (e.fields config) where
  top := by
    rw [Element.fields_eq, names_composeField]
    exact names_shown_nodup hlint he
  below := by
    intro f hf hkind
    obtain ⟨p, hp, rfl⟩ := Element.occursIn_fields_iff.mp hf
    rw [kind_composeField, PropertyOf.kind_eq_complex_iff] at hkind
    obtain ⟨d, hd⟩ := hkind
    obtain ⟨x, hx, above, hown⟩ := exists_showsOwn h he hp
    rw [children_composeField, PropertyOf.inner_of_entity? config hd, names_composeField]
    exact names_shown_nodup hlint (mem_of_entity? h hx hown hd)

/-- Where lint finds no bad name, the names of all fields can name members. -/
theorem isIdentifier_name (h : doc.resolve = .ok model)
    (hlint : ∀ i ∈ model.lint, i.finding.kind ≠ "invalid_property_name")
    (he : e ∈ model.aspect :: model.entities) {f : Field}
    (hf : Field.OccursIn (e.fields config) f) : Lint.isIdentifier f.name = true := by
  obtain ⟨p, hp, rfl⟩ := Element.occursIn_fields_iff.mp hf
  rw [name_composeField]
  by_contra hname
  have hfound : .invalidName p.name ∈ Lint.ownFindings p := by
    simp [Lint.ownFindings, hname]
  obtain ⟨location, hissue⟩ := exists_issue h he hp hfound
  exact hlint _ hissue rfl

end Document

namespace Table

open Script

/-- How the definition of a column starts in the markup. -/
def columnStart : String := "  <ng-container matColumnDef=\""

/-- How the list of the columns starts in the class. -/
def displayedStart : String := "  readonly displayedColumns: string[] = "

/-- The markup of a table defines its columns and nothing else in such lines. -/
theorem opening_markup (config : Config) (title : String) (columns : List Column) :
    Opening columnStart (columns.map fun c => c.key ++ "\">")
      (markup config title columns) := by
  simp only [markup, View.head, List.append_assoc, List.cons_append, List.nil_append]
  refine .next (Differs.append (.append (.of_lists rfl) _) _).misses ?_
  refine .skip (.when _ ?_) (.next (.of_lists rfl) (.before (.flatMap ?_ columns) ?_))
  · exact .cons (.of_lists rfl) (.cons (.of_lists rfl) (.cons (.of_lists rfl)
      (.cons (.of_lists rfl) (.cons (.of_lists rfl) (.cons (.of_lists rfl) .nil)))))
  · intro c
    refine .here String.append_assoc (NoneOpens.opening (.cons ?_ (.cons ?_ ?_)))
    · exact (Differs.append (.append (.of_lists rfl) _) _).misses
    · exact (Differs.append (.append (.of_lists rfl) _) _).misses
    · exact .cons (.of_lists rfl) .nil
  · exact .cons (.of_lists rfl) (.cons (.of_lists rfl) (.cons (.of_lists rfl)
      (.when _ (.cons (.of_lists rfl) .nil))))

/-- The class of a table displays its columns. -/
theorem opening_code (config : Config) (stem : String) (fields : List Field)
    (columns : List Column) :
    Opening displayedStart [Json.text (.array (columns.map fun c => .string c.key)) ++ ";"]
      (code config stem fields columns) := by
  have himport (names : List String) (module : String) :
      Misses displayedStart (Component.importLine names module) :=
    misses_importLine (.of_lists rfl) names module
  have hrow : Misses displayedStart (View.rowType stem fields) :=
    (Differs.append (.append (.append (.append (.of_lists rfl) _) _) _) _).misses
  simp only [code, List.append_assoc, List.cons_append, List.nil_append]
  refine .next (himport _ _) (.next (himport _ _) (.next (himport _ _) ?_))
  refine .skip (.when _ (.cons (himport _ _) .nil)) ?_
  refine .skip (.when _ (.cons (himport _ _) (.cons (himport _ _) (.cons (himport _ _) .nil)))) ?_
  refine .next (.of_lists rfl) (.next hrow (.next (.of_lists rfl) ?_))
  refine .skip (noneOpens_decorator (by decide) _ _ _) ?_
  refine .next (Differs.append (.append (.append (.append (.of_lists rfl) _) _) _) _).misses ?_
  refine .next (Differs.append (.append (.of_lists rfl) _) _).misses ?_
  refine .here String.append_assoc (NoneOpens.opening ?_)
  refine .cons (Differs.append (.append (.of_lists rfl) _) _).misses ?_
  refine .cons (.of_lists rfl) (.append (.when _ ?_) ?_)
  · exact .cons (.of_lists rfl) (.cons (.of_lists rfl) .nil)
  · refine .cons (.of_lists rfl) (.cons (.of_lists rfl) (.cons (.of_lists rfl)
      (.cons (.of_lists rfl) (.cons (.of_lists rfl) (.cons (.of_lists rfl)
        (.cons (.of_lists rfl) (.append (.when _ ?_) (.append (.when _ ?_) ?_))))))))
    · exact .cons (.of_lists rfl) (.cons (.of_lists rfl) (.cons (.of_lists rfl)
        (.cons (.of_lists rfl) (.cons (.of_lists rfl) (.cons (.of_lists rfl) .nil)))))
    · exact .cons (.of_lists rfl) (.cons (.of_lists rfl) (.cons (.of_lists rfl)
        (.cons (.of_lists rfl) .nil)))
    · exact .cons (.of_lists rfl) .nil

/-- The markup of a table defines one column for each key, its class displays the keys
in the same order, and no key comes twice. -/
structure DeclaresOnce (c : Component) (keys : List String) : Prop where
  distinct : keys.Nodup
  defined : Opening columnStart (keys.map (· ++ "\">")) c.markup
  once : (c.markup.filter (opensWith columnStart)).Nodup
  displayed : Opening displayedStart [Json.text (.array (keys.map .string)) ++ ";"] c.code

theorem declaresOnce {config : Config} {fields : List Field} (stem title : String)
    (h : ((resolveColumns config fields).map Column.key).Nodup) :
    DeclaresOnce (component config stem title fields)
      ((resolveColumns config fields).map Column.key) := by
  have hdefined : Opening columnStart
      (((resolveColumns config fields).map Column.key).map (· ++ "\">"))
      (component config stem title fields).markup := by
    rw [List.map_map]
    exact opening_markup config title (resolveColumns config fields)
  refine ⟨h, hdefined, ?_, ?_⟩
  · rw [hdefined, List.map_map]
    apply h.map
    intro k l heq
    exact (String.append_left_inj _).mp ((String.append_right_inj _).mp heq)
  · rw [List.map_map]
    exact opening_code config stem fields (resolveColumns config fields)

end Table

/-- Where lint finds no name twice and none that cannot name a member, the table of a
selected element declares every column once. -/
theorem Document.table_declaresOnce {doc : Document} {model : Model}
    (h : doc.resolve = .ok model)
    (hrepeated : ∀ i ∈ model.lint, i.finding.kind ≠ "duplicate_property")
    (hinvalid : ∀ i ∈ model.lint, i.finding.kind ≠ "invalid_property_name")
    {name? : Option String} {selection : Selection}
    (hselect : model.select name? = .ok selection) (config : Config) (stem title : String) :
    Table.DeclaresOnce
      (Table.component config stem title (selection.element.fields config))
      ((resolveColumns config (selection.element.fields config)).map Column.key) := by
  have he := Model.mem_of_select hselect
  apply Table.declaresOnce
  apply nodup_keys_of_paths
  · exact nodup_paths_resolveColumns (columnNamesDistinct h hrepeated he)
  · intro f hf
    exact Lint.dot_not_mem_of_isIdentifier (isIdentifier_name h hinvalid he hf)

namespace ColumnKeysWitness

open SiblingsWitness (text)

/-- Both ends of a route are of one entity. -/
def route {τ : Type} (point : τ) : Element τ :=
  ⟨"Route", none,
    [⟨"start", none, false, none, .singleEntity "Start" point⟩,
      ⟨"goal", none, false, none, .singleEntity "Goal" point⟩]⟩

def point {τ : Type} (type : τ) : Element τ :=
  ⟨"Point", none, [text type "x", text type "y"]⟩

def document : Document where
  aspect := route (.entity "Point")
  entities := [point (.scalar "xsd:string")]

def string : DataType := .scalar "http://www.w3.org/2001/XMLSchema#string"

def model : Model := ⟨route (.entity (point string)), [point string]⟩

/-- Of the goal only one coordinate is shown. -/
def config : Config where
  showings := [⟨"goal", ["y"]⟩]

theorem table_declaresOnce_of_route :
    document.resolve = .ok model ∧
      (∀ i ∈ model.lint, i.finding.kind ≠ "duplicate_property") ∧
      (∀ i ∈ model.lint, i.finding.kind ≠ "invalid_property_name") ∧
      (resolveColumns config (model.aspect.fields config)).map Column.key =
        ["start.x", "start.y", "goal.y"] ∧
      Table.DeclaresOnce (Table.component config "route" "Route" (model.aspect.fields config))
        ((resolveColumns config (model.aspect.fields config)).map Column.key) := by
  have hresolve : document.resolve = .ok model :=
    Document.resolve_of_unfold (by decide +kernel) rfl
  have hrepeated : ∀ i ∈ model.lint, i.finding.kind ≠ "duplicate_property" := by
    decide +kernel
  have hinvalid : ∀ i ∈ model.lint, i.finding.kind ≠ "invalid_property_name" := by
    decide +kernel
  have hselect : model.select none = .ok (.aspect model.aspect) := rfl
  exact ⟨hresolve, hrepeated, hinvalid, by decide +kernel,
    Document.table_declaresOnce hresolve hrepeated hinvalid hselect config "route" "Route"⟩

end ColumnKeysWitness

end AspectForms
