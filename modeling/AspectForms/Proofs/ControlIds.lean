import AspectForms.Proofs.DerivedNames
import AspectForms.Proofs.Placeholders

/-!
Ids of the controls of a form.  Main statement: every label addresses its own control and no other
exactly if at no level the name of a field goes on, behind a hyphen, where that of a group beside
it ends, and as the id of a control inside that group does.  A hyphen stands between the words of
a name and between the names of an id alike.
-/

namespace AspectForms

open Markup Control

namespace Node

/-- The place of a field inside the field at a place. -/
def beneath (n m : Node) : Node := ⟨n.address ++ m.address, n.way ++ m.above, m.field⟩

theorem dashes_beneath (n m : Node) : (n.beneath m).dashes = n.dashes ++ m.dashes := by
  rw [dashes, dashes, dashes, way, beneath, List.append_assoc, List.map_append]
  rfl

theorem StandsIn.beneath {fields : List Field} {n m : Node} (hn : n.StandsIn fields)
    (hm : m.StandsIn n.field.children) : (n.beneath m).StandsIn fields := by
  induction hn with
  | top hf => exact .inside hf hm
  | inside hf _ ih => exact .inside hf (ih hm)

/-- A control, not a group around others. -/
def IsLeaf (n : Node) : Prop := n.field.children? = none

/-- The names on the way to a place, joined by hyphens. -/
def id (n : Node) : String := Text.join "-" n.dashes

def controlId? (n : Node) : Option String :=
  (values "id" (Component.text (controlMarkup (dashedPath n.names) n.field))).head?

/-- What the label beside a control is for. -/
def labelFor? (n : Node) : Option String :=
  (values "for" (Component.text n.component.markup)).head?

end Node

/-- Every label of a form addresses the control beside it and no other one. -/
def Form.LabelsAddress (fields : List Field) : Prop :=
  ∀ m n : Node, m.StandsIn fields → m.IsLeaf → n.StandsIn fields → n.IsLeaf →
    (n.labelFor? = m.controlId? ↔ m = n)

namespace Field

/-- The fields of a forest that stand side by side. -/
def Level (fields level : List Field) : Prop :=
  level = fields ∨ ∃ f, OccursIn fields f ∧ level = f.children

/-- Of two fields side by side the name of one goes on, behind a hyphen, where that of the other
ends, and a control inside the other is called as it goes on. -/
def Clash (level : List Field) : Prop :=
  ∃ f ∈ level, ∃ g ∈ level, ∃ rest, g.dashed = f.dashed ++ ("-" ++ rest) ∧
    ∃ m : Node, m.StandsIn f.children ∧ m.IsLeaf ∧
      (g.children? = none ∧ m.id = rest ∨
        ∃ n : Node, n.StandsIn g.children ∧ n.IsLeaf ∧ m.id = rest ++ ("-" ++ n.id))

end Field

theorem Text.join_append {sep : String} {xs ys : List String} (hx : xs ≠ []) (hy : ys ≠ []) :
    join sep (xs ++ ys) = join sep xs ++ (sep ++ join sep ys) := by
  induction xs with
  | nil => exact absurd rfl hx
  | cons x xs ih =>
      cases xs with
      | nil =>
          obtain ⟨y, ys, rfl⟩ := List.exists_cons_of_ne_nil hy
          simp only [join, List.cons_append, List.nil_append, String.intercalate_cons_cons,
            String.intercalate_singleton, String.append_assoc]
      | cons z zs =>
          have hrest := ih (List.cons_ne_nil z zs)
          simp only [join, List.cons_append, String.intercalate_cons_cons,
            String.append_assoc] at hrest ⊢
          rw [hrest]

namespace Node

variable {fields : List Field} {m n : Node}

theorem id_top (i : Nat) (f : Field) : (Node.mk [i] [] f).id = f.dashed := by
  simp [id, dashes, way, Text.join]

theorem id_beneath (n m : Node) : (n.beneath m).id = n.id ++ ("-" ++ m.id) := by
  rw [id, dashes_beneath, Text.join_append n.dashes_ne_nil m.dashes_ne_nil]
  rfl

theorem id_inside (i : Nat) (f : Field) (m : Node) :
    (Node.mk (i :: m.address) (f :: m.above) m.field).id = f.dashed ++ ("-" ++ m.id) := by
  have hbeneath := id_beneath (Node.mk [i] [] f) m
  rw [id_top] at hbeneath
  exact hbeneath

end Node

namespace Field

variable {fields level : List Field} {f g : Field}

theorem Level.of_children (hf : f ∈ fields) (h : Level f.children level) : Level fields level := by
  rcases h with rfl | ⟨g, hg, rfl⟩
  · exact .inr ⟨f, .top hf, rfl⟩
  · exact .inr ⟨g, hg.trans fun d hd => .inside (.top hf) hd, rfl⟩

/-- Of two names that make one text with what follows them behind a hyphen, one goes on where
the other ends. -/
theorem cases_of_append_eq {s t x y : String} (hne : s ≠ t)
    (h : s ++ ("-" ++ x) = t ++ ("-" ++ y)) :
    (∃ rest, t = s ++ ("-" ++ rest) ∧ x = rest ++ ("-" ++ y)) ∨
      ∃ rest, s = t ++ ("-" ++ rest) ∧ y = rest ++ ("-" ++ x) := by
  have hgoes {s t x y : String} (hne : s ≠ t) {more : List Char}
      (ht : t.toList = s.toList ++ more) (hx : '-' :: x.toList = more ++ '-' :: y.toList) :
      ∃ rest, t = s ++ ("-" ++ rest) ∧ x = rest ++ ("-" ++ y) := by
    cases more with
    | nil => exact absurd (String.toList_inj.mp (by simpa using ht.symm)) hne
    | cons c rest =>
        obtain ⟨rfl, hrest⟩ := List.cons.inj hx
        refine ⟨String.ofList rest, ?_, ?_⟩
        · apply String.toList_inj.mp
          simp [ht]
        · apply String.toList_inj.mp
          simp [hrest]
  have hlist : s.toList ++ '-' :: x.toList = t.toList ++ '-' :: y.toList := by
    simpa using congrArg String.toList h
  rcases List.append_eq_append_iff.mp hlist with ⟨more, ht, hx⟩ | ⟨more, hs, hy⟩
  · exact .inl (hgoes hne ht hx)
  · exact .inr (hgoes hne.symm hs hy)

/-- Controls of one id come with a clash. -/
theorem exists_clash (h : DirectoriesDistinct fields) {m n : Node} (hm : m.StandsIn fields)
    (hn : n.StandsIn fields) (hmleaf : m.IsLeaf) (hnleaf : n.IsLeaf) (hid : m.id = n.id)
    (hne : m ≠ n) : ∃ level, Level fields level ∧ Clash level := by
  induction hm generalizing n with
  | @top fields i f hf =>
      cases hn with
      | @top _ j g hg =>
          rw [Node.id_top, Node.id_top] at hid
          obtain ⟨rfl, rfl⟩ := Node.eq_of_dashed h.1 hf hg hid
          exact absurd rfl hne
      | @inside _ j g n hg hn =>
          rw [Node.id_top, Node.id_inside] at hid
          exact ⟨fields, .inl rfl, g, List.mem_of_getElem? hg, f, List.mem_of_getElem? hf, _, hid,
            n, hn, hnleaf, .inl ⟨hmleaf, rfl⟩⟩
  | @inside fields i f m hf hm ih =>
      cases hn with
      | @top _ j g hg =>
          rw [Node.id_top, Node.id_inside] at hid
          exact ⟨fields, .inl rfl, f, List.mem_of_getElem? hf, g, List.mem_of_getElem? hg, _,
            hid.symm, m, hm, hmleaf, .inl ⟨hnleaf, rfl⟩⟩
      | @inside _ j g n hg hn =>
          rw [Node.id_inside, Node.id_inside] at hid
          have hf' := List.mem_of_getElem? hf
          have hg' := List.mem_of_getElem? hg
          by_cases hsame : f.dashed = g.dashed
          · obtain ⟨rfl, rfl⟩ := Node.eq_of_dashed h.1 hf hg hsame
            have hinner : m.id = n.id := by
              simpa [String.append_right_inj] using hid
            have hother : m ≠ n := by
              rintro rfl
              exact hne rfl
            obtain ⟨level, hlevel, hclash⟩ := ih (h.children hf') hn hmleaf hnleaf hinner hother
            exact ⟨level, hlevel.of_children hf', hclash⟩
          · rcases cases_of_append_eq hsame hid with ⟨rest, hlong, hwhole⟩ | ⟨rest, hlong, hwhole⟩
            · exact ⟨fields, .inl rfl, f, hf', g, hg', rest, hlong, m, hm, hmleaf,
                .inr ⟨n, hn, hnleaf, hwhole⟩⟩
            · exact ⟨fields, .inl rfl, g, hg', f, hf', rest, hlong, n, hn, hnleaf,
                .inr ⟨m, hm, hmleaf, hwhole⟩⟩

/-- A clash makes two controls of one id. -/
theorem Clash.exists_same_id (h : Clash level) :
    ∃ m n : Node, m.StandsIn level ∧ m.IsLeaf ∧ n.StandsIn level ∧ n.IsLeaf ∧
      m.way ≠ n.way ∧ m.id = n.id := by
  obtain ⟨f, hf, g, hg, rest, hlong, m, hm, hmleaf, hwhole⟩ := h
  obtain ⟨i, hi⟩ := List.mem_iff_getElem?.mp hf
  obtain ⟨j, hj⟩ := List.mem_iff_getElem?.mp hg
  have hother : f ≠ g := by
    rintro rfl
    have hlength := congrArg String.length hlong
    have hhyphen : ("-").length = 1 := rfl
    rw [String.length_append, String.length_append] at hlength
    omega
  have hway (k : Nat) (d : Field) (n : Node) :
      (Node.mk (k :: n.address) (d :: n.above) n.field).way = d :: n.way := rfl
  rcases hwhole with ⟨hgleaf, hid⟩ | ⟨n, hn, hnleaf, hid⟩
  · refine ⟨_, _, .inside hi hm, hmleaf, .top hj, hgleaf, ?_, ?_⟩
    · rw [hway]
      exact fun heq => hother (List.cons.inj heq).1
    · rw [Node.id_inside, Node.id_top, hlong, hid]
  · refine ⟨_, _, .inside hi hm, hmleaf, .inside hj hn, hnleaf, ?_, ?_⟩
    · rw [hway, hway]
      exact fun heq => hother (List.cons.inj heq).1
    · rw [Node.id_inside, Node.id_inside, hlong, hid]
      simp only [String.append_assoc]

theorem Level.exists_same_id (hlevel : Level fields level) (h : Clash level) :
    ∃ m n : Node, m.StandsIn fields ∧ m.IsLeaf ∧ n.StandsIn fields ∧ n.IsLeaf ∧
      m ≠ n ∧ m.id = n.id := by
  obtain ⟨m, n, hm, hmleaf, hn, hnleaf, hway, hid⟩ := h.exists_same_id
  rcases hlevel with rfl | ⟨f, hf, rfl⟩
  · exact ⟨m, n, hm, hmleaf, hn, hnleaf, fun heq => hway (congrArg Node.way heq), hid⟩
  · obtain ⟨d, hd, rfl⟩ := Node.exists_of_occursIn hf
    refine ⟨d.beneath m, d.beneath n, hd.beneath hm, hmleaf, hd.beneath hn, hnleaf, ?_, ?_⟩
    · intro heq
      have hways := congrArg Node.way heq
      apply hway
      simpa [Node.beneath, Node.way] using hways
    · rw [Node.id_beneath, Node.id_beneath, hid]

end Field

theorem Component.text_cons_cons (line next : String) (lines : List String) :
    text (line :: next :: lines) = line ++ ("\n" ++ text (next :: lines)) := by
  simp only [text, Text.join, String.intercalate_cons_cons, String.append_assoc]

theorem Component.exists_text_cons_eq (line : String) (lines : List String) :
    ∃ rest, text (line :: lines) = line ++ rest := by
  cases lines with
  | nil => exact ⟨"", by simp [text, Text.join]⟩
  | cons next lines => exact ⟨_, text_cons_cons line next lines⟩

/-- The first label of a leaf is for the id of its control. -/
theorem Control.exists_values_for_eq (t : Trail) (f : Field) :
    ∃ others, values "for" (Component.text (leafMarkup t f)) =
      dashedPath (t.down f).names :: others := by
  have hid := quote_not_mem_dashedPath (t.down f).names
  have hblock : Reads .text "<div class=\"field\">" [("class", "field")] .text := .of_list rfl rfl
  have hbreak : Reads .text "\n" [] .text := .of_list rfl rfl
  have hlabel : Reads .text "  <label for=\"" [] (.quoted '"' ['f', 'o', 'r'] []) :=
    .of_list rfl rfl
  have hend : Reads (.quoted '"' ['f', 'o', 'r'] (dashedPath (t.down f).names).toList) "\">"
      [("for", String.ofList (dashedPath (t.down f).names).toList)] .text := .of_list rfl rfl
  have hread := hblock.append (hbreak.append (hlabel.between hid hend))
  rw [String.ofList_toList] at hread
  have hmarkup : ∃ rest, Component.text (leafMarkup t f) =
      "<div class=\"field\">" ++ ("\n" ++ ("  <label for=\"" ++ dashedPath (t.down f).names ++
        "\">")) ++ rest := by
    simp only [leafMarkup, List.append_assoc, List.cons_append, List.nil_append]
    rw [Component.text_cons_cons]
    obtain ⟨rest, hrest⟩ := Component.exists_text_cons_eq
      ("  <label for=\"" ++ dashedPath (t.down f).names ++ "\">" ++ f.label ++
        (if f.direct.any (·.isRequired) then " *" else "") ++ "</label>")
      (controlMarkup (dashedPath (t.down f).names) f ++ (hintMarkup f ++
        (errorMarkup "Please enter a valid value." ++ ["</div>"])))
    rw [hrest]
    simp only [String.append_assoc]
    exact ⟨_, rfl⟩
  obtain ⟨rest, hmarkup⟩ := hmarkup
  rw [hmarkup, values, String.toList_append, attributes_append, hread.found]
  exact ⟨_, rfl⟩

namespace Node

variable {n : Node}

theorem controlId?_eq (n : Node) : n.controlId? = some (dashedPath n.names) := by
  obtain ⟨others, hvalues⟩ := exists_values_id_eq (quote_not_mem_dashedPath n.names) n.field
  rw [controlId?, hvalues]
  rfl

theorem labelFor?_eq (h : n.IsLeaf) : n.labelFor? = some (dashedPath n.names) := by
  obtain ⟨others, hvalues⟩ := exists_values_for_eq (n.placed {}).trail n.field
  have hmarkup : n.component.markup = leafMarkup (n.placed {}).trail n.field :=
    markup_of_leaf h
  rw [labelFor?, hmarkup, hvalues, n.names_placed]
  rfl

/-- The kebab case of the names on the way to a composed field is that of the directories. -/
theorem dashedPath_names {e : Element DataType} {config : Config}
    (h : n.StandsIn (e.fields config)) : dashedPath n.names = n.id := by
  have hway : ∀ f ∈ n.way, Text.kebabCase f.name = f.dashed := by
    intro f hf
    rcases List.mem_append.mp hf with hf | hf
    · exact (Element.dashed_eq (occursIn_above h f hf)).symm
    · exact List.mem_singleton.mp hf ▸ (Element.dashed_eq (occursIn h)).symm
  rw [dashedPath, names, List.map_map, id, dashes]
  exact congrArg (Text.join "-") (List.map_congr_left hway)

end Node

namespace Element

variable {e : Element DataType} {config : Config}

/-- Labels address their own controls if these have ids of their own. -/
theorem labelsAddress_iff_ids :
    Form.LabelsAddress (e.fields config) ↔
      ∀ m n : Node, m.StandsIn (e.fields config) → m.IsLeaf → n.StandsIn (e.fields config) →
        n.IsLeaf → m.id = n.id → m = n := by
  have hread {m n : Node} (hm : m.StandsIn (e.fields config)) (hn : n.StandsIn (e.fields config))
      (hnleaf : n.IsLeaf) : n.labelFor? = m.controlId? ↔ m.id = n.id := by
    rw [Node.labelFor?_eq hnleaf, m.controlId?_eq, Node.dashedPath_names hm,
      Node.dashedPath_names hn, Option.some_inj, eq_comm]
  constructor
  · intro h m n hm hmleaf hn hnleaf hid
    exact (h m n hm hmleaf hn hnleaf).mp ((hread hm hn hnleaf).mpr hid)
  · intro h m n hm hmleaf hn hnleaf
    rw [hread hm hn hnleaf]
    constructor
    · exact h m n hm hmleaf hn hnleaf
    · rintro rfl
      rfl

/-- Where the directories of siblings have different names, every label of a form addresses its
own control and no other exactly if there is no clash at any level: none if no name goes on,
behind a hyphen, where that of a group beside it ends. -/
theorem labelsAddress_iff (e : Element DataType) (config : Config)
    (hdistinct : Field.DirectoriesDistinct (e.fields config)) :
    (Form.LabelsAddress (e.fields config) ↔
      ∀ level, Field.Level (e.fields config) level → ¬Field.Clash level) ∧
    ((∀ level, Field.Level (e.fields config) level → ∀ f ∈ level, ∀ g ∈ level,
        f.children?.isSome = true → ¬(f.dashed ++ "-").toList <+: g.dashed.toList) →
      Form.LabelsAddress (e.fields config)) := by
  have hiff : Form.LabelsAddress (e.fields config) ↔
      ∀ level, Field.Level (e.fields config) level → ¬Field.Clash level := by
    rw [labelsAddress_iff_ids]
    constructor
    · intro h level hlevel hclash
      obtain ⟨m, n, hm, hmleaf, hn, hnleaf, hne, hid⟩ := hlevel.exists_same_id hclash
      exact hne (h m n hm hmleaf hn hnleaf hid)
    · intro h m n hm hmleaf hn hnleaf hid
      by_contra hne
      obtain ⟨level, hlevel, hclash⟩ :=
        Field.exists_clash hdistinct hm hn hmleaf hnleaf hid hne
      exact h level hlevel hclash
  refine ⟨hiff, fun h => hiff.mpr ?_⟩
  rintro level hlevel ⟨f, hf, g, hg, rest, hlong, m, hm, _⟩
  refine h level hlevel f hf g hg ?_ ?_
  · cases hchildren : f.children? with
    | some fs => rfl
    | none =>
        rw [Field.children, hchildren] at hm
        exact absurd hm (Node.not_standsIn_nil m)
  · simp [hlong]

end Element

namespace ControlIdsWitness

open FreshRunWitness (text)

def string : DataType := .scalar "http://www.w3.org/2001/XMLSchema#string"

/-- A group around one text. -/
def group (name inside : String) : Property DataType :=
  ⟨name, none, false, none, .singleEntity "Group" (.entity ⟨"Group", none, [text string inside]⟩)⟩

/-- Two groups. -/
def movement (first second : Property DataType) : Element DataType :=
  ⟨"Movement", none, [first, second]⟩

def field (p : Property DataType) : Field := composeField {} p

/-- Groups around fields of one name. -/
def apart : List Field := (movement (group "position" "limit") (group "speed" "limit")).fields {}

theorem labelsAddress_of_movement :
    Field.DirectoriesDistinct apart ∧ Form.LabelsAddress apart := by
  have hdistinct : Field.DirectoriesDistinct apart := by
    rw [Field.DirectoriesDistinct, Field.forall_occursIn_iff]
    decide +kernel
  refine ⟨hdistinct, (Element.labelsAddress_iff _ {} hdistinct).2 ?_⟩
  rintro level (rfl | ⟨f, hf, rfl⟩)
  · decide +kernel
  · revert f
    rw [Field.forall_occursIn_iff]
    decide +kernel

def position : Property DataType := group "position" "speedLimit"

/-- A group called like the other one and the first word inside. -/
def positionSpeed : Property DataType := group "positionSpeed" "limit"

def joined : List Field := (movement position positionSpeed).fields {}

/-- The hyphen between group and field is taken for one between words: two controls have the
id `position-speed-limit`. -/
theorem hyphens_make_one_id :
    Field.DirectoriesDistinct joined ∧ (∀ f, Field.OccursIn joined f → f.dashed ≠ "") ∧
      ¬Form.LabelsAddress joined := by
  simp only [Field.DirectoriesDistinct, Field.forall_occursIn_iff]
  refine ⟨by decide +kernel, by decide +kernel, fun h => ?_⟩
  have hspeed :
      (Node.mk [0, 0] [field position] (field (text string "speedLimit"))).StandsIn joined :=
    .inside rfl (.top rfl)
  have hlimit :
      (Node.mk [1, 0] [field positionSpeed] (field (text string "limit"))).StandsIn joined :=
    .inside rfl (.top rfl)
  have hsame := Element.labelsAddress_iff_ids.mp h _ _ hspeed rfl hlimit rfl (by decide +kernel)
  cases congrArg Node.address hsame

end ControlIdsWitness

end AspectForms
