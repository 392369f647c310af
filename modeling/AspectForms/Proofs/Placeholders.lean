import AspectForms.Proofs.ControlMarkup
import AspectForms.Proofs.Imports
import AspectForms.Proofs.NameWords

/-!
The placeholder of a composed leaf.  Main statement: what a reader of the markup takes for the
placeholder is what the control suggests exactly if that has neither a quote nor a character
reference, since the text goes between the quotes as it is.
-/

namespace AspectForms

open Markup

namespace Control

theorem quote_not_mem_dashedPath (segments : List String) :
    '"' ∉ (dashedPath segments).toList := by
  apply Text.not_mem_join (by decide)
  intro part hpart
  obtain ⟨s, _, rfl⟩ := List.mem_map.mp hpart
  exact Text.not_mem_kebabCase (by decide) s

/-- What is ticked or chosen suggests nothing. -/
theorem placeholder?_composeField {config : Config} {p : Property DataType}
    (h : p.kind = .boolean ∨ p.kind = .enumeration) :
    placeholder? (composeField config p) = none := by
  rw [composeField_eq]
  unfold PropertyOf.toField
  rcases h with h | h
  · rw [h]
    rfl
  · rw [h]
    dsimp only
    split <;> rfl

theorem markup_of_leaf {t : Trail} {f : Field} (h : f.children? = none) :
    (f.component t).markup = leafMarkup t f := by
  unfold Field.component
  rw [h]

/-- The markup of a leaf has that of the control. -/
theorem exists_leafMarkup_eq (t : Trail) (f : Field) :
    ∃ before after, leafMarkup t f =
      before ++ controlMarkup (dashedPath (t.down f).names) f ++ after := by
  simp only [leafMarkup]
  rw [List.append_assoc, List.append_assoc (_ ++ _)]
  exact ⟨_, _, rfl⟩

/-- In the markup of a leaf a reader finds no placeholder where nothing is suggested, and where
something is finds just this as the only placeholder exactly if it has neither a quote nor a
character reference. -/
theorem placeholder_read_iff (r : References) (config : Config) {p : Property DataType}
    (hleaf : p.kind.hasChildren = false) (t : Trail) :
    let f := composeField config p
    let control := controlMarkup (dashedPath (t.down f).names) f
    (∃ before after, (f.component t).markup = before ++ control ++ after) ∧
      (placeholder? f = none → values "placeholder" (Component.text control) = []) ∧
      ∀ s, placeholder? f = some s →
        ((values "placeholder" (Component.text control)).map r.decode = [s] ↔
          '"' ∉ s.toList ∧ r.Plain s.toList) := by
  intro f control
  have hid := quote_not_mem_dashedPath (t.down f).names
  refine ⟨?_, values_of_none hid, ?_⟩
  · have hchildren : f.children? = none := by
      change (composeField config p).children? = none
      rw [composeField_eq, PropertyOf.children?_toField, hleaf]
      rfl
    rw [markup_of_leaf hchildren]
    exact exists_leafMarkup_eq t f
  · intro s hs
    have hkind : f.kind = p.kind := kind_composeField config p
    have hboolean : f.kind ≠ .boolean := by
      intro hboolean
      rw [placeholder?_composeField (.inl (hkind ▸ hboolean))] at hs
      cases hs
    have hchoice : f.kind ≠ .enumeration := by
      intro hchoice
      rw [placeholder?_composeField (.inr (hkind ▸ hchoice))] at hs
      cases hs
    obtain ⟨front, back, haround⟩ := around_of_some hid hboolean hchoice hs
    exact haround.decoded_iff r

end Control

namespace PlaceholdersWitness

open Control

/-- A few of the names that a browser knows. -/
def entities : List (String × Char) :=
  [("&quot;", '"'), ("&amp;", '&'), ("&lt;", '<'), ("&gt;", '>'), ("&apos;", '\x27')]

/-- The reference with one of these names. -/
def references : References where
  read? cs := (entities.find? fun e => e.1.toList.isPrefixOf cs).map fun e => ([e.2], e.1.length)
  shorter := by
    intro cs text n hread
    obtain ⟨e, he, heq⟩ := Option.map_eq_some_iff.mp hread
    have hlong : ∀ e ∈ entities, 1 < e.1.length := by decide
    have hprefix : e.1.toList <+: cs :=
      List.isPrefixOf_iff_prefix.mp (by simpa using List.find?_some he)
    obtain ⟨rfl, rfl⟩ := Prod.mk.inj heq
    refine ⟨hlong e (List.mem_of_find?_eq_some he), ?_⟩
    rw [← String.length_toList]
    exact hprefix.length_le

def code (sample : String) : Property DataType :=
  ⟨"code", none, false, some (.string sample),
    .scalar "Text" (some (.scalar "http://www.w3.org/2001/XMLSchema#string")) none⟩

/-- The markup of its control, alone in a form. -/
def markup (sample : String) : String :=
  Component.text (controlMarkup "code" (composeField {} (code sample)))

theorem placeholder_read_iff_of_code :
    (code "AT&T <5 mm").kind.hasChildren = false ∧
      placeholder? (composeField {} (code "AT&T <5 mm")) = some "e.g. AT&T <5 mm" ∧
      (values "placeholder" (markup "AT&T <5 mm")).map references.decode =
        ["e.g. AT&T <5 mm"] := by
  have hleaf : (code "AT&T <5 mm").kind.hasChildren = false := by decide +kernel
  have hsome : placeholder? (composeField {} (code "AT&T <5 mm")) = some "e.g. AT&T <5 mm" := by
    decide +kernel
  obtain ⟨_, _, hread⟩ := placeholder_read_iff references {} hleaf {}
  have hid : dashedPath ((Trail.down {} (composeField {} (code "AT&T <5 mm"))).names) = "code" := by
    decide +kernel
  rw [hid] at hread
  refine ⟨hleaf, hsome, (hread _ hsome).mpr ⟨by decide +kernel, ?_⟩⟩
  rw [← references.decode_eq_self_iff]
  decide +kernel

/-- A quote in an example ends the attribute, and a reference in it is taken for what it
stands for. -/
theorem quote_ends_placeholder :
    (code "say \"hi\"").kind.hasChildren = false ∧
      placeholder? (composeField {} (code "say \"hi\"")) = some "e.g. say \"hi\"" ∧
      (values "placeholder" (markup "say \"hi\"")).map references.decode = ["e.g. say "] ∧
      placeholder? (composeField {} (code "&lt;b&gt;")) = some "e.g. &lt;b&gt;" ∧
      (values "placeholder" (markup "&lt;b&gt;")).map references.decode = ["e.g. <b>"] := by
  refine ⟨?_, ?_, ?_, ?_, ?_⟩ <;> decide +kernel

end PlaceholdersWitness

end AspectForms
