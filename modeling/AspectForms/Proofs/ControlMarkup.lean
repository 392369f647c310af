import AspectForms.Component.Control
import AspectForms.Proofs.Markup

/-!
The markup of the control of a field.  Main statements: a reader finds its id first, and then its
placeholder, which stands between quotes as it is, if it suggests anything.
-/

namespace AspectForms

open Markup

namespace Control

variable {f : Field} {id : String}

/-- The letters of the name of the attribute. -/
def letters : List Char := ['p', 'l', 'a', 'c', 'e', 'h', 'o', 'l', 'd', 'e', 'r']

/-- Some pieces of a tag have no placeholder. -/
def NonePlaced (found : List (String × String)) : Prop := ∀ a ∈ found, a.1 ≠ "placeholder"

theorem NonePlaced.with_id {found : List (String × String)} (h : NonePlaced found) (id : String) :
    NonePlaced (("id", id) :: found) :=
  List.forall_mem_cons.mpr ⟨(by decide : "id" ≠ "placeholder"), h⟩

/-- Some markup has an id and room for one more attribute, between two pieces without a
placeholder. -/
structure Framed (id markup slot : String) : Prop where
  pieces : ∃ front back before behind last, markup = front ++ (slot ++ back) ∧
    Reads .text front (("id", id) :: before) .between ∧ NonePlaced before ∧
    Reads .between back behind last ∧ NonePlaced behind

section Kinds

variable (hid : '"' ∉ id.toList)
include hid

theorem framed_textArea (hkind : f.kind = .textArea) :
    Framed id (Component.text (controlMarkup id f)) (placeholderAttribute f) := by
  have htag : Reads .text "  <textarea id=\"" [] (.quoted '"' ['i', 'd'] []) := .of_list rfl rfl
  have hcontrol : Reads (.quoted '"' ['i', 'd'] id.toList) "\" [formControl]=\"control\""
      [("id", String.ofList id.toList), ("[formControl]", "control")] .between := .of_list rfl rfl
  have hback : Reads .between "></textarea>" [] .text := .of_list rfl rfl
  have hfront := htag.between hid hcontrol
  rw [String.ofList_toList] at hfront
  refine ⟨_, _, _, _, _, ?_, hfront, ?_, hback, nofun⟩
  · unfold controlMarkup
    rw [hkind]
    simp only [Component.text, Text.join, String.intercalate_singleton, String.append_assoc]
  · simp [NonePlaced]

theorem framed_list (hkind : f.kind = .list) :
    Framed id (Component.text (controlMarkup id f)) (placeholderAttribute f) := by
  have htag : Reads .text "  <div id=\"" [] (.quoted '"' ['i', 'd'] []) := .of_list rfl rfl
  have hlist : Reads (.quoted '"' ['i', 'd'] id.toList) "\" class=\"list\">"
      [("id", String.ofList id.toList), ("class", "list")] .text := .of_list rfl rfl
  have hbreak : Reads .text "\n" [] .text := .of_list rfl rfl
  have hloop : Reads .text "    @for (item of control.controls; track $index) \x7b" [] .text :=
    .of_list rfl rfl
  have hitem : Reads .text "      <div class=\"list-item\">" [("class", "list-item")] .text :=
    .of_list rfl rfl
  have hinput : Reads .text "        <input type=\"text\" [formControl]=\"item\""
      [("type", "text"), ("[formControl]", "item")] .between := .of_list rfl rfl
  have hend : Reads .between " />" [] .text := .of_list rfl rfl
  have hremove : Reads .text
      "        <button type=\"button\" (click)=\"removeItem($index)\">Remove</button>"
      [("type", "button"), ("(click)", "removeItem($index)")] .text := .of_list rfl rfl
  have hclose : Reads .text "      </div>" [] .text := .of_list rfl rfl
  have hbrace : Reads .text "    \x7d" [] .text := .of_list rfl rfl
  have hadd : Reads .text "    <button type=\"button\" (click)=\"addItem()\">Add</button>"
      [("type", "button"), ("(click)", "addItem()")] .text := .of_list rfl rfl
  have hlast : Reads .text "  </div>" [] .text := .of_list rfl rfl
  have hfront := (htag.between hid hlist).append (hbreak.append (hloop.append (hbreak.append
    (hitem.append (hbreak.append hinput)))))
  rw [String.ofList_toList] at hfront
  refine ⟨_, _, _, _, _, ?_, hfront, ?_, hend.append (hbreak.append (hremove.append
    (hbreak.append (hclose.append (hbreak.append (hbrace.append (hbreak.append (hadd.append
      (hbreak.append hlast))))))))), ?_⟩
  · unfold controlMarkup
    rw [hkind]
    simp only [Component.text, Text.join, String.intercalate_cons_cons,
      String.intercalate_singleton, String.append_assoc]
  · simp [NonePlaced]
  · simp [NonePlaced]

omit hid in
theorem controlMarkup_eq_input (hkind : f.kind ∉ [.boolean, .textArea, .enumeration, .list]) :
    controlMarkup id f =
      ["  <input id=\"" ++ id ++ "\" type=\"" ++ inputType f.kind ++
        "\" [formControl]=\"control\"" ++ placeholderAttribute f ++ " />"] := by
  unfold controlMarkup
  revert hkind
  cases f.kind <;> simp

theorem framed_input (hkind : f.kind ∉ [.boolean, .textArea, .enumeration, .list]) :
    Framed id (Component.text (controlMarkup id f)) (placeholderAttribute f) := by
  have htag : Reads .text "  <input id=\"" [] (.quoted '"' ['i', 'd'] []) := .of_list rfl rfl
  have htype : Reads (.quoted '"' ['i', 'd'] id.toList) "\" type=\""
      [("id", String.ofList id.toList)] (.quoted '"' ['t', 'y', 'p', 'e'] []) := .of_list rfl rfl
  have hplain : '"' ∉ (inputType f.kind).toList := by
    cases f.kind <;> decide
  have hcontrol : Reads (.quoted '"' ['t', 'y', 'p', 'e'] (inputType f.kind).toList)
      "\" [formControl]=\"control\""
      [("type", String.ofList (inputType f.kind).toList), ("[formControl]", "control")]
      .between := .of_list rfl rfl
  have hback : Reads .between " />" [] .text := .of_list rfl rfl
  have hfront := (htag.between hid htype).between hplain hcontrol
  rw [String.ofList_toList] at hfront
  refine ⟨_, _, _, _, _, ?_, hfront, ?_, hback, nofun⟩
  · rw [controlMarkup_eq_input hkind]
    simp only [Component.text, Text.join, String.intercalate_singleton, String.append_assoc]
  · simp [NonePlaced]

/-- A box to tick has no placeholder. -/
theorem exists_reads_boolean (hkind : f.kind = .boolean) :
    ∃ found last, Reads .text (Component.text (controlMarkup id f)) (("id", id) :: found) last ∧
      NonePlaced found := by
  have htag : Reads .text "  <input id=\"" [] (.quoted '"' ['i', 'd'] []) := .of_list rfl rfl
  have hbox : Reads (.quoted '"' ['i', 'd'] id.toList)
      "\" type=\"checkbox\" [formControl]=\"control\" />"
      [("id", String.ofList id.toList), ("type", "checkbox"), ("[formControl]", "control")]
      .text := .of_list rfl rfl
  have hmarkup : Component.text (controlMarkup id f) =
      "  <input id=\"" ++ id ++ "\" type=\"checkbox\" [formControl]=\"control\" />" := by
    unfold controlMarkup
    rw [hkind]
    simp only [Component.text, Text.join, String.intercalate_singleton]
  have hread := htag.between hid hbox
  rw [String.ofList_toList] at hread
  rw [hmarkup]
  exact ⟨_, _, hread, by simp [NonePlaced]⟩

/-- Nor has a choice. -/
theorem exists_reads_enumeration (hkind : f.kind = .enumeration) :
    ∃ found last, Reads .text (Component.text (controlMarkup id f)) (("id", id) :: found) last ∧
      NonePlaced found := by
  have htag : Reads .text "  <select id=\"" [] (.quoted '"' ['i', 'd'] []) := .of_list rfl rfl
  have hselect : Reads (.quoted '"' ['i', 'd'] id.toList) "\" [formControl]=\"control\">"
      [("id", String.ofList id.toList), ("[formControl]", "control")] .text := .of_list rfl rfl
  have hbreak : Reads .text "\n" [] .text := .of_list rfl rfl
  have hnull : Reads .text "    <option [ngValue]=\"null\">-</option>" [("[ngValue]", "null")]
      .text := .of_list rfl rfl
  have hloop : Reads .text "    @for (option of options; track $index) \x7b" [] .text :=
    .of_list rfl rfl
  have hoption : Reads .text
      "      <option [ngValue]=\"option\">\x7b\x7b option \x7d\x7d</option>"
      [("[ngValue]", "option")] .text := .of_list rfl rfl
  have hbrace : Reads .text "    \x7d" [] .text := .of_list rfl rfl
  have hlast : Reads .text "  </select>" [] .text := .of_list rfl rfl
  have hmarkup : Component.text (controlMarkup id f) =
      "  <select id=\"" ++ id ++ "\" [formControl]=\"control\">" ++
        ("\n" ++ ("    <option [ngValue]=\"null\">-</option>" ++ ("\n" ++
          ("    @for (option of options; track $index) \x7b" ++ ("\n" ++
            ("      <option [ngValue]=\"option\">\x7b\x7b option \x7d\x7d</option>" ++
              ("\n" ++ ("    \x7d" ++ ("\n" ++ "  </select>"))))))))) := by
    unfold controlMarkup
    rw [hkind]
    simp only [Component.text, Text.join, String.intercalate_cons_cons,
      String.intercalate_singleton, String.append_assoc]
  have hread := (htag.between hid hselect).append (hbreak.append (hnull.append (hbreak.append
    (hloop.append (hbreak.append (hoption.append (hbreak.append (hbrace.append
      (hbreak.append hlast)))))))))
  rw [String.ofList_toList] at hread
  rw [hmarkup]
  exact ⟨_, _, hread, by simp [NonePlaced]⟩

/-- Every other control has room for one. -/
theorem framed_controlMarkup (hboolean : f.kind ≠ .boolean) (hchoice : f.kind ≠ .enumeration) :
    Framed id (Component.text (controlMarkup id f)) (placeholderAttribute f) := by
  by_cases hmany : f.kind = .list
  · exact framed_list hid hmany
  · by_cases hlong : f.kind = .textArea
    · exact framed_textArea hid hlong
    · exact framed_input hid (by simp [hboolean, hchoice, hmany, hlong])

/-- The first attribute of a control is its id. -/
theorem exists_values_id_eq (f : Field) :
    ∃ others, values "id" (Component.text (controlMarkup id f)) = id :: others := by
  have hchosen (h : ∃ found last, Reads .text (Component.text (controlMarkup id f))
      (("id", id) :: found) last ∧ NonePlaced found) :
      ∃ others, values "id" (Component.text (controlMarkup id f)) = id :: others := by
    obtain ⟨found, last, hread, _⟩ := h
    rw [values, hread.found]
    exact ⟨_, rfl⟩
  by_cases hboolean : f.kind = .boolean
  · exact hchosen (exists_reads_boolean hid hboolean)
  · by_cases hchoice : f.kind = .enumeration
    · exact hchosen (exists_reads_enumeration hid hchoice)
    · obtain ⟨front, back, before, behind, last, hmarkup, hfront, _⟩ :=
        framed_controlMarkup hid hboolean hchoice
      rw [hmarkup, values, String.toList_append, attributes_append, hfront.found]
      exact ⟨_, rfl⟩

/-- A control that suggests nothing has no placeholder. -/
theorem values_of_none (h : placeholder? f = none) :
    values "placeholder" (Component.text (controlMarkup id f)) = [] := by
  have hattribute : placeholderAttribute f = "" := by
    rw [placeholderAttribute, h]
  have hread : ∃ found last, Reads .text (Component.text (controlMarkup id f))
      (("id", id) :: found) last ∧ NonePlaced found := by
    by_cases hboolean : f.kind = .boolean
    · exact exists_reads_boolean hid hboolean
    · by_cases hchoice : f.kind = .enumeration
      · exact exists_reads_enumeration hid hchoice
      · obtain ⟨front, back, before, behind, last, hmarkup, hfront, hbefore, hback, hbehind⟩ :=
          framed_controlMarkup hid hboolean hchoice
        rw [hmarkup, hattribute, String.empty_append]
        exact ⟨_, _, hfront.append hback, List.forall_mem_append.mpr ⟨hbefore, hbehind⟩⟩
  obtain ⟨found, last, hread, hnone⟩ := hread
  rw [values, hread.found, filter_eq_nil (hnone.with_id id)]
  rfl

/-- One that suggests a text has this between the quotes of its placeholder. -/
theorem around_of_some {text : String} (hboolean : f.kind ≠ .boolean)
    (hchoice : f.kind ≠ .enumeration) (h : placeholder? f = some text) :
    ∃ front back, Around "placeholder" text (Component.text (controlMarkup id f)) front back := by
  have hattribute : placeholderAttribute f = " placeholder=\"" ++ text ++ "\"" := by
    rw [placeholderAttribute, h]
  have hstart : Reads .between " placeholder=\"" [] (.quoted '"' letters []) := .of_list rfl rfl
  have hname : "placeholder".toList = letters := by decide +kernel
  obtain ⟨front, back, before, behind, last, hmarkup, hfront, hbefore, hback, hbehind⟩ :=
    framed_controlMarkup hid hboolean hchoice
  refine ⟨front ++ " placeholder=\"", back, ⟨?_, _, ?_, hbefore.with_id id⟩, ?_⟩
  · rw [hmarkup, hattribute]
    simp only [String.append_assoc]
  · have hread := hfront.append hstart
    rw [List.append_nil] at hread
    rw [hname]
    exact hread
  · rw [hback.found]
    exact hbehind

end Kinds

end Control

end AspectForms
