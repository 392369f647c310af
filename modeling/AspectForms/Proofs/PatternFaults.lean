import AspectForms.Proofs.Coverage
import AspectForms.Proofs.Paths

/-!
What lint makes of a text that is no pattern.  The report of a fault quotes the pattern, and lint tells by
the words of the report whether an engine without backtracking is to blame.  Main statement: a fault is an
error exactly if it is none of the unsupported kinds and the pattern itself does not hold these words; then
lint of every model that uses the pattern has an error there.
-/

namespace AspectForms

namespace Text

section Infix

variable {α : Type} {part xs ys : List α} {c : α}

/-- What does not hold a character lies on one side of it. -/
theorem infix_append_cons_iff (hc : c ∉ part) :
    part <:+: xs ++ c :: ys ↔ part <:+: xs ∨ part <:+: ys := by
  constructor
  · intro h
    rcases List.infix_append_iff_ne_nil.mp h with h | h | ⟨l, r, _, hr, rfl, _, hright⟩
    · exact .inl h
    · rcases List.infix_cons_iff.mp h with h | h
      · rcases List.prefix_cons_iff.mp h with rfl | ⟨t, rfl, _⟩
        · exact .inl List.nil_infix
        · exact absurd List.mem_cons_self hc
      · exact .inr h
    · -- across the character, `part` would hold it
      rcases List.prefix_cons_iff.mp hright with rfl | ⟨t, rfl, _⟩
      · exact absurd rfl hr
      · exact absurd (List.mem_append_right _ List.mem_cons_self) hc
  · rintro (h | h)
    · exact List.infix_append_of_infix_left h
    · exact List.infix_append_of_infix_right (List.infix_cons h)

theorem infix_concat_iff_of_not_mem (hc : c ∉ part) : part <:+: xs ++ [c] ↔ part <:+: xs := by
  rw [infix_append_cons_iff hc, List.infix_nil]
  constructor
  · rintro (h | rfl)
    · exact h
    · exact List.nil_infix
  · exact .inl

/-- A text begins behind all that does not hold its first character. -/
theorem infix_append_iff_of_head (hc : c ∉ xs) : c :: part <:+: xs ++ ys ↔ c :: part <:+: ys := by
  constructor
  · intro h
    rcases List.infix_append_iff_ne_nil.mp h with h | h | ⟨l, r, hl, _, heq, hleft, _⟩
    · exact absurd (h.subset List.mem_cons_self) hc
    · exact h
    · -- across the border, `c` would stand in `xs`
      obtain ⟨t, rfl⟩ : ∃ t, l = c :: t := by
        cases l with
        | nil => exact absurd rfl hl
        | cons d t => exact ⟨t, by rw [(List.cons.inj heq).1]⟩
      exact absurd (hleft.subset List.mem_cons_self) hc
  · exact List.infix_append_of_infix_right

/-- A text ends before all that does not hold its last character. -/
theorem infix_append_iff_of_last (hc : c ∉ ys) : part ++ [c] <:+: xs ++ ys ↔ part ++ [c] <:+: xs := by
  have hreverse : c :: part.reverse <:+: ys.reverse ++ xs.reverse ↔
      c :: part.reverse <:+: xs.reverse :=
    infix_append_iff_of_head (List.mem_reverse.not.mpr hc)
  rw [← List.reverse_append, ← List.reverse_concat, List.reverse_infix,
    List.reverse_infix] at hreverse
  exact hreverse

theorem not_infix_of_not_mem (hpart : c ∈ part) (hxs : c ∉ xs) : ¬part <:+: xs :=
  fun h => hxs (h.subset hpart)

end Infix

/-- A text without separators lies in one of the pieces between them. -/
theorem infix_joinWith_iff {sep : Char} {part : List Char} (hsep : sep ∉ part) (hne : part ≠ [])
    (ws : List (List Char)) : part <:+: joinWith sep ws ↔ ∃ w ∈ ws, part <:+: w := by
  induction ws with
  | nil => simp [joinWith, hne]
  | cons w ws ih =>
      cases ws with
      | nil => simp [joinWith]
      | cons v vs =>
          have hcons : joinWith sep (w :: v :: vs) = w ++ sep :: joinWith sep (v :: vs) := rfl
          rw [hcons, infix_append_cons_iff hsep, ih]
          exact (List.exists_mem_cons_iff ..).symm

theorem infix_join_iff {s : String} {sep : Char} (hs : s.toList = [sep]) {part : List Char}
    (hsep : sep ∉ part) (hne : part ≠ []) (lines : List String) :
    part <:+: (join s lines).toList ↔ ∃ line ∈ lines, part <:+: line.toList := by
  rw [toList_join hs, infix_joinWith_iff hsep hne]
  simp

end Text

theorem Lint.occursIn_iff {part cs : List Char} : occursIn part cs = true ↔ part <:+: cs := by
  induction cs with
  | nil => simp [occursIn]
  | cons c cs ih =>
      rw [occursIn, Bool.or_eq_true, ih, List.isPrefixOf_iff_prefix, List.infix_cons_iff]

namespace Pattern

/-- The words that lint looks for in the report of a fault. -/
def phrase : List Char := "not supported".toList

/-- Whether only an engine that does not go back finds fault. -/
def FaultKind.isUnsupported : FaultKind → Bool
  | unsupportedBackreference => true
  | unsupportedLookAround => true
  | _ => false

/-- The words begin behind what holds no `n`. -/
theorem phrase_infix_behind_iff {xs ys : List Char} (h : 'n' ∉ xs) :
    phrase <:+: xs ++ ys ↔ phrase <:+: ys := by
  have hphrase : phrase = 'n' :: "ot supported".toList := by decide +kernel
  rw [hphrase, Text.infix_append_iff_of_head h]

/-- The words end before what holds no `d`. -/
theorem phrase_infix_before_iff {xs ys : List Char} (h : 'd' ∉ ys) :
    phrase <:+: xs ++ ys ↔ phrase <:+: xs := by
  have hphrase : phrase = "not supporte".toList ++ ['d'] := by decide +kernel
  rw [hphrase, Text.infix_append_iff_of_last h]

theorem not_mem_toDigits {c : Char} (hc : c.isDigit = false) (n : Nat) :
    c ∉ Nat.toDigits 10 n := by
  intro h
  rw [Nat.isDigit_of_mem_toDigits (by decide) (by decide) h] at hc
  cases hc

theorem phrase_infix_number_iff (wording : String) (n : Nat) :
    phrase <:+: (wording ++ toString n ++ ")").toList ↔ phrase <:+: wording.toList := by
  have htail : 'd' ∉ Nat.toDigits 10 n ++ [')'] := by
    simp [not_mem_toDigits (c := 'd') rfl]
  have htext : (wording ++ toString n ++ ")").toList =
      wording.toList ++ (Nat.toDigits 10 n ++ [')']) := by
    simp [Nat.toList_repr]
  rw [htext, phrase_infix_before_iff htail]

theorem phrase_infix_ofList_iff (cs : List Char) :
    phrase <:+: (String.ofList cs).toList ↔ Lint.occursIn phrase cs = true := by
  rw [String.toList_ofList, Lint.occursIn_iff]

set_option maxRecDepth 4000 in
/-- The words stand in the wording of the unsupported kinds only. -/
theorem phrase_infix_message_iff (kind : FaultKind) :
    phrase <:+: kind.message.toList ↔ kind.isUnsupported = true := by
  -- a literal is matched with its characters first, since evaluating its `toList` is slow
  cases kind with
  | nestLimitExceeded limit =>
      refine (phrase_infix_number_iff _ limit).trans ((phrase_infix_ofList_iff _).trans ?_)
      change Lint.occursIn phrase _ = true ↔ false = true
      decide +kernel
  | _ =>
      refine (phrase_infix_ofList_iff _).trans ?_
      decide +kernel

theorem infix_trimmed_iff {part : List Char} (hr : '\r' ∉ part) (line : List Char) :
    part <:+: (if line.getLast? = some '\r' then line.dropLast else line) ↔ part <:+: line := by
  split
  · rename_i hlast
    obtain ⟨l, rfl⟩ := List.getLast?_eq_some_iff.mp hlast
    rw [List.dropLast_concat, Text.infix_concat_iff_of_not_mem hr]
  · rfl

/-- The lines of a pattern hold the words exactly if the pattern does. -/
theorem phrase_infix_patternLines_iff (cs : List Char) :
    (∃ line ∈ patternLines cs, phrase <:+: line) ↔ phrase <:+: cs := by
  have hbreak : '\n' ∉ phrase := by decide
  have hreturn : '\r' ∉ phrase := by decide
  obtain ⟨before, last, hpieces⟩ : ∃ before last,
      Text.splitWhen (· == '\n') cs = before ++ [last] :=
    ⟨_, _, (List.dropLast_append_getLast (Text.splitWhen_ne_nil _ _)).symm⟩
  have hcs : phrase <:+: cs ↔ ∃ w ∈ before ++ [last], phrase <:+: w := by
    rw [← hpieces, ← Text.infix_joinWith_iff hbreak (by decide), Text.joinWith_splitWhen]
  rw [hcs, patternLines, hpieces]
  simp only [List.dropLast_concat, List.getLast?_concat]
  split
  · rename_i hempty
    have hnone : ¬phrase <:+: last := by
      rw [List.isEmpty_iff.mp hempty, List.infix_nil]
      decide
    simp [infix_trimmed_iff hreturn, or_and_right, exists_or, hnone]
  · simp [infix_trimmed_iff hreturn, or_and_right, exists_or]

theorem marks_subset (column : Nat) (spans : List (Position × Position)) :
    ∀ c ∈ marks column spans, c = ' ' ∨ c = '^' := by
  induction spans generalizing column with
  | nil => simp [marks]
  | cons s spans ih =>
      obtain ⟨a, b⟩ := s
      intro c hc
      rcases List.mem_append.mp hc with hc | hc
      · rcases List.mem_append.mp hc with hc | hc
        · exact .inl (List.eq_of_mem_replicate hc)
        · exact .inr (List.eq_of_mem_replicate hc)
      · exact ih _ c hc

theorem not_phrase_infix_marks (blanks : Nat) (spans : List (Position × Position)) :
    ¬phrase <:+: List.replicate blanks ' ' ++ marks 0 spans := by
  have hn : 'n' ∉ List.replicate blanks ' ' ++ marks 0 spans := by
    intro h
    rcases List.mem_append.mp h with h | h
    · cases List.eq_of_mem_replicate h
    · rcases marks_subset 0 spans _ h with h | h <;> cases h
  exact Text.not_infix_of_not_mem (by decide) hn

/-- Neither the numbers before the lines nor the marks below them add the words. -/
theorem phrase_infix_markedLines_iff (width number : Nat) (spans : List (Position × Position))
    (lines : List (List Char)) :
    (∃ line ∈ markedLines width spans number lines, phrase <:+: line.toList) ↔
      ∃ line ∈ lines, phrase <:+: line := by
  induction lines generalizing number with
  | nil => simp [markedLines]
  | cons line lines ih =>
      -- blanks and a number before the line, blanks and carets below it
      have hlead : 'n' ∉ (if width = 0 then List.replicate 4 ' ' else
          List.replicate (width - (Nat.toDigits 10 number).length) ' ' ++
            Nat.toDigits 10 number ++ [':', ' ']) := by
        split
        · decide
        · simp [not_mem_toDigits (c := 'n') rfl]
      have hbelow (own : List (Position × Position)) (blanks : Nat) :
          ¬∃ l ∈ (if own.isEmpty then []
            else [String.ofList (List.replicate blanks ' ' ++ marks 0 own)]),
              phrase <:+: l.toList := by
        rintro ⟨l, hl, h⟩
        split at hl
        · cases hl
        · rw [List.mem_singleton.mp hl, String.toList_ofList] at h
          exact not_phrase_infix_marks blanks own h
      simp only [markedLines, List.mem_cons, List.mem_append, or_and_right, exists_or,
        exists_eq_left, String.toList_ofList, phrase_infix_behind_iff hlead, hbelow, or_false, ih]

theorem not_phrase_infix_spanNote (s : Position × Position) :
    ¬phrase <:+: (spanNote s).toList := by
  have hnumber {before after : String} {n : Nat} (hbefore : 's' ∉ before.toList)
      (hafter : 's' ∉ after.toList) : 's' ∉ (before ++ toString n ++ after).toList := by
    simp [Nat.toList_repr, not_mem_toDigits (c := 's') rfl, hbefore, hafter]
  have hline : 's' ∉ ("on line " ++ toString s.1.line ++ " (column ").toList :=
    hnumber (by decide) (by decide)
  have hs : 's' ∉ (spanNote s).toList :=
    hnumber (hnumber (hnumber hline (by decide)) (by decide)) (by decide)
  exact Text.not_infix_of_not_mem (by decide) hs

/-- The report of a fault holds the words exactly if its kind or the pattern does. -/
theorem phrase_infix_render_iff (pattern : String) (f : Fault) :
    phrase <:+: (f.render pattern).toList ↔
      f.kind.isUnsupported = true ∨ phrase <:+: pattern.toList := by
  have hbreak : '\n' ∉ phrase := by decide
  have hheading : ¬phrase <:+: "regex parse error:".toList :=
    Text.not_infix_of_not_mem (c := 'n') (by decide) (by decide)
  have hdivider : ¬phrase <:+: List.replicate 79 '~' :=
    Text.not_infix_of_not_mem (c := 'n') (by decide) (by decide)
  have hnotes (spans : List (Position × Position)) :
      ¬∃ line ∈ spans.map spanNote, phrase <:+: line.toList := by
    rintro ⟨line, hline, h⟩
    obtain ⟨s, _, rfl⟩ := List.mem_map.mp hline
    exact not_phrase_infix_spanNote s h
  have hmessage : phrase <:+: ("error: " ++ f.kind.message).toList ↔
      f.kind.isUnsupported = true := by
    -- a variable in place of the wording keeps `rw` from spelling it out
    generalize hm : f.kind.message = message
    rw [String.toList_append, phrase_infix_behind_iff (by decide), ← hm,
      phrase_infix_message_iff]
  unfold Fault.render
  dsimp only
  split
  · rw [Text.infix_join_iff rfl hbreak (by decide)]
    simp only [List.mem_append, List.mem_cons, List.not_mem_nil, or_false, or_and_right,
      exists_or, exists_eq_left, String.toList_ofList, phrase_infix_markedLines_iff,
      phrase_infix_patternLines_iff, hheading, hdivider, hnotes, hmessage, false_or]
    exact or_comm
  · rw [Text.infix_join_iff rfl hbreak (by decide)]
    simp only [List.mem_append, List.mem_cons, List.not_mem_nil, or_false, or_and_right,
      exists_or, exists_eq_left, phrase_infix_markedLines_iff, phrase_infix_patternLines_iff,
      hheading, hmessage, false_or]
    exact or_comm

end Pattern

/-- The kind of finding that a text which is no pattern is in its place. -/
def PatternRole.invalidKind : PatternRole → String
  | constraint => "invalid_regular_expression"
  | rulePart => "invalid_deconstruction_rule"

/-- A property has a pattern in a constraint of its outermost trait or as a part of its
rule. -/
def PropertyOf.Uses (p : Property DataType) (pattern : String) : PatternRole → Prop
  | .constraint => ∃ name?, .pattern name? pattern ∈ p.characteristic.constraints
  | .rulePart => ∃ n t rule parts, p.characteristic.unwrapped = .structured n t rule parts ∧
      pattern ∈ ruleParts rule

/-- Lint takes a pattern for an error, wherever an aspect or entity of a model uses
it. -/
structure Lint.Condemns (role : PatternRole) (pattern : String) : Prop where
  finding : ∃ found, patternFinding? role pattern = some found ∧ found.severity = .error ∧
    found.kind = role.invalidKind
  reported {model : Model} {e : Element DataType} {above : List (Property DataType)}
    {p : Property DataType} : e ∈ model.aspect :: model.entities → e.ShowsOwn {} above p →
      p.Uses pattern role → hasErrors model.lint = true ∧
        ∃ i ∈ model.lint, i.location = locate e.name (above ++ [p]) ∧ i.severity = .error ∧
          i.finding.kind = role.invalidKind

namespace Lint

variable {role : PatternRole} {pattern : String} {fault : Pattern.Fault}

section Faulty

variable (h : Pattern.verdict pattern = .faulty fault)
include h

theorem patternFinding?_of_phrase
    (hphrase : fault.kind.isUnsupported = true ∨ Pattern.phrase <:+: pattern.toList) :
    patternFinding? role pattern = some (.uncheckedPattern role pattern) := by
  rw [patternFinding?, h]
  exact if_pos (occursIn_iff.mpr ((Pattern.phrase_infix_render_iff pattern fault).mpr hphrase))

theorem patternFinding?_of_no_phrase
    (hphrase : ¬(fault.kind.isUnsupported = true ∨ Pattern.phrase <:+: pattern.toList)) :
    patternFinding? role pattern = some (.invalidPattern role pattern fault) := by
  rw [patternFinding?, h]
  exact if_neg fun hreport =>
    hphrase ((Pattern.phrase_infix_render_iff pattern fault).mp (occursIn_iff.mp hreport))

end Faulty

theorem mem_ownFindings_of_uses {p : Property DataType} {found : Finding}
    (hne : pattern ≠ "") (hp : p.Uses pattern role)
    (hfound : patternFinding? role pattern = some found) : found ∈ ownFindings p := by
  cases role with
  | constraint =>
      obtain ⟨name?, hc⟩ := hp
      refine constraintFinding_mem hc ?_
      rw [constraintFinding?, if_neg (by simpa using hne), hfound]
  | rulePart =>
      obtain ⟨n, t, rule, parts, hshape, hpart⟩ := hp
      have hmem : found ∈ (PropertyOf.ruleParts rule).filterMap (patternFinding? .rulePart) :=
        List.mem_filterMap.mpr ⟨pattern, hpart, hfound⟩
      simp [ownFindings, hshape, hmem]

theorem kind_invalidPattern (role : PatternRole) (pattern : String) (fault : Pattern.Fault) :
    (Finding.invalidPattern role pattern fault).kind = role.invalidKind := by
  cases role <;> rfl

/-- A pattern at fault is an error unless the fault is of an unsupported kind or the pattern,
which the report quotes, holds the words itself. -/
theorem condemns_iff (h : Pattern.verdict pattern = .faulty fault) :
    Condemns role pattern ↔
      fault.kind.isUnsupported = false ∧ ¬Pattern.phrase <:+: pattern.toList := by
  constructor
  · intro hcondemns
    obtain ⟨found, hfound, hsevere, _⟩ := hcondemns.finding
    have hsilent : ¬(fault.kind.isUnsupported = true ∨ Pattern.phrase <:+: pattern.toList) := by
      intro hphrase
      rw [patternFinding?_of_phrase h hphrase] at hfound
      rw [← Option.some.inj hfound] at hsevere
      cases hsevere
    simpa using hsilent
  · rintro ⟨hkind, hphrase⟩
    have hfinding := @patternFinding?_of_no_phrase role pattern fault h (by simp [hkind, hphrase])
    have hkind := kind_invalidPattern role pattern fault
    have hne : pattern ≠ "" := by
      rintro rfl
      cases h
    refine ⟨⟨_, hfinding, rfl, hkind⟩, fun he hp huses => ?_⟩
    have hissue := Model.element_subset_lint he
      (hp.property_subset (own_mem_property (mem_ownFindings_of_uses hne huses hfinding)))
    exact ⟨List.any_eq_true.mpr ⟨_, hissue, rfl⟩, _, hissue, rfl, rfl, hkind⟩

end Lint

namespace PatternFaultsWitness

def code {τ : Type} (type : τ) (expression : String) : Property τ :=
  ⟨"code", none, false, none,
    .trait "Code" (.scalar "Text" (some type) none) [.pattern none expression]⟩

/-- The words of the report on two lines. -/
theorem condemns_iff_of_broken_words :
    Pattern.verdict "not\nsupported(" = .faulty ⟨.groupUnclosed, ⟨13, 14⟩, none⟩ ∧
      Lint.Condemns .constraint "not\nsupported(" := by
  have hphrase : ¬Pattern.phrase <:+: "not\nsupported(".toList := by
    rw [← Lint.occursIn_iff]
    decide +kernel
  exact ⟨rfl, (Lint.condemns_iff rfl).mpr ⟨rfl, hphrase⟩⟩

def document (expression : String) : Document :=
  { ConstraintsWitness.document with
    aspect := ⟨"Reading", none, [code (.scalar "xsd:string") expression]⟩ }

def model (expression : String) : Model :=
  ⟨⟨"Reading", none, [code ConstraintsWitness.xsdString expression]⟩, []⟩

/-- A group without an end is no error if the pattern holds the words. -/
theorem quoted_words_hide_fault :
    Pattern.verdict "not supported(" = .faulty ⟨.groupUnclosed, ⟨13, 14⟩, none⟩ ∧
      (document "not supported(").resolve = .ok (model "not supported(") ∧
      (code ConstraintsWitness.xsdString "not supported(").Uses "not supported(" .constraint ∧
      (model "not supported(").lint.map (·.severity) = [.warning] ∧
      hasErrors (model "not supported(").lint = false :=
  ⟨rfl, Document.resolve_of_unfold (by decide +kernel) rfl, ⟨none, List.mem_cons_self⟩,
    by decide +kernel, by decide +kernel⟩

end PatternFaultsWitness

end AspectForms
