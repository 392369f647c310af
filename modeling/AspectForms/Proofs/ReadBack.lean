import AspectForms.Json.Tree
import AspectForms.Proofs.Expressions

/-!
Values read back from what is written of them.  Main statements: a quoted text reads as the text, whatever
follows it, and so does a value without numbers that has no key twice and few enough brackets inside each
other.  No control character is ever written.
-/

namespace AspectForms

/-- A value without numbers, with at most `depth` brackets inside each other and no
key twice in an object. -/
inductive Value.IsWordy : (depth : Nat) → Value → Prop
  | null {depth} : IsWordy depth .null
  | bool {depth b} : IsWordy depth (.bool b)
  | string {depth s} : IsWordy depth (.string s)
  | array {depth vs} (hitems : ∀ v ∈ vs, IsWordy depth v) : IsWordy (depth + 1) (.array vs)
  | object {depth fs} (hkeys : (fs.map Prod.fst).Nodup)
    (hfields : ∀ f ∈ fs, IsWordy depth f.2) : IsWordy (depth + 1) (.object fs)

namespace Json

theorem hexValue?_hexDigit : ∀ n < 16, hexValue? (hexDigit n) = some n := by
  decide

theorem hex4?_control {c : Char} (h : c.toNat < 0x20) :
    hex4? '0' '0' (hexDigit (c.toNat / 16)) (hexDigit (c.toNat % 16)) = some c.toNat := by
  have hzero : hexValue? '0' = some 0 := rfl
  have hhigh := hexValue?_hexDigit (c.toNat / 16) (by omega)
  have hlow := hexValue?_hexDigit (c.toNat % 16) (by omega)
  have hvalue : ((0 * 16 + 0) * 16 + c.toNat / 16) * 16 + c.toNat % 16 = c.toNat := by
    omega
  simp only [hex4?, hzero, hhigh, hlow, Option.bind_eq_bind, Option.bind_some, hvalue]
  rfl

theorem settle_none (c : Char) : Scan.settle none c = Scan.push c := rfl

/-- The escape of a control character that has no letter of its own. -/
theorem unquote_control {c : Char} (h : c.toNat < 0x20) (cs : List Char) :
    unquote none (['\\', 'u', '0', '0', hexDigit (c.toNat / 16), hexDigit (c.toNat % 16)] ++ cs) =
      (unquote none cs).map (.push c) := by
  have hhigh : isHighSurrogate c.toNat = false := by
    simp only [isHighSurrogate, Bool.and_eq_false_iff, decide_eq_false_iff_not]
    omega
  have hlow : isLowSurrogate c.toNat = false := by
    simp only [isLowSurrogate, Bool.and_eq_false_iff, decide_eq_false_iff_not]
    omega
  simp [unquote, hex4?_control h, hhigh, hlow]

/-- What is written of a character reads as the character. -/
theorem unquote_escape (c : Char) (cs : List Char) :
    unquote none (escape c ++ cs) = (unquote none cs).map (.push c) := by
  unfold escape
  split_ifs with hquote hslash hback hform hline hreturn htab hcontrol
  on_goal 8 => exact unquote_control hcontrol cs
  on_goal 8 => simp [unquote, hslash, hcontrol, settle_none]
  all_goals
    subst c
    simp [unquote, shortEscape?, settle_none]

/-- A quoted text reads as the text, whatever follows it. -/
theorem unquote_body (cs rest : List Char) :
    unquote none (cs.flatMap escape ++ '"' :: rest) = some ⟨some cs, rest⟩ := by
  induction cs with
  | nil => rfl
  | cons c cs ih =>
      rw [List.flatMap_cons, List.append_assoc, unquote_escape, ih]
      rfl

theorem quote_append (cs rest : List Char) :
    quote cs ++ rest = '"' :: (cs.flatMap escape ++ '"' :: rest) := by
  simp [quote]

end Json

namespace Value

theorem insertField_of_not_mem {key : String} {v : Value} {fs : List (String × Value)}
    (h : key ∉ fs.map Prod.fst) : insertField key v fs = fs ++ [(key, v)] := by
  induction fs with
  | nil => rfl
  | cons f fs ih =>
      obtain ⟨hf, hfs⟩ := not_or.mp (mt List.mem_cons.mpr h)
      rw [insertField, if_neg (Ne.symm hf), ih hfs, List.cons_append]

/-- Entries without a repeated key are the fields of their object. -/
theorem ofEntries_of_nodup {fs : List (String × Value)} (h : (fs.map Prod.fst).Nodup) :
    ofEntries fs = .object fs := by
  have hfold : ∀ before : List (String × Value), ((before ++ fs).map Prod.fst).Nodup →
      fs.foldl (fun fs e => insertField e.1 e.2 fs) before = before ++ fs := by
    clear h
    induction fs with
    | nil => exact fun before _ => (List.append_nil before).symm
    | cons f fs ih =>
        intro before hnodup
        have hnew : f.1 ∉ before.map Prod.fst := by
          rw [List.map_append, List.map_cons, List.nodup_append] at hnodup
          exact fun hmem => hnodup.2.2 _ hmem _ List.mem_cons_self rfl
        rw [List.foldl_cons, insertField_of_not_mem hnew, ih _ (by simpa using hnodup),
          List.append_assoc, List.singleton_append]
  rw [ofEntries, hfold [] h, List.nil_append]

end Value

namespace Json

/-- The value is read back from what is written of it, whatever follows, if `depth` more
brackets may be opened. -/
def ReadsBack (depth : Nat) (v : Value) : Prop :=
  ∀ fuel opened rest, (compact v).length ≤ fuel → opened + depth ≤ nestingLimit →
    ∃ t, readTree fuel opened (compact v ++ rest) = ⟨t, some rest⟩ ∧ t.value? = some v

/-- No blank and no closing bracket. -/
def IsOpening (c : Char) : Prop :=
  c ∉ [' ', '\n', '\t', '\r', ']', '\x7d']

theorem IsOpening.ne_bracket {c : Char} (h : IsOpening c) : c ≠ ']' := by
  rintro rfl
  simp [IsOpening] at h

theorem IsOpening.ne_brace {c : Char} (h : IsOpening c) : c ≠ '\x7d' := by
  rintro rfl
  simp [IsOpening] at h

theorem skipBlanks_of_isOpening {c : Char} (h : IsOpening c) (cs : List Char) :
    skipBlanks (c :: cs) = c :: cs := by
  simp only [IsOpening, List.mem_cons, not_or] at h
  rw [skipBlanks, if_neg]
  rintro (rfl | rfl | rfl | rfl) <;> simp at h

theorem exists_compact_eq {depth : Nat} {v : Value} (hv : v.IsWordy depth) :
    ∃ c cs, IsOpening c ∧ compact v = c :: cs := by
  cases hv with
  | null => exact ⟨'n', _, by simp [IsOpening], rfl⟩
  | @bool _ b =>
      cases b with
      | false => exact ⟨'f', _, by simp [IsOpening], rfl⟩
      | true => exact ⟨'t', _, by simp [IsOpening], rfl⟩
  | string => exact ⟨'"', _, by simp [IsOpening], rfl⟩
  | @array _ vs _ => 
      cases vs <;> exact ⟨'[', _, by simp [IsOpening], rfl⟩
  | @object _ fs _ _ =>
      cases fs <;> exact ⟨'\x7b', _, by simp [IsOpening], rfl⟩

theorem readTree_string (fuel opened : Nat) (s : String) (rest : List Char) :
    readTree (fuel + 1) opened (compact (.string s) ++ rest) = ⟨.string s, some rest⟩ := by
  rw [compact, quote_append, readTree]
  simp [skipBlanks, readString, unquote_body]

section Steps

variable {fuel opened : Nat} {text more rest : List Char} {t : Tree} {c : Char}

theorem readItems_last (h : readTree fuel opened text = ⟨t, some (']' :: rest)⟩) :
    readItems (fuel + 1) opened text = ⟨[t], some rest⟩ := by
  rw [readItems, h]
  rfl

theorem readItems_next (hc : IsOpening c)
    (h : readTree fuel opened text = ⟨t, some (',' :: c :: more)⟩) :
    readItems (fuel + 1) opened text =
      ⟨t :: (readItems fuel opened (c :: more)).found,
        (readItems fuel opened (c :: more)).rest⟩ := by
  have hcomma : skipBlanks (',' :: c :: more) = ',' :: c :: more := rfl
  rw [readItems, h]
  simp only [hcomma, skipBlanks_of_isOpening hc]
  split
  · rename_i heq
    exact absurd (List.cons.inj heq).1 hc.ne_bracket
  · rfl

theorem readEntries_last {key : String}
    (h : readTree fuel opened text = ⟨t, some ('\x7d' :: rest)⟩) :
    readEntries (fuel + 1) opened (quote key.toList ++ ':' :: text) =
      ⟨[(some key, t)], some rest⟩ := by
  rw [quote_append, readEntries]
  simp [skipBlanks, unquote_body, h]

theorem readEntries_next {key : String}
    (h : readTree fuel opened text = ⟨t, some (',' :: more)⟩) :
    readEntries (fuel + 1) opened (quote key.toList ++ ':' :: text) =
      ⟨(some key, t) :: (readEntries fuel opened more).found,
        (readEntries fuel opened more).rest⟩ := by
  rw [quote_append, readEntries]
  simp [skipBlanks, unquote_body, h]

theorem readTree_array (hc : IsOpening c) {ts : List Tree}
    (h : readItems fuel (opened + 1) (c :: more) = ⟨ts, some rest⟩) :
    readTree (fuel + 1) opened ('[' :: c :: more) =
      ⟨.array (nestingLimit ≤ opened) true ts, some rest⟩ := by
  have hbracket : skipBlanks ('[' :: c :: more) = '[' :: c :: more := rfl
  have hdigit : digit? '[' = none := rfl
  rw [readTree, hbracket]
  simp only [Char.reduceEq, ↓reduceIte, hdigit, Option.isSome_none, Bool.false_eq_true,
    or_self, skipBlanks_of_isOpening hc, h]
  split
  · rename_i heq
    exact absurd (List.cons.inj heq).1 hc.ne_bracket
  · rfl

theorem readTree_object (hc : IsOpening c) {es : List (Option String × Tree)}
    (h : readEntries fuel (opened + 1) (c :: more) = ⟨es, some rest⟩) :
    readTree (fuel + 1) opened ('\x7b' :: c :: more) =
      ⟨.object (nestingLimit ≤ opened) true es, some rest⟩ := by
  have hbrace : skipBlanks ('\x7b' :: c :: more) = '\x7b' :: c :: more := rfl
  have hdigit : digit? '\x7b' = none := rfl
  rw [readTree, hbrace]
  simp only [Char.reduceEq, ↓reduceIte, hdigit, Option.isSome_none, Bool.false_eq_true,
    or_self, skipBlanks_of_isOpening hc, h]
  split
  · rename_i heq
    exact absurd (List.cons.inj heq).1 hc.ne_brace
  · rfl

end Steps

section Inside

variable {depth : Nat}

/-- The items of an array up to its end. -/
theorem exists_readItems {v : Value} {vs : List Value}
    (hwordy : ∀ w ∈ v :: vs, w.IsWordy depth) (h : ∀ w ∈ v :: vs, ReadsBack depth w)
    {fuel opened : Nat} (hfuel : (compact v).length + (compactItems vs).length ≤ fuel)
    (hopened : opened + depth ≤ nestingLimit) (rest : List Char) :
    ∃ ts, readItems fuel opened (compact v ++ (compactItems vs ++ rest)) = ⟨ts, some rest⟩ ∧
      treeValues? ts = some (v :: vs) := by
  induction vs generalizing v fuel with
  | nil =>
      obtain ⟨fuel, rfl⟩ : ∃ n, fuel = n + 1 := ⟨fuel - 1, by simp [compactItems] at hfuel; omega⟩
      have hlength : (compact v).length ≤ fuel := by simpa [compactItems] using hfuel
      obtain ⟨t, ht, hvalue⟩ := h v List.mem_cons_self fuel opened _ hlength hopened
      exact ⟨[t], readItems_last ht, by simp [treeValues?, hvalue]⟩
  | cons w ws ih =>
      simp only [compactItems, List.length_cons, List.length_append] at hfuel
      obtain ⟨fuel, rfl⟩ : ∃ n, fuel = n + 1 := ⟨fuel - 1, by omega⟩
      obtain ⟨hwordy', hwordy⟩ := List.forall_mem_cons.mp hwordy
      obtain ⟨hv, h⟩ := List.forall_mem_cons.mp h
      obtain ⟨t, ht, hvalue⟩ := hv fuel opened (compactItems (w :: ws) ++ rest) (by omega) hopened
      have hrest : (compact w).length + (compactItems ws).length ≤ fuel := by omega
      obtain ⟨ts, hts, hvalues⟩ := ih hwordy h hrest
      obtain ⟨c, cs, hc, hw⟩ := exists_compact_eq (hwordy w List.mem_cons_self)
      have hnext : compactItems (w :: ws) ++ rest = ',' :: c :: (cs ++ (compactItems ws ++ rest)) := by
        simp [compactItems, hw]
      refine ⟨t :: ts, ?_, by simp [treeValues?, hvalue, hvalues]⟩
      rw [hnext] at ht ⊢
      rw [readItems_next hc ht]
      rw [hw, List.cons_append] at hts
      rw [hts]

/-- The fields of an object up to its end. -/
theorem exists_readEntries {f : String × Value} {fs : List (String × Value)}
    (h : ∀ g ∈ f :: fs, ReadsBack depth g.2) {fuel opened : Nat}
    (hfuel : (compactField f).length + (compactFields fs).length ≤ fuel)
    (hopened : opened + depth ≤ nestingLimit) (rest : List Char) :
    ∃ es, readEntries fuel opened (compactField f ++ (compactFields fs ++ rest)) =
        ⟨es, some rest⟩ ∧ treeEntries? es = some (f :: fs) := by
  induction fs generalizing f fuel with
  | nil =>
      obtain ⟨key, v⟩ := f
      simp only [compactField, compactFields, List.length_append, List.length_cons] at hfuel
      obtain ⟨fuel, rfl⟩ : ∃ n, fuel = n + 1 := ⟨fuel - 1, by omega⟩
      obtain ⟨t, ht, hvalue⟩ := h _ List.mem_cons_self fuel opened (compactFields [] ++ rest)
        (by dsimp only; omega) hopened
      refine ⟨[(some key, t)], ?_, by simp [treeEntries?, treeEntry?, hvalue]⟩
      rw [compactField, List.append_assoc]
      exact readEntries_last ht
  | cons g gs ih =>
      obtain ⟨key, v⟩ := f
      simp only [compactField, compactFields, List.length_append, List.length_cons] at hfuel
      obtain ⟨fuel, rfl⟩ : ∃ n, fuel = n + 1 := ⟨fuel - 1, by omega⟩
      obtain ⟨hv, h⟩ := List.forall_mem_cons.mp h
      obtain ⟨t, ht, hvalue⟩ := hv fuel opened (compactFields (g :: gs) ++ rest)
        (by dsimp only; omega) hopened
      have hrest : (compactField g).length + (compactFields gs).length ≤ fuel := by omega
      obtain ⟨es, hes, hentries⟩ := ih h hrest
      refine ⟨(some key, t) :: es, ?_, by simp [treeEntries?, treeEntry?, hvalue, hentries]⟩
      have hnext : compactFields (g :: gs) ++ rest =
          ',' :: (compactField g ++ (compactFields gs ++ rest)) := by
        simp [compactFields]
      rw [hnext] at ht ⊢
      rw [compactField, List.append_assoc, List.cons_append, readEntries_next ht, hes]

end Inside

theorem exists_fuel {depth fuel : Nat} {v : Value} (hv : v.IsWordy depth)
    (hfuel : (compact v).length ≤ fuel) : ∃ n, fuel = n + 1 := by
  obtain ⟨c, cs, _, htext⟩ := exists_compact_eq hv
  rw [htext, List.length_cons] at hfuel
  exact ⟨fuel - 1, by omega⟩

theorem readsBack_array {depth : Nat} {vs : List Value} (hwordy : ∀ v ∈ vs, v.IsWordy depth)
    (h : ∀ v ∈ vs, ReadsBack depth v) : ReadsBack (depth + 1) (.array vs) := by
  intro fuel opened rest hfuel hopened
  obtain ⟨fuel, rfl⟩ := exists_fuel (.array hwordy) hfuel
  have hshallow : ¬nestingLimit ≤ opened := by omega
  cases vs with
  | nil =>
      refine ⟨.array (nestingLimit ≤ opened) true [], ?_, ?_⟩
      · rw [readTree]
        rfl
      · simp [Tree.value?, treeValues?, hshallow]
  | cons v vs =>
      simp only [compact, List.length_cons, List.length_append] at hfuel
      have hitems : (compact v).length + (compactItems vs).length ≤ fuel := by omega
      have hroom : opened + 1 + depth ≤ nestingLimit := by omega
      obtain ⟨ts, hts, hvalues⟩ := exists_readItems hwordy h hitems hroom rest
      obtain ⟨c, cs, hc, hv⟩ := exists_compact_eq (hwordy v List.mem_cons_self)
      refine ⟨.array (nestingLimit ≤ opened) true ts, ?_, ?_⟩
      · rw [compact, List.cons_append, List.cons_append, List.append_assoc]
        rw [hv, List.cons_append] at hts ⊢
        exact readTree_array hc hts
      · simp [Tree.value?, hvalues, hshallow]

theorem readsBack_object {depth : Nat} {fs : List (String × Value)}
    (hkeys : (fs.map Prod.fst).Nodup) (hwordy : ∀ f ∈ fs, f.2.IsWordy depth)
    (h : ∀ f ∈ fs, ReadsBack depth f.2) : ReadsBack (depth + 1) (.object fs) := by
  intro fuel opened rest hfuel hopened
  obtain ⟨fuel, rfl⟩ := exists_fuel (.object hkeys hwordy) hfuel
  have hshallow : ¬nestingLimit ≤ opened := by omega
  cases fs with
  | nil =>
      refine ⟨.object (nestingLimit ≤ opened) true [], ?_, ?_⟩
      · rw [readTree]
        rfl
      · simp [Tree.value?, treeEntries?, hshallow, Value.ofEntries_of_nodup]
  | cons f fs =>
      simp only [compact, List.length_cons, List.length_append] at hfuel
      have hfields : (compactField f).length + (compactFields fs).length ≤ fuel := by omega
      have hroom : opened + 1 + depth ≤ nestingLimit := by omega
      obtain ⟨es, hes, hentries⟩ := exists_readEntries h hfields hroom rest
      refine ⟨.object (nestingLimit ≤ opened) true es, ?_, ?_⟩
      · rw [compact, List.cons_append, List.cons_append, List.append_assoc]
        rw [compactField, quote_append] at hes ⊢
        exact readTree_object (by simp [IsOpening]) hes
      · simp [Tree.value?, hentries, hshallow, Value.ofEntries_of_nodup hkeys]

/-- A value of words is read back. -/
theorem readsBack_of_isWordy {depth : Nat} {v : Value} (hv : v.IsWordy depth) :
    ReadsBack depth v := by
  induction hv with
  | @null depth =>
      intro fuel opened rest hfuel _
      obtain ⟨fuel, rfl⟩ := exists_fuel (@Value.IsWordy.null depth) hfuel
      exact ⟨.null, by rw [readTree]; rfl, rfl⟩
  | @bool depth b =>
      intro fuel opened rest hfuel _
      obtain ⟨fuel, rfl⟩ := exists_fuel (@Value.IsWordy.bool depth b) hfuel
      refine ⟨.bool b, ?_, rfl⟩
      rw [readTree]
      cases b <;> rfl
  | @string depth s =>
      intro fuel opened rest hfuel _
      obtain ⟨fuel, rfl⟩ := exists_fuel (@Value.IsWordy.string depth s) hfuel
      exact ⟨.string s, readTree_string fuel opened s rest, rfl⟩
  | array hitems ih => exact readsBack_array hitems ih
  | object hkeys hfields ih => exact readsBack_object hkeys hfields ih

/-- The text of a value of words reads as the value. -/
theorem parse?_text {depth : Nat} {v : Value} (hv : v.IsWordy depth)
    (hdepth : depth ≤ nestingLimit) : parse? (text v) = some v := by
  obtain ⟨t, ht, hvalue⟩ := readsBack_of_isWordy hv (2 * (compact v).length + 2) 0 [] (by omega)
    (by omega)
  rw [List.append_nil] at ht
  simp [parse?, readText, text, ht, hvalue, skipBlanks]

/-- No character of a text is a control character of ASCII. -/
def Printable (cs : List Char) : Prop := ∀ c ∈ cs, 0x20 ≤ c.toNat

theorem Printable.append {xs ys : List Char} (hxs : Printable xs) (hys : Printable ys) :
    Printable (xs ++ ys) :=
  List.forall_mem_append.mpr ⟨hxs, hys⟩

theorem Printable.cons {c : Char} {cs : List Char} (hc : 0x20 ≤ c.toNat) (hcs : Printable cs) :
    Printable (c :: cs) :=
  List.forall_mem_cons.mpr ⟨hc, hcs⟩

theorem printable_escape (c : Char) : Printable (escape c) := by
  have hhex : ∀ n < 16, 0x20 ≤ (hexDigit n).toNat := by decide
  unfold escape
  split_ifs with _ _ _ _ _ _ _ hcontrol
  on_goal 8 =>
    have hhigh := hhex (c.toNat / 16) (by omega)
    have hlow := hhex (c.toNat % 16) (by omega)
    simp [Printable, hhigh, hlow]
  on_goal 8 => simpa [Printable] using hcontrol
  all_goals simp [Printable]

theorem printable_quote (cs : List Char) : Printable (quote cs) := by
  have hbody : Printable (cs.flatMap escape) := by
    intro d hd
    obtain ⟨c, _, hd⟩ := List.mem_flatMap.mp hd
    exact printable_escape c d hd
  exact .cons (by decide) (hbody.append (.cons (by decide) nofun))

theorem printable_of_isNumeral {c : Char} (h : Script.IsNumeral c) : 0x20 ≤ c.toNat := by
  rcases h with hdigit | hsign
  · have hbounds : '0'.toNat ≤ c.toNat := by
      simp only [Char.isDigit, Bool.and_eq_true, decide_eq_true_eq] at hdigit
      exact hdigit.1
    exact Nat.le_trans (by decide) hbounds
  · simp only [List.mem_cons, List.not_mem_nil, or_false] at hsign
    rcases hsign with rfl | rfl | rfl | rfl <;> decide

theorem printable_numberText (n : Number) : Printable (numberText n).toList := by
  rcases Script.numberText_cases n with hnull | hnumeral
  · rw [hnull]
    simp [Printable]
  · exact fun c hc => printable_of_isNumeral (hnumeral c hc)

mutual

theorem printable_compact : ∀ v : Value, Printable (compact v)
  | .null => by simp [compact, Printable]
  | .bool b => by cases b <;> simp [compact, Printable]
  | .number n => printable_numberText n
  | .string s => printable_quote s.toList
  | .array [] => by simp [compact, Printable]
  | .array (v :: vs) => .cons (by decide) ((printable_compact v).append (printable_compactItems vs))
  | .object [] => by simp [compact, Printable]
  | .object (f :: fs) => .cons (by decide) ((printable_compactField f).append (printable_compactFields fs))
termination_by structural v => v

theorem printable_compactItems : ∀ vs : List Value, Printable (compactItems vs)
  | [] => by simp [compactItems, Printable]
  | v :: vs => .cons (by decide) ((printable_compact v).append (printable_compactItems vs))
termination_by structural vs => vs

theorem printable_compactField : ∀ f : String × Value, Printable (compactField f)
  | (key, v) => (printable_quote key.toList).append (.cons (by decide) (printable_compact v))
termination_by structural f => f

theorem printable_compactFields : ∀ fs : List (String × Value), Printable (compactFields fs)
  | [] => by simp [compactFields, Printable]
  | f :: fs => .cons (by decide) ((printable_compactField f).append (printable_compactFields fs))
termination_by structural fs => fs

end

end Json

end AspectForms
