import AspectForms.Component.Source
import AspectForms.Json.Printer
import AspectForms.Proofs.Paths

/-!
Reading generated files: the lines that start with a text, and the expressions in a line of a script.
Brackets and quotes hide the commas inside them, so that a list of expressions can be read back from its
text.  Main statements: reading a joined list gives its expressions, and the text of a value is one
expression, whatever texts it holds.
-/

namespace AspectForms

namespace Script

def opensWith (start line : String) : Bool := start.toList.isPrefixOf line.toList

def Misses (start line : String) : Prop := opensWith start line = false

/-- Whether two texts have different characters at one place. -/
def differ : List Char → List Char → Bool
  | a :: as, b :: bs => a != b || differ as bs
  | _, _ => false

/-- The line parts from the text before either ends. -/
def Differs (start line : String) : Prop := differ start.toList line.toList = true

theorem opensWith_append (start rest : String) : opensWith start (start ++ rest) = true := by
  rw [opensWith, String.toList_append]
  exact List.isPrefixOf_iff_prefix.mpr (List.prefix_append _ _)

section Texts

variable {start line : String} {xs ys : List Char}

-- The kernel takes a string literal for `String.ofList` of its characters, but is slow to read it.
theorem Misses.of_lists (h : xs.isPrefixOf ys = false) :
    Misses (String.ofList xs) (String.ofList ys) := by
  rw [Misses, opensWith, String.toList_ofList, String.toList_ofList]
  exact h

theorem Differs.of_lists (h : differ xs ys = true) :
    Differs (String.ofList xs) (String.ofList ys) := by
  rw [Differs, String.toList_ofList, String.toList_ofList]
  exact h

theorem differ_append (h : differ xs ys = true) (zs : List Char) :
    differ xs (ys ++ zs) = true := by
  induction xs, ys using differ.induct with
  | case1 x xs y ys ih =>
      simp only [differ, Bool.or_eq_true, List.cons_append] at h ⊢
      exact h.imp_right ih
  | case2 xs ys hend => simp [differ] at h

theorem not_isPrefixOf_of_differ (h : differ xs ys = true) : xs.isPrefixOf ys = false := by
  induction xs, ys using differ.induct with
  | case1 x xs y ys ih =>
      simp only [differ, Bool.or_eq_true, bne_iff_ne] at h
      simp only [List.isPrefixOf, Bool.and_eq_false_iff, beq_eq_false_iff_ne]
      exact h.imp_right ih
  | case2 xs ys hend => simp [differ] at h

theorem Differs.append (h : Differs start line) (rest : String) :
    Differs start (line ++ rest) := by
  rw [Differs, String.toList_append]
  exact differ_append h _

theorem Differs.misses (h : Differs start line) : Misses start line :=
  not_isPrefixOf_of_differ h

theorem Differs.append_ne (h : Differs start line) (rest other : String) :
    start ++ rest ≠ line ++ other := by
  intro heq
  have hmisses := (h.append other).misses
  rw [Misses, ← heq, opensWith_append] at hmisses
  cases hmisses

end Texts

/-- None of the lines starts with the text. -/
def NoneOpens (start : String) (lines : List String) : Prop :=
  ∀ line ∈ lines, Misses start line

namespace NoneOpens

variable {start line : String} {lines others : List String}

theorem nil : NoneOpens start [] := nofun

theorem cons (h : Misses start line) (hlines : NoneOpens start lines) :
    NoneOpens start (line :: lines) :=
  List.forall_mem_cons.mpr ⟨h, hlines⟩

theorem append (h : NoneOpens start lines) (hothers : NoneOpens start others) :
    NoneOpens start (lines ++ others) :=
  List.forall_mem_append.mpr ⟨h, hothers⟩

theorem when (condition : Bool) (h : NoneOpens start lines) :
    NoneOpens start (Component.when condition lines) := by
  cases condition
  · exact nil
  · exact h

end NoneOpens

/-- The lines that start with the text are, in order, those that go on with
`rests`. -/
def Opening (start : String) (rests lines : List String) : Prop :=
  lines.filter (opensWith start) = rests.map (start ++ ·)

theorem NoneOpens.opening {start : String} {lines : List String}
    (h : NoneOpens start lines) : Opening start [] lines := by
  rw [Opening, List.filter_eq_nil_iff.mpr, List.map_nil]
  intro line hline
  rw [Bool.not_eq_true]
  exact h line hline

namespace Opening

variable {start rest line : String} {rests lines others : List String}

theorem append {ends : List String} (h : Opening start rests lines)
    (hothers : Opening start ends others) :
    Opening start (rests ++ ends) (lines ++ others) := by
  rw [Opening, List.filter_append, h, hothers, List.map_append]

theorem skip (h : NoneOpens start lines) (hothers : Opening start rests others) :
    Opening start rests (lines ++ others) :=
  h.opening.append hothers

theorem next (h : Misses start line) (hlines : Opening start rests lines) :
    Opening start rests (line :: lines) :=
  skip (.cons h .nil) hlines

theorem here (hline : line = start ++ rest) (hlines : Opening start rests lines) :
    Opening start (rest :: rests) (line :: lines) := by
  rw [Opening, hline, List.filter_cons_of_pos (opensWith_append start rest), hlines,
    List.map_cons]

theorem before (h : Opening start rests lines) (hothers : NoneOpens start others) :
    Opening start rests (lines ++ others) :=
  List.append_nil rests ▸ h.append hothers.opening

theorem eq_of_singleton {other : String} (h : Opening start [rest] lines)
    (hother : Opening start [other] lines) : rest = other := by
  have hlines := h.symm.trans hother
  simpa using hlines

theorem flatMap {α : Type} {f : α → List String} {g : α → String}
    (h : ∀ a, Opening start [g a] (f a)) (as : List α) :
    Opening start (as.map g) (as.flatMap f) := by
  induction as with
  | nil => rfl
  | cons a as ih => exact (h a).append ih

end Opening

theorem misses_importLine {start : String} (h : Differs start "import \x7b ")
    (names : List String) (module : String) :
    Misses start (Component.importLine names module) :=
  ((((h.append _).append _).append _).append _).misses

/-- The lines above a class do not start like its members. -/
theorem noneOpens_decorator {c : Char} {rest : List Char} (h : c ∉ ['s', 'i', 't'])
    (selector stem : String) (imports : List String) :
    NoneOpens (String.ofList (' ' :: ' ' :: c :: rest))
      (Component.decorator selector stem imports) := by
  have hdiffers {d : Char} (hd : d ∈ ['s', 'i', 't']) (tail : List Char) :
      Differs (String.ofList (' ' :: ' ' :: c :: rest))
        (String.ofList (' ' :: ' ' :: d :: tail)) := by
    have hne : c ≠ d := fun heq => h (heq ▸ hd)
    exact .of_lists (by simp [differ, hne])
  refine .cons (.of_lists rfl) (.cons ?_ (.cons ?_ (.cons ?_ (.cons ?_
    (.cons (.of_lists rfl) .nil)))))
  · exact (((hdiffers (by decide) _).append _).append _).misses
  · exact (hdiffers (by decide) _).misses
  · exact (((hdiffers (by decide) _).append _).append _).misses
  · exact (((hdiffers (by decide) _).append _).append _).misses

/-- What a reader is in the midst of, below some open brackets. -/
inductive Mode
  | code (depth : Nat)
  | text (quote : Char) (depth : Nat)
  /-- After a backslash. -/
  | escape (quote : Char) (depth : Nat)
deriving DecidableEq

def quotes : List Char := ['"', '\x27']

def openers : List Char := ['(', '[', '\x7b']

def closers : List Char := [')', ']', '\x7d']

/-- The mode after one more character. -/
def Mode.next : Mode → Char → Mode
  | .code depth, c =>
    if c ∈ quotes then .text c depth
    else if c ∈ openers then .code (depth + 1)
    else if c ∈ closers then .code (depth - 1)
    else .code depth
  | .text quote depth, c =>
    if c = '\\' then .escape quote depth
    else if c = quote then .code depth
    else .text quote depth
  | .escape quote depth, _ => .text quote depth

/-- The pieces between the commas that stand outside all brackets. -/
def cutCommas (m : Mode) : List Char → List (List Char)
  | [] => [[]]
  | c :: cs =>
    if m = .code 0 ∧ c = ',' then [] :: cutCommas m cs
    else (cutCommas (m.next c) cs).modifyHead (c :: ·)

/-- A piece as a text, without the blanks in front. -/
def trimmed (piece : List Char) : String := String.ofList (piece.dropWhile (· == ' '))

/-- The expressions of a list. -/
def expressions (list : String) : List String :=
  if list.isEmpty then [] else (cutCommas (.code 0) list.toList).map trimmed

/-- What stands in the outermost brackets; `inside` has been read of the one that
is open. -/
def cutBrackets (m : Mode) (inside : List Char) : List Char → List (List Char)
  | [] => []
  | c :: cs =>
    if m = .code 1 ∧ m.next c = .code 0 then inside :: cutBrackets (.code 0) [] cs
    else cutBrackets (m.next c) (if m = .code 0 then [] else inside ++ [c]) cs

/-- The expressions in the last bracket of a line. -/
def lastList (line : String) : List String :=
  expressions (String.ofList ((cutBrackets (.code 0) [] line.toList).getLastD []))

/-- Neither a quote nor a bracket. -/
def IsPlain (c : Char) : Prop := c ∉ quotes ∧ c ∉ openers ∧ c ∉ closers

instance (c : Char) : Decidable (IsPlain c) :=
  inferInstanceAs (Decidable (_ ∧ _))

/-- Whether a text has neither quotes nor brackets nor commas. -/
def isPlainText (xs : List Char) : Bool := xs.all fun c => decide (IsPlain c ∧ c ≠ ',')

/-- What may stand between two quotes. -/
inductive Quoted (quote : Char) : List Char → Prop
  | nil : Quoted quote []
  | plain {c cs} (hslash : c ≠ '\\') (hquote : c ≠ quote) (h : Quoted quote cs) :
    Quoted quote (c :: cs)
  | escape {c cs} (h : Quoted quote cs) : Quoted quote ('\\' :: c :: cs)

/-- A text that closes every quote and bracket that it opens.  Without `commas` it
has none outside its brackets. -/
inductive Balanced : (commas : Bool) → List Char → Prop
  | nil {commas} : Balanced commas []
  | plain {commas c cs} (hc : IsPlain c) (hcomma : commas = true ∨ c ≠ ',')
    (h : Balanced commas cs) : Balanced commas (c :: cs)
  | quoted {commas quote body cs} (hquote : quote ∈ quotes) (hbody : Quoted quote body)
    (h : Balanced commas cs) : Balanced commas (quote :: (body ++ quote :: cs))
  | bracket {commas opener inner closer cs} (hopener : opener ∈ openers)
    (hcloser : closer ∈ closers) (hinner : Balanced true inner)
    (h : Balanced commas cs) : Balanced commas (opener :: (inner ++ closer :: cs))

namespace Balanced

variable {commas : Bool} {xs ys : List Char}

theorem append (hxs : Balanced commas xs) (hys : Balanced commas ys) :
    Balanced commas (xs ++ ys) := by
  induction hxs with
  | nil => exact hys
  | plain hc hcomma _ ih => exact .plain hc hcomma (ih hys)
  | quoted hquote hbody _ ih =>
      rw [List.cons_append, List.append_assoc]
      exact .quoted hquote hbody (ih hys)
  | bracket hopener hcloser hinner _ _ ih =>
      rw [List.cons_append, List.append_assoc]
      exact .bracket hopener hcloser hinner (ih hys)

theorem loosen (h : Balanced commas xs) : Balanced true xs := by
  induction h with
  | nil => exact .nil
  | plain hc _ _ ih => exact .plain hc (.inl rfl) ih
  | quoted hquote hbody _ ih => exact .quoted hquote hbody ih
  | bracket hopener hcloser hinner _ _ ih => exact .bracket hopener hcloser hinner ih

theorem of_plain (h : ∀ c ∈ xs, IsPlain c ∧ c ≠ ',') : Balanced commas xs := by
  induction xs with
  | nil => exact .nil
  | cons c cs ih =>
      obtain ⟨hc, hcomma⟩ := h c List.mem_cons_self
      exact .plain hc (.inr hcomma) (ih fun d hd => h d (List.mem_cons_of_mem c hd))

theorem of_text (s : String) (h : isPlainText s.toList = true) :
    Balanced commas s.toList :=
  of_plain fun c hc => of_decide_eq_true (List.all_eq_true.mp h c hc)

end Balanced

variable {commas : Bool} {xs : List Char}

theorem Mode.next_plain {depth : Nat} {c : Char} (hc : IsPlain c) :
    (Mode.code depth).next c = .code depth := by
  rw [Mode.next, if_neg hc.1, if_neg hc.2.1, if_neg hc.2.2]

theorem Mode.next_quote {depth : Nat} {quote : Char} (hquote : quote ∈ quotes) :
    (Mode.code depth).next quote = .text quote depth := by
  rw [Mode.next, if_pos hquote]

theorem Mode.next_opener {depth : Nat} {opener : Char} (h : opener ∈ openers) :
    (Mode.code depth).next opener = .code (depth + 1) := by
  have hquote : ∀ c ∈ openers, c ∉ quotes := by simp [openers, quotes]
  rw [Mode.next, if_neg (hquote opener h), if_pos h]

theorem Mode.next_closer {depth : Nat} {closer : Char} (h : closer ∈ closers) :
    (Mode.code (depth + 1)).next closer = .code depth := by
  have hother : ∀ c ∈ closers, c ∉ quotes ∧ c ∉ openers := by
    simp [closers, quotes, openers]
  rw [Mode.next, if_neg (hother closer h).1, if_neg (hother closer h).2, if_pos h,
    Nat.add_sub_cancel]

theorem ne_backslash_of_mem_quotes {quote : Char} (h : quote ∈ quotes) : quote ≠ '\\' := by
  have hquotes : ∀ c ∈ quotes, c ≠ '\\' := by simp [quotes]
  exact hquotes quote h

/-- A character that does not cut belongs to the piece that follows. -/
theorem cutCommas_cons (m : Mode) {c : Char} (h : m = .code 0 → c ≠ ',') (cs : List Char) :
    cutCommas m (c :: cs) = (cutCommas (m.next c) cs).modifyHead (c :: ·) := by
  rw [cutCommas, if_neg]
  rintro ⟨hm, hc⟩
  exact h hm hc

/-- No comma between quotes cuts a list. -/
theorem cutCommas_quoted {quote : Char} (hquote : quote ∈ quotes) (hbody : Quoted quote xs)
    (depth : Nat) (rest : List Char) :
    cutCommas (.text quote depth) (xs ++ quote :: rest) =
      (cutCommas (.code depth) rest).modifyHead (xs ++ quote :: ·) := by
  have hslash := ne_backslash_of_mem_quotes hquote
  induction hbody with
  | nil =>
      rw [List.nil_append, cutCommas_cons (.text quote depth) nofun, Mode.next,
        if_neg hslash, if_pos rfl]
      rfl
  | plain hc hother _ ih =>
      rw [List.cons_append, cutCommas_cons (.text quote depth) nofun, Mode.next,
        if_neg hc, if_neg hother, ih, List.modifyHead_modifyHead]
      rfl
  | escape _ ih =>
      rw [List.cons_append, List.cons_append, cutCommas_cons (.text quote depth) nofun,
        Mode.next, if_pos rfl, cutCommas_cons (.escape quote depth) nofun, Mode.next, ih,
        List.modifyHead_modifyHead, List.modifyHead_modifyHead]
      rfl

/-- No comma of a balanced text cuts the list that the text stands in. -/
theorem cutCommas_balanced (h : Balanced commas xs) {depth : Nat}
    (hdepth : commas = true → depth ≠ 0) (rest : List Char) :
    cutCommas (.code depth) (xs ++ rest) =
      (cutCommas (.code depth) rest).modifyHead (xs ++ ·) := by
  induction h generalizing depth rest with
  | nil =>
      rw [List.nil_append]
      cases cutCommas (.code depth) rest <;> rfl
  | plain hc hcomma _ ih =>
      have hcut (hmode : Mode.code depth = .code 0) : _ ≠ ',' :=
        hcomma.resolve_left fun hcommas => hdepth hcommas (Mode.code.inj hmode)
      rw [List.cons_append, cutCommas_cons (.code depth) hcut, Mode.next_plain hc,
        ih hdepth, List.modifyHead_modifyHead]
      rfl
  | quoted hquote hbody _ ih =>
      have hcut : ∀ q ∈ quotes, q ≠ ',' := by simp [quotes]
      rw [List.cons_append, List.append_assoc, List.cons_append,
        cutCommas_cons (.code depth) fun _ => hcut _ hquote, Mode.next_quote hquote,
        cutCommas_quoted hquote hbody, ih hdepth, List.modifyHead_modifyHead,
        List.modifyHead_modifyHead]
      simp [Function.comp_def]
  | bracket hopener hcloser _ _ ihinner ih =>
      have hopen : ∀ c ∈ openers, c ≠ ',' := by simp [openers]
      rw [List.cons_append, List.append_assoc, List.cons_append,
        cutCommas_cons (.code depth) fun _ => hopen _ hopener, Mode.next_opener hopener,
        ihinner fun _ => Nat.succ_ne_zero depth, cutCommas_cons (.code (depth + 1)) nofun,
        Mode.next_closer hcloser, ih hdepth, List.modifyHead_modifyHead,
        List.modifyHead_modifyHead, List.modifyHead_modifyHead]
      simp [Function.comp_def]

theorem cutBrackets_outside (inside xs : List Char) :
    cutBrackets (.code 0) inside xs = cutBrackets (.code 0) [] xs := by
  cases xs with
  | nil => rfl
  | cons c cs => simp [cutBrackets]

/-- What stands between quotes inside a bracket is read as part of it. -/
theorem cutBrackets_quoted {quote : Char} (hquote : quote ∈ quotes) (hbody : Quoted quote xs)
    (depth : Nat) (inside rest : List Char) :
    cutBrackets (.text quote depth) inside (xs ++ quote :: rest) =
      cutBrackets (.code depth) (inside ++ xs ++ [quote]) rest := by
  have hslash := ne_backslash_of_mem_quotes hquote
  induction hbody generalizing inside with
  | nil => simp [cutBrackets, Mode.next, hslash]
  | plain hc hother _ ih => simp [cutBrackets, Mode.next, hc, hother, ih]
  | escape _ ih => simp [cutBrackets, Mode.next, ih]

/-- A balanced text inside a bracket is read as part of it. -/
theorem cutBrackets_inside (h : Balanced commas xs) (depth : Nat) (inside rest : List Char) :
    cutBrackets (.code (depth + 1)) inside (xs ++ rest) =
      cutBrackets (.code (depth + 1)) (inside ++ xs) rest := by
  induction h generalizing depth inside rest with
  | nil => simp
  | plain hc _ _ ih => simp [cutBrackets, Mode.next_plain hc, ih]
  | quoted hquote hbody _ ih =>
      simp [cutBrackets, Mode.next_quote hquote, cutBrackets_quoted hquote hbody, ih]
  | bracket hopener hcloser _ _ ihinner ih =>
      simp [cutBrackets, Mode.next_opener hopener, ihinner, Mode.next_closer hcloser, ih]

/-- What stands in the brackets of a balanced text is found before what stands in
those behind it. -/
theorem exists_cutBrackets_eq (h : Balanced commas xs) (inside rest : List Char) :
    ∃ groups, cutBrackets (.code 0) inside (xs ++ rest) =
      groups ++ cutBrackets (.code 0) [] rest := by
  induction h generalizing inside with
  | nil => exact ⟨[], cutBrackets_outside inside rest⟩
  | plain hc _ _ ih =>
      obtain ⟨groups, hgroups⟩ := ih []
      exact ⟨groups, by simpa [cutBrackets, Mode.next_plain hc] using hgroups⟩
  | @quoted _ quote body _ hquote hbody _ ih =>
      obtain ⟨groups, hgroups⟩ := ih ([] ++ body ++ [quote])
      refine ⟨groups, ?_⟩
      rw [← hgroups, ← cutBrackets_quoted hquote hbody]
      simp [cutBrackets, Mode.next_quote hquote]
  | @bracket _ _ inner _ _ hopener hcloser hinner _ _ ih =>
      obtain ⟨groups, hgroups⟩ := ih []
      refine ⟨inner :: groups, ?_⟩
      simp [cutBrackets, Mode.next_opener hopener, cutBrackets_inside hinner,
        Mode.next_closer hcloser, hgroups]

theorem cutBrackets_plain (h : isPlainText xs = true) (inside : List Char) :
    cutBrackets (.code 0) inside xs = [] := by
  induction xs generalizing inside with
  | nil => rfl
  | cons c cs ih =>
      rw [isPlainText, List.all_cons, Bool.and_eq_true, decide_eq_true_eq] at h
      simp [cutBrackets, Mode.next_plain h.1.1, ih h.2]

/-- The last bracket of a line is what stands before its plain end. -/
theorem lastList_eq {line : String} {before inner after : List Char}
    {opener closer : Char} (hbefore : Balanced commas before)
    (hopener : opener ∈ openers) (hinner : Balanced true inner)
    (hcloser : closer ∈ closers) (hafter : isPlainText after = true)
    (hline : line.toList = before ++ opener :: (inner ++ closer :: after)) :
    lastList line = expressions (String.ofList inner) := by
  obtain ⟨groups, hgroups⟩ :=
    exists_cutBrackets_eq hbefore [] (opener :: (inner ++ closer :: after))
  have hlast : cutBrackets (.code 0) [] (opener :: (inner ++ closer :: after)) =
      [inner] := by
    simp [cutBrackets, Mode.next_opener hopener, cutBrackets_inside hinner,
      Mode.next_closer hcloser, cutBrackets_plain hafter]
  rw [lastList, hline, hgroups, hlast, List.getLastD_concat]

theorem balanced_comma : Balanced true ", ".toList :=
  .plain (by decide) (.inl rfl) (.of_text " " (by decide))

theorem Balanced.join {sep : String} {parts : List String}
    (hsep : Balanced commas sep.toList) (h : ∀ p ∈ parts, Balanced commas p.toList) :
    Balanced commas (Text.join sep parts).toList := by
  rw [Text.join, String.toList_intercalate]
  induction parts with
  | nil => exact .nil
  | cons p ps ih =>
      obtain ⟨hp, hps⟩ := List.forall_mem_cons.mp h
      cases ps with
      | nil => simpa using hp
      | cons q qs =>
          rw [List.map_cons, List.map_cons, List.intercalate_cons_cons]
          exact (hp.append hsep).append (ih hps)

/-- A text that can stand between the commas of a list. -/
structure IsItem (x : String) : Prop where
  balanced : Balanced false x.toList
  trimmed : trimmed x.toList = x
  nonempty : x ≠ ""

theorem IsItem.of_head {x : String} {c : Char} (h : Balanced false x.toList)
    (hhead : x.toList.head? = some c) (hc : c ≠ ' ') : IsItem x where
  balanced := h
  trimmed := by
    obtain ⟨cs, hx⟩ := List.head?_eq_some_iff.mp hhead
    rw [Script.trimmed, hx, List.dropWhile_cons_of_neg (by simpa using hc), ← hx,
      String.ofList_toList]
  nonempty := by
    rintro rfl
    cases hhead

theorem map_trimmed_blank (pieces : List (List Char)) :
    (pieces.modifyHead (' ' :: ·)).map trimmed = pieces.map trimmed := by
  cases pieces <;> rfl

theorem toList_join_cons_cons (x y : String) (ys : List String) :
    (Text.join ", " (x :: y :: ys)).toList =
      x.toList ++ ',' :: ' ' :: (Text.join ", " (y :: ys)).toList := by
  simp only [Text.join, String.toList_intercalate, List.map_cons,
    List.intercalate_cons_cons, List.append_assoc]
  rfl

theorem cutCommas_item {x : String} (hx : IsItem x) (rest : List Char) :
    cutCommas (.code 0) (x.toList ++ rest) =
      (cutCommas (.code 0) rest).modifyHead (x.toList ++ ·) :=
  cutCommas_balanced hx.balanced nofun rest

theorem cutCommas_join {x : String} {xs : List String} (h : ∀ y ∈ x :: xs, IsItem y) :
    (cutCommas (.code 0) (Text.join ", " (x :: xs)).toList).map trimmed = x :: xs := by
  obtain ⟨hx, hxs⟩ := List.forall_mem_cons.mp h
  induction xs generalizing x with
  | nil =>
      have hjoin : (Text.join ", " [x]).toList = x.toList ++ [] := by simp [Text.join]
      rw [hjoin, cutCommas_item hx, cutCommas, List.modifyHead_cons, List.append_nil, List.map_singleton,
        hx.trimmed]
  | cons y ys ih =>
      have hcut (rest : List Char) : cutCommas (.code 0) (',' :: ' ' :: rest) =
          [] :: (cutCommas (.code 0) rest).modifyHead (' ' :: ·) := by
        rw [cutCommas, if_pos ⟨rfl, rfl⟩, cutCommas_cons _ (by decide)]
        rfl
      obtain ⟨hy, hys⟩ := List.forall_mem_cons.mp hxs
      rw [toList_join_cons_cons, cutCommas_item hx, hcut, List.modifyHead_cons,
        List.append_nil, List.map_cons, map_trimmed_blank, ih hxs hy hys, hx.trimmed]

/-- Reading a joined list gives its expressions back. -/
theorem expressions_join {xs : List String} (h : ∀ x ∈ xs, IsItem x) :
    expressions (Text.join ", " xs) = xs := by
  cases xs with
  | nil => rfl
  | cons x xs =>
      have hne : (Text.join ", " (x :: xs)).isEmpty = false := by
        rw [← Bool.not_eq_true, String.isEmpty_iff]
        intro hempty
        have hlist := cutCommas_join h
        rw [hempty] at hlist
        obtain ⟨rfl, _⟩ := List.cons.inj hlist
        exact (h "" List.mem_cons_self).nonempty rfl
      rw [expressions, hne, if_neg Bool.false_ne_true, cutCommas_join h]

/-- The characters of numbers. -/
def IsNumeral (c : Char) : Prop := c.isDigit = true ∨ c ∈ ['-', '+', '.', 'e']

theorem IsNumeral.plain {c : Char} (h : IsNumeral c) : IsPlain c ∧ c ≠ ',' := by
  have hdigit : ∀ d ∈ quotes ++ openers ++ closers ++ [','], d.isDigit = false := by
    simp [quotes, openers, closers, Char.isDigit]
  have hsign : ∀ d ∈ quotes ++ openers ++ closers ++ [','], d ∉ ['-', '+', '.', 'e'] := by
    simp [quotes, openers, closers]
  have hc : c ∉ quotes ++ openers ++ closers ++ [','] := by
    intro hmem
    rcases h with h | h
    · exact Bool.false_ne_true ((hdigit c hmem).symm.trans h)
    · exact hsign c hmem h
  simp only [List.mem_append, List.mem_singleton, not_or] at hc
  exact ⟨⟨hc.1.1.1, hc.1.1.2, hc.1.2⟩, hc.2⟩

theorem isNumeral_of_mem_toDigits {n : Nat} {c : Char} (h : c ∈ Nat.toDigits 10 n) :
    IsNumeral c :=
  .inl (Nat.isDigit_of_mem_toDigits (by decide) (by decide) h)

theorem isNumeral_of_mem_toString {i : Int} {c : Char} (h : c ∈ (toString i).toList) :
    IsNumeral c := by
  cases i with
  | ofNat n =>
      exact isNumeral_of_mem_toDigits (Nat.toList_repr ▸ h)
  | negSucc n =>
      have hlist : (toString (Int.negSucc n)).toList = '-' :: (Nat.toDigits 10 (n + 1)) := by
        rw [← Nat.toList_repr]
        exact String.toList_append
      rw [hlist] at h
      rcases List.mem_cons.mp h with rfl | h
      · exact .inr (by decide)
      · exact isNumeral_of_mem_toDigits h

section Render

variable {style : Decimal.Style} (hplus : ∀ c ∈ style.plus.toList, IsNumeral c)
  (hwhole : ∀ c ∈ style.whole.toList, IsNumeral c)
include hplus hwhole

theorem isNumeral_of_mem_positive (d : Decimal.Scientific) :
    ∀ c ∈ (d.render style).toList, IsNumeral c := by
  have hdigits : ∀ c ∈ Nat.toDigits 10 d.digits, IsNumeral c := fun c =>
    isNumeral_of_mem_toDigits
  have hzeros (n : Nat) : ∀ c ∈ List.replicate n '0', IsNumeral c := by
    intro c hc
    rw [List.eq_of_mem_replicate hc]
    exact .inl rfl
  have hpoint : IsNumeral '.' := .inr (by decide)
  have hexponent (i : Int) : ∀ c ∈ (toString i).toList, IsNumeral c := fun c =>
    isNumeral_of_mem_toString
  unfold Decimal.Scientific.render
  generalize Nat.toDigits 10 d.digits = ds at hdigits ⊢
  dsimp only
  split
  · split
    · simp only [String.toList_append, String.toList_ofList, List.forall_mem_append]
      exact ⟨⟨hdigits, hzeros _⟩, hwhole⟩
    · split
      · simp only [String.toList_ofList, List.forall_mem_append, List.forall_mem_cons]
        exact ⟨fun c hc => hdigits c (List.mem_of_mem_take hc), hpoint,
          fun c hc => hdigits c (List.mem_of_mem_drop hc)⟩
      · simp only [String.toList_ofList, List.forall_mem_append, List.forall_mem_cons]
        exact ⟨⟨.inl rfl, hpoint, hzeros _⟩, hdigits⟩
  · simp only [String.toList_append, String.toList_ofList, List.forall_mem_append]
    refine ⟨⟨⟨?_, ?_⟩, ?_⟩, hexponent _⟩
    · rcases ds with _ | ⟨c, _ | ⟨d, ds⟩⟩
      · simp
      · exact hdigits
      · obtain ⟨hc, hds⟩ := List.forall_mem_cons.mp hdigits
        exact List.forall_mem_cons.mpr ⟨hc, List.forall_mem_cons.mpr ⟨hpoint, hds⟩⟩
    · intro c hc
      obtain rfl : c = 'e' := by simpa using hc
      exact .inr (by decide)
    · split
      · exact hplus
      · simp

theorem isNumeral_of_mem_render (f : Float) :
    ∀ c ∈ (Decimal.render style f).toList, IsNumeral c := by
  have hsign (b : Prop) [Decidable b] :
      ∀ c ∈ (if b then "-" else "").toList, IsNumeral c := by
    split
    · simp [IsNumeral]
    · simp
  have hzero : ∀ c ∈ "0".toList, IsNumeral c := by simp [IsNumeral]
  unfold Decimal.render
  dsimp only
  split
  · simp only [String.toList_append, List.forall_mem_append]
    exact ⟨⟨hsign _, hzero⟩, hwhole⟩
  · simp only [String.toList_append, List.forall_mem_append]
    exact ⟨hsign _, isNumeral_of_mem_positive hplus hwhole _⟩

end Render

/-- A number is written in the characters of numbers unless it is not finite. -/
theorem numberText_cases (n : Number) :
    Json.numberText n = "null" ∨ ∀ c ∈ (Json.numberText n).toList, IsNumeral c := by
  cases n with
  | int i => exact .inr fun c hc => isNumeral_of_mem_toString hc
  | float f =>
      rw [Json.numberText, Json.floatText]
      split
      · have hplus : ∀ c ∈ Json.floatStyle.plus.toList, IsNumeral c := by
          simp [Json.floatStyle, IsNumeral]
        have hwhole : ∀ c ∈ Json.floatStyle.whole.toList, IsNumeral c := by
          simp [Json.floatStyle, IsNumeral]
        exact .inr (isNumeral_of_mem_render hplus hwhole f)
      · exact .inl rfl

theorem balanced_numberText (n : Number) :
    Balanced false (Json.numberText n).toList := by
  rcases numberText_cases n with hnull | hnumeral
  · rw [hnull]
    exact .of_text _ (by decide)
  · exact .of_plain fun c hc => (hnumeral c hc).plain

theorem Quoted.escape_append (c : Char) {cs : List Char} (h : Quoted '"' cs) :
    Quoted '"' (Json.escape c ++ cs) := by
  have hhex : ∀ n < 16, Json.hexDigit n ≠ '\\' ∧ Json.hexDigit n ≠ '"' := by decide
  unfold Json.escape
  split_ifs with hquote hslash _ _ _ _ _ hcontrol
  on_goal 8 =>
    obtain ⟨hslash, hquote⟩ := hhex (c.toNat / 16) (by omega)
    obtain ⟨hslash', hquote'⟩ := hhex (c.toNat % 16) (by omega)
    exact .escape (.plain (by decide) (by decide) (.plain (by decide) (by decide)
      (.plain hslash hquote (.plain hslash' hquote' h))))
  on_goal 8 => exact .plain hslash hquote h
  all_goals exact .escape h

theorem balanced_quote (cs : List Char) : Balanced false (Json.quote cs) := by
  have hbody : Quoted '"' (cs.flatMap Json.escape) := by
    induction cs with
    | nil => exact .nil
    | cons c cs ih => exact .escape_append c ih
  exact .quoted (by decide) hbody .nil

mutual

theorem balanced_compact : ∀ v : Value, Balanced false (Json.compact v)
  | .null => .of_text _ (by decide)
  | .bool b => by cases b <;> exact .of_text _ (by decide)
  | .number n => balanced_numberText n
  | .string s => balanced_quote s.toList
  | .array [] => .bracket (by decide) (by decide) .nil .nil
  | .array (v :: vs) => by
      obtain ⟨inner, hinner, htext⟩ := exists_compactItems_eq vs
      rw [Json.compact, htext]
      have hbody := (balanced_compact v).loosen.append hinner
      simpa using Balanced.bracket (by decide) (by decide) hbody .nil
  | .object [] => .bracket (by decide) (by decide) .nil .nil
  | .object (f :: fs) => by
      obtain ⟨inner, hinner, htext⟩ := exists_compactFields_eq fs
      rw [Json.compact, htext]
      have hbody := (balanced_compactField f).loosen.append hinner
      simpa using Balanced.bracket (by decide) (by decide) hbody .nil
termination_by structural v => v

theorem exists_compactItems_eq : ∀ vs : List Value,
    ∃ inner, Balanced true inner ∧ Json.compactItems vs = inner ++ [']']
  | [] => ⟨[], .nil, rfl⟩
  | v :: vs => by
      obtain ⟨inner, hinner, htext⟩ := exists_compactItems_eq vs
      refine ⟨',' :: (Json.compact v ++ inner), ?_, ?_⟩
      · exact .plain (by decide) (.inl rfl) ((balanced_compact v).loosen.append hinner)
      · rw [Json.compactItems, htext]
        simp
termination_by structural vs => vs

theorem balanced_compactField : ∀ f : String × Value, Balanced false (Json.compactField f)
  | (key, v) => by
      rw [Json.compactField]
      exact (balanced_quote key.toList).append
        (.plain (by decide) (.inr (by decide)) (balanced_compact v))
termination_by structural f => f

theorem exists_compactFields_eq : ∀ fs : List (String × Value),
    ∃ inner, Balanced true inner ∧ Json.compactFields fs = inner ++ ['\x7d']
  | [] => ⟨[], .nil, rfl⟩
  | f :: fs => by
      obtain ⟨inner, hinner, htext⟩ := exists_compactFields_eq fs
      refine ⟨',' :: (Json.compactField f ++ inner), ?_, ?_⟩
      · exact .plain (by decide) (.inl rfl)
          ((balanced_compactField f).loosen.append hinner)
      · rw [Json.compactFields, htext]
        simp
termination_by structural fs => fs

end

theorem balanced_text (v : Value) : Balanced false (Json.text v).toList := by
  rw [Json.text, String.toList_ofList]
  exact balanced_compact v

end Script

end AspectForms
