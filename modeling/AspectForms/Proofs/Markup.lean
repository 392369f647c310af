import AspectForms.Component.Source
import Mathlib.Data.List.Infix

/-!
Reading markup: the attributes of its tags, and the character references in their values.  Main
statements: a text is read up to the first quote, and it stays what it is exactly if none of its
ends starts with a reference.
-/

namespace AspectForms.Markup

/-- What a reader of markup is in the middle of. -/
inductive Mode
  | text
  /-- The name of a tag. -/
  | tag
  /-- Before the next attribute of a tag. -/
  | between
  | name (read : List Char)
  | value (name : List Char)
  | quoted (quote : Char) (name read : List Char)
  | bare (name read : List Char)
deriving DecidableEq

/-- The characters that part what stands in a tag. -/
def blanks : List Char := [' ', '\t', '\n', '\x0c', '\x0d']

namespace Mode

/-- What comes after one more character. -/
def next : Mode → Char → Mode
  | text, c => if c = '<' then tag else text
  | tag, c => if c = '>' then text else if c ∈ blanks then between else tag
  | between, c =>
    if c = '>' then text else if c ∈ blanks ∨ c = '/' then between else name [c]
  | name read, c =>
    if c = '=' then value read else if c = '>' then text
    else if c ∈ blanks ∨ c = '/' then between else name (read ++ [c])
  | value n, c =>
    if c = '"' ∨ c = '\x27' then quoted c n [] else if c = '>' then text
    else if c ∈ blanks then value n else bare n [c]
  | quoted quote n read, c => if c = quote then between else quoted quote n (read ++ [c])
  | bare n read, c =>
    if c = '>' then text else if c ∈ blanks then between else bare n (read ++ [c])

/-- The attribute that a character ends. -/
def ended? : Mode → Char → Option (String × String)
  | name read, c =>
    if c = '>' ∨ c ∈ blanks ∨ c = '/' then some (String.ofList read, "") else none
  | value n, c => if c = '>' then some (String.ofList n, "") else none
  | quoted quote n read, c =>
    if c = quote then some (String.ofList n, String.ofList read) else none
  | bare n read, c =>
    if c = '>' ∨ c ∈ blanks then some (String.ofList n, String.ofList read) else none
  | _, _ => none

/-- What comes after some characters. -/
def after (m : Mode) (cs : List Char) : Mode := cs.foldl next m

end Mode

/-- The attributes of all tags, in order. -/
def attributes (m : Mode) : List Char → List (String × String)
  | [] => []
  | c :: cs => (m.ended? c).toList ++ attributes (m.next c) cs

def values (name : String) (markup : String) : List String :=
  ((attributes .text markup.toList).filter (·.1 == name)).map (·.2)

theorem attributes_append (m : Mode) (xs ys : List Char) :
    attributes m (xs ++ ys) = attributes m xs ++ attributes (m.after xs) ys := by
  induction xs generalizing m with
  | nil => rfl
  | cons x xs ih =>
      rw [List.cons_append, attributes, attributes, ih, List.append_assoc]
      rfl

/-- A reader of some markup finds attributes and ends in a mode. -/
structure Reads (m : Mode) (markup : String) (found : List (String × String)) (last : Mode) :
    Prop where
  found : attributes m markup.toList = found
  last : m.after markup.toList = last

namespace Reads

variable {m middle last : Mode} {s t : String} {found others : List (String × String)}

-- The kernel takes a string literal for `String.ofList` of its characters, but is slow to read it.
theorem of_list {cs : List Char} (h : attributes m cs = found) (hlast : m.after cs = last) :
    Reads m (String.ofList cs) found last := by
  constructor
  · rw [String.toList_ofList]
    exact h
  · rw [String.toList_ofList]
    exact hlast

theorem append (h : Reads m s found middle) (ht : Reads middle t others last) :
    Reads m (s ++ t) (found ++ others) last := by
  constructor
  · rw [String.toList_append, attributes_append, h.found, h.last, ht.found]
  · rw [String.toList_append, Mode.after, List.foldl_append]
    have hmiddle := h.last
    rw [Mode.after] at hmiddle
    rw [hmiddle]
    exact ht.last

/-- What has no quote is part of the value. -/
theorem quoted {quote : Char} {name read : List Char} (h : quote ∉ s.toList) :
    Reads (.quoted quote name read) s [] (.quoted quote name (read ++ s.toList)) := by
  have hlist (cs : List Char) (hcs : quote ∉ cs) :
      attributes (.quoted quote name read) cs = [] ∧
        (Mode.quoted quote name read).after cs = .quoted quote name (read ++ cs) := by
    induction cs generalizing read with
    | nil => simp [attributes, Mode.after]
    | cons c cs ih =>
        rw [List.mem_cons, not_or] at hcs
        obtain ⟨hc, hcs⟩ := hcs
        have hnext : (Mode.quoted quote name read).next c = .quoted quote name (read ++ [c]) :=
          if_neg (Ne.symm hc)
        have hended : (Mode.quoted quote name read).ended? c = none := if_neg (Ne.symm hc)
        obtain ⟨hnone, hlast⟩ := @ih (read ++ [c]) hcs
        rw [attributes, hended, hnext, hnone, Mode.after, List.foldl_cons, hnext]
        exact ⟨rfl, by simpa [Mode.after] using hlast⟩
  exact ⟨(hlist _ h).1, (hlist _ h).2⟩

/-- A text without quotes between two pieces of markup is read as a value. -/
theorem between {letters : List Char} {start value rest : String}
    (hstart : Reads m start found (.quoted '"' letters [])) (hvalue : '"' ∉ value.toList)
    (hrest : Reads (.quoted '"' letters value.toList) rest others last) :
    Reads m (start ++ value ++ rest) (found ++ others) last := by
  have hread := (hstart.append (.quoted hvalue)).append hrest
  rwa [List.append_nil] at hread

end Reads

/-- Some markup has an attribute whose value stands between quotes as it is, the first one of
its name. -/
structure Opens (name value markup front back : String) : Prop where
  eq : markup = front ++ (value ++ ("\"" ++ back))
  before : ∃ found, Reads .text front found (.quoted '"' name.toList []) ∧ ∀ a ∈ found, a.1 ≠ name

/-- It is the only one of its name. -/
structure Around (name value markup front back : String) : Prop
    extends Opens name value markup front back where
  behind : ∀ a ∈ attributes .between back.toList, a.1 ≠ name

theorem filter_eq_nil {name : String} {found : List (String × String)}
    (h : ∀ a ∈ found, a.1 ≠ name) : found.filter (·.1 == name) = [] := by
  rw [List.filter_eq_nil_iff]
  intro a ha
  simpa using h a ha

section Values

variable {name value markup front back : String}

/-- The value is read up to the first quote. -/
theorem Opens.values_eq (h : Opens name value markup front back) {cs ds : List Char}
    (hcs : '"' ∉ cs) (hvalue : value.toList ++ '"' :: back.toList = cs ++ '"' :: ds) :
    values name markup = String.ofList cs ::
      ((attributes .between ds).filter (·.1 == name)).map (·.2) := by
  obtain ⟨found, hfront, hfound⟩ := h.before
  have hread : Reads (.quoted '"' name.toList []) (String.ofList cs) []
      (.quoted '"' name.toList cs) := by
    have hquoted := @Reads.quoted (String.ofList cs) '"' name.toList []
    rw [String.toList_ofList] at hquoted
    exact hquoted hcs
  have hlist : markup.toList = front.toList ++ (cs ++ '"' :: ds) := by
    rw [h.eq, ← hvalue]
    simp
  have hcs' := hread.found
  have hlast := hread.last
  rw [String.toList_ofList] at hcs' hlast
  rw [values, hlist, attributes_append, hfront.found, hfront.last, attributes_append, hcs', hlast,
    List.filter_append, filter_eq_nil hfound, attributes]
  simp [Mode.ended?, Mode.next]

/-- A value without quotes is read as it is. -/
theorem Around.values_eq (h : Around name value markup front back) (hquote : '"' ∉ value.toList) :
    values name markup = [value] := by
  rw [h.toOpens.values_eq hquote rfl, filter_eq_nil h.behind, String.ofList_toList]
  rfl

end Values

/-- The character references of a markup language: the one that a text starts with, as what it
stands for and its length.  It stands for less than it takes. -/
structure References where
  read? : List Char → Option (List Char × Nat)
  shorter : ∀ cs text n, read? cs = some (text, n) → text.length < n ∧ n ≤ cs.length

namespace References

variable (r : References)

/-- What some characters stand for, behind the rest of a reference of `skip` characters. -/
def decodeFrom (skip : Nat) : List Char → List Char
  | [] => []
  | c :: cs =>
    match skip with
    | skip + 1 => decodeFrom skip cs
    | 0 =>
      match r.read? (c :: cs) with
      | some (text, n) => text ++ decodeFrom (n - 1) cs
      | none => c :: decodeFrom 0 cs

/-- What a text stands for. -/
def decode (s : String) : String := String.ofList (r.decodeFrom 0 s.toList)

theorem length_decodeFrom_le (skip : Nat) (cs : List Char) :
    (r.decodeFrom skip cs).length ≤ cs.length - skip := by
  induction cs generalizing skip with
  | nil => simp [decodeFrom]
  | cons c cs ih =>
      cases skip with
      | succ skip =>
          have hrest := ih skip
          rw [decodeFrom, List.length_cons]
          omega
      | zero =>
          rw [decodeFrom]
          split
          · rename_i text n hread
            have hrest := ih (n - 1)
            have hshorter := r.shorter _ _ _ hread
            rw [List.length_cons] at hshorter
            rw [List.length_append, List.length_cons]
            omega
          · have hrest := ih 0
            rw [List.length_cons, List.length_cons]
            omega

theorem length_decode_le (s : String) : (r.decode s).length ≤ s.length := by
  have hle := r.length_decodeFrom_le 0 s.toList
  rw [decode, String.length_ofList, ← String.length_toList]
  exact hle

/-- None of the ends of a text starts with a reference. -/
def Plain (cs : List Char) : Prop := ∀ ds, ds <:+ cs → r.read? ds = none

theorem decodeFrom_eq_self_iff {cs : List Char} : r.decodeFrom 0 cs = cs ↔ r.Plain cs := by
  have hnil : r.read? [] = none := by
    cases hread : r.read? [] with
    | none => rfl
    | some found =>
        have hshorter := r.shorter _ _ _ hread
        simp at hshorter
        omega
  induction cs with
  | nil => simp [decodeFrom, Plain, hnil]
  | cons c cs ih =>
      have hplain : r.Plain (c :: cs) ↔ r.read? (c :: cs) = none ∧ r.Plain cs := by
        simp only [Plain, List.suffix_cons_iff, or_imp, forall_and, forall_eq]
      rw [hplain, decodeFrom]
      split
      · rename_i text n hread
        have hshorter := r.shorter _ _ _ hread
        have hrest := r.length_decodeFrom_le (n - 1) cs
        rw [List.length_cons] at hshorter
        constructor
        · intro heq
          have hlength := congrArg List.length heq
          rw [List.length_append, List.length_cons] at hlength
          omega
        · rintro ⟨hnone, _⟩
          rw [hread] at hnone
          cases hnone
      · rename_i hnone
        rw [List.cons.injEq]
        exact ⟨fun h => ⟨hnone, ih.mp h.2⟩, fun h => ⟨rfl, ih.mpr h.2⟩⟩

/-- A text without references stands for itself, and no other does. -/
theorem decode_eq_self_iff {s : String} : r.decode s = s ↔ r.Plain s.toList := by
  rw [decode, ← String.toList_inj, String.toList_ofList]
  exact r.decodeFrom_eq_self_iff

end References

/-- What is read is what was written exactly if that has neither a quote nor a reference. -/
theorem Around.decoded_iff (r : References) {name value markup front back : String}
    (h : Around name value markup front back) :
    (values name markup).map r.decode = [value] ↔
      '"' ∉ value.toList ∧ r.Plain value.toList := by
  by_cases hquote : '"' ∈ value.toList
  · -- decoding does not lengthen what stands before the quote
    obtain ⟨cs, ds, hvalue, hcs⟩ := List.eq_append_cons_of_mem hquote
    have hrest : value.toList ++ '"' :: back.toList = cs ++ '"' :: (ds ++ '"' :: back.toList) := by
      rw [hvalue, List.append_assoc, List.cons_append]
    have hread := h.toOpens.values_eq hcs hrest
    have hshorter : cs.length < value.length := by
      rw [← String.length_toList, hvalue]
      simp
    rw [hread, List.map_cons]
    constructor
    · intro heq
      have hle := r.length_decode_le (String.ofList cs)
      rw [(List.cons.inj heq).1, String.length_ofList] at hle
      exact absurd hle (Nat.not_le_of_lt hshorter)
    · intro hplain
      exact absurd hquote hplain.1
  · rw [h.values_eq hquote, List.map_singleton, List.singleton_inj, r.decode_eq_self_iff]
    exact ⟨fun hplain => ⟨hquote, hplain⟩, And.right⟩

end AspectForms.Markup
