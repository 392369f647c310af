import AspectForms.Files.Path
import Mathlib.Data.List.Induction
import Mathlib.Data.List.Nodup

/-!
The pieces of a path, which are what lies between its slashes.  Main statements: pushing appends pieces,
the paths above a path have its first pieces, and names without slashes come back as the pieces of the
path that leads through them.
-/

namespace AspectForms

namespace Text

variable {sep : Char}

/-- A text is cut at each separator in it. -/
theorem splitWhen_append_of (p : Char → Bool) {c : Char} (hc : p c = true) (xs ys : List Char) :
    splitWhen p (xs ++ c :: ys) = splitWhen p xs ++ splitWhen p ys := by
  induction xs with
  | nil => simp [splitWhen, hc]
  | cons x xs ih =>
      rw [List.cons_append, splitWhen, splitWhen, ih]
      split
      · rfl
      · cases hsplit : splitWhen p xs with
        | nil => exact absurd hsplit (splitWhen_ne_nil _ xs)
        | cons w ws => rfl

theorem splitWhen_append (sep : Char) (xs ys : List Char) :
    splitWhen (· == sep) (xs ++ sep :: ys) =
      splitWhen (· == sep) xs ++ splitWhen (· == sep) ys :=
  splitWhen_append_of (· == sep) (beq_self_eq_true sep) xs ys

theorem splitWhen_of_not_mem {w : List Char} (h : sep ∉ w) :
    splitWhen (· == sep) w = [w] := by
  induction w with
  | nil => rfl
  | cons c cs ih =>
      have hc : ¬(c == sep) = true := by
        intro heq
        exact h (eq_of_beq heq ▸ List.mem_cons_self)
      rw [splitWhen, if_neg hc, ih fun hmem => h (List.mem_cons_of_mem c hmem)]

/-- Pieces without separators come back from the text that they make. -/
theorem splitWhen_joinWith {ws : List (List Char)} (hne : ws ≠ [])
    (h : ∀ w ∈ ws, sep ∉ w) : splitWhen (· == sep) (joinWith sep ws) = ws := by
  induction ws with
  | nil => exact absurd rfl hne
  | cons w ws ih =>
      have hw := splitWhen_of_not_mem (h w List.mem_cons_self)
      cases ws with
      | nil => exact hw
      | cons v vs =>
          rw [joinWith, splitWhen_append, hw,
            ih (List.cons_ne_nil v vs) fun u hu =>
              h u (List.mem_cons_of_mem w hu)]
          · rfl
          · exact List.cons_ne_nil v vs

theorem joinWith_append {xs ys : List (List Char)} (hx : xs ≠ [])
    (hy : ys ≠ []) :
    joinWith sep (xs ++ ys) = joinWith sep xs ++ sep :: joinWith sep ys := by
  induction xs with
  | nil => exact absurd rfl hx
  | cons x xs ih =>
      cases xs with
      | nil =>
          cases ys with
          | nil => exact absurd rfl hy
          | cons y ys => rfl
      | cons v vs =>
          have htail := ih (List.cons_ne_nil v vs)
          simp only [List.cons_append, joinWith, List.append_assoc] at htail ⊢
          rw [htail]

variable {s : String} (hs : s.toList = [sep])
include hs

theorem toList_join (parts : List String) :
    (join s parts).toList = joinWith sep (parts.map String.toList) := by
  rw [join, String.toList_intercalate, hs]
  induction parts with
  | nil => rfl
  | cons p ps ih =>
      cases ps with
      | nil => simp [joinWith]
      | cons q qs =>
          rw [List.map_cons, List.map_cons, List.intercalate_cons_cons,
            ← List.map_cons, ih]
          simp [joinWith]

theorem join_splitOn (t : String) : join s (splitOn sep t) = t := by
  apply String.toList_inj.mp
  rw [toList_join hs, splitOn, List.map_map]
  have hsame : String.toList ∘ String.ofList = id := by
    funext w
    exact String.toList_ofList
  rw [hsame, List.map_id, joinWith_splitWhen]

theorem splitOn_join {parts : List String} (hne : parts ≠ [])
    (h : ∀ p ∈ parts, sep ∉ p.toList) : splitOn sep (join s parts) = parts := by
  have hne' : parts.map String.toList ≠ [] := by simpa using hne
  rw [splitOn, toList_join hs, splitWhen_joinWith hne' (by simpa using h), List.map_map]
  have hsame : String.ofList ∘ String.toList = id := by
    funext p
    exact String.ofList_toList
  rw [hsame, List.map_id]

end Text

namespace Path

open Text

/-- The pieces of a text that is read as a path. -/
def cut (cs : List Char) : List (List Char) :=
  (splitWhen (· == '/') cs).filter (!·.isEmpty)

@[simp] theorem isEmpty_ofList (w : List Char) :
    (String.ofList w).isEmpty = w.isEmpty := by
  rw [Bool.eq_iff_iff, String.isEmpty_iff, List.isEmpty_iff,
    ← String.toList_inj, String.toList_ofList]
  rfl

theorem pieces_eq (path : String) :
    pieces path = (cut path.toList).map String.ofList := by
  rw [pieces, splitOn, cut, List.filter_map]
  congr 2
  funext w
  rw [Function.comp_apply, isEmpty_ofList]

theorem cut_append (xs ys : List Char) :
    cut (xs ++ '/' :: ys) = cut xs ++ cut ys := by
  rw [cut, splitWhen_append, List.filter_append]
  rfl

theorem cut_append_of_slash {base : List Char}
    (h : base.getLast? = some '/') (cs : List Char) :
    cut (base ++ cs) = cut base ++ cut cs := by
  obtain ⟨before, rfl⟩ := List.getLast?_eq_some_iff.mp h
  rw [List.append_assoc, List.singleton_append, cut_append, cut_append]
  simp [cut, splitWhen]

theorem cut_joinWith {ws : List (List Char)} (h : ∀ w ∈ ws, '/' ∉ w) :
    cut (joinWith '/' ws) = ws.filter (!·.isEmpty) := by
  cases ws with
  | nil => rfl
  | cons w ws => rw [cut, splitWhen_joinWith (List.cons_ne_nil w ws) h]

section Push

variable {base p : String} (hp : isAbsolute p = false)
include hp

theorem push_empty : push "" p = p := by
  simp [push, hp]

theorem push_of_slash (hbase : base.toList.getLast? = some '/') :
    push base p = base ++ p := by
  simp [push, hp, endsWithSlash, hbase]

theorem push_of_no_slash (hne : base ≠ "")
    (hbase : base.toList.getLast? ≠ some '/') :
    push base p = base ++ "/" ++ p := by
  simp [push, hp, endsWithSlash, hbase, hne]

/-- Pushing a relative path appends its pieces. -/
theorem pieces_push : pieces (push base p) = pieces base ++ pieces p := by
  by_cases hempty : base = ""
  · rw [hempty, push_empty hp]
    rfl
  · rw [pieces_eq, pieces_eq, pieces_eq, ← List.map_append]
    by_cases hslash : base.toList.getLast? = some '/'
    · rw [push_of_slash hp hslash, String.toList_append,
        cut_append_of_slash hslash]
    · rw [push_of_no_slash hp hempty hslash, String.toList_append,
        String.toList_append, List.append_assoc]
      exact congrArg _ (cut_append base.toList p.toList)

/-- A path that a relative one is pushed onto decides where both start. -/
theorem isAbsolute_push : isAbsolute (push base p) = isAbsolute base := by
  by_cases hempty : base = ""
  · rw [hempty, push_empty hp, hp]
    rfl
  · obtain ⟨c, cs, hbase⟩ : ∃ c cs, base.toList = c :: cs := by
      apply List.exists_cons_of_ne_nil
      intro hnil
      exact hempty (String.toList_inj.mp hnil)
    by_cases hslash : base.toList.getLast? = some '/'
    · simp [push_of_slash hp hslash, isAbsolute, hbase]
    · simp [push_of_no_slash hp hempty hslash, isAbsolute, hbase]

end Push

theorem suffix_push (base p : String) : p.toList <:+ (push base p).toList := by
  unfold push
  split
  · exact List.suffix_refl _
  · split
    · rw [String.toList_append]
      exact List.suffix_append _ _
    · rw [String.toList_append]
      exact List.suffix_append _ _

/-- A step ends where some of the first pieces do. -/
theorem mem_stepsFrom {first : Bool} {start : Nat} {ws : List (List Char)}
    {s : Step} (hs : s ∈ stepsFrom first start ws) :
    start < s.stop ∧ ∃ front back, front ≠ [] ∧ ws = front ++ back ∧
      s.stop = start + (joinWith '/' front).length := by
  induction ws generalizing first start with
  | nil => cases hs
  | cons w ws ih =>
      have hrest (hs : s ∈ stepsFrom false (start + w.length + 1) ws) :
          start < s.stop ∧ ∃ front back, front ≠ [] ∧
            w :: ws = front ++ back ∧
            s.stop = start + (joinWith '/' front).length := by
        obtain ⟨hlt, front, back, hne, rfl, hstop⟩ := ih hs
        refine ⟨by omega, w :: front, back, nofun, rfl, ?_⟩
        have hjoin : joinWith '/' (w :: front) = w ++ '/' :: joinWith '/' front :=
          joinWith_append (List.cons_ne_nil w []) hne
        rw [hstop, hjoin, List.length_append, List.length_cons]
        omega
      have hhere (hw : ¬w.isEmpty = true) (hs : s.stop = start + w.length) :
          start < s.stop ∧ ∃ front back, front ≠ [] ∧
            w :: ws = front ++ back ∧
            s.stop = start + (joinWith '/' front).length := by
        have hpos : 0 < w.length := by
          rw [List.isEmpty_iff] at hw
          exact List.length_pos_iff.mpr hw
        exact ⟨by omega, [w], ws, nofun, rfl, hs⟩
      rw [stepsFrom] at hs
      split at hs
      · exact hrest hs
      · rename_i hw
        split at hs
        · split at hs
          · rcases List.mem_cons.mp hs with rfl | hs
            · exact hhere hw rfl
            · exact hrest hs
          · exact hrest hs
        · split at hs <;>
          · rcases List.mem_cons.mp hs with rfl | hs
            · exact hhere hw rfl
            · exact hrest hs

/-- Up to the end of a step a path has its first pieces. -/
theorem cut_take_of_mem_steps {path : String} {s : Step}
    (hs : s ∈ steps path) :
    0 < s.stop ∧ cut (path.toList.take s.stop) <+: cut path.toList := by
  have hpieces {first : Bool}
      (hs : s ∈ stepsFrom first 0 (splitWhen (· == '/') path.toList)) :
      0 < s.stop ∧ cut (path.toList.take s.stop) <+: cut path.toList := by
    obtain ⟨hpos, front, back, hne, hsplit, hstop⟩ := mem_stepsFrom hs
    refine ⟨hpos, ?_⟩
    have hplain : ∀ w ∈ front ++ back, '/' ∉ w := by
      intro w hw hmem
      have hno := not_mem_splitWhen _ path.toList w (hsplit ▸ hw) _ hmem
      cases hno
    have hfront : ∀ w ∈ front, '/' ∉ w := fun w hw =>
      hplain w (List.mem_append_left back hw)
    have htake : path.toList.take s.stop = joinWith '/' front := by
      rw [hstop, Nat.zero_add, ← joinWith_splitWhen '/' path.toList, hsplit]
      cases back with
      | nil => rw [List.append_nil, List.take_length]
      | cons w ws =>
          rw [joinWith_append hne (List.cons_ne_nil w ws), List.take_left]
    rw [htake, cut_joinWith hfront, cut, hsplit, List.filter_append]
    exact List.prefix_append _ _
  unfold steps at hs
  dsimp only at hs
  split at hs
  · rename_i habsolute
    rcases List.mem_cons.mp hs with rfl | hs
    · obtain ⟨cs, hpath⟩ : ∃ cs, path.toList = '/' :: cs := by
        rw [isAbsolute, beq_iff_eq] at habsolute
        exact List.head?_eq_some_iff.mp habsolute
      refine ⟨Nat.one_pos, ?_⟩
      rw [hpath]
      exact List.nil_prefix
    · exact hpieces hs
  · exact hpieces hs

/-- The path above a path is empty or ends with one of its steps. -/
theorem parent?_cases {path q : String} (h : parent? path = some q) :
    q = "" ∨ ∃ s ∈ steps path, q = String.ofList (path.toList.take s.stop) := by
  unfold parent? at h
  split at h
  · cases h
  · cases h
  · exact .inl (Option.some.inj h).symm
  · rename_i before rest hsteps
    refine .inr ⟨before, ?_, (Option.some.inj h).symm⟩
    rw [← List.mem_reverse, hsteps]
    exact List.mem_cons_of_mem _ List.mem_cons_self

theorem pieces_take_of_mem_steps {path : String} {s : Step}
    (hs : s ∈ steps path) :
    pieces (String.ofList (path.toList.take s.stop)) <+: pieces path ∧
      isAbsolute (String.ofList (path.toList.take s.stop)) = isAbsolute path := by
  obtain ⟨hpos, hcut⟩ := cut_take_of_mem_steps hs
  constructor
  · rw [pieces_eq, pieces_eq, String.toList_ofList]
    exact hcut.map String.ofList
  · rw [isAbsolute, isAbsolute, String.toList_ofList, List.head?_take,
      if_neg (Nat.ne_of_gt hpos)]

/-- A path above a path has its first pieces and starts where it does. -/
theorem pieces_of_mem_prefixes {path q : String} (hq : q ∈ prefixes path) :
    pieces q <+: pieces path ∧ isAbsolute q = isAbsolute path := by
  have hall (fuel : Nat) (path : String) (hq : q ∈ ancestors fuel path) :
      pieces q <+: pieces path ∧ isAbsolute q = isAbsolute path := by
    induction fuel generalizing path with
    | zero => cases hq
    | succ fuel ih =>
        unfold ancestors at hq
        split at hq
        · cases hq
        · rename_i above habove
          rcases List.mem_cons.mp hq with rfl | hq
          · exact ⟨List.prefix_refl _, rfl⟩
          · obtain ⟨hpieces, habsolute⟩ := ih above hq
            rcases parent?_cases habove with rfl | ⟨s, hs, rfl⟩
            · cases fuel <;> cases hq
            · obtain ⟨hstep, hstart⟩ := pieces_take_of_mem_steps hs
              exact ⟨hpieces.trans hstep, habsolute.trans hstart⟩
  exact hall _ path hq

/-- So does a path above the one that holds it. -/
theorem pieces_of_mem_prefixes_parent {path q : String}
    (hq : q ∈ prefixes ((parent? path).getD "")) :
    pieces q <+: pieces path ∧ isAbsolute q = isAbsolute path := by
  cases hparent : parent? path with
  | none =>
      rw [hparent] at hq
      cases hq
  | some above =>
      rw [hparent, Option.getD_some] at hq
      obtain ⟨hpieces, habsolute⟩ := pieces_of_mem_prefixes hq
      rcases parent?_cases hparent with rfl | ⟨s, hs, rfl⟩
      · cases hq
      · obtain ⟨hstep, hstart⟩ := pieces_take_of_mem_steps hs
        exact ⟨hpieces.trans hstep, habsolute.trans hstart⟩

theorem joinWith_concat (ws : List (List Char)) (w : List Char) :
    joinWith '/' (ws ++ [w]) =
      (if ws = [] then [] else joinWith '/' ws ++ ['/']) ++ w := by
  by_cases hws : ws = []
  · simp [hws, joinWith]
  · rw [if_neg hws, joinWith_append hws (List.cons_ne_nil w [])]
    simp [joinWith]

theorem isAbsolute_of_not_mem {s : String} (h : '/' ∉ s.toList) :
    isAbsolute s = false := by
  cases hlist : s.toList with
  | nil => simp [isAbsolute, hlist]
  | cons c cs =>
      have hne : c ≠ '/' := by
        rintro rfl
        exact h (hlist ▸ List.mem_cons_self)
      simp [isAbsolute, hlist, hne]

def through (names : List String) : String :=
  String.ofList (joinWith '/' (names.map String.toList))

/-- The path that leads through some names to a file is these names and the
file between slashes; empty names leave no trace. -/
theorem toList_push_ofNames {names : List String} {file : String}
    (hnames : ∀ n ∈ names, '/' ∉ n.toList) (hfile : '/' ∉ file.toList) :
    (push (ofNames names) file).toList =
      joinWith '/' ((names.filter (!·.isEmpty) ++ [file]).map String.toList) := by
  induction names using List.reverseRecOn generalizing file with
  | nil =>
      rw [ofNames, List.foldl_nil, push_empty (isAbsolute_of_not_mem hfile)]
      rfl
  | append_singleton names n ih =>
      have hn : '/' ∉ n.toList :=
        hnames n (List.mem_append_right _ List.mem_cons_self)
      have hbase :=
        ih (fun m hm => hnames m (List.mem_append_left _ hm)) hn
      have hstep : ofNames (names ++ [n]) = push (ofNames names) n := by
        rw [ofNames, List.foldl_append]
        rfl
      rw [hstep]
      generalize push (ofNames names) n = base at hbase ⊢
      have hrelative := isAbsolute_of_not_mem hfile
      rw [List.filter_append]
      by_cases hempty : n = ""
      · -- an empty name adds at most the slash that is pushed before the file
        subst hempty
        have hjoin : (push base file).toList = base.toList ++ file.toList := by
          by_cases hnone : base = ""
          · rw [hnone, push_empty hrelative]
            rfl
          · rw [push_of_slash hrelative, String.toList_append]
            rw [List.map_append, List.map_singleton, joinWith_concat] at hbase
            split at hbase
            · exact absurd (String.toList_inj.mp hbase) hnone
            · simp [hbase]
        rw [hjoin, hbase]
        simp [joinWith_concat]
      · have hlast : n.toList.getLast? ≠ some '/' := fun hslash =>
          hn (List.mem_of_getLast? hslash)
        have hne : n.toList ≠ [] := fun hnil => hempty (String.toList_inj.mp hnil)
        have hkeep : [n].filter (!·.isEmpty) = [n] := by
          simp [hempty]
        have hends := hbase
        rw [List.map_append, List.map_singleton, joinWith_concat] at hends
        have hslash : base.toList.getLast? ≠ some '/' := by
          rw [hends, List.getLast?_append]
          cases hget : n.toList.getLast? with
          | none => exact absurd (List.getLast?_eq_none_iff.mp hget) hne
          | some c =>
              rw [hget] at hlast
              exact hlast
        have hsome : base ≠ "" := by
          rintro rfl
          exact hne (List.append_eq_nil_iff.mp hends.symm).2
        have hnil : (names.filter (!·.isEmpty) ++ [n]).map String.toList ≠ [] := by
          simp
        rw [push_of_no_slash hrelative hsome hslash, hkeep, List.map_append,
          List.map_singleton, joinWith_concat, if_neg hnil, ← hbase,
          String.toList_append, String.toList_append]
        rfl

theorem push_ofNames {names : List String} {file : String}
    (hnames : ∀ n ∈ names, '/' ∉ n.toList) (hfile : '/' ∉ file.toList) :
    push (ofNames names) file =
      through (names.filter (!·.isEmpty) ++ [file]) := by
  rw [through, ← toList_push_ofNames hnames hfile, String.ofList_toList]

section Through

variable {names : List String} (h : ∀ n ∈ names, n ≠ "" ∧ '/' ∉ n.toList)
include h

/-- Names come back as the pieces of the path through them. -/
theorem pieces_through : pieces (through names) = names := by
  have hplain : ∀ w ∈ names.map String.toList, '/' ∉ w := by
    intro w hw
    obtain ⟨n, hn, rfl⟩ := List.mem_map.mp hw
    exact (h n hn).2
  have hkeep : ∀ n ∈ names, ((!·.isEmpty) ∘ String.toList) n = true := by
    intro n hn
    simpa using (h n hn).1
  rw [pieces_eq, through, String.toList_ofList, cut_joinWith hplain,
    List.filter_map, List.filter_eq_self.mpr hkeep, List.map_map]
  simp

theorem isAbsolute_through : isAbsolute (through names) = false := by
  cases names with
  | nil => rfl
  | cons n names =>
      obtain ⟨hne, hn⟩ := h n List.mem_cons_self
      obtain ⟨c, cs, hlist⟩ : ∃ c cs, n.toList = c :: cs := by
        apply List.exists_cons_of_ne_nil
        intro hnil
        exact hne (String.toList_inj.mp hnil)
      have hc : c ≠ '/' := by
        rintro rfl
        exact hn (hlist ▸ List.mem_cons_self)
      cases names with
      | nil => simp [isAbsolute, through, joinWith, hlist, hc]
      | cons m names => simp [isAbsolute, through, joinWith, hlist, hc]

end Through

/-- Paths through different names are different. -/
theorem nodup_map_through_iff {ways : List (List String)}
    (h : ∀ names ∈ ways, ∀ n ∈ names, n ≠ "" ∧ '/' ∉ n.toList) :
    (ways.map through).Nodup ↔ ways.Nodup := by
  constructor
  · exact List.Nodup.of_map through
  · intro hnodup
    refine List.Nodup.map_on ?_ hnodup
    intro s hs t ht heq
    rw [← pieces_through (h s hs), heq, pieces_through (h t ht)]

/-- Read as a path, the text is one normal component. -/
def IsName (s : String) : Prop := components s = [.normal s]

instance (s : String) : Decidable (IsName s) :=
  inferInstanceAs (Decidable (_ = _))

/-- A normal component is a piece that is neither empty nor dots. -/
theorem of_normal_mem_stepsFrom {first : Bool} {start : Nat}
    {ws : List (List Char)} {name : String} {stop : Nat}
    (h : ⟨.normal name, stop⟩ ∈ stepsFrom first start ws) :
    name.toList ∈ ws ∧ name ≠ "" ∧ name ≠ "." ∧ name ≠ ".." := by
  induction ws generalizing first start with
  | nil => cases h
  | cons w ws ih =>
      have hrest (h : ⟨.normal name, stop⟩ ∈
          stepsFrom false (start + w.length + 1) ws) :
          name.toList ∈ w :: ws ∧ name ≠ "" ∧ name ≠ "." ∧ name ≠ ".." :=
        (ih h).imp_left (List.mem_cons_of_mem w)
      rw [stepsFrom] at h
      split at h
      · exact hrest h
      · rename_i hempty
        split at h
        · split at h
          · rcases List.mem_cons.mp h with heq | h
            · cases heq
            · exact hrest h
          · exact hrest h
        · rename_i hdot
          split at h
          · rcases List.mem_cons.mp h with heq | h
            · cases heq
            · exact hrest h
          · rename_i hdots
            rcases List.mem_cons.mp h with heq | h
            · obtain ⟨rfl⟩ : name = String.ofList w := by
                injection heq with hname
                injection hname
              refine ⟨by simp, ?_, ?_, ?_⟩ <;>
                · intro heq
                  have hlist := congrArg String.toList heq
                  rw [String.toList_ofList] at hlist
                  simp [hlist] at hempty hdot hdots
            · exact hrest h

theorem isName_iff {s : String} :
    IsName s ↔ s ≠ "" ∧ '/' ∉ s.toList ∧ s ≠ "." ∧ s ≠ ".." := by
  constructor
  · intro h
    obtain ⟨⟨component, stop⟩, hstep, hnormal⟩ :
        ∃ step ∈ steps s, step.component = .normal s := by
      have hcomponents : components s = [.normal s] := h
      rw [← List.mem_map, ← components, hcomponents]
      exact List.mem_singleton_self _
    subst hnormal
    unfold IsName components steps at h
    unfold steps at hstep
    dsimp only at h hstep
    split at h
    · cases h
    · rename_i hrelative
      rw [if_neg hrelative] at hstep
      obtain ⟨hmem, hempty, hdots⟩ := of_normal_mem_stepsFrom hstep
      refine ⟨hempty, ?_, hdots⟩
      intro hslash
      cases not_mem_splitWhen _ s.toList _ hmem _ hslash
  · rintro ⟨hempty, hslash, hdot, hdots⟩
    have hkeep : s.toList ≠ [] := fun heq => hempty (String.toList_inj.mp heq)
    have hhere : s.toList ≠ ['.'] := fun heq => hdot (String.toList_inj.mp heq)
    have habove : s.toList ≠ ['.', '.'] := fun heq =>
      hdots (String.toList_inj.mp heq)
    rw [IsName, components, steps, isAbsolute_of_not_mem hslash,
      splitWhen_of_not_mem hslash]
    simp [stepsFrom, hkeep, hhere, habove]

/-- A text without slashes and dots, as every name in kebab case is. -/
theorem isName_of_not_mem {s : String} (hne : s ≠ "") (hslash : '/' ∉ s.toList)
    (hdot : '.' ∉ s.toList) : IsName s := by
  refine isName_iff.mpr ⟨hne, hslash, ?_, ?_⟩
  · rintro rfl
    exact hdot (by decide)
  · rintro rfl
    exact hdot (by decide)

theorem IsName.plain {s : String} (h : IsName s) : s ≠ "" ∧ '/' ∉ s.toList :=
  ⟨(isName_iff.mp h).1, (isName_iff.mp h).2.1⟩

/-- A name stays one with an ending that has no slash and is long enough. -/
theorem IsName.append {s e : String} (hs : IsName s) (he : '/' ∉ e.toList)
    (hlong : 2 < e.length) : IsName (s ++ e) := by
  have hne (t : String) (ht : t.length ≤ 2) : s ++ e ≠ t := by
    intro heq
    have hlength := congrArg String.length heq
    rw [String.length_append] at hlength
    omega
  rw [isName_iff, String.toList_append, List.mem_append, not_or]
  exact ⟨hne "" (by decide), ⟨hs.plain.2, he⟩, hne "." (by decide),
    hne ".." (by decide)⟩

end Path

end AspectForms
