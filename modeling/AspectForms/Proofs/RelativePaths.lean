import AspectForms.Proofs.Paths

/-!
References between files by relative paths.  Main statements: from the directory of some names a
reference that starts with a dot leads further down, and one with a step up for each name leads on from
the top.
-/

namespace AspectForms

namespace Path

/-- The directory one piece further on, as long as it is not above the top. -/
def turn? (here : List String) (piece : String) : Option (List String) :=
  if piece = "." then some here
  else if piece = ".." then if here = [] then none else some here.dropLast
  else some (here ++ [piece])

/-- The path that a reference from a directory leads to, if it does not lead
above the top. -/
def against? (directory reference : String) : Option String :=
  ((pieces directory ++ pieces reference).foldlM turn? []).map through

/-- The file of a module that is referred to from a directory. -/
def moduleFile? (directory reference : String) : Option String :=
  (against? directory reference).map (· ++ ".ts")

section Turns

variable {here names : List String}

theorem foldlM_turn?_names (h : ∀ n ∈ names, IsName n) :
    names.foldlM turn? here = some (here ++ names) := by
  induction names generalizing here with
  | nil => simp
  | cons n names ih =>
      obtain ⟨_, _, hdot, hdots⟩ := isName_iff.mp (h n List.mem_cons_self)
      have hstep : turn? here n = some (here ++ [n]) := by
        rw [turn?, if_neg hdot, if_neg hdots]
      rw [List.foldlM_cons, hstep, Option.bind_eq_bind, Option.bind_some,
        ih fun m hm => h m (List.mem_cons_of_mem n hm)]
      simp

/-- As many pieces up as there are names lead back to the top. -/
theorem foldlM_turn?_up :
    (List.replicate here.length "..").foldlM turn? here = some [] := by
  induction here using List.reverseRecOn with
  | nil => simp
  | append_singleton here n ih =>
      have hstep : turn? (here ++ [n]) ".." = some here := by
        simp [turn?]
      rw [List.length_append, List.length_singleton, List.replicate_succ,
        List.foldlM_cons, hstep, Option.bind_eq_bind, Option.bind_some, ih]

end Turns

section Against

variable {names rest : List String} (hnames : ∀ n ∈ names, IsName n)

theorem filter_names (hnames : ∀ n ∈ names, IsName n) :
    names.filter (!·.isEmpty) = names := by
  apply List.filter_eq_self.mpr
  intro n hn
  have hne := (hnames n hn).plain.1
  simpa using hne

include hnames

/-- A file in the directory of some names has the path through these names. -/
theorem push_ofNames_of_names {file : String} (hfile : '/' ∉ file.toList) :
    push (ofNames names) file = through (names ++ [file]) := by
  rw [push_ofNames (fun n hn => (hnames n hn).plain.2) hfile, filter_names hnames]

theorem ofNames_eq_through : ofNames names = through names := by
  induction names using List.reverseRecOn with
  | nil => rfl
  | append_singleton names n _ =>
      have hlast := hnames n (List.mem_append_right _ List.mem_cons_self)
      have hbefore : ∀ m ∈ names, IsName m := fun m hm =>
        hnames m (List.mem_append_left _ hm)
      rw [ofNames, List.foldl_append]
      exact push_ofNames_of_names hbefore hlast.plain.2

theorem pieces_ofNames : pieces (ofNames names) = names := by
  rw [ofNames_eq_through hnames]
  exact pieces_through fun n hn => (hnames n hn).plain

/-- A reference that starts with a dot leads further down. -/
theorem against?_here (hrest : ∀ n ∈ rest, IsName n) :
    against? (ofNames names) (through ("." :: rest)) =
      some (through (names ++ rest)) := by
  have hpieces : pieces (through ("." :: rest)) = "." :: rest := by
    apply pieces_through
    intro n hn
    rcases List.mem_cons.mp hn with rfl | hn
    · decide
    · exact (hrest n hn).plain
  have hdot : turn? names "." = some names := by simp [turn?]
  rw [against?, pieces_ofNames hnames, hpieces, List.foldlM_append,
    foldlM_turn?_names hnames, Option.bind_eq_bind, Option.bind_some,
    List.nil_append, List.foldlM_cons, hdot, Option.bind_eq_bind,
    Option.bind_some, foldlM_turn?_names hrest]
  rfl

/-- A reference that starts with as many steps up as the directory is deep leads
on from the top. -/
theorem against?_up (hrest : ∀ n ∈ rest, IsName n) :
    against? (ofNames names)
        (through (List.replicate names.length ".." ++ rest)) =
      some (through rest) := by
  have hpieces : pieces (through (List.replicate names.length ".." ++ rest)) =
      List.replicate names.length ".." ++ rest := by
    apply pieces_through
    intro n hn
    rcases List.mem_append.mp hn with hn | hn
    · obtain ⟨_, rfl⟩ := List.mem_replicate.mp hn
      decide
    · exact (hrest n hn).plain
  rw [against?, pieces_ofNames hnames, hpieces, List.foldlM_append,
    foldlM_turn?_names hnames, Option.bind_eq_bind, Option.bind_some,
    List.nil_append, List.foldlM_append, foldlM_turn?_up, Option.bind_eq_bind,
    Option.bind_some, foldlM_turn?_names hrest]
  rfl

end Against

theorem stepsFrom_cons {first : Bool} {start : Nat} {n : String}
    (h : IsName n) (ws : List (List Char)) :
    stepsFrom first start (n.toList :: ws) =
      ⟨.normal n, start + n.toList.length⟩ ::
        stepsFrom false (start + n.toList.length + 1) ws := by
  obtain ⟨hempty, _, hdot, hdots⟩ := isName_iff.mp h
  have hhere : n.toList ≠ ['.'] := fun heq => hdot (String.toList_inj.mp heq)
  have habove : n.toList ≠ ['.', '.'] := fun heq =>
    hdots (String.toList_inj.mp heq)
  simp [stepsFrom, hempty, hhere, habove]

/-- The last step of a path through names ends where the path does. -/
theorem exists_last_step {first : Bool} {start : Nat} {names : List String}
    (hne : names ≠ []) (h : ∀ n ∈ names, IsName n) :
    ∃ front last, stepsFrom first start (names.map String.toList) =
      front ++ [⟨last,
        start + (Text.joinWith '/' (names.map String.toList)).length⟩] := by
  induction names generalizing first start with
  | nil => exact absurd rfl hne
  | cons n names ih =>
      rw [List.map_cons, stepsFrom_cons (h n List.mem_cons_self)]
      cases names with
      | nil => exact ⟨[], .normal n, rfl⟩
      | cons m names =>
          obtain ⟨front, last, hsteps⟩ :=
            @ih false (start + n.toList.length + 1) (List.cons_ne_nil m names)
              fun k hk => h k (List.mem_cons_of_mem n hk)
          refine ⟨⟨.normal n, start + n.toList.length⟩ :: front, last, ?_⟩
          have hjoin : Text.joinWith '/' (n.toList :: (m :: names).map String.toList) =
              n.toList ++ '/' :: Text.joinWith '/' ((m :: names).map String.toList) :=
            Text.joinWith_append (List.cons_ne_nil _ []) (List.cons_ne_nil _ _)
          rw [hsteps, hjoin, List.cons_append, List.length_append, List.length_cons]
          congr 4
          omega

theorem exists_steps_concat {first : Bool} {start : Nat} {names : List String}
    {file : String} (h : ∀ n ∈ names, IsName n) (hfile : IsName file) :
    ∃ stop, stepsFrom first start ((names ++ [file]).map String.toList) =
      stepsFrom first start (names.map String.toList) ++
        [⟨.normal file, stop⟩] := by
  induction names generalizing first start with
  | nil => exact ⟨_, stepsFrom_cons hfile []⟩
  | cons n names ih =>
      have hn := h n List.mem_cons_self
      obtain ⟨stop, hsteps⟩ := ih fun k hk => h k (List.mem_cons_of_mem n hk)
      refine ⟨stop, ?_⟩
      rw [List.cons_append, List.map_cons, List.map_cons, stepsFrom_cons hn,
        stepsFrom_cons hn, hsteps, List.cons_append]

/-- The directory of a file has the path through the names before it. -/
theorem parent?_through {names : List String} {file : String}
    (h : ∀ n ∈ names, IsName n) (hfile : IsName file) :
    parent? (through (names ++ [file])) = some (through names) := by
  have hplain : ∀ n ∈ names ++ [file], n ≠ "" ∧ '/' ∉ n.toList := by
    intro n hn
    rcases List.mem_append.mp hn with hn | hn
    · exact (h n hn).plain
    · exact List.mem_singleton.mp hn ▸ hfile.plain
  have hsplit : Text.splitWhen (· == '/') (through (names ++ [file])).toList =
      (names ++ [file]).map String.toList := by
    rw [through, String.toList_ofList]
    apply Text.splitWhen_joinWith
    · simp
    · intro w hw
      obtain ⟨n, hn, rfl⟩ := List.mem_map.mp hw
      exact (hplain n hn).2
  obtain ⟨stop, hsteps⟩ := @exists_steps_concat true 0 names file h hfile
  have hpath : steps (through (names ++ [file])) =
      stepsFrom true 0 (names.map String.toList) ++ [⟨.normal file, stop⟩] := by
    unfold steps
    rw [isAbsolute_through hplain, hsplit]
    exact hsteps
  unfold parent?
  rw [hpath, List.reverse_append]
  by_cases hne : names = []
  · subst hne
    rfl
  · obtain ⟨front, last, hlast⟩ := @exists_last_step true 0 names hne h
    rw [hlast, List.reverse_append]
    simp only [List.reverse_singleton, List.singleton_append, Nat.zero_add]
    rw [through, through, String.toList_ofList, List.map_append,
      Text.joinWith_append, List.take_left]
    · simpa using hne
    · simp

theorem parent?_push_ofNames {names : List String} {file : String}
    (h : ∀ n ∈ names, IsName n) (hfile : IsName file) :
    parent? (push (ofNames names) file) = some (ofNames names) := by
  rw [push_ofNames_of_names h hfile.plain.2, parent?_through h hfile,
    ofNames_eq_through h]

theorem through_concat_append (names : List String) (s t : String) :
    through (names ++ [s]) ++ t = through (names ++ [s ++ t]) := by
  apply String.toList_inj.mp
  simp [through, joinWith_concat]

theorem through_cons {names : List String} (n : String) (h : names ≠ []) :
    through (n :: names) = n ++ "/" ++ through names := by
  obtain ⟨m, names, rfl⟩ := List.exists_cons_of_ne_nil h
  apply String.toList_inj.mp
  simp [through, Text.joinWith]

end Path

end AspectForms
