import AspectForms.Proofs.Components

/-!
The directories above a file.  Main statement: of a path through names every path above it is one through
names, which leads to the directory of the next one, and the list of them ends only at the top.
-/

namespace AspectForms.Path

open Text

section Steps

variable {first : Bool} {start : Nat} {w : List Char}

theorem stepsFrom_cons_eq (w : List Char) (ws : List (List Char)) :
    stepsFrom first start (w :: ws) =
      stepsFrom first start [w] ++ stepsFrom false (start + w.length + 1) ws := by
  rw [stepsFrom, stepsFrom]
  split
  · rfl
  · split
    · split <;> rfl
    · split <;> rfl

/-- A piece makes no step, or one that ends where the piece does. -/
theorem stepsFrom_singleton (first : Bool) (start : Nat) (w : List Char) :
    stepsFrom first start [w] = [] ∨
      ∃ c, stepsFrom first start [w] = [⟨c, start + w.length⟩] ∧ w ≠ [] ∧
        ∀ name, c = .normal name → name = String.ofList w := by
  rw [stepsFrom]
  split
  · exact .inl rfl
  · rename_i hempty
    rw [List.isEmpty_iff] at hempty
    split
    · split
      · exact .inr ⟨.current, rfl, hempty, fun _ h => by cases h⟩
      · exact .inl rfl
    · split
      · exact .inr ⟨.parent, rfl, hempty, fun _ h => by cases h⟩
      · exact .inr ⟨_, rfl, hempty, fun name h => (Component.normal.inj h).symm⟩

/-- The steps up to one of them are those of the pieces up to its end. -/
theorem exists_split_of_stepsFrom {ws : List (List Char)} {before after : List Step} {s : Step}
    (h : stepsFrom first start ws = before ++ s :: after) :
    ∃ front w back, ws = front ++ w :: back ∧ w ≠ [] ∧
      stepsFrom first start (front ++ [w]) = before ++ [s] ∧
      s.stop = start + (joinWith '/' (front ++ [w])).length ∧
      ∀ name, s.component = .normal name → name = String.ofList w := by
  induction ws generalizing first start before with
  | nil => simp [stepsFrom] at h
  | cons v ws ih =>
      rw [stepsFrom_cons_eq] at h
      have hlater {before' : List Step}
          (hrest : stepsFrom false (start + v.length + 1) ws = before' ++ s :: after)
          (hbefore : before = stepsFrom first start [v] ++ before') :
          ∃ front w back, v :: ws = front ++ w :: back ∧ w ≠ [] ∧
            stepsFrom first start (front ++ [w]) = before ++ [s] ∧
            s.stop = start + (joinWith '/' (front ++ [w])).length ∧
            ∀ name, s.component = .normal name → name = String.ofList w := by
        obtain ⟨front, w, back, rfl, hw, hsteps, hstop, hname⟩ := ih hrest
        refine ⟨v :: front, w, back, rfl, hw, ?_, ?_, hname⟩
        · rw [List.cons_append, stepsFrom_cons_eq, hsteps, hbefore, List.append_assoc]
        · have hjoin : joinWith '/' (v :: (front ++ [w])) =
              v ++ '/' :: joinWith '/' (front ++ [w]) :=
            joinWith_append (List.cons_ne_nil v []) (by simp)
          rw [hstop, List.cons_append, hjoin, List.length_append, List.length_cons]
          omega
      rcases stepsFrom_singleton first start v with hnone | ⟨c, hone, hv, hname⟩
      · rw [hnone, List.nil_append] at h
        exact hlater h (by rw [hnone, List.nil_append])
      · rw [hone, List.singleton_append] at h
        cases before with
        | nil =>
            obtain ⟨rfl, -⟩ := List.cons.inj h
            exact ⟨[], v, ws, rfl, hv, hone, rfl, hname⟩
        | cons t before =>
            obtain ⟨rfl, hrest⟩ := List.cons.inj h
            exact hlater hrest (by rw [hone, List.singleton_append])

end Steps

/-- The components of a path are names, and it ends where the last of them does. -/
structure ThroughNames (path : String) : Prop where
  relative : isAbsolute path = false
  names : ∀ c ∈ components path, ∃ n, c = .normal n
  last : ∀ piece ∈ (pieces path).getLast?, piece ≠ "."

/-- A path leads to a name in the directory of another path. -/
structure Enters (path p name : String) : Prop where
  split : ∃ dots, (∀ d ∈ dots, d = ".") ∧ pieces path = pieces p ++ (dots ++ [name])
  name_ne : name ≠ "."
  level : ".." ∉ pieces path
  start : isAbsolute p = isAbsolute path
  begins : p.toList <+: path.toList

theorem componentsOf_append_eq (first : Bool) (xs ys : List String) :
    componentsOf first (xs ++ ys) =
      componentsOf first xs ++ componentsOf (first && xs.isEmpty) ys := by
  induction xs generalizing first with
  | nil => simp [componentsOf]
  | cons x xs ih =>
      simp only [List.cons_append, componentsOf, ih, Bool.false_and, List.isEmpty_cons,
        Bool.and_false]
      split
      · split <;> rfl
      · split <;> rfl

/-- Pieces that mean nothing are dots. -/
theorem eq_dot_of_componentsOf_nil {ps : List String} (h : componentsOf false ps = []) :
    ∀ p ∈ ps, p = "." := by
  induction ps with
  | nil => exact nofun
  | cons p ps ih =>
      rw [componentsOf] at h
      split at h
      · rename_i hp
        exact List.forall_mem_cons.mpr ⟨hp, ih h⟩
      · split at h <;> cases h

/-- Pieces that mean one name and do not end in a dot are dots and that name. -/
theorem exists_dots_of_componentsOf {first : Bool} {ps : List String} {n : String}
    (h : componentsOf first ps = [.normal n]) (hlast : ∀ piece ∈ ps.getLast?, piece ≠ ".") :
    ∃ dots, (∀ d ∈ dots, d = ".") ∧ ps = dots ++ [n] := by
  induction ps generalizing first with
  | nil => cases h
  | cons p ps ih =>
      rw [componentsOf] at h
      split at h
      · rename_i hp
        split at h
        · cases (List.cons.inj h).1
        · cases ps with
          | nil => cases h
          | cons q ps =>
              obtain ⟨dots, hdots, heq⟩ := ih h (by simpa using hlast)
              exact ⟨p :: dots, List.forall_mem_cons.mpr ⟨hp, hdots⟩, by rw [heq]; rfl⟩
      · split at h
        · cases (List.cons.inj h).1
        · obtain ⟨hname, hrest⟩ := List.cons.inj h
          obtain rfl := Component.normal.inj hname
          refine ⟨[], List.forall_mem_nil _, ?_⟩
          rcases List.eq_nil_or_concat ps with rfl | ⟨front, d, rfl⟩
          · rfl
          · have hdot := eq_dot_of_componentsOf_nil hrest d (by simp)
            exact absurd hdot (hlast d (by simp [List.getLast?_cons]))

theorem steps_of_relative {path : String} (h : isAbsolute path = false) :
    steps path = stepsFrom true 0 (splitWhen (· == '/') path.toList) := by
  simp [steps, h]

/-- The path up to one of its steps. -/
theorem exists_upTo {path : String} (hrelative : isAbsolute path = false)
    {before after : List Step} {s : Step} (h : steps path = before ++ s :: after) :
    ∃ p, p = String.ofList (path.toList.take s.stop) ∧ isAbsolute p = false ∧
      steps p = before ++ [s] ∧ pieces p <+: pieces path ∧
      ∀ name, s.component = .normal name → (pieces p).getLast? = some name := by
  have hmem : s ∈ steps path := by
    rw [h]
    exact List.mem_append_right before List.mem_cons_self
  obtain ⟨hpieces, habsolute⟩ := pieces_take_of_mem_steps hmem
  rw [hrelative] at habsolute
  rw [steps_of_relative hrelative] at h
  obtain ⟨front, w, back, hsplit, hw, hsteps, hstop, hname⟩ := exists_split_of_stepsFrom h
  rw [List.append_cons] at hsplit
  have hplain : ∀ v ∈ front ++ [w], '/' ∉ v := by
    intro v hv hslash
    have hin : v ∈ splitWhen (· == '/') path.toList :=
      hsplit ▸ List.mem_append_left back hv
    cases not_mem_splitWhen _ _ v hin _ hslash
  have htake : path.toList.take s.stop = joinWith '/' (front ++ [w]) := by
    rw [hstop, Nat.zero_add, ← joinWith_splitWhen '/' path.toList, hsplit]
    cases back with
    | nil => rw [List.append_nil, List.take_length]
    | cons v vs => rw [joinWith_append (by simp) (List.cons_ne_nil v vs), List.take_left]
  refine ⟨_, rfl, habsolute, ?_, hpieces, fun name hcomponent => ?_⟩
  · rw [steps_of_relative habsolute, String.toList_ofList, htake,
      splitWhen_joinWith (by simp) hplain]
    exact hsteps
  · rw [hname name hcomponent, pieces_eq, String.toList_ofList, htake, cut_joinWith hplain]
    simp [hw]

theorem components_of_relative {path : String} (h : isAbsolute path = false) :
    components path = componentsOf true (pieces path) := by
  simp [components_eq, h]

theorem ne_dot_of_mem_components {path name : String} (h : isAbsolute path = false)
    (hname : .normal name ∈ components path) : name ≠ "." := by
  obtain ⟨⟨c, stop⟩, hs, rfl⟩ := List.mem_map.mp hname
  rw [steps_of_relative h] at hs
  exact (of_normal_mem_stepsFrom hs).2.2.1

namespace ThroughNames

theorem empty : ThroughNames "" where
  relative := rfl
  names _ hc := absurd hc List.not_mem_nil
  last _ hpiece := by cases hpiece

variable {path p name : String} (h : ThroughNames path)
include h

theorem level : ".." ∉ pieces path := by
  rw [← parent_mem_components_iff]
  intro hmem
  obtain ⟨n, hn⟩ := h.names _ hmem
  cases hn

/-- A path that begins with another one and means one name more leads to this name in its
directory. -/
theorem enters (hp : isAbsolute p = false) (hpieces : pieces p <+: pieces path)
    (hbegins : p.toList <+: path.toList)
    (hmore : components path = components p ++ [.normal name]) : Enters path p name where
  split := by
    obtain ⟨rest, hrest⟩ := hpieces
    have hone : componentsOf (true && (pieces p).isEmpty) rest = [.normal name] := by
      rw [components_of_relative h.relative, ← hrest, componentsOf_append_eq,
        ← components_of_relative hp] at hmore
      exact List.append_cancel_left hmore
    have hne : rest ≠ [] := by
      rintro rfl
      cases hone
    have hlast : ∀ piece ∈ rest.getLast?, piece ≠ "." := by
      intro piece hpiece
      refine h.last piece ?_
      rw [← hrest, List.getLast?_append_of_ne_nil _ hne]
      exact hpiece
    obtain ⟨dots, hdots, hdotsrest⟩ := exists_dots_of_componentsOf hone hlast
    exact ⟨dots, hdots, by rw [← hrest, hdotsrest]⟩
  name_ne := ne_dot_of_mem_components h.relative (hmore ▸ by simp)
  level := h.level
  start := hp.trans h.relative.symm
  begins := hbegins

/-- The path above a path through names is one, and the path leads to a name in its
directory. -/
theorem exists_parent (hne : components path ≠ []) :
    ∃ p name, parent? path = some p ∧ Enters path p name ∧ ThroughNames p ∧
      (p = "" ∨ components p ≠ []) := by
  rcases List.eq_nil_or_concat (steps path) with hnil | ⟨before, s, hsteps⟩
  · exact absurd (by rw [components, hnil]; rfl) hne
  rw [List.concat_eq_append] at hsteps
  have hs : s ∈ steps path := by
    rw [hsteps]
    exact List.mem_append_right before List.mem_cons_self
  obtain ⟨name, hname⟩ := h.names s.component (List.mem_map_of_mem hs)
  have hcomponents : components path = before.map Step.component ++ [.normal name] := by
    rw [components, hsteps, List.map_append, List.map_singleton, hname]
  rcases List.eq_nil_or_concat before with rfl | ⟨above, t, rfl⟩
  · refine ⟨"", name, ?_, h.enters rfl List.nil_prefix List.nil_prefix hcomponents, .empty,
      .inl rfl⟩
    obtain ⟨c, stop⟩ := s
    subst hname
    rw [parent?, hsteps]
    rfl
  · rw [List.concat_eq_append] at hsteps hcomponents
    have hsplit := hsteps
    rw [List.append_assoc, List.singleton_append] at hsplit
    obtain ⟨p, hp, hrelative, hstepsp, hpieces, hend⟩ := exists_upTo h.relative hsplit
    have hcomponentsp : components p = (above ++ [t]).map Step.component := by
      rw [components, hstepsp]
    rw [← hcomponentsp] at hcomponents
    have hbegins : p.toList <+: path.toList := by
      rw [hp, String.toList_ofList]
      exact List.take_prefix _ _
    have hnames : ∀ c ∈ components p, ∃ n, c = .normal n := fun c hc =>
      h.names c (hcomponents ▸ List.mem_append_left _ hc)
    have ht : t.component ∈ components p := by
      rw [hcomponentsp]
      exact List.mem_map_of_mem (List.mem_append_right above List.mem_cons_self)
    obtain ⟨last, hlast⟩ := hnames t.component ht
    refine ⟨p, name, ?_, h.enters hrelative hpieces hbegins hcomponents,
      ⟨hrelative, hnames, ?_⟩, .inr (List.ne_nil_of_mem ht)⟩
    · rw [parent?, hsteps, hp]
      simp
    · intro piece hpiece
      rw [hend last hlast] at hpiece
      obtain rfl := Option.some.inj hpiece
      exact ne_dot_of_mem_components hrelative (hlast ▸ ht)

end ThroughNames

section Push

variable {base : String} {names : List String}
  (hbase : ∀ c ∈ components base, ∃ n, c = .normal n) (hnames : ∀ n ∈ names, IsName n)

include hbase in
theorem isAbsolute_eq_false : isAbsolute base = false := by
  by_contra habsolute
  rw [components_eq, if_pos (by simpa using habsolute)] at hbase
  obtain ⟨n, hn⟩ := hbase .root List.mem_cons_self
  cases hn

include hbase hnames

theorem names_push_through :
    ∀ c ∈ components (push base (through names)), ∃ n, c = .normal n := by
  rw [components_push_through hnames]
  intro c hc
  rcases List.mem_append.mp hc with hc | hc
  · exact hbase c hc
  · obtain ⟨n, -, rfl⟩ := List.mem_map.mp hc
    exact ⟨n, rfl⟩

/-- What is named below names is a path through names. -/
theorem throughNames_push (hne : names ≠ []) : ThroughNames (push base (through names)) where
  relative := isAbsolute_eq_false (names_push_through hbase hnames)
  names := names_push_through hbase hnames
  last piece hpiece := by
    have hplain : ∀ n ∈ names, n ≠ "" ∧ '/' ∉ n.toList := fun n hn => (hnames n hn).plain
    rw [pieces_push (isAbsolute_through hplain), pieces_through hplain,
      List.getLast?_append_of_ne_nil _ hne] at hpiece
    exact (isName_iff.mp (hnames piece (List.mem_of_getLast? hpiece))).2.2.1

end Push

/-- Paths of which each leads to a name in the directory of the next one, the last to one in
the directory where relative paths start. -/
inductive Lineage : List String → Prop
  | top {path name : String} (h : Enters path "" name) : Lineage [path]
  | inside {path p name : String} {above : List String} (h : Enters path p name) (hp : p ≠ "")
      (habove : Lineage (p :: above)) : Lineage (path :: p :: above)

theorem Enters.length_lt {path p name : String} (h : Enters path p name) :
    p.length < path.length := by
  have hle := h.begins.length_le
  refine Nat.lt_of_le_of_ne hle fun heq => ?_
  have hsame : p = path := String.toList_inj.mp (h.begins.eq_of_length heq)
  obtain ⟨dots, -, hsplit⟩ := h.split
  have hlength := congrArg List.length hsplit
  rw [hsame, List.length_append, List.length_append] at hlength
  simp at hlength

theorem ne_empty_of_components {path : String} (h : components path ≠ []) : path ≠ "" := by
  rintro rfl
  exact h rfl

/-- The prefixes of a path through names are a lineage. -/
theorem ThroughNames.exists_prefixes {path : String} (h : ThroughNames path)
    (hne : components path ≠ []) :
    ∃ above, prefixes path = path :: above ∧ Lineage (path :: above) := by
  have hfuel (fuel : Nat) (path : String) (h : ThroughNames path) (hne : components path ≠ [])
      (hlt : path.length < fuel) :
      ∃ above, ancestors fuel path = path :: above ∧ Lineage (path :: above) := by
    induction fuel generalizing path with
    | zero => exact absurd hlt (Nat.not_lt_zero _)
    | succ fuel ih =>
        obtain ⟨p, name, hparent, henters, hp, hcases⟩ := h.exists_parent hne
        have hancestors : ancestors (fuel + 1) path = path :: ancestors fuel p := by
          rw [ancestors, hparent]
        rcases hcases with rfl | hcomponents
        · refine ⟨[], ?_, .top henters⟩
          rw [hancestors]
          cases fuel <;> rfl
        · obtain ⟨above, habove, hlineage⟩ :=
            ih p hp hcomponents (Nat.lt_of_lt_of_le henters.length_lt (Nat.le_of_lt_succ hlt))
          exact ⟨p :: above, by rw [hancestors, habove],
            .inside henters (ne_empty_of_components hcomponents) hlineage⟩
  exact hfuel _ path h hne (Nat.lt_succ_self _)

end AspectForms.Path
