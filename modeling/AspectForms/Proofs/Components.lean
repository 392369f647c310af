import AspectForms.Proofs.Paths

/-!
The components of a path, told by its pieces.  Main statements: a path leads up exactly if one of its
pieces does, and names that are pushed onto a path are its further components.
-/

namespace AspectForms.Path

open Text

/-- What pieces mean as components; `first` tells whether they begin a relative
path. -/
def componentsOf (first : Bool) : List String → List Component
  | [] => []
  | piece :: pieces =>
    let rest := componentsOf false pieces
    if piece = "." then if first then .current :: rest else rest
    else if piece = ".." then .parent :: rest
    else .normal piece :: rest

theorem ofList_eq_iff {w : List Char} {s : String} :
    String.ofList w = s ↔ w = s.toList := by
  rw [← String.toList_inj, String.toList_ofList]

theorem map_component_stepsFrom {first : Bool} (start : Nat)
    {ws : List (List Char)} (hfirst : first = true → ws.head? ≠ some []) :
    (stepsFrom first start ws).map Step.component =
      componentsOf first ((ws.filter (!·.isEmpty)).map String.ofList) := by
  induction ws generalizing first start with
  | nil => rfl
  | cons w ws ih =>
      have hrest (stop : Nat) : (stepsFrom false stop ws).map Step.component =
          componentsOf false ((ws.filter (!·.isEmpty)).map String.ofList) :=
        ih stop nofun
      by_cases hempty : w = []
      · subst hempty
        cases first with
        | true => exact absurd rfl (hfirst rfl)
        | false => exact hrest _
      · have hkeep : (w :: ws).filter (!·.isEmpty) = w :: ws.filter (!·.isEmpty) := by
          simp [hempty]
        have hdot : String.ofList w = "." ↔ w = ['.'] := ofList_eq_iff
        have hdots : String.ofList w = ".." ↔ w = ['.', '.'] := ofList_eq_iff
        rw [hkeep, List.map_cons, componentsOf, stepsFrom,
          ← hrest (start + w.length + 1)]
        simp only [List.isEmpty_iff, hempty, if_false, hdot, hdots]
        split
        · split <;> rfl
        · split <;> rfl

/-- The components of a path are what its pieces mean, below the root if it
starts there. -/
theorem components_eq (path : String) :
    components path =
      if isAbsolute path then .root :: componentsOf false (pieces path)
      else componentsOf true (pieces path) := by
  rw [components, steps, pieces_eq, cut]
  split
  · exact congrArg (.root :: ·) (map_component_stepsFrom 0 fun h => absurd h Bool.false_ne_true)
  · rename_i hrelative
    cases hlist : path.toList with
    | nil => rfl
    | cons c cs =>
        have hc : ¬(c == '/') = true := by
          intro heq
          refine hrelative ?_
          rw [isAbsolute, hlist, eq_of_beq heq]
          rfl
        refine map_component_stepsFrom 0 fun _ => ?_
        -- what comes before the first slash has a character
        rw [splitWhen, if_neg hc]
        split <;> simp

theorem parent_mem_componentsOf_iff {first : Bool} {ps : List String} :
    .parent ∈ componentsOf first ps ↔ ".." ∈ ps := by
  induction ps generalizing first with
  | nil => simp [componentsOf]
  | cons p ps ih =>
      rw [componentsOf, List.mem_cons]
      split
      · rename_i hdot
        subst hdot
        split <;> simp [ih]
      · split
        · rename_i hdots
          simp [hdots]
        · rename_i hdots
          simp [ih, Ne.symm hdots]

/-- A path leads up exactly if one of its pieces does. -/
theorem parent_mem_components_iff {path : String} :
    .parent ∈ components path ↔ ".." ∈ pieces path := by
  rw [components_eq]
  split
  · rw [List.mem_cons, parent_mem_componentsOf_iff]
    simp
  · exact parent_mem_componentsOf_iff

/-- Paths that do not lead up make a path that does not. -/
theorem dots_not_mem_pieces_push {base p : String} (hbase : .parent ∉ components base)
    (hp : .parent ∉ components p) : ".." ∉ pieces (push base p) := by
  rw [parent_mem_components_iff] at hbase hp
  cases habsolute : isAbsolute p with
  | true =>
      rw [push, if_pos habsolute]
      exact hp
  | false =>
      rw [pieces_push habsolute, List.mem_append, not_or]
      exact ⟨hbase, hp⟩

section Names

variable {names : List String} (h : ∀ n ∈ names, IsName n)
include h

theorem componentsOf_append (first : Bool) (ps : List String) :
    componentsOf first (ps ++ names) =
      componentsOf first ps ++ names.map .normal := by
  have hnames (first : Bool) : componentsOf first names = names.map .normal := by
    induction names generalizing first with
    | nil => rfl
    | cons n names ih =>
        obtain ⟨_, _, hdot, hdots⟩ := isName_iff.mp (h n List.mem_cons_self)
        have hrest := ih (fun m hm => h m (List.mem_cons_of_mem n hm)) false
        rw [componentsOf, if_neg hdot, if_neg hdots, hrest, List.map_cons]
  induction ps generalizing first with
  | nil => exact hnames first
  | cons p ps ih =>
      rw [List.cons_append, componentsOf, componentsOf, ih]
      split
      · split <;> rfl
      · split <;> rfl

/-- The path through some names adds these names to the path it is pushed onto. -/
theorem components_push_through (base : String) :
    components (push base (through names)) = components base ++ names.map .normal := by
  have hplain : ∀ n ∈ names, n ≠ "" ∧ '/' ∉ n.toList := fun n hn => (h n hn).plain
  have hrelative := isAbsolute_through hplain
  rw [components_eq, components_eq, isAbsolute_push hrelative, pieces_push hrelative,
    pieces_through hplain, componentsOf_append h, componentsOf_append h]
  split <;> rfl

theorem components_through : components (through names) = names.map .normal := by
  have hplain : ∀ n ∈ names, n ≠ "" ∧ '/' ∉ n.toList := fun n hn => (h n hn).plain
  have hpush := components_push_through h ""
  rw [push_empty (isAbsolute_through hplain)] at hpush
  exact hpush

end Names

end AspectForms.Path
