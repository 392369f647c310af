import AspectForms.Proofs.FileReferences
import AspectForms.Proofs.Persistence

/-!
Runs of a form that are cut short, on disks without links.  Main statement: at every moment of a run that
is not a dry one, also where it fails with a file half written, each file with a class that the run has
written or overwritten holds the class of a component, or the beginning of one that the failure has left,
and the component imports nothing from the form but files that exist.
-/

namespace AspectForms

namespace Form

variable {stem title : String} {fields : List Field} {nodes : List Node}

/-- The components of a form in the order in which they are written. -/
def components (stem title : String) (fields : List Field) : List Component :=
  (placedFields fields).map PlacedField.component ++ [component stem title fields]

theorem drafts_eq : drafts stem title fields =
    sharedDraft :: (components stem title fields).flatMap Component.drafts := by
  rw [components, List.flatMap_append, List.flatMap_map, List.flatMap_singleton]
  rfl

theorem components_eq (hlist : placedFields fields = nodes.map (Node.placed {})) :
    components stem title fields =
      nodes.map Node.component ++ [component stem title fields] := by
  rw [components, hlist, List.map_map]
  rfl

/-- Behind the shared validators the classes are every other file. -/
theorem getElem?_drafts {j : Nat} {c : Component}
    (hc : (components stem title fields)[j]? = some c) :
    (drafts stem title fields)[2 * j + 1]? =
      some ⟨c.codePath, Component.text c.code⟩ := by
  have heven (cs : List Component) (j : Nat) (hc : cs[j]? = some c) :
      (cs.flatMap Component.drafts)[2 * j]? =
        some ⟨c.codePath, Component.text c.code⟩ := by
    induction cs generalizing j with
    | nil => cases hc
    | cons d cs ih =>
        rw [List.flatMap_cons, Component.drafts_eq]
        cases j with
        | zero =>
            obtain rfl := Option.some.inj hc
            rfl
        | succ j => exact ih j hc
  rw [drafts_eq, List.getElem?_cons_succ]
  exact heven _ j hc

/-- Only classes stand where a class does. -/
theorem exists_of_codePath {i : Nat} {draft : Draft} {c : Component}
    (h : (drafts stem title fields)[i]? = some draft)
    (hpath : draft.path = c.codePath) :
    ∃ j d, (components stem title fields)[j]? = some d ∧ i = 2 * j + 1 ∧
      draft = ⟨d.codePath, Component.text d.code⟩ := by
  have hodd (cs : List Component) (i : Nat)
      (h : (cs.flatMap Component.drafts)[i]? = some draft) :
      ∃ j d, cs[j]? = some d ∧ i = 2 * j ∧
        draft = ⟨d.codePath, Component.text d.code⟩ := by
    induction cs generalizing i with
    | nil => cases h
    | cons d cs ih =>
        rw [List.flatMap_cons, Component.drafts_eq] at h
        match i with
        | 0 => exact ⟨0, d, rfl, rfl, (Option.some.inj h).symm⟩
        | 1 =>
            obtain rfl := Option.some.inj h
            exact absurd hpath.symm (Component.codePath_ne_markupPath c d)
        | i + 2 =>
            obtain ⟨j, e, he, rfl, hdraft⟩ := ih i h
            exact ⟨j + 1, e, he, by omega, hdraft⟩
  rw [drafts_eq] at h
  cases i with
  | zero =>
      obtain rfl := Option.some.inj h
      exact absurd hpath.symm c.codePath_ne_shared
  | succ i =>
      obtain ⟨j, d, hd, rfl, hdraft⟩ := hodd _ i h
      exact ⟨j, d, hd, rfl, hdraft⟩

theorem getElem?_components (hlist : placedFields fields = nodes.map (Node.placed {}))
    {j : Nat} {n : Node} (hn : nodes[j]? = some n) :
    (components stem title fields)[j]? = some n.component := by
  rw [components_eq hlist, List.getElem?_append_left, List.getElem?_map, hn]
  · rfl
  · rw [List.length_map]
    exact (List.getElem?_eq_some_iff.mp hn).1

/-- A component is that of a field or, as the last one, that of the form. -/
theorem getElem?_components_cases
    (hlist : placedFields fields = nodes.map (Node.placed {}))
    {j : Nat} {c : Component} (hc : (components stem title fields)[j]? = some c) :
    (∃ n, nodes[j]? = some n ∧ c = n.component) ∨
      j = nodes.length ∧ c = component stem title fields := by
  rcases Nat.lt_or_ge j nodes.length with hj | hj
  · have hn : nodes[j]? = some nodes[j] := List.getElem?_eq_getElem hj
    have hsame := (getElem?_components hlist hn).symm.trans hc
    exact .inl ⟨nodes[j], hn, (Option.some.inj hsame).symm⟩
  · rw [components_eq hlist, List.getElem?_append_right (by simpa using hj),
      List.length_map] at hc
    obtain ⟨hlt, rfl⟩ := List.getElem?_eq_some_iff.mp hc
    rw [List.length_singleton] at hlt
    exact .inr ⟨by omega, by simp⟩

/-- The file holds the shared validators, or the class of a component right
inside component `c`. -/
def Supplies (stem title : String) (fields : List Field) (c : Component)
    (file : String) : Prop :=
  file = sharedDraft.path ∨ ∃ n : Node, n.StandsIn fields ∧
    holder stem title fields n = c ∧ n.component.codePath = file

theorem getElem?_paths_class {j : Nat} {c : Component}
    (hc : (components stem title fields)[j]? = some c) :
    ((drafts stem title fields).map Draft.path)[2 * j + 1]? = some c.codePath := by
  rw [List.getElem?_map, getElem?_drafts hc]
  rfl

/-- What a class imports from the form comes before it. -/
theorem supplies_of_imports
    (hnames : ∀ f, Field.OccursIn fields f → Path.IsName f.dashed)
    {j : Nat} {c : Component} (hc : (components stem title fields)[j]? = some c)
    {module : String} (hmodule : c.Imports module) :
    module = "@angular/core" ∨ module = "@angular/forms" ∨
      ∃ file, Path.moduleFile? c.directory module = some file ∧
        Supplies stem title fields c file ∧ ∃ i < 2 * j + 1,
          ((drafts stem title fields).map Draft.path)[i]? = some file := by
  obtain ⟨nodes, hnodes, hlist⟩ := exists_postorder_placedFields fields
  rcases getElem?_components_cases hlist hc with ⟨n, hn, rfl⟩ | ⟨rfl, rfl⟩
  · have hstands := (hnodes.mem_iff n).mp (List.mem_of_getElem? hn)
    rcases (n.imports_component_iff module).mp hmodule with
      hcore | hforms | ⟨_, rfl⟩ | ⟨k, g, hg, rfl⟩
    · exact .inl hcore
    · exact .inr (.inl hforms)
    · exact .inr (.inr ⟨_, moduleFile?_shared hnames hstands, .inl rfl, 0,
        by omega, rfl⟩)
    · -- a field inside this one comes before it in post-order
      have hchild := hstands.child hg
      obtain ⟨i, hij, hi⟩ := hnodes.exists_lt hn hchild (n.before_child k g)
      have hleads := moduleFile?_holder hnames hchild stem title
      rw [holder_child] at hleads
      exact .inr (.inr ⟨_, hleads, .inr ⟨_, hchild, holder_child n k g, rfl⟩,
        2 * i + 1, by omega, getElem?_paths_class (getElem?_components hlist hi)⟩)
  · rcases imports_component_iff.mp hmodule with hcore | hforms | ⟨f, hf, rfl⟩
    · exact .inl hcore
    · exact .inr (.inl hforms)
    · -- every field comes before the form
      obtain ⟨k, hk⟩ := List.mem_iff_getElem?.mp hf
      have hstands : Node.StandsIn fields ⟨[k], [], f⟩ := .top hk
      obtain ⟨i, hi⟩ := List.mem_iff_getElem?.mp ((hnodes.mem_iff _).mpr hstands)
      have hlt := (List.getElem?_eq_some_iff.mp hi).1
      exact .inr (.inr ⟨_, moduleFile?_holder hnames hstands stem title,
        .inr ⟨_, hstands, rfl, rfl⟩, 2 * i + 1, by omega,
        getElem?_paths_class (getElem?_components hlist hi)⟩)

/-- A class stands in the directory of its component. -/
theorem parent?_codePath (hstem : Path.IsName stem)
    (hnames : ∀ f, Field.OccursIn fields f → Path.IsName f.dashed)
    {j : Nat} {c : Component} (hc : (components stem title fields)[j]? = some c) :
    Path.parent? c.codePath = some c.directory := by
  obtain ⟨nodes, hnodes, hlist⟩ := exists_postorder_placedFields fields
  rcases getElem?_components_cases hlist hc with ⟨n, hn, rfl⟩ | ⟨_, rfl⟩
  · have hstands := (hnodes.mem_iff n).mp (List.mem_of_getElem? hn)
    rw [Component.codePath, n.directory_component, n.stem_component]
    exact Path.parent?_push_ofNames (Node.forall_dashes hstands hnames)
      (Component.isName_codeFile (hnames _ (Node.occursIn hstands)))
  · change Path.parent? (Path.push (Path.ofNames []) (Component.codeFile stem)) =
      some (Path.ofNames [])
    exact Path.parent?_push_ofNames (by simp) (Component.isName_codeFile hstem)

/-- A run of a form after `k` files, or where it has failed before. -/
def runUntil (w : Writer) (s : FaultyDisk) (stem title : String)
    (fields : List Field) (k : Nat) : Writer.Progress FaultyDisk :=
  w.writeAll s ((drafts stem title fields).take k)

/-- The files dealt with so far are the first ones in their order. -/
theorem getElem?_paths_runUntil {w : Writer} {s : FaultyDisk} {k i : Nat}
    (h : i < (runUntil w s stem title fields k).artifacts.length) :
    ((runUntil w s stem title fields k).artifacts.map Artifact.path)[i]? =
      ((drafts stem title fields).map Draft.path)[i]? := by
  have hprefix : (runUntil w s stem title fields k).artifacts.map Artifact.path <+:
      (drafts stem title fields).map Draft.path :=
    Writer.paths_writeAll_prefix.trans ((List.take_prefix k _).map Draft.path)
  obtain ⟨rest, hrest⟩ := hprefix
  rw [← hrest, List.getElem?_append_left]
  rwa [List.length_map]

/-- Paths of a form that lead to the same place are the same. -/
theorem path_eq_of_locate (hstem : Path.IsName stem)
    (hnames : ∀ f, Field.OccursIn fields f → Path.IsName f.dashed)
    {disk : Disk} {root p q : String}
    (hp : p ∈ (drafts stem title fields).map Draft.path)
    (hq : q ∈ (drafts stem title fields).map Draft.path)
    (h : disk.locate (Path.push root p) = disk.locate (Path.push root q)) :
    p = q := by
  have hall := isName_of_mem_steps hstem hnames
  rw [paths_drafts_of_not_mem (fun f hf => (hnames f hf).plain.2)
    hstem.plain.2] at hp hq
  obtain ⟨s, hs, rfl⟩ := List.mem_map.mp hp
  obtain ⟨t, ht, rfl⟩ := List.mem_map.mp hq
  rw [Disk.locate_push_through (hall s hs), Disk.locate_push_through (hall t ht)] at h
  rw [List.append_cancel_left h]

/-- What a class imports comes from the framework or is a file of the form that exists. -/
def ImportsExist (w : Writer) (now : Disk) (stem title : String) (fields : List Field)
    (c : Component) : Prop :=
  ∀ module, c.Imports module →
    module = "@angular/core" ∨ module = "@angular/forms" ∨
      ∃ directory file, Path.parent? c.codePath = some directory ∧
        Path.moduleFile? directory module = some file ∧
        Supplies stem title fields c file ∧
        now.exists (Path.push w.root file) = true

/-- Once a run has come to a class, what the class imports exists. -/
theorem importsExist_of_reached {w : Writer} (hreal : w.dryRun = false)
    (hstem : Path.IsName stem)
    (hnames : ∀ f, Field.OccursIn fields f → Path.IsName f.dashed)
    {s : FaultyDisk} {k j : Nat} {c : Component}
    (hc : (components stem title fields)[j]? = some c)
    (hj : 2 * j + 1 ≤ (runUntil w s stem title fields k).artifacts.length) :
    ImportsExist w (runUntil w s stem title fields k).disk.disk stem title fields c := by
  intro module hmodule
  rcases supplies_of_imports hnames hc hmodule with
    hcore | hforms | ⟨file, hfile, hsupplies, m, hm, hbefore⟩
  · exact .inl hcore
  · exact .inr (.inl hforms)
  · rw [← getElem?_paths_runUntil (Nat.lt_of_lt_of_le hm hj)] at hbefore
    obtain ⟨b, hb, rfl⟩ := List.mem_map.mp (List.mem_of_getElem? hbefore)
    exact .inr (.inr ⟨c.directory, _, parent?_codePath hstem hnames hc, hfile, hsupplies,
      Writer.exists_of_writeAll_faulty hreal b hb⟩)

/-- At every moment of a run that is not a dry one, whatever faults strike, a file
with a class that the run has written or overwritten holds the class of a
component with this path, or the run has failed at such a class and has left a
beginning of it.  The class imports from the framework, from the shared
validators and from components right inside its own, and these files exist.  So
do those that the class imports at which the run has failed. -/
theorem imports_exist {w : Writer} (hreal : w.dryRun = false)
    (hstem : Path.IsName stem)
    (hnames : ∀ f, Field.OccursIn fields f → Path.IsName f.dashed)
    (title : String) (s : FaultyDisk) (k : Nat) :
    let run := runUntil w s stem title fields k
    let now := run.disk.disk
    (∀ c ∈ components stem title fields, ∀ a ∈ run.artifacts, a.path = c.codePath →
      a.outcome = .written ∨ a.outcome = .overwritten →
        ∃ d ∈ components stem title fields, d.codePath = a.path ∧
          (now.readText (Path.push w.root a.path) = .ok (Component.text d.code) ∨
            run.failure.isSome = true ∧ ∃ n ∈ s.stops,
              now.kindAt? (now.locate (Path.push w.root a.path)) =
                some (.file (.beginning n (Component.text d.code)))) ∧
          ImportsExist w now stem title fields d) ∧
    ∀ j c, (components stem title fields)[j]? = some c → 2 * j + 1 = run.artifacts.length →
      ImportsExist w now stem title fields c := by
  intro run now
  have himports {j : Nat} {c : Component} (hc : (components stem title fields)[j]? = some c)
      (hj : 2 * j + 1 ≤ run.artifacts.length) : ImportsExist w now stem title fields c :=
    importsExist_of_reached hreal hstem hnames hc hj
  refine ⟨?_, fun j c hc hj => himports hc (Nat.le_of_eq hj)⟩
  intro c hc a ha hpath hwritten
  obtain ⟨i, draft, htaken, hlocate, hshows⟩ := Writer.shows_of_writeAll a ha hwritten
  have hdraft : (drafts stem title fields)[i]? = some draft := by
    rw [List.getElem?_take] at htaken
    split at htaken
    · exact htaken
    · cases htaken
  -- what is there comes from a class, for no other file of the form leads there
  have hone : draft.path ∈ (drafts stem title fields).map Draft.path :=
    List.mem_map_of_mem (List.mem_of_getElem? hdraft)
  have hother : a.path ∈ (drafts stem title fields).map Draft.path := by
    obtain ⟨j, hj⟩ := List.mem_iff_getElem?.mp hc
    exact hpath ▸ List.mem_of_getElem? (getElem?_paths_class hj)
  have hsame := path_eq_of_locate hstem hnames hone hother hlocate
  obtain ⟨j, d, hd, rfl, rfl⟩ := exists_of_codePath hdraft (hsame.trans hpath)
  have hworking : now.working = s.disk.working :=
    (w.extends_writeAll_faulty s ((drafts stem title fields).take k)).working
  have hreached : 2 * j + 1 ≤ run.artifacts.length := by
    rcases hshows with ⟨hi, _⟩ | ⟨hi, _⟩
    · exact Nat.le_of_lt hi
    · exact Nat.le_of_eq hi
  refine ⟨d, List.mem_of_getElem? hd, hsame, ?_, himports hd hreached⟩
  rw [Disk.locate_eq_of_working hworking]
  exact hshows.imp And.right And.right

end Form

namespace InterruptionWitness

open EmissionWitness

/-- The place of the position at the top of the form. -/
def place : Node := ⟨[0], [], position⟩

/-- A run that fails at the markup of the position, for which there are three bytes of room. -/
def moment : Writer.Progress FaultyDisk :=
  Form.runUntil writer ⟨disk, List.replicate 17 none ++ [some ⟨.noSpace, some 3⟩]⟩
    "movement-form" "Movement" fields 7

theorem imports_place :
    place.component.Imports "./latitude/latitude.component" := by
  rw [place.imports_component_iff]
  exact .inr (.inr (.inr ⟨0, latitude, rfl, by decide⟩))

theorem imports_exist_of_position :
    ⟨"position/position.component.ts", .written⟩ ∈ moment.artifacts ∧
      moment.failure.isSome = true ∧
      moment.disk.disk.readText "out/position/position.component.html" = .ok "<fi" ∧
      ∃ directory file,
        Path.parent? "position/position.component.ts" = some directory ∧
        Path.moduleFile? directory "./latitude/latitude.component" = some file ∧
        moment.disk.disk.exists (Path.push writer.root file) = true := by
  have hcomponent : (Form.components "movement-form" "Movement" fields)[2]? =
      some place.component := rfl
  have hmoment : ⟨"position/position.component.ts", .written⟩ ∈ moment.artifacts ∧
      moment.failure.isSome = true ∧
      moment.disk.disk.readText "out/position/position.component.html" = .ok "<fi" := by
    decide +kernel
  obtain ⟨hartifact, hfailure, hmarkup⟩ := hmoment
  have hpath : "position/position.component.ts" = place.component.codePath := by
    decide +kernel
  have hstem : Path.IsName "movement-form" :=
    Path.isName_of_not_mem (by decide) (by decide) (by decide)
  obtain ⟨hall, _⟩ := Form.imports_exist (w := writer) rfl hstem isName_fields "Movement"
    ⟨disk, List.replicate 17 none ++ [some ⟨.noSpace, some 3⟩]⟩ 7
  obtain ⟨d, hd, hsame, _, himports⟩ :=
    hall _ (List.mem_of_getElem? hcomponent) _ hartifact hpath (.inl rfl)
  have honly : ∀ d ∈ Form.components "movement-form" "Movement" fields,
      d.codePath = "position/position.component.ts" → d = place.component := by
    decide +kernel
  obtain rfl := honly d hd hsame
  refine ⟨hartifact, hfailure, hmarkup, ?_⟩
  rcases himports _ imports_place with hcore | hforms | hexists
  · exact absurd hcore (by decide)
  · exact absurd hforms (by decide)
  · obtain ⟨directory, file, hdirectory, hfile, _, hthere⟩ := hexists
    exact ⟨directory, file, hpath ▸ hdirectory, hfile, hthere⟩

end InterruptionWitness

end AspectForms
