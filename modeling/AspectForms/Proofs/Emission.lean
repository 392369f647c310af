import AspectForms.Proofs.FreshRun
import AspectForms.Proofs.Nodes

/-!
What a run of a form deals with.  Main statement: a run without a failure deals with the shared
validators, then with the two files of every field in depth-first post-order, and last with those of the
form.  The files have paths of their own if siblings have directories of their own.
-/

namespace AspectForms

namespace Node

/-- The paths of the two files of a field. -/
def files (n : Node) : List String :=
  [Path.push (Path.ofNames n.dashes) (n.field.dashed ++ ".component.ts"),
    Path.push (Path.ofNames n.dashes) (n.field.dashed ++ ".component.html")]

/-- The component of a field as the one above sees it. -/
def registration (n : Node) : Registration where
  name := n.field.name
  className := className n.names
  selector := selector n.names
  importPath := "./" ++ n.field.dashed ++ "/" ++ n.field.dashed ++ ".component"

theorem registration_placed (n : Node) :
    (n.placed {}).registration = n.registration := by
  have hnames : ((n.placed {}).trail.down n.field).names = n.names :=
    n.names_placed
  rw [registration, ← hnames]
  rfl

theorem files_placed (n : Node) :
    (n.placed {}).component.drafts.map Draft.path = n.files := by
  rw [files, ← n.dashes_placed, ← PlacedField.directory_component]
  have hstem := (n.placed {}).stem_component
  rw [Component.drafts, List.map_cons, List.map_singleton, hstem]
  rfl

theorem place_placed (n : Node) :
    (n.placed {}).place = placeOf n.dashes n.field.dashed := by
  rw [PlacedField.place, n.dashes_placed]
  rfl

end Node

/-- The steps to the files of a place are names. -/
theorem isName_of_mem_steps_placeOf {names : List String} {stem : String}
    (hnames : ∀ n ∈ names, Path.IsName n) (hstem : Path.IsName stem) :
    ∀ s ∈ (placeOf names stem).steps, ∀ n ∈ s, Path.IsName n := by
  intro s hs n hn
  obtain ⟨ending, hending, rfl⟩ := List.mem_map.mp hs
  rcases List.mem_append.mp hn with hn | hn
  · exact hnames n (List.mem_filter.mp hn).1
  · obtain rfl := List.mem_singleton.mp hn
    have hplain : ∀ ending ∈ endings,
        '/' ∉ ending.toList ∧ 2 < ending.length := by decide
    obtain ⟨hslash, hlong⟩ := hplain ending hending
    exact hstem.append hslash hlong

namespace Form

variable {stem title : String} {fields : List Field} {nodes : List Node}

theorem isName_of_mem_steps (hstem : Path.IsName stem)
    (hnames : ∀ f, Field.OccursIn fields f → Path.IsName f.dashed) :
    ∀ s ∈ steps stem fields, ∀ n ∈ s, Path.IsName n := by
  have hdashes : ∀ p ∈ placedFields fields, ∀ n ∈ p.dashes, Path.IsName n :=
    forall_dashes_placedFields hnames
  intro s hs
  rcases List.mem_cons.mp hs with rfl | hs
  · decide
  · obtain ⟨place, hplace, hs⟩ := List.mem_flatMap.mp hs
    rcases List.mem_append.mp hplace with hplace | hplace
    · obtain ⟨p, hp, rfl⟩ := List.mem_map.mp hplace
      exact isName_of_mem_steps_placeOf (hdashes p hp)
        (hdashes p hp _ p.dashed_mem_dashes) s hs
    · obtain rfl := List.mem_singleton.mp hplace
      exact isName_of_mem_steps_placeOf (by simp) hstem s hs

section Listed

variable (hlist : placedFields fields = nodes.map (Node.placed {}))
include hlist

theorem registrations_eq : registrations fields = nodes.map Node.registration := by
  rw [registrations, hlist, List.map_map]
  exact List.map_congr_left fun n _ => n.registration_placed

theorem paths_drafts_eq :
    (drafts stem title fields).map Draft.path =
      "shared/form-validators.ts" :: (nodes.flatMap Node.files ++
        [stem ++ ".component.ts", stem ++ ".component.html"]) := by
  have hown (ending : String) : Path.push "" (stem ++ ending) = stem ++ ending := by
    unfold Path.push
    split <;> simp
  have hform : (component stem title fields).drafts.map Draft.path =
      [stem ++ ".component.ts", stem ++ ".component.html"] := by
    rw [← hown ".component.ts", ← hown ".component.html"]
    rfl
  have hinner : (placedFields fields).flatMap
      (fun p => p.component.drafts.map Draft.path) = nodes.flatMap Node.files := by
    rw [hlist, List.flatMap_map]
    exact List.flatMap_congr fun n _ => n.files_placed
  rw [drafts, List.map_cons, List.map_append, List.map_flatMap, hinner, hform]
  rfl

theorem places_eq :
    places stem fields =
      nodes.map (fun n => placeOf n.dashes n.field.dashed) ++ [placeOf [] stem] := by
  rw [places, hlist, List.map_map]
  congr 1
  exact List.map_congr_left fun n _ => n.place_placed

end Listed

/-- Fields whose directories tell siblings apart have places of their own, none
of them that of the form. -/
theorem nodup_places (hnodes : Postorder fields nodes)
    (hnames : ∀ f, Field.OccursIn fields f → f.dashed ≠ "")
    (hdistinct : Field.DirectoriesDistinct fields) :
    (nodes.map (fun n => placeOf n.dashes n.field.dashed) ++
      [placeOf [] stem]).Nodup := by
  have hdirectories : ∀ n ∈ nodes,
      (placeOf n.dashes n.field.dashed).directories = n.dashes := by
    intro n hn
    apply List.filter_eq_self.mpr
    intro d hd
    have hne : d ≠ "" :=
      Node.forall_dashes (P := (· ≠ "")) ((hnodes.mem_iff n).mp hn) hnames d hd
    simpa using hne
  rw [List.nodup_append]
  refine ⟨?_, List.nodup_singleton _, ?_⟩
  · refine List.Nodup.map_on ?_ hnodes.nodup
    intro m hm n hn heq
    have hdashes := congrArg Place.directories heq
    rw [hdirectories m hm, hdirectories n hn] at hdashes
    exact Node.eq_of_dashes hdistinct ((hnodes.mem_iff m).mp hm)
      ((hnodes.mem_iff n).mp hn) hdashes
  · intro p hp q hq heq
    obtain ⟨n, hn, rfl⟩ := List.mem_map.mp hp
    have hempty := congrArg Place.directories heq
    rw [hdirectories n hn, List.mem_singleton.mp hq] at hempty
    exact n.dashes_ne_nil hempty

/-- Names that are single normal components make distinct paths if siblings
have distinct ones. -/
theorem nodup_paths_drafts (hnodes : Postorder fields nodes)
    (hlist : placedFields fields = nodes.map (Node.placed {}))
    (hstem : Path.IsName stem)
    (hnames : ∀ f, Field.OccursIn fields f → Path.IsName f.dashed)
    (hdistinct : Field.DirectoriesDistinct fields) :
    ((drafts stem title fields).map Draft.path).Nodup := by
  have hslash : ∀ f, Field.OccursIn fields f → '/' ∉ f.dashed.toList :=
    fun f hf => (hnames f hf).plain.2
  have hplain : ∀ s ∈ steps stem fields, ∀ n ∈ s, n ≠ "" ∧ '/' ∉ n.toList :=
    fun s hs n hn => (isName_of_mem_steps hstem hnames s hs n hn).plain
  have hplaces : (places stem fields).Nodup := by
    rw [places_eq hlist]
    exact nodup_places hnodes (fun f hf => (hnames f hf).plain.1) hdistinct
  rw [paths_drafts_of_not_mem hslash hstem.plain.2,
    Path.nodup_map_through_iff hplain, nodup_steps_iff]
  exact hplaces

/-- A run that does not fail deals with the shared validators, with the two
files of every field in depth-first post-order, and with those of the form. -/
theorem paths_of_run {w : Writer} {disk : Disk}
    (hok : (w.writeAll disk (drafts stem title fields)).failure = none) :
    let artifacts := (w.writeAll disk (drafts stem title fields)).artifacts
    ∃ nodes, Postorder fields nodes ∧
      artifacts.map Artifact.path =
        "shared/form-validators.ts" :: (nodes.flatMap Node.files ++
          [stem ++ ".component.ts", stem ++ ".component.html"]) ∧
      registrations fields = nodes.map Node.registration ∧
      artifacts.length = 2 * nodes.length + 3 ∧
      (Path.IsName stem → (∀ f, Field.OccursIn fields f → Path.IsName f.dashed) →
        Field.DirectoriesDistinct fields → (artifacts.map Artifact.path).Nodup) := by
  intro artifacts
  obtain ⟨nodes, hnodes, hlist⟩ := exists_postorder_placedFields fields
  have hpaths : artifacts.map Artifact.path =
      "shared/form-validators.ts" :: (nodes.flatMap Node.files ++
        [stem ++ ".component.ts", stem ++ ".component.html"]) :=
    (Writer.paths_writeAll hok).trans (paths_drafts_eq hlist)
  refine ⟨nodes, hnodes, hpaths, registrations_eq hlist, ?_, ?_⟩
  · have hfiles : (nodes.flatMap Node.files).length = 2 * nodes.length := by
      simp [List.length_flatMap, Node.files, Nat.mul_comm]
    have hlength := congrArg List.length hpaths
    simp only [List.length_map, List.length_cons, List.length_append,
      List.length_nil, hfiles] at hlength
    exact hlength
  · intro hstem hnames hdistinct
    rw [Writer.paths_writeAll hok]
    exact nodup_paths_drafts hnodes hlist hstem hnames hdistinct

end Form

namespace EmissionWitness

def number (name dashed : String) (validators : List Validator) : Field :=
  { name, dashed, kind := .number, validators }

/-- A latitude, which is checked by a shared validator. -/
def latitude : Field :=
  number "latitude" "latitude"
    [⟨"range", Validator.call "rangeValidator" ["-90", "90"], true⟩]

/-- A position with two numbers inside. -/
def position : Field :=
  { name := "position", dashed := "position", kind := .complex,
    children? := some [latitude, number "longitude" "longitude" []] }

/-- A position and a speed beside it. -/
def fields : List Field := [position, number "speedLimit" "speed-limit" []]

def writer : Writer := ⟨"out", false, false⟩

/-- A file system with nothing in it. -/
def disk : Disk := ⟨.directory [], []⟩

def run : Writer.Progress :=
  writer.writeAll disk (Form.drafts "movement-form" "Movement" fields)

theorem directoriesDistinct_fields : Field.DirectoriesDistinct fields := by
  rw [Field.DirectoriesDistinct, Field.forall_occursIn_iff]
  decide

theorem isName_fields : ∀ f, Field.OccursIn fields f → Path.IsName f.dashed := by
  rw [Field.forall_occursIn_iff]
  decide

theorem paths_of_run_of_movement :
    run.failure = none ∧ (run.artifacts.map Artifact.path).Nodup ∧
      ∃ nodes, Postorder fields nodes ∧
        run.artifacts.length = 2 * nodes.length + 3 := by
  have hok : run.failure = none := by decide +kernel
  obtain ⟨nodes, hnodes, _, _, hlength, hnodup⟩ := Form.paths_of_run hok
  exact ⟨hok, hnodup (by decide) isName_fields directoriesDistinct_fields, nodes,
    hnodes, hlength⟩

end EmissionWitness

end AspectForms
