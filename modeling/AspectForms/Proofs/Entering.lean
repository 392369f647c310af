import AspectForms.Proofs.Lineage
import AspectForms.Proofs.Repetition

/-!
Operations told by the directory that the path above leads to.  Main statement: making a directory with
those above it is making those first and then this one, unless a file stands in the way.
-/

namespace AspectForms

namespace Disk

variable {disk : Disk} {path p name : String}

/-- A step, told by what stands at the locations. -/
theorem step_eq (disk : Disk) (here : Location) (piece : String) :
    disk.step here piece =
      match disk.kindAt? here with
      | none => .error .notFound
      | some (.file _) => .error .notDirectory
      | some .directory =>
        if piece = "." then .ok here
        else if piece = ".." then .ok here.dropLast
        else if nameLimit < piece.utf8ByteSize then .error .nameTooLong
        else if disk.kindAt? (here ++ [piece]) = none then .error .notFound
        else .ok (here ++ [piece]) := by
  cases hhere : disk.tree.find? here with
  | none => simp [step, hhere, kindAt?, Tree.kindAt?, throw, throwThe, MonadExceptOf.throw]
  | some node =>
      cases node with
      | file contents =>
          simp [step, hhere, kindAt?, Tree.kindAt?, Tree.kind, throw, throwThe,
            MonadExceptOf.throw]
      | directory entries =>
          have hkind := kindAt?_eq_directory_iff.mpr ⟨entries, hhere⟩
          rw [kindAt?_entry hhere, hkind, step, hhere]
          dsimp only
          cases entries.lookup piece <;> rfl

/-- Only a file is no directory to step in. -/
theorem exists_file_of_step {here : Location} {piece : String}
    (h : disk.step here piece = .error .notDirectory) :
    ∃ c, disk.kindAt? here = some (.file c) := by
  rw [step_eq] at h
  split at h
  · cases h
  · exact ⟨_, ‹_›⟩
  · split_ifs at h <;> cases h

theorem prefix_next {here : Location} {piece : String} (h : piece ≠ "..") :
    here <+: next here piece := by
  have hstep : next here piece = follow here [piece] := rfl
  exact hstep ▸ prefix_follow (by simpa using h.symm)

/-- Where a step finds nothing, there is nothing. -/
theorem kindAt?_of_step {here : Location} {piece : String} (hpiece : piece ≠ "..")
    (h : disk.step here piece = .error .notFound) : disk.kindAt? (next here piece) = none := by
  rw [step_eq] at h
  split at h
  · rename_i hnone
    by_contra hthere
    exact kindAt?_ne_none_above (prefix_next hpiece) hthere hnone
  · cases h
  · rw [if_neg hpiece] at h
    split_ifs at h with hdot hlong hnone
    · cases h
    · rw [next, if_neg hdot, if_neg hpiece, hnone]

/-- Where a way is missing, nothing stands at its end. -/
theorem kindAt?_of_walk {here : Location} {pieces : List String} (hup : ".." ∉ pieces)
    (h : disk.walk here pieces = .error .notFound) :
    disk.kindAt? (follow here pieces) = none := by
  induction pieces generalizing here with
  | nil => cases h
  | cons piece pieces ih =>
      obtain ⟨hpiece, hrest⟩ := not_or.mp (mt List.mem_cons.mpr hup)
      rw [walk] at h
      cases hstep : disk.step here piece with
      | error e =>
          rw [hstep] at h
          obtain rfl : e = .notFound := Except.error.inj h
          by_contra hthere
          exact kindAt?_ne_none_above (prefix_follow hrest) hthere
            (kindAt?_of_step (Ne.symm hpiece) hstep)
      | ok there =>
          rw [hstep] at h
          obtain rfl := step_eq_next hstep
          exact ih hrest h

/-- The directory that a path leads to. -/
def enter (disk : Disk) (path : String) : Except FileError Location :=
  disk.walk (disk.start path) (Path.pieces path ++ ["."])

/-- Following a path fails for one of three reasons. -/
theorem walk_error {here : Location} {pieces : List String} {e : FileError}
    (h : disk.walk here pieces = .error e) :
    e = .notFound ∨ e = .notDirectory ∨ e = .nameTooLong := by
  induction pieces generalizing here with
  | nil => cases h
  | cons piece pieces ih =>
      rw [walk, step_eq] at h
      split at h
      · exact .inl (Except.error.inj h).symm
      · exact .inr (.inl (Except.error.inj h).symm)
      · split at h
        · exact ih h
        · split at h
          · exact ih h
          · split at h
            · exact .inr (.inr (Except.error.inj h).symm)
            · split at h
              · exact .inl (Except.error.inj h).symm
              · exact ih h

theorem step_dot (disk : Disk) (here : Location) :
    disk.step here "." =
      match disk.kindAt? here with
      | none => .error .notFound
      | some (.file _) => .error .notDirectory
      | some .directory => .ok here := by
  rw [step_eq]
  simp only [if_true]

theorem walk_dot (disk : Disk) (here : Location) :
    disk.walk here ["."] =
      match disk.kindAt? here with
      | none => .error .notFound
      | some (.file _) => .error .notDirectory
      | some .directory => .ok here := by
  rw [walk, step_dot]
  split <;> rfl

/-- Dots lead nowhere else, but only from a directory. -/
theorem walk_dots {dots : List String} (h : ∀ d ∈ dots, d = ".") (here : Location) :
    disk.walk here (dots ++ ["."]) = disk.walk here ["."] := by
  induction dots with
  | nil => rfl
  | cons d dots ih =>
      obtain ⟨rfl, hdots⟩ := List.forall_mem_cons.mp h
      rw [List.cons_append, walk, step_dot, walk_dot]
      split
      · rfl
      · rfl
      · rename_i hhere
        refine (ih hdots).trans ?_
        rw [walk_dot, hhere]

theorem enter_eq_ok_iff {here : Location} :
    disk.enter path = .ok here ↔
      disk.walk (disk.start path) (Path.pieces path) = .ok here ∧
        disk.kindAt? here = some .directory := by
  rw [enter, walk_append]
  cases disk.walk (disk.start path) (Path.pieces path) with
  | error e => simp [bind, Except.bind]
  | ok there =>
      change disk.walk there ["."] = .ok here ↔ _
      rw [walk_dot]
      constructor
      · intro h
        split at h
        · cases h
        · cases h
        · obtain rfl := Except.ok.inj h
          exact ⟨rfl, ‹_›⟩
      · rintro ⟨heq, hhere⟩
        obtain rfl := Except.ok.inj heq
        rw [hhere]

theorem eq_locate_of_enter {here : Location} (h : disk.enter path = .ok here) :
    here = disk.locate path :=
  walk_eq_follow (enter_eq_ok_iff.mp h).1

theorem start_eq_of_enters (h : Path.Enters path p name) : disk.start p = disk.start path := by
  rw [start, start, h.start]

/-- Where the pieces before the last one lead to a directory, that is the directory of the
path above. -/
theorem walk_front (h : Path.Enters path p name) {dots : List String}
    (hdots : ∀ d ∈ dots, d = ".") :
    disk.walk (disk.start path) (Path.pieces p ++ dots ++ ["."]) = disk.enter p := by
  rw [enter, start_eq_of_enters h, List.append_assoc, walk_append, walk_append]
  congr 1
  funext here
  exact walk_dots hdots here

theorem follow_dots {dots : List String} (h : ∀ d ∈ dots, d = ".") (here : Location) :
    follow here dots = here := by
  induction dots with
  | nil => rfl
  | cons d dots ih =>
      obtain ⟨rfl, hdots⟩ := List.forall_mem_cons.mp h
      exact ih hdots

section Enters

variable {r : Route} (h : Path.Enters path p name) (hroute : disk.route path = .ok r)
include h

theorem name_ne_up : name ≠ ".." := by
  rintro rfl
  obtain ⟨dots, -, hpieces⟩ := h.split
  exact h.level (hpieces ▸ by simp)

/-- A path leads one name below the directory of the path above. -/
theorem locate_eq (disk : Disk) : disk.locate path = disk.locate p ++ [name] := by
  obtain ⟨dots, hdots, hpieces⟩ := h.split
  rw [locate, hpieces, follow_append, follow_append, follow_dots hdots, ← start_eq_of_enters h]
  simp [follow, next, h.name_ne, name_ne_up h, locate]

/-- In a directory that can be entered a node without entries can be put. -/
theorem puts_of_enter {here : Location} {node : Tree} (henter : disk.enter p = .ok here)
    (hnode : ∀ m ≠ [], node.kindAt? m = none)
    (hfree : disk.kindAt? (disk.locate path) ≠ some .directory) :
    disk.Puts (disk.put (disk.locate path) node) (disk.locate path) node.kind := by
  obtain rfl := eq_locate_of_enter henter
  rw [locate_eq h] at hfree ⊢
  exact put_puts hnode (enter_eq_ok_iff.mp henter).2 hfree

include hroute

/-- The last piece of a path is looked up in the directory of the path above. -/
theorem lastPiece_eq : disk.lastPiece r =
    disk.enter p >>= fun here =>
      if nameLimit < name.utf8ByteSize then .error .nameTooLong else .ok (here, some name) := by
  obtain ⟨dots, hdots, hpieces⟩ := h.split
  obtain ⟨hstart, hrpieces⟩ := route_ok hroute
  have hreverse : r.pieces.reverse = name :: (Path.pieces p ++ dots).reverse := by
    rw [hrpieces, hpieces, ← List.append_assoc, List.reverse_append]
    rfl
  rw [← walk_front h hdots, walk_append, lastPiece, hreverse]
  dsimp only
  rw [List.reverse_reverse, hstart]
  cases disk.walk (disk.start path) (Path.pieces p ++ dots) with
  | error e => rfl
  | ok here =>
      have hname : ¬(name = "." ∨ name = "..") := by simp [h.name_ne, name_ne_up h]
      change (if name = "." ∨ name = ".." then _ else _) = (disk.walk here ["."] >>= _)
      rw [if_neg hname, walk_dot, kindAt?, Tree.kindAt?]
      cases disk.tree.find? here with
      | none => rfl
      | some node => cases node <;> rfl

/-- A directory is made unless something has its name. -/
theorem makeDirectory_eq : disk.makeDirectory path =
    disk.enter p >>= fun here =>
      if nameLimit < name.utf8ByteSize then .error .nameTooLong
      else if disk.kindAt? (here ++ [name]) = none then
        .ok (disk.put (here ++ [name]) (.directory []))
      else .error .exists := by
  rw [makeDirectory, hroute]
  change (disk.lastPiece r >>= _) = _
  rw [lastPiece_eq h hroute]
  cases disk.enter p with
  | error e => rfl
  | ok here =>
      change ((if nameLimit < name.utf8ByteSize then _ else _) >>= _) = ite _ _ _
      split
      · rfl
      · rw [kindAt?, Tree.kindAt?]
        cases hfind : disk.tree.find? (here ++ [name]) with
        | none => simp [bind, Except.bind, pure, Except.pure, hfind]
        | some node => simp [bind, Except.bind, throw, throwThe, MonadExceptOf.throw, hfind]

/-- A file is put unless a directory has its name. -/
theorem writeFile_eq (contents : Contents) : disk.writeFile path contents =
    disk.enter p >>= fun here =>
      if nameLimit < name.utf8ByteSize then .error .nameTooLong
      else if r.slash = true ∨ disk.kindAt? (here ++ [name]) = some .directory then
        .error .isDirectory
      else .ok (disk.put (here ++ [name]) (.file contents)) := by
  rw [writeFile, hroute]
  change (disk.lastPiece r >>= _) = _
  rw [lastPiece_eq h hroute]
  cases disk.enter p with
  | error e => rfl
  | ok here =>
      change ((if nameLimit < name.utf8ByteSize then _ else _) >>= _) = ite _ _ _
      split
      · rfl
      · change (if r.slash = true then _ else _) = _
        rw [kindAt?, Tree.kindAt?]
        cases r.slash with
        | true =>
            simp only [true_or, if_true]
            rfl
        | false =>
            cases hfind : disk.tree.find? (here ++ [name]) with
            | none => simp [pure, Except.pure]
            | some node =>
                cases node <;> simp [Tree.kind, pure, Except.pure, throw, throwThe,
                  MonadExceptOf.throw]

end Enters

theorem isDirectory_iff_enter : disk.isDirectory path = true ↔
    (∃ r, disk.route path = .ok r) ∧ ∃ here, disk.enter path = .ok here := by
  rw [isDirectory_iff]
  simp only [enter_eq_ok_iff]
  constructor
  · rintro ⟨r, here, hroute, hwalk, hhere⟩
    obtain ⟨hstart, hpieces⟩ := route_ok hroute
    exact ⟨⟨r, hroute⟩, here, hstart ▸ hpieces ▸ hwalk, hhere⟩
  · rintro ⟨⟨r, hroute⟩, here, hwalk, hhere⟩
    obtain ⟨hstart, hpieces⟩ := route_ok hroute
    exact ⟨r, here, hroute, hstart ▸ hpieces ▸ hwalk, hhere⟩

/-- The directory of a path lies in that of the path above. -/
theorem enter_eq (h : Path.Enters path p name) : disk.enter path =
    disk.enter p >>= fun here =>
      if nameLimit < name.utf8ByteSize then .error .nameTooLong
      else match disk.kindAt? (here ++ [name]) with
        | none => .error .notFound
        | some (.file _) => .error .notDirectory
        | some .directory => .ok (here ++ [name]) := by
  obtain ⟨dots, hdots, hpieces⟩ := h.split
  have hup := name_ne_up h
  rw [← walk_front h hdots, walk_append, enter, hpieces, ← List.append_assoc, walk_append,
    walk_append]
  cases disk.walk (disk.start path) (Path.pieces p ++ dots) with
  | error e => rfl
  | ok here =>
      change (disk.walk here [name] >>= _) = (disk.walk here ["."] >>= _)
      rw [walk_dot, walk, step_eq]
      cases hhere : disk.kindAt? here with
      | none => rfl
      | some kind =>
          cases kind with
          | file c => rfl
          | directory =>
              simp only [h.name_ne, hup, if_false]
              split
              · simp [bind, Except.bind, *]
              · cases hthere : disk.kindAt? (here ++ [name]) with
                | none => simp [bind, Except.bind, *]
                | some kind => cases kind <;> simp [bind, Except.bind, walk, step_eq, *]

theorem exists_route_iff : (∃ r, disk.route path = .ok r) ↔
    '\x00' ∉ path.toList ∧ path ≠ "" ∧ path.utf8ByteSize ≤ pathLimit := by
  simp only [route, bind, Except.bind, pure, Except.pure, throw, throwThe, MonadExceptOf.throw]
  split
  · simp [*]
  · split
    · simp_all
    · split
      · simp [*]
      · simp_all

theorem route_error {e : FileError} (hpath : path ≠ "") (h : disk.route path = .error e) :
    e = .nulInName ∨ e = .nameTooLong := by
  simp only [route, bind, Except.bind, pure, Except.pure, throw, throwThe,
    MonadExceptOf.throw] at h
  split at h
  · exact .inl (Except.error.inj h).symm
  · split at h
    · simp_all
    · split at h
      · exact .inr (Except.error.inj h).symm
      · cases h

theorem exists_route_of_enters {r : Route} (h : Path.Enters path p name) (hp : p ≠ "")
    (hroute : disk.route path = .ok r) : ∃ r, disk.route p = .ok r := by
  obtain ⟨hnul, -, hlimit⟩ := exists_route_iff.mp ⟨r, hroute⟩
  refine exists_route_iff.mpr ⟨fun hmem => hnul (h.begins.subset hmem), hp, ?_⟩
  obtain ⟨rest, hrest⟩ := h.begins
  have hpath : path = p ++ String.ofList rest := by
    rw [← String.toList_inj, String.toList_append, String.toList_ofList, hrest]
  rw [hpath, String.utf8ByteSize_append] at hlimit
  omega

theorem makeDirectory_of_enter {e : FileError} {r : Route} (h : Path.Enters path p name)
    (hroute : disk.route path = .ok r) (henter : disk.enter p = .error e) :
    disk.makeDirectory path = .error e := by
  rw [makeDirectory_eq h hroute, henter]
  rfl

theorem settle_of_error {e : FileError} (hmake : disk.makeDirectory path = .error e)
    (hno : ¬disk.isDirectory path = true) :
    FileSystem.settle disk path = (disk, .error e) := by
  rw [FileSystem.settle, makeDirectory_eq_attempt, hmake]
  exact congrArg (Prod.mk disk) (if_neg hno)

theorem settle_eq {r : Route} (h : Path.Enters path p name) (hroute : disk.route path = .ok r) :
    FileSystem.settle disk path =
      match disk.enter p with
      | .error e => (disk, .error e)
      | .ok _ =>
        if nameLimit < name.utf8ByteSize then (disk, .error .nameTooLong)
        else match disk.kindAt? (disk.locate path) with
          | none => (disk.put (disk.locate path) (.directory []), .ok ())
          | some (.file _) => (disk, .error .exists)
          | some .directory => (disk, .ok ()) := by
  have hmake := makeDirectory_eq h hroute
  have henters : disk.enter path = _ := enter_eq h
  have hthere : disk.isDirectory path = true ↔ ∃ here, disk.enter path = .ok here := by
    rw [isDirectory_iff_enter, and_iff_right ⟨r, hroute⟩]
  rw [henters] at hthere
  cases henter : disk.enter p with
  | error e =>
      rw [henter] at hmake hthere
      exact settle_of_error hmake (mt hthere.mp (by simp [bind, Except.bind]))
  | ok here =>
      obtain rfl := eq_locate_of_enter henter
      simp only [henter, bind, Except.bind, ← locate_eq h] at hmake hthere
      by_cases hlong : nameLimit < name.utf8ByteSize
      · simp only [if_pos hlong] at hmake hthere ⊢
        exact settle_of_error hmake (mt hthere.mp (by simp))
      · simp only [if_neg hlong] at hmake hthere ⊢
        cases hkind : disk.kindAt? (disk.locate path) with
        | none =>
            rw [hkind, if_pos rfl] at hmake
            rw [FileSystem.settle, makeDirectory_eq_attempt, hmake]
            rfl
        | some kind =>
            rw [hkind] at hmake hthere
            cases kind with
            | directory => exact settle_of_isDirectory (hthere.mpr ⟨_, rfl⟩)
            | file c => exact settle_of_error hmake (mt hthere.mp (by simp))

/-- At a path that is none no directory is made. -/
theorem makeChain_of_route {e : FileError} (h : Path.Enters path p name)
    (hroute : disk.route path = .error e) (above : List String) :
    FileSystem.makeChain disk (path :: above) = (disk, .error e) := by
  have hpath : path ≠ "" := by
    rintro rfl
    obtain ⟨dots, -, hpieces⟩ := h.split
    have hnone : Path.pieces "" = [] := rfl
    simp [hnone] at hpieces
  have hmake : disk.makeDirectory path = .error e := by
    rw [makeDirectory, hroute]
    rfl
  have hne : disk.makeDirectory path ≠ .error .notFound := by
    rw [hmake]
    rcases route_error hpath hroute with rfl | rfl <;> simp
  rw [makeChain_of_ne_notFound hne]
  exact settle_of_error hmake (by simp [isDirectory_of_route hroute])

/-- The directories above a path: none if it starts where relative paths do. -/
def Above (p : String) (above : List String) : Prop :=
  above = [] ∧ p = "" ∨ p ≠ "" ∧ ∃ rest, above = p :: rest ∧ Path.Lineage above

/-- The paths above that to a file. -/
theorem exists_above (h : Path.ThroughNames path) (hne : Path.components path ≠ []) :
    ∃ p name, Path.parent? path = some p ∧ Path.Enters path p name ∧
      Above p (Path.prefixes p) := by
  obtain ⟨p, name, hparent, henters, hp, hcases⟩ := h.exists_parent hne
  refine ⟨p, name, hparent, henters, ?_⟩
  rcases hcases with rfl | hcomponents
  · exact .inl ⟨rfl, rfl⟩
  · obtain ⟨above, hprefixes, hlineage⟩ := hp.exists_prefixes hcomponents
    exact .inr ⟨Path.ne_empty_of_components hcomponents, above, hprefixes, hprefixes ▸ hlineage⟩

theorem enter_empty_ne_nameTooLong : disk.enter "" ≠ .error .nameTooLong := by
  change disk.walk (disk.start "") ["."] ≠ _
  rw [walk_dot]
  split <;> exact nofun

/-- A name on the way that is too long is found again one directory higher. -/
theorem makeDirectory_of_enter_nameTooLong {r : Route} (h : Path.Enters path p name)
    (hroute : disk.route path = .ok r) (henter : disk.enter path = .error .nameTooLong) :
    disk.makeDirectory path = .error .nameTooLong := by
  rw [makeDirectory_eq h hroute]
  rw [enter_eq h] at henter
  cases hp : disk.enter p with
  | error e =>
      rw [hp] at henter
      obtain rfl : e = .nameTooLong := Except.error.inj henter
      rfl
  | ok here =>
      rw [hp] at henter
      change ite _ _ _ = _ at henter
      change ite _ _ _ = _
      split at henter
      · rename_i hlong
        rw [if_pos hlong]
      · split at henter <;> cases henter

/-- Making a directory with those above it is the same as making those first, unless a
file stands in the way. -/
theorem makeChain_cons {r : Route} {above : List String} (h : Path.Enters path p name)
    (hroute : disk.route path = .ok r) (habove : Above p above)
    (hno : disk.enter p ≠ .error .notDirectory) :
    FileSystem.makeChain disk (path :: above) =
      match FileSystem.makeChain disk above with
      | (disk, .error e) => (disk, .error e)
      | (disk, .ok ()) => FileSystem.settle disk path := by
  cases henter : disk.enter p with
  | ok here =>
      have hthere : FileSystem.makeChain disk above = (disk, .ok ()) := by
        rcases habove with ⟨rfl, -⟩ | ⟨hp, rest, rfl, -⟩
        · rfl
        · exact makeChain_of_isDirectory (isDirectory_iff_enter.mpr
            ⟨exists_route_of_enters h hp hroute, here, henter⟩)
      rw [hthere, makeChain_of_ne_notFound]
      rw [makeDirectory_eq h hroute, henter]
      change ite _ _ _ ≠ _
      split
      · exact nofun
      · split <;> exact nofun
  | error e =>
      have hmake := makeDirectory_of_enter h hroute henter
      rcases walk_error henter with rfl | rfl | rfl
      · exact makeChain_of_notFound hmake above
      · exact absurd henter hno
      · rcases habove with ⟨-, rfl⟩ | ⟨hp, rest, rfl, hlineage⟩
        · exact absurd henter enter_empty_ne_nameTooLong
        · obtain ⟨s, hs⟩ := exists_route_of_enters h hp hroute
          have hlong : disk.makeDirectory p = .error .nameTooLong := by
            cases hlineage with
            | top hp => exact makeDirectory_of_enter_nameTooLong hp hs henter
            | inside hp _ _ => exact makeDirectory_of_enter_nameTooLong hp hs henter
          have hno : ¬disk.isDirectory p = true := fun hthere => by
            obtain ⟨-, here, hhere⟩ := isDirectory_iff_enter.mp hthere
            cases henter.symm.trans hhere
          rw [makeChain_of_ne_notFound (hmake ▸ nofun), settle_eq h hroute, henter,
            makeChain_of_ne_notFound (hlong ▸ nofun), settle_of_error hlong hno]

end Disk

end AspectForms
