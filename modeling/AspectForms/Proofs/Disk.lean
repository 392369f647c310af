import AspectForms.Proofs.FileSystems
import AspectForms.Proofs.Paths

/-!
What stands at each place of a file system.  Main statements: an operation that succeeds changes one
place, the one that its path leads to, and making directories only adds directories on the way.
-/

namespace AspectForms

/-- What stands at a place: a directory, or a file with its contents. -/
inductive NodeKind
  | directory
  | file (contents : Contents)
deriving DecidableEq

namespace Tree

/-- What a node is, without what is in it. -/
def kind : Tree → NodeKind
  | directory _ => .directory
  | file contents => .file contents

/-- What stands at a location. -/
def kindAt? (location : Location) (t : Tree) : Option NodeKind :=
  (t.find? location).map kind

theorem isDirectory_iff {t : Tree} : t.isDirectory = true ↔ t.kind = .directory := by
  cases t <;> simp [isDirectory, kind]

theorem find?_append (l m : Location) (t : Tree) :
    t.find? (l ++ m) = (t.find? l).bind (find? m) := by
  induction l generalizing t with
  | nil => rfl
  | cons name l ih =>
      rw [List.cons_append, find?, find?, Option.bind_assoc]
      congr 1
      funext below
      exact ih below

/-- Below what is no directory there is nothing. -/
theorem kindAt?_append_eq_none {l m : Location} {t : Tree}
    (h : t.kindAt? l ≠ some .directory) (hm : m ≠ []) :
    t.kindAt? (l ++ m) = none := by
  rw [kindAt?, find?_append]
  rw [kindAt?] at h
  cases hfind : t.find? l with
  | none => rfl
  | some node =>
      rw [hfind] at h
      cases node with
      | directory entries => exact absurd rfl h
      | file contents =>
          obtain ⟨name, rest, rfl⟩ := List.exists_cons_of_ne_nil hm
          rfl

theorem childless_directory {m : Location} (hm : m ≠ []) :
    (directory []).kindAt? m = none := by
  obtain ⟨name, rest, rfl⟩ := List.exists_cons_of_ne_nil hm
  rfl

theorem childless_file (contents : Contents) {m : Location} (hm : m ≠ []) :
    (file contents).kindAt? m = none := by
  obtain ⟨name, rest, rfl⟩ := List.exists_cons_of_ne_nil hm
  rfl

theorem lookup_cons_if (key : String) (e : String × Tree)
    (entries : List (String × Tree)) :
    (e :: entries).lookup key =
      if key = e.1 then some e.2 else entries.lookup key := by
  rw [List.lookup_cons]
  by_cases hkey : key = e.1
  · rw [if_pos hkey, beq_iff_eq.mpr hkey]
  · rw [if_neg hkey, beq_eq_false_iff_ne.mpr hkey]

theorem lookup_setEntry (name key : String) (node : Tree)
    (entries : List (String × Tree)) :
    (setEntry name node entries).lookup key =
      if key = name then some node else entries.lookup key := by
  induction entries with
  | nil => exact lookup_cons_if key (name, node) []
  | cons e es ih =>
      rw [setEntry]
      split
      · rename_i hhere
        rw [lookup_cons_if, lookup_cons_if]
        by_cases hkey : key = name
        · rw [if_pos hkey, if_pos hkey]
        · rw [if_neg hkey, if_neg hkey, if_neg (hhere ▸ hkey)]
      · rename_i hother
        rw [lookup_cons_if, lookup_cons_if, ih]
        by_cases hkey : key = e.1
        · rw [if_pos hkey, if_pos hkey, if_neg (hkey ▸ hother)]
        · rw [if_neg hkey, if_neg hkey]

theorem insert_of_lookup {node below : Tree} {name : String} {rest : Location}
    {entries : List (String × Tree)} (hrest : rest ≠ [])
    (h : entries.lookup name = some below) :
    insert node (name :: rest) (directory entries) =
      directory (setEntry name (insert node rest below) entries) := by
  obtain ⟨next, rest, rfl⟩ := List.exists_cons_of_ne_nil hrest
  simp only [insert, h]

theorem kindAt?_directory (entries : List (String × Tree)) (name : String)
    (l : Location) :
    (directory entries).kindAt? (name :: l) =
      (entries.lookup name).bind (kindAt? l) := by
  rw [kindAt?, find?, Option.map_bind]
  rfl

theorem exists_entries {t : Tree} (h : t.kindAt? [] = some .directory) :
    ∃ entries, t = directory entries := by
  cases t with
  | directory entries => exact ⟨entries, rfl⟩
  | file contents => cases h

/-- Putting a node without entries where no directory is, in a directory that
exists, changes this one place. -/
theorem kindAt?_insert {node : Tree} (hnode : ∀ m ≠ [], node.kindAt? m = none)
    {here : Location} {name : String} {t : Tree}
    (hhere : t.kindAt? here = some .directory)
    (hfree : t.kindAt? (here ++ [name]) ≠ some .directory) (l : Location) :
    (insert node (here ++ [name]) t).kindAt? l =
      if l = here ++ [name] then some node.kind else t.kindAt? l := by
  induction here generalizing t l with
  | nil =>
      obtain ⟨entries, rfl⟩ := exists_entries hhere
      change (directory (setEntry name node entries)).kindAt? l = _
      cases l with
      | nil => rfl
      | cons key l =>
          rw [kindAt?_directory, lookup_setEntry]
          by_cases hkey : key = name
          · subst hkey
            rw [if_pos rfl]
            cases l with
            | nil => simp [kindAt?, find?]
            | cons next l =>
                have hnone :=
                  kindAt?_append_eq_none hfree (List.cons_ne_nil next l)
                rw [if_neg (by simp)]
                exact (hnode _ (List.cons_ne_nil next l)).trans hnone.symm
          · rw [if_neg hkey, if_neg (by simp [hkey]), kindAt?_directory]
  | cons step here ih =>
      obtain ⟨entries, rfl⟩ : ∃ entries, t = directory entries := by
        cases t with
        | directory entries => exact ⟨entries, rfl⟩
        | file contents => cases hhere
      rw [kindAt?_directory] at hhere
      obtain ⟨below, hbelow, hinside⟩ := Option.bind_eq_some_iff.mp hhere
      rw [List.cons_append, kindAt?_directory, hbelow] at hfree
      rw [List.cons_append, insert_of_lookup (by simp) hbelow]
      cases l with
      | nil => rfl
      | cons key l =>
          rw [kindAt?_directory, lookup_setEntry, kindAt?_directory]
          by_cases hkey : key = step
          · subst hkey
            rw [if_pos rfl, hbelow]
            simpa using ih hinside hfree l
          · rw [if_neg hkey, if_neg (by simp [hkey])]

end Tree

namespace Disk

/-- What stands at a location. -/
def kindAt? (disk : Disk) (location : Location) : Option NodeKind :=
  disk.tree.kindAt? location

/-- One place of the file system has been given a node, the others are as they
were. -/
structure Puts (before after : Disk) (place : Location) (kind : NodeKind) :
    Prop where
  working : after.working = before.working
  kindAt? : ∀ l,
    after.kindAt? l = if l = place then some kind else before.kindAt? l

/-- Directories have been added at some of the places where nothing was, and
nothing else has changed. -/
structure AddsDirectories (before after : Disk) (places : Location → Prop) :
    Prop where
  working : after.working = before.working
  keeps : ∀ l, before.kindAt? l ≠ none → after.kindAt? l = before.kindAt? l
  news : ∀ l, before.kindAt? l = none →
    after.kindAt? l = none ∨ after.kindAt? l = some .directory ∧ places l

variable {disk after : Disk} {path : String}

theorem locate_eq_of_working (h : after.working = disk.working) (path : String) :
    after.locate path = disk.locate path := by
  rw [locate, locate, start, start, h]

theorem route_eq_of_working (h : after.working = disk.working) (path : String) :
    after.route path = disk.route path := by
  rw [route, route, start, start, h]

theorem follow_append (here : Location) (xs ys : List String) :
    follow here (xs ++ ys) = follow (follow here xs) ys :=
  List.foldl_append

/-- Pieces that never lead up lead further down. -/
theorem prefix_follow {here : Location} {pieces : List String}
    (h : ".." ∉ pieces) : here <+: follow here pieces := by
  induction pieces generalizing here with
  | nil => exact List.prefix_refl _
  | cons piece pieces ih =>
      rw [List.mem_cons, not_or] at h
      obtain ⟨hhead, htail⟩ := h
      refine List.IsPrefix.trans ?_ (ih htail)
      unfold next
      split
      · exact List.prefix_refl _
      · rw [if_neg (Ne.symm hhead)]
        exact List.prefix_append _ _

theorem kindAt?_eq_directory_iff {l : Location} :
    disk.kindAt? l = some .directory ↔
      ∃ entries, disk.tree.find? l = some (.directory entries) := by
  rw [kindAt?, Tree.kindAt?, Option.map_eq_some_iff]
  constructor
  · rintro ⟨t, ht, hkind⟩
    cases t with
    | directory entries => exact ⟨entries, ht⟩
    | file contents => cases hkind
  · rintro ⟨entries, hentries⟩
    exact ⟨_, hentries, rfl⟩

theorem kindAt?_entry {l : Location} {entries : List (String × Tree)}
    (h : disk.tree.find? l = some (.directory entries)) (name : String) :
    disk.kindAt? (l ++ [name]) = (entries.lookup name).map Tree.kind := by
  rw [kindAt?, Tree.kindAt?, Tree.find?_append, h, Option.bind_some, Tree.find?]
  change (Option.bind (entries.lookup name) some).map Tree.kind = _
  rw [Option.bind_fun_some]

/-- A step succeeds from a directory, up or on the spot, or to an entry. -/
theorem step_eq_ok_iff {here there : Location} {piece : String} :
    disk.step here piece = .ok there ↔
      disk.kindAt? here = some .directory ∧ there = next here piece ∧
        (piece = "." ∨ piece = ".." ∨ piece.utf8ByteSize ≤ nameLimit ∧
          disk.kindAt? (here ++ [piece]) ≠ none) := by
  cases hhere : disk.tree.find? here with
  | none => simp [step, hhere, kindAt?, Tree.kindAt?, throw, throwThe,
      MonadExceptOf.throw]
  | some node =>
      cases node with
      | file contents => simp [step, hhere, kindAt?, Tree.kindAt?, Tree.kind,
          throw, throwThe, MonadExceptOf.throw]
      | directory entries =>
          have hkind := kindAt?_eq_directory_iff.mpr ⟨entries, hhere⟩
          rw [kindAt?_entry hhere, hkind, step, hhere, next]
          dsimp only
          split
          · rename_i hdot
            constructor
            · intro h
              exact ⟨rfl, (Except.ok.inj h).symm, .inl hdot⟩
            · rintro ⟨_, rfl, _⟩
              rfl
          · rename_i hdot
            split
            · rename_i hdots
              constructor
              · intro h
                exact ⟨rfl, (Except.ok.inj h).symm, .inr (.inl hdots)⟩
              · rintro ⟨_, rfl, _⟩
                rfl
            · rename_i hdots
              simp only [hdot, hdots, false_or, true_and]
              split
              · rename_i hlong
                constructor
                · exact nofun
                · rintro ⟨_, hshort, _⟩
                  exact absurd hlong (Nat.not_lt_of_le hshort)
              · rename_i hshort
                cases hentry : entries.lookup piece with
                | none => simp [throw, throwThe, MonadExceptOf.throw]
                | some node => simp [Nat.le_of_not_lt hshort, pure, Except.pure,
                    eq_comm]

theorem step_eq_next {here there : Location} {piece : String}
    (h : disk.step here piece = .ok there) : there = next here piece :=
  (step_eq_ok_iff.mp h).2.1

/-- Each part of a computation in sequence succeeds if the whole does. -/
theorem bind_eq_ok {α β : Type} {x : Except FileError α}
    {f : α → Except FileError β} {b : β} (h : x >>= f = .ok b) :
    ∃ a, x = .ok a ∧ f a = .ok b := by
  cases x with
  | error e => cases h
  | ok a => exact ⟨a, rfl, h⟩

theorem walk_eq_follow {here there : Location} {pieces : List String}
    (h : disk.walk here pieces = .ok there) : there = follow here pieces := by
  induction pieces generalizing here with
  | nil => exact (Except.ok.inj h).symm
  | cons piece pieces ih =>
      obtain ⟨middle, hstep, hrest⟩ := bind_eq_ok h
      rw [follow, List.foldl_cons, ← step_eq_next hstep]
      exact ih hrest

/-- A route starts where its path does and has its pieces. -/
theorem route_ok {r : Route} (h : disk.route path = .ok r) :
    r.start = disk.start path ∧ r.pieces = Path.pieces path := by
  simp only [route, bind, Except.bind, pure, Except.pure, throw, throwThe,
    MonadExceptOf.throw] at h
  split at h
  · cases h
  · split at h
    · cases h
    · split at h
      · cases h
      · obtain rfl := Except.ok.inj h
        exact ⟨rfl, rfl⟩

/-- A path leads to a node if its pieces do, and only to a directory if it ends
with a slash. -/
theorem resolve_eq_ok_iff {here : Location} {node : Tree} :
    disk.resolve path = .ok (here, node) ↔ ∃ r, disk.route path = .ok r ∧
      disk.walk r.start r.pieces = .ok here ∧ disk.tree.find? here = some node ∧
      (r.slash = true → node.isDirectory = true) := by
  constructor
  · intro h
    obtain ⟨r, hroute, hrest⟩ := bind_eq_ok h
    obtain ⟨there, hwalk, hfind⟩ := bind_eq_ok hrest
    split at hfind
    · cases hfind
    · rename_i found hnode
      split at hfind
      · cases hfind
      · rename_i hallowed
        obtain ⟨rfl, rfl⟩ := Prod.mk.inj (Except.ok.inj hfind)
        exact ⟨r, hroute, hwalk, hnode, by simpa using hallowed⟩
  · rintro ⟨r, hroute, hwalk, hnode, hslash⟩
    have hallowed : (r.slash && !node.isDirectory) = false := by
      cases hends : r.slash with
      | false => rfl
      | true => simp [hslash hends]
    rw [resolve, hroute]
    change (disk.walk r.start r.pieces >>= _) = _
    rw [hwalk]
    simp only [bind, Except.bind, hnode, hallowed]
    rfl

/-- Something is at a path if its pieces lead to a node, and to a directory if
the path ends with a slash. -/
theorem exists_iff :
    disk.exists path = true ↔ ∃ r here kind, disk.route path = .ok r ∧
      disk.walk r.start r.pieces = .ok here ∧ disk.kindAt? here = some kind ∧
      (r.slash = true → kind = .directory) := by
  constructor
  · intro h
    cases hresolve : disk.resolve path with
    | error e =>
        rw [«exists», hresolve] at h
        cases h
    | ok result =>
        obtain ⟨r, hroute, hwalk, hnode, hslash⟩ := resolve_eq_ok_iff.mp hresolve
        refine ⟨r, result.1, result.2.kind, hroute, hwalk, ?_, ?_⟩
        · rw [kindAt?, Tree.kindAt?, hnode]
          rfl
        · exact fun hends => Tree.isDirectory_iff.mp (hslash hends)
  · rintro ⟨r, here, kind, hroute, hwalk, hkind, hslash⟩
    obtain ⟨node, hnode, rfl⟩ := Option.map_eq_some_iff.mp hkind
    have hresolve : disk.resolve path = .ok (here, node) :=
      resolve_eq_ok_iff.mpr ⟨r, hroute, hwalk, hnode, fun hends =>
        Tree.isDirectory_iff.mpr (hslash hends)⟩
    rw [«exists», hresolve]
    rfl

/-- A text is read at a path if its pieces lead to a file with this text. -/
theorem readText_eq_ok_iff {text : String} :
    disk.readText path = .ok text ↔ ∃ r here, disk.route path = .ok r ∧
      disk.walk r.start r.pieces = .ok here ∧
      disk.kindAt? here = some (.file (.text text)) ∧ r.slash = false := by
  constructor
  · intro h
    obtain ⟨⟨here, node⟩, hresolve, hread⟩ := bind_eq_ok h
    obtain ⟨r, hroute, hwalk, hnode, hslash⟩ := resolve_eq_ok_iff.mp hresolve
    refine ⟨r, here, hroute, hwalk, ?_, ?_⟩
    · rw [kindAt?, Tree.kindAt?, hnode]
      cases node with
      | directory entries => cases hread
      | file contents =>
          cases contents with
          | bytes b => cases hread
          | text s =>
              obtain rfl := Except.ok.inj hread
              rfl
    · cases hends : r.slash with
      | false => rfl
      | true =>
          cases node with
          | directory entries => cases hread
          | file contents => cases hslash hends
  · rintro ⟨r, here, hroute, hwalk, hkind, hslash⟩
    obtain ⟨node, hnode, hfile⟩ := Option.map_eq_some_iff.mp hkind
    have hresolve : disk.resolve path = .ok (here, node) :=
      resolve_eq_ok_iff.mpr ⟨r, hroute, hwalk, hnode, by simp [hslash]⟩
    cases node with
    | directory entries => cases hfile
    | file contents =>
        obtain rfl := NodeKind.file.inj hfile
        rw [readText, hresolve]
        rfl

theorem locate_of_walk {r : Route} {here : Location}
    (hroute : disk.route path = .ok r)
    (hwalk : disk.walk r.start r.pieces = .ok here) : disk.locate path = here := by
  obtain ⟨hstart, hpieces⟩ := route_ok hroute
  rw [locate, ← hstart, ← hpieces, ← walk_eq_follow hwalk]

/-- Where something stands, something stands on the way there. -/
theorem kindAt?_ne_none_above {l m : Location} (hle : l <+: m)
    (hm : disk.kindAt? m ≠ none) : disk.kindAt? l ≠ none := by
  obtain ⟨rest, rfl⟩ := hle
  intro hnone
  by_cases hrest : rest = []
  · rw [hrest, List.append_nil] at hm
    exact hm hnone
  · refine hm (Tree.kindAt?_append_eq_none ?_ hrest)
    rw [← kindAt?, hnone]
    exact nofun

/-- What exists at a path stands where the path leads. -/
theorem kindAt?_of_exists (h : disk.exists path = true) :
    disk.kindAt? (disk.locate path) ≠ none := by
  obtain ⟨r, here, kind, hroute, hwalk, hkind, _⟩ := exists_iff.mp h
  rw [locate_of_walk hroute hwalk, hkind]
  exact nofun

theorem follow_names {here : Location} {names : List String}
    (h : ∀ n ∈ names, Path.IsName n) : follow here names = here ++ names := by
  induction names generalizing here with
  | nil => exact (List.append_nil here).symm
  | cons n names ih =>
      obtain ⟨_, _, hdot, hdots⟩ := Path.isName_iff.mp (h n List.mem_cons_self)
      rw [follow, List.foldl_cons, next, if_neg hdot, if_neg hdots, ← follow,
        ih fun m hm => h m (List.mem_cons_of_mem n hm), List.append_assoc]
      rfl

section Below

variable {root : String} {names : List String} (hnames : ∀ n ∈ names, Path.IsName n)
include hnames

theorem pieces_push_through :
    Path.pieces (Path.push root (Path.through names)) =
      Path.pieces root ++ names := by
  have hplain : ∀ n ∈ names, n ≠ "" ∧ '/' ∉ n.toList := fun n hn =>
    (hnames n hn).plain
  rw [Path.pieces_push (Path.isAbsolute_through hplain), Path.pieces_through hplain]

theorem start_push_through :
    disk.start (Path.push root (Path.through names)) = disk.start root := by
  have hrelative : Path.isAbsolute (Path.through names) = false :=
    Path.isAbsolute_through fun n hn => (hnames n hn).plain
  rw [start, start, Path.isAbsolute_push hrelative]

/-- What is named below a root stands below the place that the root leads to. -/
theorem locate_push_through :
    disk.locate (Path.push root (Path.through names)) =
      disk.locate root ++ names := by
  rw [locate, pieces_push_through hnames, start_push_through hnames,
    follow_append, follow_names hnames]
  rfl

end Below

/-- The last piece of a route names an entry of the directory that the pieces
before it lead to, unless it is dots. -/
theorem lastPiece_eq_ok_iff {r : Route} {here : Location} {name : String} :
    disk.lastPiece r = .ok (here, some name) ↔
      ∃ before, r.pieces = before ++ [name] ∧ disk.walk r.start before = .ok here ∧
        name ≠ "." ∧ name ≠ ".." ∧ name.utf8ByteSize ≤ nameLimit ∧
        disk.kindAt? here = some .directory := by
  constructor
  · intro h
    unfold lastPiece at h
    split at h
    · cases h
    · rename_i last before hreverse
      obtain ⟨there, hwalk, hrest⟩ := bind_eq_ok h
      split at hrest
      · obtain ⟨_, _, hnone⟩ := bind_eq_ok hrest
        cases hnone
      · rename_i hdots
        simp only [not_or] at hdots
        split at hrest
        · cases hrest
        · cases hrest
        · rename_i entries hnode
          split at hrest
          · cases hrest
          · rename_i hlimit
            obtain ⟨rfl, hlast⟩ := Prod.mk.inj (Except.ok.inj hrest)
            obtain rfl := Option.some.inj hlast
            have hsplit : r.pieces = before.reverse ++ [last] := by
              rw [← List.reverse_reverse r.pieces, hreverse, List.reverse_cons]
            exact ⟨before.reverse, hsplit, hwalk, hdots.1, hdots.2,
              Nat.le_of_not_lt hlimit, kindAt?_eq_directory_iff.mpr ⟨_, hnode⟩⟩
  · rintro ⟨before, hsplit, hwalk, hdot, hdots, hlimit, hhere⟩
    obtain ⟨entries, hnode⟩ := kindAt?_eq_directory_iff.mp hhere
    have hreverse : r.pieces.reverse = name :: before.reverse := by
      rw [hsplit, List.reverse_append]
      rfl
    rw [lastPiece, hreverse]
    dsimp only
    rw [List.reverse_reverse, hwalk]
    simp [bind, Except.bind, pure, Except.pure, hdot, hdots, hnode,
      Nat.not_lt_of_le hlimit]

/-- The last piece of a path names an entry of a directory. -/
theorem lastPiece_ok {r : Route} {here : Location} {name : String}
    (hroute : disk.route path = .ok r)
    (h : disk.lastPiece r = .ok (here, some name)) :
    disk.locate path = here ++ [name] ∧
      disk.kindAt? here = some .directory := by
  obtain ⟨hstart, hpieces⟩ := route_ok hroute
  obtain ⟨before, hsplit, hwalk, hdot, hdots, _, hhere⟩ := lastPiece_eq_ok_iff.mp h
  refine ⟨?_, hhere⟩
  rw [locate, ← hstart, ← hpieces, hsplit, follow_append, ← walk_eq_follow hwalk]
  simp [follow, next, hdot, hdots]

theorem put_puts {here : Location} {name : String} {node : Tree}
    (hnode : ∀ m ≠ [], node.kindAt? m = none)
    (hhere : disk.kindAt? here = some .directory)
    (hfree : disk.kindAt? (here ++ [name]) ≠ some .directory) :
    disk.Puts (disk.put (here ++ [name]) node) (here ++ [name]) node.kind where
  working := rfl
  kindAt? := Tree.kindAt?_insert hnode hhere hfree

/-- A directory is made where the last piece of a path names no entry yet. -/
theorem makeDirectory_eq_ok_iff :
    disk.makeDirectory path = .ok after ↔ ∃ r here name,
      disk.route path = .ok r ∧ disk.lastPiece r = .ok (here, some name) ∧
      disk.kindAt? (here ++ [name]) = none ∧
      after = disk.put (here ++ [name]) (.directory []) := by
  constructor
  · intro h
    obtain ⟨r, hroute, hrest⟩ := bind_eq_ok h
    obtain ⟨⟨here, name?⟩, hlast, hput⟩ := bind_eq_ok hrest
    cases name? with
    | none => cases hput
    | some name =>
        dsimp only at hput
        split at hput
        · cases hput
        · rename_i hnone
          rw [Option.not_isSome_iff_eq_none] at hnone
          refine ⟨r, here, name, hroute, hlast, ?_, (Except.ok.inj hput).symm⟩
          rw [kindAt?, Tree.kindAt?, hnone]
          rfl
  · rintro ⟨r, here, name, hroute, hlast, hfree, rfl⟩
    have hnone : disk.tree.find? (here ++ [name]) = none :=
      Option.map_eq_none_iff.mp hfree
    rw [makeDirectory, hroute]
    change (disk.lastPiece r >>= _) = _
    rw [hlast]
    simp [bind, Except.bind, pure, Except.pure, hnone]

/-- Making a directory puts one where the path leads and nothing was. -/
theorem makeDirectory_ok (h : disk.makeDirectory path = .ok after) :
    disk.kindAt? (disk.locate path) = none ∧
      disk.Puts after (disk.locate path) .directory := by
  obtain ⟨r, here, name, hroute, hlast, hfree, rfl⟩ := makeDirectory_eq_ok_iff.mp h
  obtain ⟨hlocate, hhere⟩ := lastPiece_ok hroute hlast
  rw [hlocate]
  refine ⟨hfree, put_puts (fun _ => Tree.childless_directory) hhere ?_⟩
  exact hfree ▸ nofun

/-- A file is put where the last piece of a path names an entry that is no
directory, or none yet. -/
theorem writeFile_eq_ok_iff {contents : Contents} :
    disk.writeFile path contents = .ok after ↔ ∃ r here name,
      disk.route path = .ok r ∧ r.slash = false ∧
      disk.lastPiece r = .ok (here, some name) ∧
      disk.kindAt? (here ++ [name]) ≠ some .directory ∧
      after = disk.put (here ++ [name]) (.file contents) := by
  constructor
  · intro h
    obtain ⟨r, hroute, hrest⟩ := bind_eq_ok h
    obtain ⟨⟨here, name?⟩, hlast, hput⟩ := bind_eq_ok hrest
    cases name? with
    | none => cases hput
    | some name =>
        dsimp only at hput
        split at hput
        · cases hput
        · rename_i hslash
          split at hput
          · cases hput
          · rename_i hno
            refine ⟨r, here, name, hroute, by simpa using hslash, hlast, ?_,
              (Except.ok.inj hput).symm⟩
            rintro hdirectory
            obtain ⟨entries, hfind⟩ := kindAt?_eq_directory_iff.mp hdirectory
            exact hno entries hfind
  · rintro ⟨r, here, name, hroute, hslash, hlast, hno, rfl⟩
    rw [writeFile, hroute]
    change (disk.lastPiece r >>= _) = _
    rw [hlast]
    change (if r.slash = true then _ else _) = _
    rw [hslash]
    dsimp only
    split
    · rename_i hslash
      cases hslash
    · split
      · rename_i entries hfind
        exact absurd (kindAt?_eq_directory_iff.mpr ⟨entries, hfind⟩) hno
      · rfl

/-- Writing a file puts one where the path leads, unless a directory is there. -/
theorem writeFile_ok {contents : Contents}
    (h : disk.writeFile path contents = .ok after) :
    disk.kindAt? (disk.locate path) ≠ some .directory ∧
      disk.Puts after (disk.locate path) (.file contents) := by
  obtain ⟨r, here, name, hroute, _, hlast, hno, rfl⟩ := writeFile_eq_ok_iff.mp h
  obtain ⟨hlocate, hhere⟩ := lastPiece_ok hroute hlast
  rw [hlocate]
  exact ⟨hno, put_puts (fun _ => Tree.childless_file _) hhere hno⟩

namespace AddsDirectories

variable {before middle after : Disk} {places : Location → Prop}

theorem refl (disk : Disk) (places : Location → Prop) :
    disk.AddsDirectories disk places where
  working := rfl
  keeps _ _ := rfl
  news _ hnone := .inl hnone

theorem trans (h : before.AddsDirectories middle places)
    (h' : middle.AddsDirectories after places) :
    before.AddsDirectories after places where
  working := h'.working.trans h.working
  keeps l hl := by
    have hmiddle := h.keeps l hl
    rw [← hmiddle] at hl ⊢
    exact h'.keeps l hl
  news l hl := by
    rcases h.news l hl with hnone | ⟨hnew, hplace⟩
    · exact h'.news l hnone
    · have hkept := h'.keeps l (hnew ▸ nofun)
      exact .inr ⟨hkept.trans hnew, hplace⟩

theorem mono {places' : Location → Prop} (hle : ∀ l, places l → places' l)
    (h : before.AddsDirectories after places) :
    before.AddsDirectories after places' where
  working := h.working
  keeps := h.keeps
  news l hl := (h.news l hl).imp_right fun hnew => ⟨hnew.1, hle l hnew.2⟩

theorem of_puts {place : Location} (hnone : before.kindAt? place = none)
    (h : before.Puts after place .directory) (hplace : places place) :
    before.AddsDirectories after places where
  working := h.working
  keeps l hl := by
    rw [h.kindAt?, if_neg]
    rintro rfl
    exact hl hnone
  news l hl := by
    rw [h.kindAt?]
    split
    · rename_i hl
      exact .inr ⟨rfl, hl ▸ hplace⟩
    · exact .inl hl

theorem kindAt?_cases (h : before.AddsDirectories after places) (l : Location) :
    after.kindAt? l = before.kindAt? l ∨
      before.kindAt? l = none ∧ after.kindAt? l = some .directory := by
  by_cases hnone : before.kindAt? l = none
  · rcases h.news l hnone with hno | ⟨hnew, _⟩
    · exact .inl (hno.trans hnone.symm)
    · exact .inr ⟨hnone, hnew⟩
  · exact .inl (h.keeps l hnone)

/-- The files are those that were there before. -/
theorem kindAt?_eq_file_iff (h : before.AddsDirectories after places)
    {l : Location} {contents : Contents} :
    after.kindAt? l = some (.file contents) ↔
      before.kindAt? l = some (.file contents) := by
  rcases h.kindAt?_cases l with hsame | ⟨hnone, hnew⟩
  · rw [hsame]
  · simp [hnone, hnew]

end AddsDirectories

theorem makeDirectory_adds {places : Location → Prop}
    (h : disk.makeDirectory path = .ok after) (hplace : places (disk.locate path)) :
    disk.AddsDirectories after places :=
  .of_puts (makeDirectory_ok h).1 (makeDirectory_ok h).2 hplace

end Disk

namespace FaultyDisk

/-- How many bytes are written where a write will fail part-way. -/
def stops (s : FaultyDisk) : List Nat := s.faults.filterMap fun f => f.bind Fault.written?

/-- Directories have been added, some faults may have struck, and nothing else has changed. -/
structure AddsDirectories (before after : FaultyDisk) (places : Location → Prop) : Prop where
  adds : before.disk.AddsDirectories after.disk places
  faults : after.faults <:+ before.faults

variable {s t u : FaultyDisk} {places : Location → Prop} {path : String}

theorem AddsDirectories.trans (h : s.AddsDirectories t places) (h' : t.AddsDirectories u places) :
    s.AddsDirectories u places :=
  ⟨h.adds.trans h'.adds, h'.faults.trans h.faults⟩

/-- Making a directory does so on the disk, or fails without a change. -/
theorem makeDirectory_cases (s : FaultyDisk) (path : String) :
    (∃ after, s.disk.makeDirectory path = .ok after ∧
        FileSystem.makeDirectory s path = (⟨after, s.faults.tail⟩, .ok ())) ∨
      ∃ e, FileSystem.makeDirectory s path = (⟨s.disk, s.faults.tail⟩, .error e) := by
  change (∃ after, _ ∧ s.makeDirectory path = _) ∨ ∃ e, s.makeDirectory path = _
  rw [makeDirectory]
  cases s.faults.head?.join with
  | some fault => exact .inr ⟨fault.error, rfl⟩
  | none =>
      rw [Disk.makeDirectory_eq_attempt]
      cases hmake : s.disk.makeDirectory path with
      | ok after => exact .inl ⟨after, rfl, rfl⟩
      | error e => exact .inr ⟨e, rfl⟩

theorem makeDirectory_adds (s : FaultyDisk) {path : String} (hplace : places (s.disk.locate path)) :
    s.AddsDirectories (FileSystem.makeDirectory s path).1 places := by
  rcases s.makeDirectory_cases path with ⟨after, hmake, heq⟩ | ⟨e, heq⟩
  · rw [heq]
    exact ⟨Disk.makeDirectory_adds hmake hplace, List.tail_suffix _⟩
  · rw [heq]
    exact ⟨.refl _ _, List.tail_suffix _⟩

theorem settle_adds (s : FaultyDisk) {path : String} (hplace : places (s.disk.locate path)) :
    s.AddsDirectories (FileSystem.settle s path).1 places := by
  have hmake := s.makeDirectory_adds hplace
  rw [FileSystem.settle]
  split
  all_goals
    rename_i heq
    rw [heq] at hmake
    exact hmake

/-- Making directories adds them where the paths in the list lead, also when it
fails in the end. -/
theorem makeChain_adds (s : FaultyDisk) (paths : List String) :
    s.AddsDirectories (FileSystem.makeChain s paths).1
      fun l => ∃ q ∈ paths, l = s.disk.locate q := by
  induction paths generalizing s with
  | nil => exact ⟨.refl _ _, List.suffix_refl _⟩
  | cons path above ih =>
      have hfirst : s.AddsDirectories (FileSystem.makeDirectory s path).1
          fun l => ∃ q ∈ path :: above, l = s.disk.locate q :=
        s.makeDirectory_adds ⟨path, List.mem_cons_self, rfl⟩
      rw [FileSystem.makeChain]
      split
      · rename_i heq
        rwa [heq] at hfirst
      · rename_i after heq
        rw [heq] at hfirst
        have hworking := hfirst.adds.working
        have hlater : after.AddsDirectories (FileSystem.makeChain after above).1
            fun l => ∃ q ∈ path :: above, l = s.disk.locate q := by
          refine ⟨(ih after).adds.mono ?_, (ih after).faults⟩
          rintro l ⟨q, hq, hl⟩
          rw [Disk.locate_eq_of_working hworking] at hl
          exact ⟨q, List.mem_cons_of_mem path hq, hl⟩
        have habove := hfirst.trans hlater
        split
        · rename_i middle hchain
          rw [hchain] at habove
          refine habove.trans (middle.settle_adds ⟨path, List.mem_cons_self, ?_⟩)
          exact Disk.locate_eq_of_working habove.adds.working path
        · rename_i middle e hchain
          rwa [hchain] at habove
      · rename_i heq
        rwa [heq] at hfirst

end FaultyDisk

namespace Disk

variable {disk after : Disk} {path : String}

/-- Making directories adds them where the paths in the list lead, also when it
fails in the end. -/
theorem makeChain_adds (disk : Disk) (paths : List String) :
    disk.AddsDirectories (FileSystem.makeChain disk paths).1
      fun l => ∃ q ∈ paths, l = disk.locate q := by
  have hadds := (disk.faultless.makeChain_adds paths).adds
  rw [agrees_faultless.makeChain] at hadds
  exact hadds

/-- Making a directory and those above it adds directories where these paths
lead. -/
theorem adds_of_makeDirectories {result : Except FileError Unit}
    (h : FileSystem.makeDirectories disk path = (after, result)) :
    disk.AddsDirectories after
      fun l => ∃ q ∈ Path.prefixes path, l = disk.locate q := by
  have hadds := disk.makeChain_adds (Path.prefixes path)
  rw [← FileSystem.makeDirectories, h] at hadds
  exact hadds

end Disk

end AspectForms
