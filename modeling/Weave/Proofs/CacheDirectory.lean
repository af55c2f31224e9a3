import Mathlib.Data.List.Infix
import Weave.Proofs.Checking
import Weave.Proofs.Footprint
import Weave.Proofs.Simulation

/-!
# Weave.Proofs.CacheDirectory — a cache directory holds what a memory would

A cache in a directory that nobody else uses is a cache in memory: reports are found again under
their keys, the last one that was stored counts, and the directory holds one file for each key and
nothing else.

1. **Trees**: every node of a tree lies in a directory (`Disk.IsTree`), so that a path without dots
   leads there (`walk_of_dir`) unless something on the way is missing (`walk_onward`).
2. **Names below a directory**: if a path leads to a directory (`Leads`), files can be put below it
   (`filePlace_join`, `rename_join`), and what stands there is found (`stat_join`). A path that was
   provided leads to a directory (`leads_of_createDirs`, `node?_provideDir`).
3. **Mirrors**: `Mirrors` says how a directory stands to a memory; loading reads it off
   (`load_of_mirrors`), storing keeps it (`store_of_mirrors`).
4. **Sequences**: `refines_memory`, for any operations and for whole pages.
-/

namespace Weave

namespace Store

variable {α β : Type} [DecidableEq α]

/-- A value that is found is an entry. -/
theorem mem_of_find? {key : α} {value : β} {entries : List (α × β)}
    (h : find? key entries = some value) : (key, value) ∈ entries := by
  induction entries with
  | nil => cases h
  | cons entry entries ih =>
    rw [find?] at h
    split at h
    · next hkey =>
      rw [← hkey, ← Option.some.inj h]
      exact List.mem_cons_self
    · exact List.mem_cons_of_mem entry (ih h)

theorem mem_of_get? {store : Store α β} {key : α} {value : β} (h : store.get? key = some value) :
    (key, value) ∈ store.entries :=
  mem_of_find? h

end Store

namespace Disk

open PathName

/-! ## Trees -/

/-- A tree: the working directory exists, and around every node is a directory. -/
structure IsTree (disk : Disk) : Prop where
  workDir : disk.node? disk.workDir = some .dir
  around : ∀ {name location node}, disk.node? (name :: location) = some node →
    disk.node? location = some .dir

section

variable {disk : Disk}

/-- What stands on a disk is the root or one of its entries. -/
theorem mem_of_node? {location : Location} {node : Node} (h : disk.node? location = some node) :
    location = [] ∨ (location, node) ∈ disk.nodes.entries := by
  unfold node? at h
  split at h
  · next hroot => exact .inl hroot
  · exact .inr (Store.mem_of_get? h)

/-- A disk is a tree if each of its entries lies in a directory. -/
theorem isTree_of_entries (hworkDir : disk.node? disk.workDir = some .dir)
    (hentries : ∀ entry ∈ disk.nodes.entries, disk.node? entry.1.tail = some .dir) :
    disk.IsTree where
  workDir := hworkDir
  around h := by
    rcases mem_of_node? h with hroot | hmem
    · cases hroot
    · exact hentries _ hmem

/-- All directories that lead to a node exist. -/
theorem IsTree.dir_of_suffix (htree : disk.IsTree) {location above : Location}
    (hdir : disk.node? location = some .dir) (habove : above <:+ location) :
    disk.node? above = some .dir := by
  induction location with
  | nil =>
    rw [List.suffix_nil.1 habove]
    exact hdir
  | cons name location ih =>
    rcases List.suffix_cons_iff.1 habove with rfl | habove
    · exact hdir
    · exact ih (htree.around hdir) habove

theorem IsTree.tick (htree : disk.IsTree) : disk.tick.IsTree :=
  ⟨htree.workDir, htree.around⟩

/-- A node that is put into a directory, where it is not in the way of another. -/
theorem IsTree.put (htree : disk.IsTree) {location : Location} {node : Node}
    (hne : location ≠ []) (hparent : disk.node? location.tail = some .dir)
    (hfree : node = .dir ∨ disk.node? location ≠ some .dir) : (disk.put location node).IsTree := by
  have hdirs : ∀ l, disk.node? l = some .dir → (disk.put location node).node? l = some .dir := by
    intro l hl
    rw [node?_put disk l node hne]
    split
    · next heq =>
      obtain rfl | hfree := hfree
      · rfl
      · exact absurd (heq ▸ hl) hfree
    · exact hl
  refine ⟨hdirs _ htree.workDir, ?_⟩
  intro name l node' hnode'
  rw [node?_put disk _ node hne] at hnode'
  split at hnode'
  · next heq =>
    rw [← heq] at hparent
    exact hdirs l hparent
  · exact hdirs l (htree.around hnode')

/-- A node that was no directory and is gone. -/
theorem IsTree.drop (htree : disk.IsTree) {location : Location} {node : Node}
    (hnode : disk.node? location = some node) (hdir : node ≠ .dir) :
    (disk.drop location).IsTree := by
  have hgrown : Grows Nowhere (· = location) disk (disk.drop location) := grows_drop hnode hdir
  refine ⟨hgrown.dirs _ htree.workDir, ?_⟩
  intro name l node' hnode'
  rw [node?_drop disk _ (ne_root_of_node? hnode hdir)] at hnode'
  split at hnode'
  · cases hnode'
  · exact hgrown.dirs l (htree.around hnode')

theorem IsTree.createDir {disk' : Disk} (htree : disk.IsTree) {path : Text}
    (h : disk.createDir path = .ok disk') : disk'.IsTree := by
  obtain ⟨hne, hparent, -, rfl⟩ := createDir_cases h
  exact htree.put hne hparent (.inl rfl)

theorem IsTree.provideDir (htree : disk.IsTree) (path : Text) : (disk.provideDir path).2.IsTree :=
  provideDir_induction disk (fun _ _ _ _ hbefore => hbefore.createDir) htree

/-! ## Walks without dots -/

/-- Two dots are the only segment that leads up. -/
theorem up_notMem_map {ss : List Text} (h : ['.', '.'] ∉ ss) :
    Move.up ∉ (ss.filter (· ≠ [])).map Move.ofSegment := by
  intro hup
  obtain ⟨s, hs, hup⟩ := List.mem_map.1 hup
  unfold Move.ofSegment at hup
  split at hup
  · cases hup
  · split at hup
    · next hdots => exact h (hdots ▸ List.mem_of_mem_filter hs)
    · cases hup

theorem up_notMem_steps {path : Text} (h : ['.', '.'] ∉ segments path) : Move.up ∉ steps path :=
  up_notMem_map h

/-- Such steps lead to a location at or below the one where they begin. -/
theorem suffix_foldl_apply {ms : List Move} (hup : Move.up ∉ ms) (location : Location) :
    location <:+ ms.foldl Move.apply location := by
  induction ms generalizing location with
  | nil => exact List.suffix_refl location
  | cons m ms ih =>
    rw [List.mem_cons, not_or] at hup
    refine List.IsSuffix.trans ?_ (ih hup.2 (m.apply location))
    cases m with
    | here => exact List.suffix_refl location
    | up => exact absurd rfl hup.1
    | down name => exact List.suffix_cons name location

/-- Steps to a directory of a tree can be taken. -/
theorem walk_of_dir (htree : disk.IsTree) {ms : List Move} (hup : Move.up ∉ ms)
    {location : Location} (hdir : disk.node? (ms.foldl Move.apply location) = some .dir) :
    disk.walk location ms = .ok (ms.foldl Move.apply location) := by
  induction ms generalizing location with
  | nil => rfl
  | cons m ms ih =>
    have hhere := htree.dir_of_suffix hdir (suffix_foldl_apply hup location)
    rw [List.mem_cons, not_or] at hup
    rw [walk, checkDir_eq_ok_iff.2 hhere]
    exact ih hup.2 hdir

/-- Where there are only directories on the way, steps can be taken until one is missing. -/
theorem walk_onward {ms : List Move} (hup : Move.up ∉ ms) {location : Location}
    (hdirs : ∀ l, l <:+ ms.foldl Move.apply location →
      disk.node? l = none ∨ disk.node? l = some .dir) :
    disk.walk location ms = .ok (ms.foldl Move.apply location) ∨
      disk.walk location ms = .error .notFound := by
  induction ms generalizing location with
  | nil => exact .inl rfl
  | cons m ms ih =>
    have hhere := hdirs location (suffix_foldl_apply hup location)
    rw [List.mem_cons, not_or] at hup
    rcases hhere with hnone | hdir
    · exact .inr (by simp [walk, checkDir, hnone])
    · rw [walk, checkDir_eq_ok_iff.2 hdir]
      exact ih hup.2 hdirs

theorem walk_append_of_error {location : Location} {ms : List Move} {e : IoError}
    (h : disk.walk location ms = .error e) (ms' : List Move) :
    disk.walk location (ms ++ ms') = .error e := by
  induction ms generalizing location with
  | nil => cases h
  | cons m ms ih =>
    rw [walk] at h
    rw [List.cons_append, walk]
    split at h
    · exact ih h
    · exact h

/-- A walk that succeeds succeeds in its first part. -/
theorem walk_of_append {location goal : Location} {ms ms' : List Move}
    (h : disk.walk location (ms ++ ms') = .ok goal) :
    ∃ between, disk.walk location ms = .ok between ∧ disk.walk between ms' = .ok goal := by
  cases hfirst : disk.walk location ms with
  | error e =>
    rw [walk_append_of_error hfirst] at h
    cases h
  | ok between => exact ⟨between, rfl, (walk_append hfirst ms').symm.trans h⟩

theorem checkName_eq_ok {path : Text} (hnul : '\x00' ∉ path) (hne : path ≠ []) :
    checkName path = .ok () := by
  simp [checkName, hnul, hne]

end

/-! ## The directories around a directory -/

theorem suffix_foldl_enter {ss : List Text} (h : ['.', '.'] ∉ ss) (location : Location) :
    location <:+ ss.foldl enter location := by
  rw [← foldl_ofSegment]
  exact suffix_foldl_apply (up_notMem_map h) location

/-- The parent of a path leaves out its last segment that is not idle. Nothing is left of a segment
alone. -/
theorem parent?_cases {path parent : Text} (h : parent? path = some parent) :
    ∃ head rest, segments path = head :: rest ∧
      (dropIdleEnd rest = [] ∧ isAbsolute path = false ∧ parent = [] ∨
        ∃ front last, dropIdleEnd rest = front ++ [last] ∧
          parent = ofHead path head (dropIdleEnd front)) := by
  unfold parent? at h
  cases hsegments : segments path with
  | nil => simp [hsegments] at h
  | cons head rest =>
    simp only [hsegments] at h
    refine ⟨head, rest, rfl, ?_⟩
    rcases List.eq_nil_or_concat (dropIdleEnd rest) with hlive | ⟨front, last, hlive⟩
    · rw [hlive, if_pos List.isEmpty_nil] at h
      split at h
      · cases h
      · next hroot =>
        rw [Bool.or_eq_true, not_or, Bool.not_eq_true] at hroot
        exact .inl ⟨hlive, hroot.1, (Option.some.inj h).symm⟩
    · rw [List.concat_eq_append] at hlive
      rw [hlive, if_neg (by simp), List.dropLast_concat] at h
      exact .inr ⟨front, last, hlive, (Option.some.inj h).symm⟩

/-- The parent of a path without dots has none either, and the path lies at or below it. -/
theorem suffix_of_parent? {path parent : Text} (h : parent? path = some parent)
    (hup : ['.', '.'] ∉ segments path) :
    ['.', '.'] ∉ segments parent ∧
      ∀ disk : Disk, disk.locationOf parent <:+ disk.locationOf path := by
  have hslash : ∀ s ∈ segments path, '/' ∉ s := noSlash_of_mem_segments
  obtain ⟨head, rest, hsegments, ⟨-, hrelative, rfl⟩ | ⟨front, last, hlive, rfl⟩⟩ := parent?_cases h
  · -- the path is a segment alone, below the working directory
    have hempty : segments ([] : Text) = [[]] := List.splitOnP_nil
    have horigin : ∀ disk : Disk, disk.locationOf [] = disk.origin path := by
      intro disk
      rw [locationOf_eq, hempty, origin, origin, hrelative]
      rfl
    refine ⟨by simp [hempty], fun disk => ?_⟩
    rw [horigin, locationOf_eq]
    exact suffix_foldl_enter hup _
  -- or the parent keeps all segments but for the last one and the idle ones around it
  · rw [hsegments] at hup hslash
    have hlast : last ∈ head :: rest := by
      refine List.mem_cons_of_mem head (mem_of_mem_dropIdleEnd ?_)
      rw [hlive]
      exact List.mem_append_right front List.mem_cons_self
    have hkept : ∀ s ∈ head :: dropIdleEnd front, s ∈ head :: rest := by
      intro s hs
      rcases List.mem_cons.1 hs with rfl | hs
      · exact List.mem_cons_self
      · have hmem : s ∈ dropIdleEnd rest := by
          rw [hlive]
          exact List.mem_append_left _ (mem_of_mem_dropIdleEnd hs)
        exact List.mem_cons_of_mem head (mem_of_mem_dropIdleEnd hmem)
    have hrest : rest ≠ [] := by
      rintro rfl
      simp [dropIdleEnd] at hlive
    constructor
    · unfold ofHead
      split
      · decide
      · rw [segments_ofSegments fun s hs => hslash s (hkept s hs)]
        exact fun hmem => hup (hkept _ hmem)
    · -- one step more leads from the parent to the path, and it does not lead up
      intro disk
      have hlastUp : ['.', '.'] ∉ [last] := fun hmem => hup (List.mem_singleton.1 hmem ▸ hlast)
      rw [locationOf_ofHead hsegments hrest (fun s hs => hslash s (hkept s
          (List.mem_cons_of_mem head hs))), locationOf_eq, hsegments, List.foldl_cons,
        List.foldl_cons, foldl_dropIdleEnd, ← foldl_dropIdleEnd rest, hlive, List.foldl_append]
      exact suffix_foldl_enter hlastUp _

/-- So a path without dots lies at or below all directories that it leads through. -/
theorem suffix_of_mem_ancestors {path : Text} (hup : ['.', '.'] ∉ segments path) :
    ∀ p ∈ ancestors path, ∀ disk : Disk, disk.locationOf p <:+ disk.locationOf path := by
  fun_induction ancestors path with
  | case1 path hparent =>
    simp only [List.mem_singleton]
    rintro p rfl disk
    exact List.suffix_refl _
  | case2 path parent hparent hlength ih =>
    obtain ⟨hup', habove⟩ := suffix_of_parent? hparent hup
    intro p hp disk
    rcases List.mem_cons.1 hp with rfl | hp
    · exact List.suffix_refl _
    · exact (ih hup' p hp disk).trans (habove disk)
  | case3 path parent hparent hlength =>
    simp only [List.mem_singleton]
    rintro p rfl disk
    exact List.suffix_refl _

/-! ## Names below a directory -/

section

variable {disk : Disk} {dir name : Text}

theorem join_ne_nil (hname : IsName name) (dir : Text) : join dir name ≠ [] := by
  unfold join
  split
  · exact hname.ne_nil
  · split <;> simp [hname.ne_nil]

theorem noNul_join (hdir : '\x00' ∉ dir) (hnul : '\x00' ∉ name) : '\x00' ∉ join dir name := by
  unfold join
  split
  · exact hnul
  · split <;> simp [hdir, hnul]

/-- A path that leads anywhere has steps that can be taken. A slash at its end asks for one more, which
leads no further. -/
theorem walk_steps_of_locate {path : Text} {location : Location}
    (h : disk.locate path = .ok location) :
    disk.walk (disk.origin path) (steps path) = .ok (disk.locationOf path) := by
  obtain ⟨-, -, hwalk⟩ := ok_of_bind h
  have hmoves : ∃ ms, moves path = steps path ++ ms := by
    unfold moves
    split
    · exact ⟨[.here], rfl⟩
    · exact ⟨[], (List.append_nil _).symm⟩
  obtain ⟨ms, hms⟩ := hmoves
  rw [hms] at hwalk
  obtain ⟨between, hsteps, -⟩ := walk_of_append hwalk
  rw [hsteps, walk_eq hsteps, locationOf_eq_foldl_steps]

/-- A path whose steps lead to a directory leads there. -/
theorem locate_of_walk_steps {path : Text} {location : Location} (hnul : '\x00' ∉ path)
    (hne : path ≠ []) (hwalk : disk.walk (disk.origin path) (steps path) = .ok location)
    (hdir : disk.checkDir location = .ok ()) : disk.locate path = .ok location := by
  rw [locate, checkName_eq_ok hnul hne, moves]
  simp only [bind, Except.bind]
  split
  · exact walk_concat hwalk hdir .here
  · exact hwalk

/-- The last step of a path to a new node says what it is called. -/
theorem place_eq {path : Text} {parent : Location} (hname : checkName path = .ok ())
    (hwalk : disk.walk (disk.origin path) (steps path).dropLast = .ok parent)
    (hparent : disk.node? parent = some .dir) :
    disk.place path = .ok (match (steps path).getLast? with
      | some (.down name) => some (name :: parent)
      | _ => none) := by
  rw [steps] at hwalk ⊢
  simp only [place, hname, hwalk, checkDir_eq_ok_iff.2 hparent, bind, Except.bind]
  generalize (((segments path).filter (· ≠ [])).map Move.ofSegment).getLast? = last
  rcases last with _ | _ | _ | name <;> rfl

/-- A path leads to a directory if its steps can be taken and there is one where they end. Names below
it are places for files. -/
structure Leads (disk : Disk) (dir : Text) : Prop where
  walk : disk.walk (disk.origin dir) (steps dir) = .ok (disk.locationOf dir)
  isDir : disk.node? (disk.locationOf dir) = some .dir

/-- In a tree all paths without dots lead to their directories. -/
theorem leads_of_tree (htree : disk.IsTree) (hup : ['.', '.'] ∉ segments dir)
    (hdir : disk.node? (disk.locationOf dir) = some .dir) : disk.Leads dir where
  walk := by
    rw [locationOf_eq_foldl_steps] at hdir ⊢
    exact walk_of_dir htree (up_notMem_steps hup) hdir
  isDir := hdir

/-- It goes on to lead there while no directory is removed. -/
theorem Leads.grows {disk' : Disk} {fresh scope : Location → Prop} (h : disk.Leads dir)
    (hgrown : Grows fresh scope disk disk') : disk'.Leads dir := by
  have hlocation := locationOf_congr hgrown.workDir dir
  have horigin : disk'.origin dir = disk.origin dir := by rw [origin, origin, hgrown.workDir]
  constructor
  · rw [hlocation, horigin]
    exact walk_of_dirs hgrown.dirs h.walk
  · rw [hlocation]
    exact hgrown.dirs _ h.isDir

section

variable (hleads : disk.Leads dir) (hname : IsName name) (hnul : '\x00' ∉ join dir name)

include hleads hname hnul

/-- Where a name below a directory leads. -/
theorem locate_join :
    disk.locate (join dir name) = .ok (name :: disk.locationOf dir) := by
  rw [locate, checkName_eq_ok hnul (join_ne_nil hname dir), origin_join hname, moves_join hname]
  exact walk_concat hleads.walk (checkDir_eq_ok_iff.2 hleads.isDir) (.down name)

/-- A file can be put there. -/
theorem filePlace_join :
    disk.filePlace (join dir name) = .ok (name :: disk.locationOf dir) := by
  have hplace : disk.place (join dir name) = .ok (some (name :: disk.locationOf dir)) := by
    have hwalk : disk.walk (disk.origin (join dir name)) (steps (join dir name)).dropLast
        = .ok (disk.locationOf dir) := by
      rw [origin_join hname, steps_join hname, List.dropLast_concat]
      exact hleads.walk
    rw [place_eq (checkName_eq_ok hnul (join_ne_nil hname dir)) hwalk hleads.isDir, steps_join hname,
      List.getLast?_concat]
  rw [filePlace, hplace]
  exact if_neg (getLast?_join_ne_slash hname dir)

/-- A file is written there, in the place of any file. -/
theorem write_join
    (hfile : disk.node? (name :: disk.locationOf dir) = none ∨
      ∃ old, disk.node? (name :: disk.locationOf dir) = some (.file old)) (bytes : ByteArray) :
    disk.write (join dir name) bytes
      = .ok (disk.put (name :: disk.locationOf dir) (.file bytes)) := by
  rw [write, filePlace_join hleads hname hnul]
  obtain hnone | ⟨old, hold⟩ := hfile
  · simp only [bind, Except.bind, hnone]
    rfl
  · simp only [bind, Except.bind, hold]
    rfl

/-- A file is moved from one name to another, at which there is no directory. -/
theorem rename_join {other : Text} (hother : IsName other) (hnul' : '\x00' ∉ join dir other)
    {bytes : ByteArray}
    (hnode : disk.node? (name :: disk.locationOf dir) = some (.file bytes))
    (hfree : disk.node? (other :: disk.locationOf dir) ≠ some .dir) :
    disk.rename (join dir name) (join dir other)
      = .ok ((disk.drop (name :: disk.locationOf dir)).put (other :: disk.locationOf dir)
          (.file bytes)) := by
  rw [rename, locate_join hleads hname hnul, filePlace_join hleads hother hnul']
  simp only [bind, Except.bind, hnode]
  cases hnew : disk.node? (other :: disk.locationOf dir) with
  | none => rfl
  | some node =>
    cases node with
    | dir => exact absurd hnew hfree
    | file bytes' => rfl
    | sink => rfl

end

/-- A file that is written under a new name and then moved to another one: nothing else changes. -/
theorem replace_join {other : Text} (htree : disk.IsTree) (hleads : disk.Leads dir)
    (hname : IsName name) (hnul : '\x00' ∉ join dir name) (hother : IsName other)
    (hnul' : '\x00' ∉ join dir other) (hnone : disk.node? (name :: disk.locationOf dir) = none)
    (hfree : disk.node? (other :: disk.locationOf dir) ≠ some .dir) (bytes : ByteArray) :
    ∃ written after, disk.write (join dir name) bytes = .ok written ∧
      written.rename (join dir name) (join dir other) = .ok after ∧
      after.workDir = disk.workDir ∧ after.IsTree ∧
      ∀ l, after.node? l
        = if l = other :: disk.locationOf dir then some (.file bytes) else disk.node? l := by
  let source := name :: disk.locationOf dir
  let target := other :: disk.locationOf dir
  let written := disk.put source (.file bytes)
  have hnone : disk.node? source = none := hnone
  have hwritten : ∀ l, written.node? l = if l = source then some (.file bytes) else disk.node? l :=
    fun l => node?_put disk l _ (List.cons_ne_nil _ _)
  have hsource : written.node? source = some (.file bytes) := by rw [hwritten, if_pos rfl]
  have hwrites := write_join hleads hname hnul (.inl hnone) bytes
  have hgrown : Grows Nowhere _ disk written := grows_write hwrites
  have hwrittenLeads : written.Leads dir := hleads.grows hgrown
  have hwrittenTree : written.IsTree :=
    htree.put (List.cons_ne_nil _ _) hleads.isDir (.inr (by simp [hnone]))
  have htarget : written.node? target ≠ some .dir := by
    rw [hwritten]
    split
    · simp
    · exact hfree
  -- once the file is gone again the disk is as it was
  have hdropped : ∀ l, (written.drop source).node? l = disk.node? l := by
    intro l
    rw [node?_drop written l (List.cons_ne_nil _ _), hwritten]
    split
    · next hl => rw [hl, hnone]
    · rfl
  refine ⟨written, (written.drop source).put target (.file bytes), hwrites,
    rename_join hwrittenLeads hname hnul hother hnul' hsource htarget, rfl, ?_, ?_⟩
  · refine (hwrittenTree.drop hsource (by simp)).put (List.cons_ne_nil _ _) ?_ (.inr ?_)
    · rw [hdropped]
      exact hleads.isDir
    · rw [hdropped]
      exact hfree
  · intro l
    rw [node?_put _ l _ (List.cons_ne_nil _ _), hdropped]

/-- What stands below a directory that a path leads to. -/
theorem stat_of_leads (hleads : disk.Leads dir) (hname : IsName name)
    (hnul : '\x00' ∉ join dir name) :
    disk.stat (join dir name)
      = (disk.node? (name :: disk.locationOf dir)).elim (.error .notFound) .ok := by
  rw [stat, locate_join hleads hname hnul]
  cases hnode : disk.node? (name :: disk.locationOf dir) <;>
    simp [bind, Except.bind, hnode, pure, Except.pure]

/-- What stands below a path without dots: what is at its location, and nothing if the path leads
nowhere. -/
theorem stat_join (htree : disk.IsTree) (hup : ['.', '.'] ∉ segments dir)
    (hdirs : ∀ l, l <:+ disk.locationOf dir → disk.node? l = none ∨ disk.node? l = some .dir)
    (hname : IsName name) (hnul : '\x00' ∉ join dir name) :
    disk.stat (join dir name)
      = (disk.node? (name :: disk.locationOf dir)).elim (.error .notFound) .ok := by
  rcases hdirs _ (List.suffix_refl _) with hnone | hdir
  · -- without the directory there is no walk to the name
    have hmissing : disk.locate (join dir name) = .error .notFound := by
      have hlocation := locationOf_eq_foldl_steps disk dir
      rw [locate, checkName_eq_ok hnul (join_ne_nil hname dir), origin_join hname, moves_join hname]
      rcases walk_onward (up_notMem_steps hup) (hlocation ▸ hdirs) with hwalk | hwalk
      · rw [← hlocation] at hwalk
        have hstop : disk.walk (disk.locationOf dir) [.down name] = .error .notFound := by
          simp [walk, checkDir, hnone]
        exact (walk_append hwalk _).trans hstop
      · exact walk_append_of_error hwalk _
    have hnode : disk.node? (name :: disk.locationOf dir) = none := by
      rw [Option.eq_none_iff_forall_ne_some]
      intro node hnode
      rw [htree.around hnode] at hnone
      cases hnone
    rw [stat, hmissing, hnode]
    rfl
  · exact stat_of_leads (leads_of_tree htree hup hdir) hname hnul

/-! ## Providing a directory -/

theorem leads_of_isDir {path : Text} (h : disk.isDir path = true) : disk.Leads path := by
  unfold isDir at h
  split at h
  · next hstat =>
    obtain ⟨hlocate, hdir⟩ := node?_of_stat hstat
    exact ⟨walk_steps_of_locate hlocate, hdir⟩
  · cases h

theorem leads_of_createDir {disk' : Disk} {path : Text} (h : disk.createDir path = .ok disk') :
    disk'.Leads path := by
  have hgrown := grows_createDir h
  obtain ⟨hne, -, -, hdisk'⟩ := createDir_cases h
  obtain ⟨place, hplace, h⟩ := ok_of_bind h
  cases place with
  | none => cases h
  | some location =>
    obtain ⟨-, -, -, hwalk⟩ := walk_of_place hplace
    have horigin : disk'.origin path = disk.origin path := by rw [origin, origin, hgrown.workDir]
    constructor
    · rw [locationOf_congr hgrown.workDir, horigin, locationOf_eq_foldl_steps, ← walk_eq hwalk]
      exact walk_of_dirs hgrown.dirs hwalk
    · rw [locationOf_congr hgrown.workDir, hdisk', node?_put disk _ _ hne, if_pos rfl]

theorem leads_of_ensureDir {disk' : Disk} {path : Text} (h : disk.ensureDir path = .ok disk') :
    disk'.Leads path := by
  unfold ensureDir at h
  split at h
  · next hcreate =>
    obtain rfl := Except.ok.inj h
    exact leads_of_createDir hcreate
  · split at h
    · next hdir =>
      obtain rfl := Except.ok.inj h
      exact leads_of_isDir hdir
    · cases h

/-- A directory that is created without a failure is there. -/
theorem leads_of_createChain {path : Text} {around : List Text} (hne : path ≠ []) {changed : Disk}
    (h : disk.createChain (path :: around) = (.ok (), changed)) : changed.Leads path := by
  rw [createChain, if_neg (by simpa using hne)] at h
  split at h
  · next hcreate =>
    obtain ⟨-, rfl⟩ := Prod.mk.inj h
    exact leads_of_createDir hcreate
  · split at h
    · unfold settled at h
      split at h
      · next hensure =>
        obtain ⟨-, rfl⟩ := Prod.mk.inj h
        exact leads_of_ensureDir hensure
      · cases (Prod.mk.inj h).1
    · next hfailed => exact absurd h (hfailed changed)
  · split at h
    · next hdir =>
      obtain ⟨-, rfl⟩ := Prod.mk.inj h
      exact leads_of_isDir hdir
    · cases (Prod.mk.inj h).1

theorem ancestors_eq_cons (path : Text) : ∃ around, ancestors path = path :: around := by
  rw [ancestors]
  split
  · exact ⟨[], rfl⟩
  · split <;> exact ⟨_, rfl⟩

/-- The empty path stands for the working directory. -/
theorem leads_of_createDirs (hworkDir : dir = [] → disk.node? disk.workDir = some .dir)
    {changed : Disk} (h : disk.createDirs dir = (.ok (), changed)) : changed.Leads dir := by
  obtain ⟨around, haround⟩ := ancestors_eq_cons dir
  rw [createDirs, haround] at h
  by_cases hne : dir = []
  · subst hne
    obtain ⟨-, rfl⟩ := Prod.mk.inj h
    exact ⟨rfl, hworkDir rfl⟩
  · exact leads_of_createChain hne h

/-- A directory that is provided without a failure is there, if nothing else was. -/
theorem node?_provideDir (htree : disk.IsTree)
    (hplace : disk.node? (disk.locationOf dir) = none ∨
      disk.node? (disk.locationOf dir) = some .dir) {changed : Disk}
    (h : disk.provideDir dir = (.ok (), changed)) :
    changed.node? (disk.locationOf dir) = some .dir := by
  have hgrown := grows_provideDir disk dir
  rw [h] at hgrown
  unfold provideDir at h
  split at h
  · next hexists =>
    obtain ⟨-, rfl⟩ := Prod.mk.inj h
    obtain ⟨node, hstat⟩ : ∃ node, disk.stat dir = .ok node := exists_ok_of_isOk hexists
    have hnode := (node?_of_stat hstat).2
    rcases hplace with hnone | hdir
    · rw [hnone] at hnode
      cases hnode
    · exact hdir
  · rw [← locationOf_congr hgrown.workDir]
    exact (leads_of_createDirs (fun _ => htree.workDir) h).isDir

/-- A path that leads to a directory finds it. -/
theorem isDir_of_leads (hleads : disk.Leads dir) (hnul : '\x00' ∉ dir) (hne : dir ≠ []) :
    disk.isDir dir = true := by
  have hlocate : disk.locate dir = .ok (disk.locationOf dir) :=
    locate_of_walk_steps hnul hne hleads.walk (checkDir_eq_ok_iff.2 hleads.isDir)
  rw [isDir, stat_of_locate hlocate hleads.isDir]

/-- A directory that is there is not created again. -/
theorem createDir_of_leads (hleads : disk.Leads dir) (hnul : '\x00' ∉ dir) (hne : dir ≠ []) :
    disk.createDir dir = .error .alreadyExists := by
  have hname := checkName_eq_ok hnul hne
  obtain ⟨hwalk, hdir⟩ := hleads
  rcases List.eq_nil_or_concat (steps dir) with hsteps | ⟨front, m, hsteps⟩
  · -- no step is taken: the path is the one to its origin
    rw [locationOf_eq_foldl_steps, hsteps] at hdir
    have hplace : disk.place dir = .ok none := by
      rw [place_eq hname (by rw [hsteps]; rfl) hdir, hsteps]
      rfl
    rw [createDir, hplace]
    rfl
  · rw [List.concat_eq_append] at hsteps
    rw [hsteps] at hwalk
    obtain ⟨parent, hparent, hlast⟩ := walk_of_append hwalk
    rw [walk] at hlast
    split at hlast
    · next hcheck =>
      have hplace := place_eq hname (by rw [hsteps, List.dropLast_concat, hparent])
        (checkDir_eq_ok_iff.1 hcheck)
      rw [hsteps, List.getLast?_concat] at hplace
      rw [createDir, hplace]
      cases m with
      | here => rfl
      | up => rfl
      | down name =>
        have hlocation : disk.locationOf dir = name :: parent := (Except.ok.inj hlast).symm
        rw [hlocation] at hdir
        simp [bind, Except.bind, hdir]
    · cases hlast

/-- A directory that is there is provided by doing nothing. -/
theorem createDirs_of_leads (hleads : disk.Leads dir) (hnul : '\x00' ∉ dir) :
    disk.createDirs dir = (.ok (), disk) := by
  obtain ⟨around, haround⟩ := ancestors_eq_cons dir
  rw [createDirs, haround, createChain]
  split
  · rfl
  · next hne =>
    have hne : dir ≠ [] := by simpa using hne
    simp only [createDir_of_leads hleads hnul hne, isDir_of_leads hleads hnul hne, if_true]

theorem provideDir_of_dir (htree : disk.IsTree) (hup : ['.', '.'] ∉ segments dir)
    (hnul : '\x00' ∉ dir) (hdir : disk.node? (disk.locationOf dir) = some .dir) :
    disk.provideDir dir = (.ok (), disk) := by
  rw [provideDir, createDirs_of_leads (leads_of_tree htree hup hdir) hnul]
  exact ite_self _

/-- A path that can be provided holds no NUL. -/
theorem noNul_of_provideDir {changed : Disk} (h : disk.provideDir dir = (.ok (), changed)) :
    '\x00' ∉ dir := by
  intro hnul
  have hne : dir ≠ [] := List.ne_nil_of_mem hnul
  have hname : checkName dir = .error .invalidInput := by simp [checkName, hnul]
  have hstat : disk.stat dir = .error .invalidInput := by
    rw [stat, locate, hname]
    rfl
  have hcreate : disk.createDir dir = .error .invalidInput := by
    rw [createDir, place, hname]
    rfl
  obtain ⟨around, haround⟩ := ancestors_eq_cons dir
  simp [provideDir, pathExists, hstat, createDirs, haround, createChain, hne, hcreate, isDir,
    Except.isOk, Except.toBool] at h

end

end Disk

namespace DiskCache

/-! ## Mirrors -/

/-- A place for a cache directory: a path without two dots in a tree, with nothing but directories
on the way, and with nothing to prevent that the missing ones are created. -/
structure Place (dir : Text) (disk : Disk) : Prop where
  tree : disk.IsTree
  noUp : ['.', '.'] ∉ PathName.segments dir
  dirs : ∀ l, l <:+ disk.locationOf dir → disk.node? l = none ∨ disk.node? l = some .dir
  provided : (disk.provideDir dir).1 = .ok ()

/-- Whether a location lies below the directory. -/
def Below (dir : Text) (disk : Disk) (location : Location) : Prop :=
  disk.locationOf dir <:+ location ∧ location ≠ disk.locationOf dir

/-- What stands below the directory are the files of what is remembered, and nothing else. -/
structure Mirrors (dir : Text) (memory : Store CacheKey Text) (disk : Disk) : Prop
    extends Place dir disk where
  entries : ∀ location, Below dir disk location → ∀ node, disk.node? location = some node ↔
    ∃ request report, memory.get? (.ofRequest request) = some report ∧
      location = entryName request :: disk.locationOf dir ∧ node = .file (Text.encode report)

section

variable {dir : Text} {memory : Store CacheKey Text} {disk : Disk}

theorem below_cons (name : Text) : Below dir disk (name :: disk.locationOf dir) :=
  ⟨List.suffix_cons _ _, List.cons_ne_self _ _⟩

/-- What leads to the directory does not lie below it. -/
theorem not_below_of_suffix {location : Location} (h : location <:+ disk.locationOf dir) :
    ¬ Below dir disk location :=
  fun hbelow => hbelow.2 (h.eq_of_length_le hbelow.1.length_le)

theorem Place.noNul (h : Place dir disk) : '\x00' ∉ dir :=
  Disk.noNul_of_provideDir (Prod.ext h.provided rfl)

theorem noNul_entryFile (hnul : '\x00' ∉ dir) (request : Request) :
    '\x00' ∉ PathName.join dir (entryName request) :=
  Disk.noNul_join hnul (not_mem_entryName (by decide) (by decide) request)

theorem noNul_tempPath (hnul : '\x00' ∉ dir) (request : Request) (stamp : Stamp) :
    '\x00' ∉ PathName.join dir (partName request stamp) :=
  Disk.noNul_join hnul (not_mem_partName (by decide) (by decide) request stamp)

/-- A path is a place for a cache directory if this can be read off the entries of the disk. -/
theorem place_of_entries (hworkDir : disk.node? disk.workDir = some .dir)
    (hentries : ∀ entry ∈ disk.nodes.entries, disk.node? entry.1.tail = some .dir)
    (hnoUp : ['.', '.'] ∉ PathName.segments dir)
    (hdirs : ∀ l ∈ (disk.locationOf dir).tails, disk.node? l = none ∨ disk.node? l = some .dir)
    (hprovided : (disk.provideDir dir).1 = .ok ()) : Place dir disk where
  tree := Disk.isTree_of_entries hworkDir hentries
  noUp := hnoUp
  dirs l hl := hdirs l ((List.mem_tails _ _).2 hl)
  provided := hprovided

/-- Nothing stands below a directory if no entry does. -/
theorem node?_below_of_entries (hdir : disk.locationOf dir ≠ [])
    (hentries : ∀ entry ∈ disk.nodes.entries, ¬ disk.locationOf dir <:+ entry.1) {location : Location}
    (hbelow : Below dir disk location) : disk.node? location = none := by
  rw [Option.eq_none_iff_forall_ne_some]
  intro node hnode
  rcases Disk.mem_of_node? hnode with rfl | hmem
  · exact hdir (List.suffix_nil.1 hbelow.1)
  · exact hentries _ hmem hbelow.1

/-- A directory with nothing in it mirrors a memory with nothing in it. -/
theorem Place.mirrors_empty (h : Place dir disk)
    (hempty : ∀ location, Below dir disk location → disk.node? location = none) :
    Mirrors dir .empty disk := by
  refine ⟨h, fun location hbelow node => ?_⟩
  simp [hempty location hbelow]

/-- Requests whose files have the same name have the same key. -/
theorem ofRequest_eq_of_entryName {request other : Request}
    (h : entryName request = entryName other) :
    CacheKey.ofRequest request = CacheKey.ofRequest other :=
  congrArg CacheKey.mk (List.append_cancel_right h)

/-- What is remembered of a request stands in its file. -/
theorem Mirrors.node?_entry (h : Mirrors dir memory disk) (request : Request) :
    disk.node? (entryName request :: disk.locationOf dir)
      = (memory.get? (.ofRequest request)).map fun report => .file (Text.encode report) := by
  have hentries := h.entries _ (below_cons (entryName request))
  cases hmemory : memory.get? (.ofRequest request) with
  | some report => exact (hentries _).2 ⟨request, report, hmemory, rfl, rfl⟩
  | none =>
    rw [Option.map_none, Option.eq_none_iff_forall_ne_some]
    intro node hnode
    obtain ⟨other, report, hother, hlocation, -⟩ := (hentries node).1 hnode
    rw [ofRequest_eq_of_entryName (List.cons.inj hlocation).1, hother] at hmemory
    cases hmemory

/-- No file stands where a report is written. -/
theorem Mirrors.node?_part (h : Mirrors dir memory disk) (request : Request) (stamp : Stamp) :
    disk.node? (partName request stamp :: disk.locationOf dir) = none := by
  rw [Option.eq_none_iff_forall_ne_some]
  intro node hnode
  obtain ⟨other, -, -, hlocation, -⟩ := (h.entries _ (below_cons _) node).1 hnode
  exact partName_ne_entryName request other stamp (List.cons.inj hlocation).1

/-- What is loaded is what stands at the entry. -/
theorem load_eq_of_stat {request : Request} {found : Option Node}
    (hstat : disk.stat (entryFile dir (.ofRequest request)) = found.elim (.error .notFound) .ok) :
    load dir (.ofRequest request) disk
      = found.elim (.ok none) fun node => node.text.map some := by
  rw [load, Disk.readText_eq, hstat]
  cases found with
  | none => rfl
  | some node =>
    have hfound := Node.text_ne_notFound node
    simp only [Option.elim_some, Except.bind]
    cases htext : node.text with
    | ok report => rfl
    | error e =>
      rw [htext] at hfound
      cases e with
      | notFound => exact absurd rfl hfound
      | _ => rfl

theorem text_encode (report : Text) : (Node.file (Text.encode report)).text = .ok report :=
  Node.text_eq_ok_iff.2 (.inl rfl)

/-- A report is loaded from a directory as from memory. -/
theorem load_of_mirrors (h : Mirrors dir memory disk) (request : Request) :
    load dir (.ofRequest request) disk = .ok (memory.get? (.ofRequest request)) := by
  have hstat := Disk.stat_join h.tree h.noUp h.dirs (isName_entryName request)
    (noNul_entryFile h.noNul request)
  rw [load_eq_of_stat hstat, h.node?_entry request]
  cases memory.get? (.ofRequest request) with
  | none => rfl
  | some report => simp [text_encode, Except.map]

/-- A directory that exists is a place for a cache. -/
theorem place_of_dir (htree : disk.IsTree) (hup : ['.', '.'] ∉ PathName.segments dir)
    (hnul : '\x00' ∉ dir) (hdir : disk.node? (disk.locationOf dir) = some .dir) :
    Place dir disk where
  tree := htree
  noUp := hup
  dirs _ hl := .inr (htree.dir_of_suffix hdir hl)
  provided := by rw [Disk.provideDir_of_dir htree hup hnul hdir]

/-- The directory is created, and nothing below it. -/
theorem Mirrors.provide (h : Mirrors dir memory disk) :
    ∃ between, disk.provideDir dir = (.ok (), between) ∧ between.workDir = disk.workDir ∧
      between.node? (between.locationOf dir) = some .dir ∧ Mirrors dir memory between := by
  rcases hprovide : disk.provideDir dir with ⟨result, between⟩
  have hresult := h.provided
  have htree := h.tree.provideDir dir
  have hgrown := Disk.grows_provideDir disk dir
  rw [hprovide] at hresult htree hgrown
  obtain rfl : result = .ok () := hresult
  have hlocation := Disk.locationOf_congr hgrown.workDir dir
  have hdir : between.node? (between.locationOf dir) = some .dir := by
    rw [hlocation]
    exact Disk.node?_provideDir h.tree (h.dirs _ (List.suffix_refl _)) hprovide
  refine ⟨between, rfl, hgrown.workDir, hdir,
    place_of_dir htree h.noUp h.noNul hdir, fun l hl node => ?_⟩
  rw [Below, hlocation] at hl
  have hsame : between.node? l = disk.node? l := by
    rcases hgrown.others l id with hsame | ⟨⟨p, hp, hfresh⟩, -⟩
    · exact hsame
    · -- the new directories lead to the one of the cache
      have habove := Disk.suffix_of_mem_ancestors h.noUp p hp disk
      exact absurd hl (not_below_of_suffix (hfresh ▸ habove))
  rw [hsame, hlocation]
  exact h.entries l hl node

/-- A disk on which nothing but the file of a request has changed, and holds a report. -/
theorem Mirrors.insert {after : Disk} {request : Request} {report : Text}
    (h : Mirrors dir memory disk) (hplace : Place dir after) (hworkDir : after.workDir = disk.workDir)
    (hnode : ∀ l, after.node? l = if l = entryName request :: disk.locationOf dir
      then some (.file (Text.encode report)) else disk.node? l) :
    Mirrors dir (memory.insert (.ofRequest request) report) after := by
  have hlocation : after.locationOf dir = disk.locationOf dir := Disk.locationOf_congr hworkDir dir
  refine ⟨hplace, fun l hl node => ?_⟩
  rw [Below, hlocation] at hl
  have hentries := h.entries l hl node
  rw [hnode, hlocation]
  by_cases hlentry : l = entryName request :: disk.locationOf dir
  · -- the entry of the request has the report
    rw [if_pos hlentry, Option.some.injEq]
    constructor
    · rintro rfl
      exact ⟨request, report, Store.get?_insert_self _ _ _, hlentry, rfl⟩
    · rintro ⟨other, report', hmemory, hother, rfl⟩
      rw [hother] at hlentry
      rw [ofRequest_eq_of_entryName (List.cons.inj hlentry).1, Store.get?_insert_self] at hmemory
      rw [Option.some.inj hmemory]
  · -- the other entries are as they were
    rw [if_neg hlentry, hentries]
    refine exists_congr fun other => exists_congr fun report' => and_congr_left fun hother => ?_
    have hkey : CacheKey.ofRequest other ≠ .ofRequest request := by
      intro hkey
      refine hlentry (hother.1.trans ?_)
      rw [entryName, entryName, hkey]
    rw [Store.get?_insert, if_neg hkey]

/-- A report is stored in the directory as in memory. -/
theorem store_of_mirrors (h : Mirrors dir memory disk) (request : Request) (report : Text) :
    ∃ after, store dir (.ofRequest request) report disk = (.ok (), after) ∧
      after.workDir = disk.workDir ∧
      Mirrors dir (memory.insert (.ofRequest request) report) after := by
  obtain ⟨between, hprovide, hsame, hdir, hbetween⟩ := h.provide
  -- a file of the same key may stand there already, but no directory
  have hentry : between.tick.node? (entryName request :: between.locationOf dir) ≠ some .dir := by
    have hnode : between.tick.node? (entryName request :: between.locationOf dir) = _ :=
      hbetween.node?_entry request
    rw [hnode]
    cases memory.get? (.ofRequest request) <;> simp
  obtain ⟨written, after, hwrite, hrename, hworkDir, htree, hnode⟩ :=
    Disk.replace_join hbetween.tree.tick (Disk.leads_of_tree hbetween.tree.tick hbetween.noUp hdir)
      (isName_partName request between.stamp) (noNul_tempPath hbetween.noNul request between.stamp)
      (isName_entryName request) (noNul_entryFile hbetween.noNul request)
      (hbetween.node?_part request between.stamp) hentry (Text.encode report)
  have hstore : store dir (.ofRequest request) report disk = (.ok (), after) := by
    have hwritten : between.tick.writeText (tempPath dir (.ofRequest request) between.stamp) report
        = .ok written :=
      hwrite
    have hrenamed : written.rename (tempPath dir (.ofRequest request) between.stamp)
        (entryFile dir (.ofRequest request)) = .ok after :=
      hrename
    simp only [store, hprovide, writeEntry, hwritten, hrenamed]
  have hafterDir : after.node? (after.locationOf dir) = some .dir := by
    rw [Disk.locationOf_congr hworkDir dir, hnode]
    exact (if_neg (List.cons_ne_self _ _).symm).trans hdir
  exact ⟨after, hstore, hworkDir.trans hsame,
    hbetween.insert (place_of_dir htree hbetween.noUp hbetween.noNul hafterDir) hworkDir hnode⟩

end

/-! ## Sequences of operations -/

/-- Worlds of which one keeps in the directory what the other one remembers. -/
structure MirroredIn {τ : Type} (dir : Text) (workDir : Location) (world other : World τ) :
    Prop where
  mirrors : Mirrors dir other.memory world.disk
  workDir : world.disk.workDir = workDir
  tool : world.tool = other.tool

theorem simulates_memory {τ : Type} (dir : Text) (workDir : Location) :
    (Cache.disk dir : Cache (World τ)).Simulates (MirroredIn dir workDir) .memory where
  load := by
    intro world other h request
    simp only [Cache.disk, Cache.memory, load_of_mirrors h.mirrors request]
  store := by
    intro world other h request report
    obtain ⟨after, hstore, hworkDir, hafter⟩ := store_of_mirrors h.mirrors request report
    simp only [Cache.disk, Cache.memory, hstore]
    exact ⟨trivial, hafter, hworkDir.trans h.workDir, h.tool⟩

theorem simulates_aside {τ : Type} (dir : Text) (workDir : Location) (toolchain : Toolchain τ) :
    toolchain.aside.Simulates (MirroredIn dir workDir) toolchain.aside := by
  intro world other h request
  simp only [Toolchain.aside, h.tool]
  exact ⟨trivial, h.mirrors, h.workDir, rfl⟩

/-- In a place for a cache directory with nothing in it, the cache on disk is the one in memory:
any operations are answered alike and without a failure. Afterwards the directory has one file for
each key under which a report was stored, named after the key and with the report that was stored
last, and nothing else. If nothing was stored the disk is as it was. So pages come out alike, by
whatever toolchain. -/
theorem refines_memory {dir : Text} {disk : Disk} (hplace : Place dir disk)
    (hempty : ∀ location, Below dir disk location → disk.node? location = none) :
    (∀ operations : List Cache.Operation,
      let onDisk := (Cache.disk dir).performAll operations (World.ofDisk disk ())
      let inMemory := Cache.memory.performAll operations (World.ofDisk disk ())
      onDisk.1 = inMemory.1 ∧
      (∀ answer ∈ onDisk.1, ∃ known, answer = .ok known) ∧
      (∀ location, Below dir disk location → ∀ node,
        onDisk.2.disk.node? location = some node ↔ ∃ request report,
          Cache.lastStored (.ofRequest request) operations = some report ∧
          location = ((CacheKey.ofRequest request).text ++ ".txt".toList) :: disk.locationOf dir ∧
          node = .file (Text.encode report)) ∧
      ((∀ operation ∈ operations, operation.isLoad = true) → onDisk.2.disk = disk)) ∧
    ∀ {τ : Type} (toolchain : Toolchain τ) (tool : τ) (options : Options) (content : Text),
      let session := Session.start (World.ofDisk disk tool)
      let onDisk := weave options (.cached toolchain.aside (.disk dir)) content session
      let inMemory := weave options (.cached toolchain.aside .memory) content session
      onDisk.result = inMemory.result ∧ onDisk.warnings = inMemory.warnings ∧
      onDisk.session.stats = inMemory.session.stats ∧
      onDisk.session.world.tool = inMemory.session.world.tool ∧
      toolchainLog options toolchain.aside (.disk dir) content session
        = toolchainLog options toolchain.aside .memory content session := by
  have hstart : Mirrors dir .empty disk := hplace.mirrors_empty hempty
  have hmemory (τ : Type) :
      (Cache.disk dir : Cache (World τ)).Simulates (MirroredIn dir disk.workDir) .memory :=
    simulates_memory dir disk.workDir
  constructor
  · intro operations onDisk inMemory
    have hworld : MirroredIn dir disk.workDir (World.ofDisk disk ()) (World.ofDisk disk ()) :=
      ⟨hstart, rfl, rfl⟩
    obtain ⟨hanswers, hafter⟩ := simulates_performAll (hmemory Unit) operations hworld
    obtain ⟨hknown, hstored⟩ := performAll_memory operations (World.ofDisk disk ())
    have hlocation : onDisk.2.disk.locationOf dir = disk.locationOf dir :=
      Disk.locationOf_congr hafter.workDir dir
    refine ⟨hanswers, ?_, ?_, ?_⟩
    · rw [hanswers]
      exact hknown
    · intro location hbelow node
      rw [Below, ← hlocation] at hbelow
      rw [hafter.mirrors.entries location hbelow node, hlocation]
      refine exists_congr fun request => exists_congr fun report => and_congr_left fun _ => ?_
      rw [hstored, World.ofDisk, Store.get?_empty]
      cases Cache.lastStored (.ofRequest request) operations <;> exact Iff.rfl
    · intro hloads
      rw [Cache.performAll_of_isLoad (.disk dir) hloads]
      rfl
  · intro τ toolchain tool options content session onDisk inMemory
    have hsession : session.Related (MirroredIn dir disk.workDir) session :=
      ⟨⟨hstart, rfl, rfl⟩, rfl⟩
    have htoolchain : toolchain.aside.Simulates (MirroredIn dir disk.workDir) toolchain.aside :=
      simulates_aside dir disk.workDir toolchain
    obtain ⟨hresult, hwarnings, hend⟩ :=
      simulates_weave htoolchain (hmemory τ) hsession options content
    exact ⟨hresult, hwarnings, hend.stats, hend.world.tool,
      simulates_toolchainLog htoolchain (hmemory τ) hsession options content⟩

/-- A disk with a directory that holds a source and has no cache yet. -/
def bookDisk : Disk :=
  (Disk.blank ["w".toList]).plantAt "book/a.z.md".toList (.file ByteArray.empty)

/-- Two reports for one program, and an empty one for another. -/
def twiceStored : List Cache.Operation :=
  [.load ⟨.run, "a".toList⟩, .store ⟨.run, "a".toList⟩ "1\n".toList, .store ⟨.test, "a".toList⟩ [],
    .store ⟨.run, "a".toList⟩ "2\n".toList, .load ⟨.run, "a".toList⟩]

/-- The cache directory is created two levels deep. The second report of the first program is found
in it. -/
theorem refines_memory_twiceStored :
    let dir := "book/cache/reports".toList
    Place dir bookDisk ∧
      ((Cache.disk dir).performAll twiceStored (World.ofDisk bookDisk ())).1
        = [.ok none, .ok none, .ok none, .ok none, .ok (some "2\n".toList)] ∧
      ((Cache.disk dir).performAll twiceStored (World.ofDisk bookDisk ())).2.disk.node?
          (((CacheKey.ofRequest ⟨.test, "a".toList⟩).text ++ ".txt".toList)
            :: ["reports".toList, "cache".toList, "book".toList, "w".toList])
        = some (.file ByteArray.empty) := by
  intro dir
  have hlocation : bookDisk.locationOf dir
      = ["reports".toList, "cache".toList, "book".toList, "w".toList] := by
    decide +kernel
  have hplace : Place dir bookDisk :=
    place_of_entries (by decide +kernel) (by decide +kernel) (by decide +kernel) (by decide +kernel)
      (by decide +kernel)
  have hempty : ∀ location, Below dir bookDisk location → bookDisk.node? location = none :=
    fun location => node?_below_of_entries (by simp [hlocation]) (by decide +kernel)
  obtain ⟨hanswers, -, hfiles, -⟩ := (refines_memory hplace hempty).1 twiceStored
  refine ⟨hplace, hanswers.trans ?_, ?_⟩
  · decide +kernel
  · refine (hfiles _ ?_ _).2 ⟨⟨.test, "a".toList⟩, [], ?_, by rw [hlocation], rfl⟩
    · rw [← hlocation]
      exact below_cons _
    · decide +kernel

end DiskCache

end Weave
