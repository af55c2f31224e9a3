import Weave.Proofs.Entries
import Weave.Proofs.Interleaving

/-!
# Weave.Proofs.AtomicStore — a store does all of its work or none

A store writes to a file of its own that is then moved to the entry, and removed again if it cannot be
moved there. Whatever tree it begins with, it ends with the entry or without a trace: no regular file
is lost, and none is left behind.

1. **Paths**: a path that goes on behind a regular file leads nowhere (`stat_of_behindFile`), and one
   to a name in a directory leads through that directory (`leads_of_locate_join`).
2. **Loads** tell a missing entry from one that cannot be read (`load_eq_stat`,
   `load_eq_none_iff`).
3. **Stores** succeed where the directory can be provided and no directory is in the way
   (`store_eq_ok_iff`). Else they leave nothing (`TidiedUp`, `tidiedUp_store`).
4. `store_atomic` puts them together.
-/

namespace Weave

/-! ## Paths -/

namespace Disk

open PathName

variable {disk disk' : Disk}

/-- Whatever follows a slash asks for one more step at least. -/
theorem exists_moves_append (above rest : Text) :
    ∃ m ms, moves (above ++ '/' :: rest) = steps above ++ m :: ms := by
  have hsteps : steps (above ++ '/' :: rest) = steps above ++ steps rest := by
    rw [steps, segments_append_slash, List.filter_append, List.map_append, steps, steps]
  have hmoves : moves (above ++ '/' :: rest) = steps above ++ steps rest ++
      if (above ++ '/' :: rest).getLast? = some '/' then [.here] else [] := by
    rw [← hsteps, moves, steps]
    split <;> simp
  rw [hmoves, List.append_assoc]
  suffices hmore : steps rest ++ (if (above ++ '/' :: rest).getLast? = some '/' then [.here] else [])
      ≠ ([] : List Move) by
    obtain ⟨m, ms, hms⟩ := List.exists_cons_of_ne_nil hmore
    exact ⟨m, ms, by rw [hms]⟩
  rcases List.eq_nil_or_concat rest with rfl | ⟨front, c, rfl⟩
  · simp
  · by_cases hc : c = '/'
    · simp [hc, List.getLast?_cons]
    · -- the last character makes a segment
      have hmem : c ∈ front.concat c := by simp
      obtain ⟨s, hs, hcs⟩ := (mem_iff_mem_segments hc).1 hmem
      have hkept : s ∈ (segments (front.concat c)).filter (· ≠ []) := by
        exact List.mem_filter.2 ⟨hs, by simpa using List.ne_nil_of_mem hcs⟩
      exact List.append_ne_nil_of_left_ne_nil
        (List.ne_nil_of_mem (List.mem_map_of_mem hkept)) _

/-- A path goes on behind a regular file. -/
def BehindFile (disk : Disk) (path : Text) : Prop :=
  ∃ above rest bytes, path = above ++ '/' :: rest ∧ disk.stat above = .ok (.file bytes)

/-- Nothing stands there, and it is not that something is missing. -/
theorem stat_of_behindFile {path : Text} (h : disk.BehindFile path) (hnul : '\x00' ∉ path) :
    disk.stat path = .error .notADirectory := by
  obtain ⟨above, rest, bytes, rfl, hstat⟩ := h
  obtain ⟨hlocate, hnode⟩ := node?_of_stat hstat
  have hne : above ≠ [] := by
    rintro rfl
    cases hlocate
  have horigin : disk.origin (above ++ '/' :: rest) = disk.origin above := by
    rw [origin, origin, isAbsolute_append hne]
  obtain ⟨m, ms, hmoves⟩ := exists_moves_append above rest
  have hstop : disk.walk (disk.locationOf above) (m :: ms) = .error .notADirectory := by
    simp only [walk, checkDir, hnode]
  rw [stat, locate, checkName_eq_ok hnul (by simp), hmoves, horigin]
  simp only [bind, Except.bind, walk_append (walk_steps_of_locate hlocate), hstop]

theorem BehindFile.grows {fresh : Location → Prop} (hgrown : Grows fresh Nowhere disk disk')
    {path : Text} (h : disk.BehindFile path) : disk'.BehindFile path := by
  obtain ⟨above, rest, bytes, hpath, hstat⟩ := h
  exact ⟨above, rest, bytes, hpath, hgrown.stat hstat id⟩

/-- Where no device was, none comes. -/
theorem Grows.ne_sink {fresh : Location → Prop} (h : Grows fresh Nowhere disk disk')
    {location : Location} (hclear : disk.node? location ≠ some .sink) :
    disk'.node? location ≠ some .sink := by
  rcases h.others location id with hsame | ⟨-, -, hdir⟩
  · rwa [hsame]
  · simp [hdir]

/-- A path to a name in a directory leads through that directory. -/
theorem leads_of_locate_join {dir name : Text} (hname : IsName name) {location : Location}
    (h : disk.locate (join dir name) = .ok location) : disk.Leads dir := by
  have hwalk := walk_steps_of_locate h
  rw [origin_join hname, steps_join hname] at hwalk
  obtain ⟨between, hdir, hlast⟩ := walk_of_append hwalk
  obtain rfl : between = disk.locationOf dir := by
    rw [locationOf_eq_foldl_steps]
    exact walk_eq hdir
  refine ⟨hdir, ?_⟩
  rw [walk] at hlast
  split at hlast
  · next hcheck => exact checkDir_eq_ok_iff.1 hcheck
  · cases hlast

end Disk

namespace DiskCache

open Disk

variable {dir : Text} {disk : Disk} {request : Request}

/-! ## Loads -/

/-- What is loaded is told by what stands at the entry. -/
theorem load_eq_stat (dir : Text) (key : CacheKey) (disk : Disk) :
    load dir key disk = match disk.stat (entryFile dir key) with
      | .ok node => node.text.map some
      | .error .notFound => .ok none
      | .error e => .error e := by
  rw [load, readText_eq]
  cases disk.stat (entryFile dir key) with
  | error e => cases e <;> rfl
  | ok node =>
    have hfound := node.text_ne_notFound
    simp only [Except.bind]
    cases htext : node.text with
    | ok report => rfl
    | error e =>
      rw [htext] at hfound
      cases e with
      | notFound => exact absurd rfl hfound
      | _ => rfl

/-- Nothing is found only if nothing is there. -/
theorem load_eq_none_iff {key : CacheKey} :
    load dir key disk = .ok none ↔ disk.stat (entryFile dir key) = .error .notFound := by
  rw [load_eq_stat]
  cases disk.stat (entryFile dir key) with
  | error e => cases e <;> simp
  | ok node => cases htext : node.text <;> simp [Except.map, htext]

/-! ## Stores -/

/-- A report that is written leaves its entry, or nothing if it cannot be moved there. -/
theorem tidiedUp_writeEntry (dir : Text) (request : Request) (report : Text) (disk : Disk) :
    let key := CacheKey.ofRequest request
    let outcome := writeEntry dir key report disk
    disk.TidiedUp (disk.locationOf (tempPath dir key disk.stamp))
      (fun l => outcome.1 = .ok () ∧ l = disk.locationOf (entryFile dir key)) outcome.2 := by
  intro key
  have hticked : disk.ModifiesOnly Nowhere disk.tick := ⟨rfl, fun _ _ => rfl⟩
  simp only [writeEntry]
  cases hwrite : disk.tick.writeText (tempPath dir key disk.stamp) report with
  | error e => exact hticked.of_nowhere.tidiedUp
  | ok written =>
    simp only
    cases hrename : written.rename (tempPath dir key disk.stamp) (entryFile dir key) with
    | error e => exact .of_nowhere hticked ((tidiedUp_discard hwrite).mono fun _ => False.elim)
    | ok renamed =>
      exact .of_nowhere hticked ((tidiedUp_move hwrite hrename).mono fun _ hl => ⟨rfl, hl⟩)

/-- The directory is provided first. -/
theorem store_cases_provideDir (dir : Text) (key : CacheKey) (report : Text) (disk : Disk) :
    (∃ e between, disk.provideDir dir = (.error e, between) ∧
      store dir key report disk = (.error e, between)) ∨
    ∃ between, disk.provideDir dir = (.ok (), between) ∧ between.stamp = disk.stamp ∧
      store dir key report disk = writeEntry dir key report between := by
  have hstamp : (disk.provideDir dir).2.stamp = disk.stamp := by
    rw [provideDir]
    split
    · rfl
    · exact stamp_createDirs disk dir
  rcases hprovide : disk.provideDir dir with ⟨e | ⟨⟨⟩⟩, between⟩
  · exact .inl ⟨e, between, rfl, by rw [store, hprovide]⟩
  · rw [hprovide] at hstamp
    exact .inr ⟨between, rfl, hstamp, by rw [store, hprovide]⟩

/-- Whatever comes of a store, no regular file has changed but the entry, and that only if the store
succeeds. -/
theorem tidiedUp_store (dir : Text) (request : Request) (report : Text) (disk : Disk) :
    let key := CacheKey.ofRequest request
    let outcome := store dir key report disk
    disk.TidiedUp (disk.locationOf (tempPath dir key disk.stamp))
      (fun l => outcome.1 = .ok () ∧ l = disk.locationOf (entryFile dir key)) outcome.2 := by
  intro key outcome
  have hprovided := (grows_provideDir disk dir).modifiesOnly
  rcases store_cases_provideDir dir key report disk
    with ⟨e, between, hprovide, hstore⟩ | ⟨between, hprovide, hstamp, hstore⟩ <;>
    rw [hprovide] at hprovided
  · simp only [outcome, hstore]
    exact hprovided.of_nowhere.tidiedUp
  · have hwritten := tidiedUp_writeEntry dir request report between
    simp only [hstamp, locationOf_congr hprovided.workDir] at hwritten
    simp only [outcome, hstore]
    exact .of_nowhere hprovided hwritten

/-- A report is written below a directory, if no other one and no device is in the way. -/
theorem writeEntry_of_leads (hleads : disk.Leads dir) (hnul : '\x00' ∉ dir)
    (hpart : disk.node? (disk.locationOf (tempPath dir (.ofRequest request) disk.stamp)) ≠ some .dir)
    (hclear : disk.node? (disk.locationOf (tempPath dir (.ofRequest request) disk.stamp))
      ≠ some .sink)
    (hentry : disk.node? (disk.locationOf (entryFile dir (.ofRequest request))) ≠ some .dir)
    (report : Text) : (writeEntry dir (.ofRequest request) report disk).1 = .ok () := by
  rw [locationOf_tempPath] at hpart hclear
  rw [locationOf_entryFile] at hentry
  -- the file beside the entry is written and then moved, and nothing is in the way of either
  let part := partName request disk.stamp :: disk.locationOf dir
  have hticked : disk.tick.Leads dir :=
    have hgrown : Grows Nowhere Nowhere disk disk.tick := grows_tick disk
    hleads.grows hgrown
  have hfile : disk.tick.node? part = none ∨ ∃ old, disk.tick.node? part = some (.file old) := by
    change disk.node? part = none ∨ ∃ old, disk.node? part = some (.file old)
    cases hnode : disk.node? part with
    | none => exact .inl rfl
    | some node =>
      cases node with
      | dir => exact absurd hnode hpart
      | file old => exact .inr ⟨old, rfl⟩
      | sink => exact absurd hnode hclear
  have hwrite := write_join hticked (isName_partName request disk.stamp)
    (noNul_tempPath hnul request disk.stamp) hfile (Text.encode report)
  let written := disk.tick.put part (.file (Text.encode report))
  have hwritten : ∀ l, written.node? l
      = if l = part then some (.file (Text.encode report)) else disk.node? l :=
    fun l => node?_put disk.tick l _ (List.cons_ne_nil _ _)
  have hgrown : Grows Nowhere _ disk.tick written := grows_write hwrite
  have htarget : written.node? (entryName request :: disk.locationOf dir) ≠ some .dir := by
    rw [hwritten]
    split
    · simp
    · exact hentry
  have hrename := rename_join (hticked.grows hgrown) (isName_partName request disk.stamp)
    (noNul_tempPath hnul request disk.stamp) (isName_entryName request)
    (noNul_entryFile hnul request) ((hwritten part).trans (if_pos rfl)) htarget
  have hwrite' : disk.tick.writeText (tempPath dir (.ofRequest request) disk.stamp) report
      = .ok written :=
    hwrite
  have hrename' : written.rename (tempPath dir (.ofRequest request) disk.stamp)
      (entryFile dir (.ofRequest request)) = .ok _ :=
    hrename
  simp only [writeEntry, hwrite', hrename']

/-- What has to be there for that. -/
theorem leads_of_writeEntry
    (hclear : disk.node? (disk.locationOf (tempPath dir (.ofRequest request) disk.stamp))
      ≠ some .sink) {report : Text} (h : (writeEntry dir (.ofRequest request) report disk).1 = .ok ()) :
    disk.Leads dir ∧
      disk.node? (disk.locationOf (tempPath dir (.ofRequest request) disk.stamp)) ≠ some .dir ∧
      disk.node? (disk.locationOf (entryFile dir (.ofRequest request))) ≠ some .dir := by
  let temp := tempPath dir (.ofRequest request) disk.stamp
  let entry := entryFile dir (.ofRequest request)
  have hback : Grows Nowhere Nowhere disk.tick disk := grows_clock disk.tick disk.clock
  simp only [writeEntry] at h
  cases hwrite : disk.tick.writeText temp report with
  | error e => simp [temp, hwrite] at h
  | ok written =>
    cases hrename : written.rename temp entry with
    | error e => simp [temp, entry, hwrite, hrename] at h
    | ok renamed =>
      have hwritten : Grows Nowhere _ disk.tick written := grows_write hwrite
      obtain ⟨hlocate, -, hfree⟩ := write_cases hwrite
      obtain ⟨-, -, htarget, -⟩ := rename_cases hrename
      have hleads : disk.tick.Leads dir :=
        leads_of_locate_join (isName_partName request disk.stamp) hlocate
      refine ⟨hleads.grows hback, hfree.elim (fun hsink => absurd hsink.1 hclear) And.left, ?_⟩
      -- a directory would still be there
      rw [locationOf_congr hwritten.workDir] at htarget
      exact fun hdir => htarget (hwritten.dirs _ hdir)

section

variable (hclear : disk.node? (disk.locationOf (tempPath dir (.ofRequest request) disk.stamp))
  ≠ some .sink) (report : Text)

include hclear

/-- A store succeeds if its directory is provided, and no directory is in the way. -/
theorem store_eq_ok_iff :
    (store dir (.ofRequest request) report disk).1 = .ok () ↔
      ∃ between, disk.provideDir dir = (.ok (), between) ∧ between.Leads dir ∧
        between.node? (disk.locationOf (tempPath dir (.ofRequest request) disk.stamp)) ≠ some .dir ∧
        between.node? (disk.locationOf (entryFile dir (.ofRequest request))) ≠ some .dir := by
  have hprovided := grows_provideDir disk dir
  rcases store_cases_provideDir dir (.ofRequest request) report disk
    with ⟨e, between, hprovide, hstore⟩ | ⟨between, hprovide, hstamp, hstore⟩
  · simp [hstore, hprovide]
  · rw [hprovide] at hprovided
    have hbetween := hprovided.ne_sink hclear
    have hnul := noNul_of_provideDir hprovide
    have hlocation := locationOf_congr hprovided.workDir
    rw [← hstamp, ← hlocation] at hbetween
    rw [hstore, ← hstamp, ← hlocation, ← hlocation]
    constructor
    · intro h
      exact ⟨between, hprovide, leads_of_writeEntry hbetween h⟩
    · rintro ⟨other, hother, hleads, hpart, hentry⟩
      obtain rfl : between = other := congrArg Prod.snd (hprovide.symm.trans hother)
      exact writeEntry_of_leads hleads hnul hpart hbetween hentry report

/-- The report stands at the entry afterwards. -/
theorem stat_store (h : (store dir (.ofRequest request) report disk).1 = .ok ()) :
    (store dir (.ofRequest request) report disk).2.stat (entryFile dir (.ofRequest request))
      = .ok (.file (Text.encode report)) := by
  have hprovided := grows_provideDir disk dir
  rcases store_cases_provideDir dir (.ofRequest request) report disk
    with ⟨e, between, hprovide, hstore⟩ | ⟨between, hprovide, hstamp, hstore⟩
  · rw [hstore] at h
    cases h
  · rw [hprovide] at hprovided
    have hbetween := hprovided.ne_sink hclear
    rw [← hstamp, ← locationOf_congr hprovided.workDir] at hbetween
    obtain ⟨result, after, hwrite, -, hstat⟩ := writeEntry_cases hbetween report
    rw [hstore, hwrite] at h ⊢
    exact hstat h

/-- No store succeeds where a directory stands at the entry, or the entry lies behind a regular
file. -/
theorem store_ne_ok
    (h : disk.stat (entryFile dir (.ofRequest request)) = .ok .dir ∨
      disk.BehindFile (entryFile dir (.ofRequest request))) :
    (store dir (.ofRequest request) report disk).1 ≠ .ok () := by
  intro hok
  obtain ⟨between, hprovide, hleads, -, hentry⟩ := (store_eq_ok_iff hclear report).1 hok
  have hprovided := grows_provideDir disk dir
  rw [hprovide] at hprovided
  rcases h with hdir | hbehind
  · exact hentry (hprovided.dirs _ (node?_of_stat hdir).2)
  · have hnul := noNul_entryFile (noNul_of_provideDir hprovide) request
    have hfound := stat_of_leads hleads (isName_entryName request) hnul
    have hstat : between.stat (PathName.join dir (entryName request)) = .error .notADirectory :=
      stat_of_behindFile (hbehind.grows hprovided) hnul
    rw [hstat] at hfound
    cases hnode : between.node? (entryName request :: between.locationOf dir) <;>
      simp [hnode] at hfound

end

/-- Stores and loads on any tree. If no device has the name of the file that a report is written to,
then a store that succeeds leaves the report at the entry, where it is loaded again, and a store that
fails leaves no trace of the report: no regular file is created, changed or removed but the entry, and
that only by success. An old file with the very name of the one that is written may go. A store fails
if a directory stands at the entry, or the entry lies behind a regular file. A load changes nothing. It
finds nothing only where nothing is, and fails on what is no text. -/
theorem store_atomic (hclear : disk.node?
      (disk.locationOf (tempPath dir (.ofRequest request) disk.stamp)) ≠ some .sink)
    (report : Text) :
    let key := CacheKey.ofRequest request
    let entry := entryFile dir key
    let aside := disk.locationOf (tempPath dir key disk.stamp)
    let result := (store dir key report disk).1
    let after := (store dir key report disk).2
    (result = .ok () →
      after.stat entry = .ok (.file (Text.encode report)) ∧
      load dir key after = .ok (some report) ∧
      disk.TidiedUp aside (· = disk.locationOf entry) after ∧
      (disk.file? aside = none → disk.ModifiesOnly (· = disk.locationOf entry) after)) ∧
    (∀ e, result = .error e →
      disk.TidiedUp aside Nowhere after ∧
      (disk.file? aside = none → disk.ModifiesOnly Nowhere after)) ∧
    (result = .ok () ↔ ∃ between, disk.provideDir dir = (.ok (), between) ∧ between.Leads dir ∧
      between.node? aside ≠ some .dir ∧ between.node? (disk.locationOf entry) ≠ some .dir) ∧
    (disk.stat entry = .ok .dir ∨ disk.BehindFile entry → result ≠ .ok ()) ∧
    (∀ operations, (∀ operation ∈ operations, Cache.Operation.isLoad operation = true) →
      ((Cache.disk dir).performAll operations (World.ofDisk disk ())).2.disk = disk) ∧
    (load dir key disk = .ok none ↔ disk.stat entry = .error .notFound) ∧
    (disk.stat entry = .ok .dir → load dir key disk = .error .isADirectory) ∧
    (disk.BehindFile entry → '\x00' ∉ entry → load dir key disk = .error .notADirectory) ∧
    ∀ bytes, disk.stat entry = .ok (.file bytes) → Text.decode? bytes = none →
      load dir key disk = .error .invalidData := by
  intro key entry aside result after
  have htidied : disk.TidiedUp aside (fun l => result = .ok () ∧ l = disk.locationOf entry) after :=
    tidiedUp_store dir request report disk
  refine ⟨?_, ?_, store_eq_ok_iff hclear report, store_ne_ok hclear report, ?_, load_eq_none_iff,
    ?_, ?_, ?_⟩
  · intro hok
    have hstat : after.stat entry = .ok (.file (Text.encode report)) := stat_store hclear report hok
    have hdone : disk.TidiedUp aside (· = disk.locationOf entry) after :=
      htidied.mono fun _ => And.right
    refine ⟨hstat, ?_, hdone, hdone.modifiesOnly⟩
    rw [load_eq_some_iff, readText_eq_ok_iff]
    exact ⟨_, hstat, text_encode report⟩
  -- the entry is touched by a store that succeeds, and by no other
  · intro e herror
    have hundone : disk.TidiedUp aside Nowhere after :=
      htidied.mono fun l hl => by cases herror.symm.trans hl.1
    exact ⟨hundone, hundone.modifiesOnly⟩
  · intro operations hloads
    rw [Cache.performAll_of_isLoad _ hloads]
    rfl
  · intro hdir
    rw [load_eq_stat, hdir]
    rfl
  · intro hbehind hnul
    rw [load_eq_stat, stat_of_behindFile hbehind hnul]
  · intro bytes hstat hdecode
    rw [load_eq_stat, hstat]
    simp only [Node.text, hdecode]
    rfl

/-- A disk with a directory where the report of a program would be. -/
def blockedDisk : Disk :=
  (Disk.blank ["w".toList]).plantAt (entryFile "cache".toList (.ofRequest ⟨.run, "a".toList⟩)) .dir

/-- The report of that program cannot be stored, and is gone without a trace. Another one is stored in
the same directory. -/
theorem store_atomic_blocked :
    let dir := "cache".toList
    let blocked : Request := ⟨.run, "a".toList⟩
    let other : Request := ⟨.test, "a".toList⟩
    let failed := store dir (.ofRequest blocked) "1\n".toList blockedDisk
    let stored := store dir (.ofRequest other) "1\n".toList blockedDisk
    failed.1 = .error .isADirectory ∧ blockedDisk.ModifiesOnly Nowhere failed.2 ∧
      load dir (.ofRequest blocked) blockedDisk = .error .isADirectory ∧
      stored.1 = .ok () ∧ load dir (.ofRequest other) stored.2 = .ok (some "1\n".toList) := by
  intro dir blocked other failed stored
  have hclear : ∀ request ∈ [blocked, other], blockedDisk.node?
      (blockedDisk.locationOf (tempPath dir (.ofRequest request) blockedDisk.stamp)) = none := by
    decide +kernel
  have hends : failed.1 = .error .isADirectory ∧ stored.1 = .ok () ∧
      blockedDisk.stat (entryFile dir (.ofRequest blocked)) = .ok .dir := by
    decide +kernel
  obtain ⟨hfailed, hstored, hentry⟩ := hends
  have hblocked := hclear blocked (by simp)
  have hother := hclear other (by simp)
  obtain ⟨-, hfailure, -, -, -, -, hload, -⟩ :=
    store_atomic (by rw [hblocked]; simp) "1\n".toList
  obtain ⟨hsuccess, -⟩ := store_atomic (by rw [hother]; simp) "1\n".toList
  exact ⟨hfailed, (hfailure _ hfailed).2 (by rw [file?, hblocked]; rfl), hload hentry, hstored,
    (hsuccess hstored).2.1⟩

end DiskCache

end Weave
