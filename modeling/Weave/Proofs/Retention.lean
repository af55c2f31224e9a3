import Weave.Process
import Weave.Proofs.CacheDirectory
import Weave.Proofs.Replay

/-!
# Weave.Proofs.Retention — a cache directory remembers what was answered

A program that runs a request is given the source in a file of its own, which is removed when the
program ends. So a toolchain changes nothing where its program changes nothing, and if that is where
a cache directory lies, then the reports in it stay: a page that is rendered leaves every answer
behind under its key, whatever stood in the directory before.

1. **Programs**: what a program spares is spared by its toolchain (`grows_run`), which runs nothing
   unless it starts the program in a directory (`run_ne_ok`).
2. **Reports**: a report that is stored can be loaded (`store_cases`), and every other one that was
   known can still be loaded (`load_of_store`).
3. **Requests**: a runner with a cache directory `Remembers` what it answered (`remembers_disk`).
4. **Pages**: a page that is rendered leaves its answers in the cache (`knows_weave`). Rendered or
   not, it changes nothing that its program spares but the files of the cache (`grows_weave`).
-/

namespace Weave

namespace Disk

/-- The scope in which everything is. -/
abbrev Anywhere : Location → Prop :=
  fun _ => True

end Disk

/-! ## Programs -/

/-- Wherever it is started, a program removes no directory and changes nothing at the locations that
it spares, but that directories may come there. -/
def Programs.Spares (programs : Programs) (program : Text) (spared : Location → Prop) : Prop :=
  ∀ args disk finished, programs program args disk = .ok finished →
    disk.Grows Disk.Anywhere (fun l => ¬ spared l) { finished.disk with workDir := disk.workDir }

namespace Process

open Disk

variable {disk : Disk}

/-! ### A file that is put aside -/

/-- What is no directory is discarded where its path leads. -/
theorem discard_of_node {path : Text} {node : Node}
    (hlocate : disk.locate path = .ok (disk.locationOf path))
    (hnode : disk.node? (disk.locationOf path) = some node) (hdir : node ≠ .dir) :
    discard disk path = disk.drop (disk.locationOf path) := by
  have hremove : disk.remove path = .ok (disk.drop (disk.locationOf path)) := by
    rw [remove, hlocate]
    simp only [bind, Except.bind, hnode]
    cases node with
    | dir => exact absurd rfl hdir
    | file bytes => rfl
    | sink => rfl
  rw [discard, hremove]
  rfl

theorem grows_discard {fresh : Location → Prop} (disk : Disk) (path : Text) :
    disk.Grows fresh (· = disk.locationOf path) (discard disk path) := by
  unfold discard
  cases hremove : disk.remove path with
  | error e => exact .refl disk
  | ok removed => exact grows_remove hremove

/-- A new file that is discarded again is gone, so that nothing but the changes in between is
left. -/
theorem grows_aside {scope : Location → Prop} {path : Text} {bytes : ByteArray}
    {written after : Disk} (hnew : disk.node? (disk.locationOf path) = none)
    (hwrite : disk.write path bytes = .ok written) (hgrown : written.Grows Anywhere scope after) :
    disk.Grows Anywhere scope (discard after path) := by
  obtain ⟨hlocate, hne, ⟨hsink, -⟩ | ⟨hdir, hput⟩⟩ := write_cases hwrite
  · rw [hnew] at hsink
    cases hsink
  · have hwritten : disk.Grows Anywhere (· = disk.locationOf path) written := grows_write hwrite
    have hlocation : after.locationOf path = disk.locationOf path :=
      locationOf_congr (hgrown.workDir.trans hwritten.workDir) path
    have hdiscarded : after.Grows Nowhere _ (discard after path) := grows_discard after path
    rw [hlocation] at hdiscarded
    refine ⟨hdiscarded.workDir.trans (hgrown.workDir.trans hwritten.workDir), ?_, ?_⟩
    · intro l hl
      exact hdiscarded.dirs l (hgrown.dirs l (hwritten.dirs l hl))
    · intro l hout
      by_cases hl : l = disk.locationOf path
      · -- the file is spared, so it is still there to be removed
        subst hl
        have hfile : written.node? (disk.locationOf path) = some (.file bytes) := by
          rw [hput, node?_put disk _ _ hne, if_pos rfl]
        have hkept := hgrown.node? hfile hout
        have hdropped := discard_of_node (hlocation ▸ hgrown.locate (hwritten.locate hlocate))
          (hlocation ▸ hkept) (by simp)
        rw [hdropped, hlocation, node?_drop after _ hne, if_pos rfl, hnew]
        exact .inl rfl
      · have hlast : (discard after path).node? l = after.node? l :=
          (hdiscarded.others l hl).resolve_right fun h => h.1
        have hfirst : written.node? l = disk.node? l := by
          rw [hput, node?_put disk l _ hne, if_neg hl]
        rw [hlast, ← hfirst]
        exact hgrown.others l hout

/-! ### Source files -/

/-- All that changes when a path is looked for is the number that is given out next. -/
theorem exists_clock_freshPath (dir extension : Text) (fuel : Nat) (disk : Disk) :
    ∃ number, (freshPath disk dir extension fuel).2 = { disk with clock := number } := by
  induction fuel generalizing disk with
  | zero => exact ⟨disk.clock, rfl⟩
  | succ fuel ih =>
    simp only [freshPath]
    split
    · obtain ⟨number, hnumber⟩ := ih disk.tick
      exact ⟨number, hnumber⟩
    · exact ⟨disk.clock + 1, rfl⟩

/-- A path for a new file leads to nothing. -/
theorem pathExists_freshPath {dir extension path : Text} {fuel : Nat} {after : Disk}
    (h : freshPath disk dir extension fuel = (.ok path, after)) : after.pathExists path = false := by
  induction fuel generalizing disk with
  | zero => cases h
  | succ fuel ih =>
    simp only [freshPath] at h
    split at h
    · exact ih h
    · next hexists =>
      obtain ⟨hpath, rfl⟩ := Prod.mk.inj h
      obtain rfl := Except.ok.inj hpath
      have hback : disk.tick.Grows Nowhere Nowhere disk := grows_clock disk.tick disk.clock
      rw [Bool.eq_false_iff]
      intro hticked
      obtain ⟨node, hstat⟩ := exists_ok_of_isOk hticked
      rw [pathExists, hback.stat hstat id] at hexists
      exact hexists rfl

/-- How a source is written: to a new file, after the directory for it was provided. If no directory
is configured for it then nothing else is created. -/
theorem writeSource_cases (settings : ToolSettings) (root body : Text) (disk : Disk) :
    (∃ e after, writeSource settings root body disk = (.error e, after) ∧
      disk.Grows Anywhere Nowhere after) ∨
    ∃ path before after, writeSource settings root body disk = (.ok path, after) ∧
      disk.Grows Anywhere Nowhere before ∧
      (settings.scratchDir = none → ∃ number, before = { disk with clock := number }) ∧
      before.node? (before.locationOf path) = none ∧ before.writeText path body = .ok after := by
  have hprepared : disk.Grows Anywhere Nowhere
        (prepareDir disk (settings.scratchDir.map (PathName.join root))).2 ∧
      (settings.scratchDir = none →
        (prepareDir disk (settings.scratchDir.map (PathName.join root))).2 = disk) := by
    cases settings.scratchDir with
    | none => exact ⟨.refl disk, fun _ => rfl⟩
    | some dir =>
      exact ⟨(grows_provideDir disk _).mono (fun _ _ => trivial) fun _ => id, fun h => by cases h⟩
  simp only [writeSource]
  -- the directory is provided, a name is found, and the file is written: each step may fail
  rcases hprepare : prepareDir disk (settings.scratchDir.map (PathName.join root))
    with ⟨e | _, prepared⟩ <;> rw [hprepare] at hprepared <;> simp only at hprepared
  · exact .inl ⟨e, prepared, rfl, hprepared.1⟩
  · simp only
    generalize absolute prepared ((settings.scratchDir.map (PathName.join root)).getD systemTemp)
      = dir
    obtain ⟨number, hnumber⟩ :=
      exists_clock_freshPath dir settings.extension stampCount prepared
    have hnumbered : disk.Grows Anywhere Nowhere { prepared with clock := number } :=
      hprepared.1.trans (grows_clock prepared number)
    rcases hfresh : freshPath prepared dir settings.extension stampCount
      with ⟨e | path, before⟩ <;> rw [hfresh] at hnumber <;> simp only at hnumber ⊢
    · exact .inl ⟨e, before, rfl, hnumber ▸ hnumbered⟩
    · cases hwrite : before.writeText path body with
      | error e => exact .inl ⟨e, before, rfl, hnumber ▸ hnumbered⟩
      | ok after =>
        refine .inr ⟨path, before, after, rfl, hnumber ▸ hnumbered, fun hnone => ⟨number, ?_⟩, ?_,
          hwrite⟩
        · rw [hnumber, hprepared.2 hnone]
        · have hexists := pathExists_freshPath hfresh
          rw [Option.eq_none_iff_forall_ne_some]
          intro node hnode
          rw [pathExists, stat_of_locate (write_cases hwrite).1 hnode] at hexists
          cases hexists

/-! ### Runs -/

/-- How a program is started: in a directory. -/
theorem start_cases {programs : Programs} {root program : Text} {args : List Text}
    {finished : Finished} (h : start programs root program args disk = .ok finished) :
    ∃ location left, startDir disk root = .ok location ∧
      programs program args { disk with workDir := location } = .ok left ∧
      finished = { left with disk := { left.disk with workDir := disk.workDir } } := by
  simp only [start] at h
  split at h
  · cases h
  · obtain ⟨location, hdir, h⟩ := ok_of_bind h
    obtain ⟨left, hleft, h⟩ := ok_of_bind h
    exact ⟨location, left, hdir, hleft, (Except.ok.inj h).symm⟩

/-- A run changes nothing where its program changes nothing: the source is put aside. -/
theorem grows_run {programs : Programs} {settings : ToolSettings} {spared : Location → Prop}
    (hspares : programs.Spares settings.program spared) (root : Text) (request : Request)
    (disk : Disk) :
    disk.Grows Anywhere (fun l => ¬ spared l) (run programs settings root request disk).2 := by
  rcases writeSource_cases settings root request.body disk
    with ⟨e, after, hsource, hgrown⟩ | ⟨path, before, written, hsource, hgrown, -, hnew, hwrite⟩
  · simp only [run, hsource]
    exact hgrown.mono (fun _ => id) fun _ => False.elim
  · refine (hgrown.mono (fun _ => id) fun _ => False.elim).trans ?_
    simp only [run, hsource]
    cases hstart : start programs root settings.program
        (argumentsFor settings request.mode ++ [path]) written with
    | error e => exact grows_aside hnew hwrite (.refl written)
    | ok finished =>
      obtain ⟨location, left, -, hleft, rfl⟩ := start_cases hstart
      obtain ⟨-, hdirs, hothers⟩ := hspares _ _ _ hleft
      exact grows_aside hnew hwrite ⟨rfl, hdirs, hothers⟩

theorem startDir_of_grows {fresh scope : Location → Prop} {disk' : Disk}
    (h : disk.Grows fresh scope disk') {root : Text} {location : Location}
    (hstart : startDir disk root = .ok location) : startDir disk' root = .ok location := by
  obtain ⟨found, hlocate, hstart⟩ := ok_of_bind hstart
  obtain ⟨_, hdir, hfound⟩ := ok_of_bind hstart
  obtain rfl := Except.ok.inj hfound
  have hdir' := checkDir_eq_ok_iff.2 (h.dirs _ (checkDir_eq_ok_iff.1 hdir))
  rw [startDir, h.locate hlocate]
  simp only [bind, Except.bind, hdir']
  rfl

/-- Where there is no directory to start a program in, no run succeeds, as long as none is created
for the sources. -/
theorem run_ne_ok {programs : Programs} {settings : ToolSettings} {root : Text}
    (hroot : ∀ location, startDir disk root ≠ .ok location)
    (hscratch : root = [] ∨ settings.scratchDir = none) (request : Request) (output : ToolOutput) :
    (run programs settings root request disk).1 ≠ .ok output := by
  intro hrun
  rcases writeSource_cases settings root request.body disk
    with ⟨e, after, hsource, -⟩ | ⟨path, before, written, hsource, -, hbefore, -, hwrite⟩
  · simp [run, hsource] at hrun
  · simp only [run, hsource] at hrun
    split at hrun
    · cases hrun
    · next finished hstart =>
      obtain ⟨location, -, hdir, -⟩ := start_cases hstart
      rcases hscratch with rfl | hnone
      · cases hdir
      · -- a file more makes no directory
        obtain ⟨number, rfl⟩ := hbefore hnone
        have hback : written.Grows Nowhere (· = disk.locationOf path) disk :=
          (grows_unwrite hwrite).trans (grows_clock _ disk.clock)
        exact hroot location (startDir_of_grows hback hdir)

end Process

/-! ## Reports -/

namespace Disk

variable {fresh scope : Location → Prop} {disk disk' : Disk}

theorem readText_eq_ok_iff {path s : Text} :
    disk.readText path = .ok s ↔ ∃ node, disk.stat path = .ok node ∧ node.text = .ok s := by
  rw [readText_eq]
  cases disk.stat path <;> simp [Except.bind]

/-- A file that is written has its bytes, unless it is a device. -/
theorem node?_of_write {path : Text} {bytes : ByteArray} (h : disk.write path bytes = .ok disk')
    (hsink : disk.node? (disk.locationOf path) ≠ some .sink) :
    disk'.node? (disk.locationOf path) = some (.file bytes) := by
  obtain ⟨-, hne, ⟨hdevice, -⟩ | ⟨-, rfl⟩⟩ := write_cases h
  · exact absurd hdevice hsink
  · rw [node?_put disk _ _ hne, if_pos rfl]

/-- Paths that lead to one place have one text. -/
theorem readText_congr {path path' : Text} {location : Location}
    (h : disk.locate path = .ok location) (h' : disk.locate path' = .ok location) :
    disk.readText path = disk.readText path' := by
  rw [readText_eq, readText_eq, stat, stat, h, h']

/-- A text that can be read can be read afterwards. -/
theorem Grows.readText (h : Grows fresh scope disk disk') {path s : Text}
    (hread : disk.readText path = .ok s) (hout : ¬ scope (disk.locationOf path)) :
    disk'.readText path = .ok s := by
  obtain ⟨node, hstat, htext⟩ := readText_eq_ok_iff.1 hread
  exact readText_eq_ok_iff.2 ⟨node, h.stat hstat hout, htext⟩

end Disk

namespace DiskCache

variable {dir : Text} {disk disk' : Disk} {fresh scope : Location → Prop}

/-- A report is known if it can be read from the file for its key. -/
theorem load_eq_some_iff {key : CacheKey} {report : Text} :
    load dir key disk = .ok (some report) ↔ disk.readText (entryFile dir key) = .ok report := by
  unfold load
  split <;> simp_all

/-- A report that is known stays known. -/
theorem load_of_grows (h : disk.Grows fresh scope disk') {key : CacheKey} {report : Text}
    (hload : load dir key disk = .ok (some report))
    (hout : ¬ scope (disk.locationOf (entryFile dir key))) :
    load dir key disk' = .ok (some report) :=
  load_eq_some_iff.2 (h.readText (load_eq_some_iff.1 hload) hout)

/-- No device stands where a report may be written, so that what is written there can be moved. -/
def Clear (dir : Text) (disk : Disk) : Prop :=
  ∀ request stamp,
    disk.node? (disk.locationOf (tempPath dir (.ofRequest request) stamp)) ≠ some .sink

theorem Clear.of_grows (h : Clear dir disk) (hgrown : disk.Grows fresh scope disk')
    (hout : ∀ request stamp,
      ¬ scope (disk.locationOf (tempPath dir (.ofRequest request) stamp))) :
    Clear dir disk' := by
  intro request stamp hsink
  rw [Disk.locationOf_congr hgrown.workDir] at hsink
  rcases hgrown.others _ (hout request stamp) with hsame | ⟨-, -, hdir⟩
  · exact h request stamp (hsame ▸ hsink)
  · rw [hdir] at hsink
    cases hsink

theorem locationOf_tempPath_ne (dir : Text) (disk : Disk) (request other : Request)
    (stamp : Stamp) :
    disk.locationOf (tempPath dir (.ofRequest request) stamp)
      ≠ disk.locationOf (entryFile dir (.ofRequest other)) := by
  rw [locationOf_tempPath, locationOf_entryFile]
  exact fun h => partName_ne_entryName request other stamp (List.cons.inj h).1

/-- How a report is written where there is no device: either that fails, or the report stands in the
file for its key. No device comes where it was written. -/
theorem writeEntry_cases {request : Request}
    (hclear : disk.node? (disk.locationOf (tempPath dir (.ofRequest request) disk.stamp))
      ≠ some .sink) (report : Text) :
    ∃ result after, writeEntry dir (.ofRequest request) report disk = (result, after) ∧
      after.node? (disk.locationOf (tempPath dir (.ofRequest request) disk.stamp)) ≠ some .sink ∧
      (result = .ok () →
        after.stat (entryFile dir (.ofRequest request)) = .ok (.file (Text.encode report))) := by
  have hne := locationOf_tempPath_ne dir disk request request disk.stamp
  unfold writeEntry
  simp only
  generalize tempPath dir (.ofRequest request) disk.stamp = temp at hclear hne ⊢
  generalize entryFile dir (.ofRequest request) = entry at hne ⊢
  cases hwrite : disk.tick.writeText temp report with
  | error e => exact ⟨_, _, rfl, hclear, fun h => by cases h⟩
  | ok written =>
    have hticked : disk.tick.write temp (Text.encode report) = .ok written := hwrite
    have hwritten := Disk.node?_of_write hticked hclear
    have hfile : written.node? (disk.locationOf temp) = some (.file (Text.encode report)) :=
      hwritten
    have hlocation := Disk.locationOf_congr (Disk.modifiesOnly_write hticked).workDir
    have hsource : written.locationOf temp = disk.locationOf temp := hlocation temp
    have htarget : written.locationOf entry = disk.locationOf entry := hlocation entry
    have hroot := Disk.ne_root_of_node? hfile (by simp)
    simp only
    cases hrename : written.rename temp entry with
    | error e =>
      -- what was written is removed again
      refine ⟨_, _, rfl, ?_, fun h => by cases h⟩
      cases hremove : written.remove temp with
      | error e => exact fun h => by cases hfile.symm.trans h
      | ok removed =>
        obtain ⟨node, -, -, rfl⟩ := Disk.remove_cases hremove
        rw [hsource]
        simp [Except.toOption, Disk.node?_drop written _ hroot]
    | ok renamed =>
      have hgrown : written.Grows Disk.Nowhere Disk.Anywhere renamed :=
        (Disk.grows_rename hrename).mono (fun _ => id) fun _ _ => trivial
      obtain ⟨hlocate, htop, -, node, hnode, -, rfl⟩ := Disk.rename_cases hrename
      rw [hsource, hfile] at hnode
      obtain rfl := Option.some.inj hnode
      refine ⟨_, _, rfl, ?_, fun _ => Disk.stat_of_locate (hgrown.locate hlocate) ?_⟩
      · rw [Disk.node?_put _ _ _ htop, htarget, if_neg hne, hsource,
          Disk.node?_drop written _ hroot, if_pos rfl]
        simp
      · rw [Disk.node?_put _ _ _ htop, if_pos rfl]

/-- A store brings no device where reports are written, and its report can be loaded if it does not
fail. -/
theorem store_cases (hclear : Clear dir disk) (request : Request) (report : Text) :
    ∃ result after, store dir (.ofRequest request) report disk = (result, after) ∧
      Clear dir after ∧
      (result = .ok () → load dir (.ofRequest request) after = .ok (some report)) := by
  have hprovided := Disk.grows_provideDir disk dir
  unfold store
  rcases hprovide : disk.provideDir dir with ⟨e | _, between⟩ <;> rw [hprovide] at hprovided
  · exact ⟨_, _, rfl, hclear.of_grows hprovided fun _ _ => id, fun h => by cases h⟩
  · have hbetween : Clear dir between := hclear.of_grows hprovided fun _ _ => id
    obtain ⟨result, after, hwrite, htemp, hstat⟩ :=
      writeEntry_cases (hbetween request between.stamp) report
    have hgrown : between.Grows Disk.Nowhere _ _ := grows_writeEntry dir request report between
    rw [hwrite] at hgrown
    refine ⟨result, after, hwrite, ?_, fun hok => ?_⟩
    · -- only where this report was written anything but its entry has changed
      intro other stamp
      rw [Disk.locationOf_congr hgrown.workDir]
      by_cases hsame : between.locationOf (tempPath dir (.ofRequest other) stamp)
          = between.locationOf (tempPath dir (.ofRequest request) between.stamp)
      · rw [hsame]
        exact htemp
      · rcases hgrown.others _ (not_or.2 ⟨locationOf_tempPath_ne dir between other request stamp,
          hsame⟩) with hkept | ⟨hnew, -⟩
        · rw [hkept]
          exact hbetween other stamp
        · exact hnew.elim
    · rw [load_eq_some_iff, Disk.readText_eq_ok_iff]
      exact ⟨_, hstat hok, Node.text_eq_ok_iff.2 (.inl rfl)⟩

/-- A store changes no report under another key. -/
theorem load_of_store {request other : Request} {report known : Text}
    (hload : load dir (.ofRequest other) disk = .ok (some known))
    (hne : CacheKey.ofRequest other ≠ .ofRequest request) :
    load dir (.ofRequest other) (store dir (.ofRequest request) report disk).2
      = .ok (some known) := by
  refine load_of_grows (grows_store dir request report disk) hload ?_
  intro howns
  generalize hlocation : disk.locationOf (entryFile dir (.ofRequest other)) = l at howns
  cases howns with
  | entry =>
    rw [locationOf_entryFile, locationOf_entryFile] at hlocation
    exact hne (ofRequest_eq_of_entryName (List.cons.inj hlocation).1)
  | temp stamp => exact locationOf_tempPath_ne dir disk request other stamp hlocation.symm

end DiskCache

/-! ## Requests -/

section

variable {τ : Type} {toolchain : Toolchain (World τ)} {spared : Location → Prop} {dir : Text}
  {workDir : Location}

/-- A toolchain removes no directory and changes nothing at the locations that it spares, but that
directories may come there. -/
def Toolchain.Spares (toolchain : Toolchain (World τ)) (spared : Location → Prop) : Prop :=
  ∀ request (world : World τ), world.disk.Grows Disk.Anywhere (fun l => ¬ spared l)
    (toolchain.execute request world).2.disk

theorem Toolchain.process_spares {programs : Programs} {settings : ToolSettings}
    (hspares : programs.Spares settings.program spared) (root : Text) :
    (Toolchain.process programs settings root : Toolchain (World τ)).Spares spared :=
  fun request world => Process.grows_run hspares root request world.disk

theorem Cache.load_disk_iff {key : CacheKey} {world : World τ} {report : Text} :
    (Cache.disk dir).load key world = .ok (some report) ↔
      DiskCache.load dir key world.disk = .ok (some report) := by
  simp only [disk]
  split <;> simp_all

/-- A store acts on the disk alone. -/
theorem Cache.store_disk (dir : Text) (key : CacheKey) (report : Text) (world : World τ) :
    ((Cache.disk dir).store key report world).2.disk = (DiskCache.store dir key report world.disk).2
      ∧ (((Cache.disk dir).store key report world).1 = .ok () →
        (DiskCache.store dir key report world.disk).1 = .ok ()) := by
  simp only [disk]
  split <;> simp_all

namespace DiskCache

/-- The worlds in which a cache directory is seen from a working directory, and can be written. -/
def Open (dir : Text) (workDir : Location) (world : World τ) : Prop :=
  world.disk.workDir = workDir ∧ Clear dir world.disk

/-- What can be loaded of a request in a world. -/
def Knows (dir : Text) (key : CacheKey) (report : Text) (world : World τ) : Prop :=
  (∃ request, key = .ofRequest request) ∧ load dir key world.disk = .ok (some report)

/-- The files of a cache directory, as they are seen from a working directory, are spared. -/
def SparedFrom (dir : Text) (workDir : Location) (spared : Location → Prop) : Prop :=
  ∀ disk : Disk, disk.workDir = workDir → ∀ l, Owns dir disk l → spared l

theorem open_execute (htoolchain : toolchain.Spares spared) (hspared : SparedFrom dir workDir spared)
    (request : Request) {world : World τ} (hopen : Open dir workDir world) :
    Open dir workDir (toolchain.execute request world).2 := by
  have hran := htoolchain request world
  exact ⟨hran.workDir.trans hopen.1, hopen.2.of_grows hran fun other stamp hout =>
    hout (hspared _ hopen.1 _ (.temp other stamp))⟩

theorem open_store (request : Request) (report : Text) {world : World τ}
    (hopen : Open dir workDir world) :
    Open dir workDir ((Cache.disk dir).store (.ofRequest request) report world).2 := by
  obtain ⟨result, after, hstore, hclear, -⟩ := store_cases hopen.2 request report
  have hgrown := grows_store dir request report world.disk
  have hdisk := (Cache.store_disk dir (.ofRequest request) report world).1
  rw [hstore] at hgrown hdisk
  rw [Open, hdisk]
  exact ⟨hgrown.workDir.trans hopen.1, hclear⟩

theorem knows_execute (htoolchain : toolchain.Spares spared)
    (hspared : SparedFrom dir workDir spared) (request : Request) {world : World τ}
    (hopen : Open dir workDir world) {key : CacheKey} {report : Text}
    (hknown : Knows dir key report world) :
    Knows dir key report (toolchain.execute request world).2 := by
  obtain ⟨⟨other, rfl⟩, hload⟩ := hknown
  refine ⟨⟨other, rfl⟩, load_of_grows (htoolchain request world) hload fun hout => ?_⟩
  exact hout (hspared _ hopen.1 _ (.entry other))

/-- A runner with a cache directory that its toolchain spares remembers every answer. What is known
is never stored again, so it stays as it is. -/
theorem remembers_disk (htoolchain : toolchain.Spares spared)
    (hspared : SparedFrom dir workDir spared) :
    (Runner.cached toolchain (.disk dir)).Remembers (Open dir workDir) (Knows dir) where
  stays request session := Runner.leads_cached
    (fun before after => Open dir workDir before → Open dir workDir after) (fun _ => id)
    (fun hfirst hsecond hopen => hsecond (hfirst hopen))
    (fun request world => open_execute htoolchain hspared request)
    (fun request report world => open_store request report) request session
  keeps := by
    intro k known request session hopen hknown
    have hran := knows_execute htoolchain hspared request hopen hknown
    -- the cache stores under a key that was not known
    have hstored : (Cache.disk dir).load (.ofRequest request) session.world = .ok none →
        ∀ report ran, (toolchain.execute request session.world).2 = ran →
        Knows dir k known ((Cache.disk dir).store (.ofRequest request) report ran).2 := by
      rintro hunknown report _ rfl
      obtain ⟨⟨other, rfl⟩, hload⟩ := hran
      have hne : CacheKey.ofRequest other ≠ .ofRequest request := by
        intro hsame
        rw [← hsame, Cache.load_disk_iff.2 hknown.2] at hunknown
        cases hunknown
      refine ⟨⟨other, rfl⟩, ?_⟩
      rw [(Cache.store_disk _ _ _ _).1]
      exact load_of_store hload hne
    have hserved := Runner.served toolchain (.disk dir) request session
    generalize Runner.cached toolchain (.disk dir) request session = result at hserved ⊢
    cases hserved with
    | unread failure hload => exact hknown
    | hit report hload => exact hknown
    | failed failure world hload hrun => rwa [hrun] at hran
    | unstored output failure ran world hload hrun hstore =>
      have hlast := hstored hload output.report ran (congrArg Prod.snd hrun)
      rwa [hstore] at hlast
    | stored output ran world hload hrun hstore =>
      have hlast := hstored hload output.report ran (congrArg Prod.snd hrun)
      rwa [hstore] at hlast
  learns := by
    intro request session known hopen hanswer
    have hran := open_execute htoolchain hspared request hopen
    have hserved := Runner.served toolchain (.disk dir) request session
    generalize Runner.cached toolchain (.disk dir) request session = result at hserved hanswer ⊢
    cases hserved with
    | unread failure hload => cases hanswer
    | hit report hload =>
      obtain rfl := Except.ok.inj hanswer
      exact ⟨⟨request, rfl⟩, Cache.load_disk_iff.1 hload⟩
    | failed failure world hload hrun => cases hanswer
    | unstored output failure ran world hload hrun hstore => cases hanswer
    | stored output ran world hload hrun hstore =>
      obtain rfl := Except.ok.inj hanswer
      rw [hrun] at hran
      obtain ⟨result, after, hdisk, -, hloaded⟩ := store_cases hran.2 request output.report
      have hsame := Cache.store_disk dir (.ofRequest request) output.report ran
      rw [hstore, hdisk] at hsame
      refine ⟨⟨request, rfl⟩, ?_⟩
      rw [hsame.1]
      exact hloaded (hsame.2 rfl)

end DiskCache

/-! ## Pages -/

/-- A page that is rendered leaves all answers in the cache directory, and keeps what was known
there. -/
theorem knows_weave {options : Options} {content : Text} {session : Session (World τ)} {page : Page}
    (htoolchain : toolchain.Spares spared)
    (hspared : DiskCache.SparedFrom dir session.world.disk.workDir spared)
    (hclear : DiskCache.Clear dir session.world.disk)
    (hpage : (weave options (.cached toolchain (.disk dir)) content session).result = .ok page) :
    let runner := Runner.cached toolchain (.disk dir)
    let after := (weave options runner content session).session.world
    (∀ call ∈ runner.calls (asked options runner content session) session, ∃ report,
      call.answer = .ok report ∧ DiskCache.load dir call.key after.disk = .ok (some report)) ∧
    ∀ request report, DiskCache.load dir (.ofRequest request) session.world.disk = .ok (some report) →
      DiskCache.load dir (.ofRequest request) after.disk = .ok (some report) := by
  intro runner after
  have hrunner := DiskCache.remembers_disk htoolchain hspared
  have hopen : DiskCache.Open dir session.world.disk.workDir session.world := ⟨rfl, hclear⟩
  have hafter : after = (runner.afterAll (asked options runner content session) session).world := by
    simp only [after, session_weave]
  rw [hafter]
  constructor
  · intro call hcall
    obtain ⟨report, hanswer⟩ := answered_of_weave hpage call hcall
    exact ⟨report, hanswer,
      (Runner.knows_of_answered hrunner hopen call hcall report hanswer).2⟩
  · intro request report hload
    exact (Runner.knows_afterAll hrunner _ hopen ⟨⟨request, rfl⟩, hload⟩).2

/-- Whether it is rendered or not, a page removes no directory, and changes nothing that the
toolchain spares but the files of the cache. -/
theorem grows_weave (htoolchain : toolchain.Spares spared) (dir : Text) (options : Options)
    (content : Text) (session : Session (World τ)) :
    session.world.disk.Grows Disk.Anywhere
      (fun l => ¬ spared l ∨ DiskCache.Owns dir session.world.disk l)
      (weave options (.cached toolchain (.disk dir)) content session).session.world.disk := by
  -- the files of the cache are named from the working directory, which nothing changes
  let Leads (before after : World τ) : Prop :=
    before.disk.workDir = session.world.disk.workDir →
      before.disk.Grows Disk.Anywhere
        (fun l => ¬ spared l ∨ DiskCache.Owns dir session.world.disk l) after.disk
  have hrefl : ∀ world, Leads world world := fun world _ => .refl world.disk
  have htrans : ∀ {first second third}, Leads first second → Leads second third →
      Leads first third :=
    fun h h' hworkDir => (h hworkDir).trans (h' ((h hworkDir).workDir.trans hworkDir))
  have hrun : ∀ request world, Leads world (toolchain.execute request world).2 :=
    fun request world _ => (htoolchain request world).mono (fun _ => id) fun _ => .inl
  have hstore : ∀ request report world,
      Leads world ((Cache.disk dir).store (.ofRequest request) report world).2 := by
    intro request report world hworkDir
    rw [(Cache.store_disk _ _ _ _).1]
    exact (DiskCache.grows_store dir request report world.disk).mono (fun _ _ => trivial)
      fun _ howns => .inr (.congr hworkDir howns.owns)
  rw [session_weave]
  exact Runner.leads_afterAll Leads hrefl htrans
    (Runner.leads_cached Leads hrefl htrans hrun hstore) _ session rfl

/-- A request that is answered though it cannot be run was known, and leaves the world as it was. -/
theorem Runner.world_cached_of_unrun {σ : Type} {toolchain : Toolchain σ} {cache : Cache σ}
    {request : Request} {session : Session σ} {report : Text}
    (hfails : ∀ output, (toolchain.execute request session.world).1 ≠ .ok output)
    (hanswer : (Runner.cached toolchain cache request session).1 = .ok report) :
    (Runner.cached toolchain cache request session).2.world = session.world := by
  have hserved := Runner.served toolchain cache request session
  generalize Runner.cached toolchain cache request session = result at hserved hanswer ⊢
  cases hserved with
  | unread failure hload => rfl
  | hit known hload => rfl
  | failed failure world hload hrun => cases hanswer
  | unstored output failure ran world hload hrun hstore => cases hanswer
  | stored output ran world hload hrun hstore =>
    exact absurd (congrArg Prod.fst hrun) (hfails output)

/-- If no request can be run, a page that is rendered leaves the world as it was: the cache knew all
that it asked. -/
theorem world_weave_of_unrun {σ : Type} {toolchain : Toolchain σ} {cache : Cache σ}
    {options : Options} {content : Text} {session : Session σ} {page : Page}
    (hfails : ∀ request output, (toolchain.execute request session.world).1 ≠ .ok output)
    (hpage : (weave options (.cached toolchain cache) content session).result = .ok page) :
    (weave options (.cached toolchain cache) content session).session.world = session.world := by
  have hanswered := answered_of_weave hpage
  rw [session_weave]
  generalize asked options (.cached toolchain cache) content session = requests at hanswered ⊢
  clear hpage
  induction requests generalizing session with
  | nil => rfl
  | cons request requests ih =>
    rw [Runner.calls, List.forall_mem_cons] at hanswered
    obtain ⟨⟨report, hanswer⟩, hrest⟩ := hanswered
    have hsame := Runner.world_cached_of_unrun (hfails request) hanswer
    rw [Runner.afterAll, ih (by rwa [hsame]) hrest, hsame]

end

end Weave
