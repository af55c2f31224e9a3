import Weave.Proofs.Processing
import Weave.Proofs.Retention

/-!
# Weave.Proofs.Sources — the source of a request, from its path to its end

The source of a request is written to a new file below a directory that is named from the root. When
the program ends, that file is discarded. So a program that changes no file is run without a change
to any file, wherever it was started and however it ended.

1. **Paths**: a source has one of the names that are tried (`path_of_writeSource`).
2. **Runs** change no file if the program changes none (`modifiesOnly_run`).
-/

namespace Weave

/-! ## Paths -/

namespace Disk

variable {disk disk' : Disk} {path : Text}

theorem workDir_of_createDir (h : disk.createDir path = .ok disk') :
    disk'.workDir = disk.workDir := by
  obtain ⟨-, -, -, rfl⟩ := createDir_cases h
  rfl

theorem workDir_createChain (disk : Disk) (paths : List Text) :
    (disk.createChain paths).2.workDir = disk.workDir :=
  createChain_induction disk (fun _ _ _ _ hbefore hcreate =>
    (workDir_of_createDir hcreate).trans hbefore) rfl

theorem workDir_provideDir (disk : Disk) (path : Text) :
    (disk.provideDir path).2.workDir = disk.workDir :=
  (grows_provideDir disk path).workDir

/-- A path that begins at the root leads to the same thing from every working directory. -/
theorem stat_of_isAbsolute {node : Node} (habsolute : PathName.isAbsolute path = true)
    (h : disk.stat path = .ok node) (workDir : Location) :
    ({ disk with workDir := workDir } : Disk).stat path = .ok node := by
  obtain ⟨hlocate, hnode⟩ := node?_of_stat h
  obtain ⟨_, hname, hwalk⟩ := ok_of_bind hlocate
  have horigin : ({ disk with workDir := workDir } : Disk).origin path = disk.origin path := by
    rw [origin, origin, if_pos habsolute, if_pos habsolute]
  have hdirs : ∀ location, disk.node? location = some .dir →
      ({ disk with workDir := workDir } : Disk).node? location = some .dir :=
    fun _ hdir => hdir
  refine stat_of_locate ?_ hnode
  rw [locate, hname, horigin]
  exact walk_of_dirs hdirs hwalk

end Disk

namespace Process

open Disk

variable {disk disk' : Disk} {settings : ToolSettings} {root : Text}

/-- The directory for source files. -/
def sourceDir (settings : ToolSettings) (root : Text) : Text :=
  (settings.scratchDir.map (PathName.join root)).getD systemTemp

/-- The path of a source file with a number. -/
def sourceFile (settings : ToolSettings) (root : Text) (disk : Disk) (number : Nat) : Text :=
  PathName.join (absolute disk (sourceDir settings root)) (tempName settings.extension number)

theorem absolute_congr (h : disk'.workDir = disk.workDir) (path : Text) :
    absolute disk' path = absolute disk path := by
  rw [absolute, absolute, workPath, workPath, h]

/-- It begins at the root. -/
theorem isAbsolute_sourceFile (settings : ToolSettings) (root : Text) (disk : Disk) (number : Nat) :
    PathName.isAbsolute (sourceFile settings root disk number) = true := by
  have hjoin : ∀ dir path : Text, PathName.isAbsolute dir = true →
      PathName.isAbsolute (PathName.join dir path) = true := by
    intro dir path hdir
    have hne : dir ≠ [] := by
      rintro rfl
      cases hdir
    unfold PathName.join
    split
    · assumption
    · split <;> rwa [PathName.isAbsolute_append hne]
  exact hjoin _ _ (hjoin disk.workPath _ rfl)

/-- Its last segment is a name, if the extension has no slash. -/
theorem isName_tempName {extension : Text} (hslash : '/' ∉ extension) (number : Nat) :
    PathName.IsName (tempName extension number) := by
  have hdigit : ∀ n < 10, Nat.digitChar n ≠ '/' := by decide
  apply PathName.isName_of_length
  · simp only [tempName, List.mem_append, List.mem_cons, not_or]
    refine ⟨⟨by decide, ?_⟩, by decide, fun hmem => hslash ((List.dropWhile_suffix _).mem hmem)⟩
    simp only [stamp, List.mem_map, not_exists, not_and]
    exact fun i _ => hdigit _ (Nat.mod_lt _ (by decide))
  · simp only [tempName, List.length_append]
    exact Nat.le_add_right_of_le (Nat.le_add_right_of_le (by decide))

theorem workDir_prepareDir (disk : Disk) (dir : Option Text) :
    (prepareDir disk dir).2.workDir = disk.workDir := by
  cases dir with
  | none => rfl
  | some dir => exact workDir_provideDir disk dir

theorem workDir_freshPath (disk : Disk) (dir extension : Text) (fuel : Nat) :
    (freshPath disk dir extension fuel).2.workDir = disk.workDir := by
  obtain ⟨number, hnumber⟩ := exists_clock_freshPath dir extension fuel disk
  rw [hnumber]

/-- A path for a new file has one of the names that are tried. -/
theorem exists_number_of_freshPath {dir extension path : Text} {fuel : Nat} {after : Disk}
    (h : freshPath disk dir extension fuel = (.ok path, after)) :
    ∃ number, path = PathName.join dir (tempName extension number) := by
  induction fuel generalizing disk with
  | zero => cases h
  | succ fuel ih =>
    simp only [freshPath] at h
    split at h
    · exact ih h
    · exact ⟨disk.clock, (Except.ok.inj (Prod.mk.inj h).1).symm⟩

/-- A source goes to a source file. -/
theorem path_of_writeSource {body path : Text} {after : Disk}
    (h : writeSource settings root body disk = (.ok path, after)) :
    (∃ number, path = sourceFile settings root disk number) ∧ after.workDir = disk.workDir := by
  have hworkDir := workDir_prepareDir disk (settings.scratchDir.map (PathName.join root))
  simp only [writeSource] at h
  rcases hprepare : prepareDir disk (settings.scratchDir.map (PathName.join root))
    with ⟨e | _, prepared⟩ <;> rw [hprepare] at h hworkDir
  · cases h
  · simp only at h
    rw [← sourceDir, absolute_congr hworkDir] at h
    have hstays := workDir_freshPath prepared (absolute disk (sourceDir settings root))
      settings.extension stampCount
    rcases hfresh : freshPath prepared (absolute disk (sourceDir settings root)) settings.extension
      stampCount with ⟨e | found, before⟩ <;> rw [hfresh] at h hstays
    · cases h
    · obtain ⟨number, rfl⟩ := exists_number_of_freshPath hfresh
      simp only at h
      split at h
      · cases h
      · next written hwrite =>
        obtain ⟨hpath, rfl⟩ := Prod.mk.inj h
        obtain rfl := Except.ok.inj hpath
        exact ⟨⟨number, rfl⟩, (modifiesOnly_write hwrite).workDir.trans (hstays.trans hworkDir)⟩

end Process

/-! ## Runs -/

/-- Wherever it is started, a program creates, changes and removes no regular file, and a file that
it is given is still found afterwards. -/
def Programs.LeavesFiles (programs : Programs) (program : Text) : Prop :=
  ∀ args disk finished, programs program args disk = .ok finished →
    disk.ModifiesOnly Disk.Nowhere { finished.disk with workDir := disk.workDir } ∧
      ∀ path ∈ args, ∀ bytes, disk.stat path = .ok (.file bytes) →
        ({ finished.disk with workDir := disk.workDir } : Disk).stat path = .ok (.file bytes)

namespace Process

open Disk

variable {disk : Disk}

/-- A new file that is still found when no other has changed leaves no trace once it is
discarded. -/
theorem modifiesOnly_aside {path : Text} {bytes : ByteArray} {written after : Disk}
    (hnew : disk.node? (disk.locationOf path) = none) (hwrite : disk.write path bytes = .ok written)
    (hmodified : written.ModifiesOnly Nowhere after) (hstat : after.stat path = .ok (.file bytes)) :
    disk.ModifiesOnly Nowhere (discard after path) := by
  have hwritten := modifiesOnly_write hwrite
  have hlocation : after.locationOf path = disk.locationOf path :=
    locationOf_congr (hmodified.workDir.trans hwritten.workDir) path
  obtain ⟨hlocate, hnode⟩ := node?_of_stat hstat
  have hne := ne_root_of_node? hnode (by simp)
  rw [discard_of_node hlocate hnode (by simp)]
  refine ⟨hmodified.workDir.trans hwritten.workDir, fun l _ => ?_⟩
  rw [file?, node?_drop _ _ hne, hlocation]
  -- the file is gone where it stood, and nowhere else has anything changed
  by_cases hl : l = disk.locationOf path
  · rw [if_pos hl, hl, file?, hnew]
  · rw [if_neg hl]
    exact (hmodified.files l id).trans (hwritten.files l hl)

/-- If its program changes no file, a run changes none. -/
theorem modifiesOnly_run {programs : Programs} {settings : ToolSettings}
    (hleaves : programs.LeavesFiles settings.program) (root : Text) (request : Request)
    (disk : Disk) : disk.ModifiesOnly Nowhere (run programs settings root request disk).2 := by
  rcases writeSource_cases settings root request.body disk
    with ⟨e, after, hsource, hgrown⟩ | ⟨path, before, written, hsource, hgrown, -, hnew, hwrite⟩
  · simp only [run, hsource]
    exact hgrown.modifiesOnly
  · have hfound : written.stat path = .ok (.file (Text.encode request.body)) := by
      rcases stat_of_write hwrite with hfile | ⟨hsink, rfl⟩
      · exact hfile
      · rw [(node?_of_stat hsink).2] at hnew
        cases hnew
    refine hgrown.modifiesOnly.trans ?_
    simp only [run, hsource]
    cases hstart : start programs root settings.program
        (argumentsFor settings request.mode ++ [path]) written with
    | error e => exact modifiesOnly_aside hnew hwrite (.refl written) hfound
    | ok finished =>
      obtain ⟨location, left, -, hleft, rfl⟩ := start_cases hstart
      obtain ⟨⟨number, rfl⟩, -⟩ := path_of_writeSource hsource
      have habsolute := isAbsolute_sourceFile settings root disk number
      -- the program is started elsewhere, but the source is named from the root
      obtain ⟨hmodified, hgiven⟩ := hleaves _ _ _ hleft
      have hkept := hgiven _ (by simp) _ (stat_of_isAbsolute habsolute hfound location)
      exact modifiesOnly_aside hnew hwrite ⟨rfl, hmodified.files⟩
        (stat_of_isAbsolute habsolute hkept written.workDir)

end Process

theorem Toolchain.process_leavesFiles {τ : Type} {programs : Programs} {settings : ToolSettings}
    (hleaves : programs.LeavesFiles settings.program) (root : Text) :
    (Toolchain.process programs settings root : Toolchain (World τ)).LeavesFiles :=
  fun request world => Process.modifiesOnly_run hleaves root request world.disk

end Weave
