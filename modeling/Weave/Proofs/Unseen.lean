import Weave.Proofs.Crossing
import Weave.Proofs.Simulation
import Weave.Proofs.Sources

/-!
# Weave.Proofs.Unseen — a run cannot tell what it does not look at

A request is run with a source file and a program. All of this happens along a few paths. If they
lead past nothing in a scope, and the program does not look there either, then two disks that differ
in this scope alone cannot be told apart: the outputs are the same, and afterwards the disks differ
in the scope alone.

1. **Disks** that are `Alike` agree outside of a scope and give out the same numbers next.
2. **Operations** along paths that are clear of the scope come to the same on both
   (`Alike.write`, `Alike.createDir`, `Alike.provideDir`).
3. **Sources** are written and discarded alike (`Alike.writeSource`, `Alike.discard`).
4. **Runs** come out alike (`Alike.run`), so without a cache no page can tell the disks apart
   (`Toolchain.process_simulates`).
-/

namespace Weave

/-- Two results are the same error, or two values that are related. -/
inductive Both {ε α β : Type} (related : α → β → Prop) : Except ε α → Except ε β → Prop where
  | error (e : ε) : Both related (.error e) (.error e)
  | ok {value : α} {value' : β} (h : related value value') : Both related (.ok value) (.ok value')

namespace Disk

variable {scope : Location → Prop} {disk disk' : Disk} {path : Text}

/-! ## Disks -/

/-- Where a path leads depends on the working directory alone. -/
theorem ClearOf.congr (hclear : disk.ClearOf scope path) (h : disk'.workDir = disk.workDir) :
    disk'.ClearOf scope path := by
  have horigin : disk'.origin path = disk.origin path := by rw [origin, origin, h]
  intro location hscope hcrosses
  rw [Crosses, horigin] at hcrosses
  exact hclear location hscope hcrosses

/-- Two disks that agree outside of a scope and give out the same numbers. -/
structure Alike (scope : Location → Prop) (disk disk' : Disk) : Prop
    extends AgreesOutside scope disk disk' where
  clock : disk'.clock = disk.clock

/-- Results that are the same, with disks that are alike. -/
inductive AlikeAfter {α : Type} (scope : Location → Prop) : α × Disk → α × Disk → Prop where
  | intro (result : α) {left left' : Disk} (h : Alike scope left left') :
      AlikeAfter scope (result, left) (result, left')

section

variable (h : Alike scope disk disk')
include h

theorem Alike.tick : Alike scope disk.tick disk'.tick :=
  ⟨⟨h.workDir, h.nodes⟩, congrArg (· + 1) h.clock⟩

theorem Alike.startedIn (workDir : Location) :
    Alike scope { disk with workDir := workDir } { disk' with workDir := workDir } :=
  ⟨⟨rfl, h.nodes⟩, h.clock⟩

theorem Alike.put {location : Location} (hne : location ≠ []) (node : Node) :
    Alike scope (disk.put location node) (disk'.put location node) :=
  ⟨h.toAgreesOutside.put hne node, h.clock⟩

theorem Alike.drop {location : Location} (hne : location ≠ []) :
    Alike scope (disk.drop location) (disk'.drop location) := by
  refine ⟨⟨h.workDir, fun l hout => ?_⟩, h.clock⟩
  rw [node?_drop _ l hne, node?_drop _ l hne, h.nodes l hout]

end

/-- Two disks differ in one location alone if other things are put there. -/
theorem alike_put (disk : Disk) {location : Location} (hne : location ≠ [])
    (hscope : scope location) (node node' : Node) :
    Alike scope (disk.put location node) (disk.put location node') := by
  refine ⟨⟨rfl, fun l hout => ?_⟩, rfl⟩
  have hl : l ≠ location := by
    rintro rfl
    exact hout hscope
  rw [node?_put _ l _ hne, node?_put _ l _ hne, if_neg hl, if_neg hl]

/-! ## Operations -/

theorem clock_of_write {bytes : ByteArray} (h : disk.write path bytes = .ok disk') :
    disk'.clock = disk.clock := by
  obtain ⟨-, -, ⟨-, rfl⟩ | ⟨-, rfl⟩⟩ := write_cases h
  · rfl
  · rfl

section

variable (h : Alike scope disk disk')
include h

theorem Alike.pathExists (hclear : disk.ClearOf scope path) :
    disk'.pathExists path = disk.pathExists path := by
  rw [Disk.pathExists, Disk.pathExists, h.stat hclear]

theorem Alike.isDir (hclear : disk.ClearOf scope path) : disk'.isDir path = disk.isDir path := by
  rw [Disk.isDir, Disk.isDir, h.stat hclear]

theorem Alike.write (hclear : disk.ClearOf scope path) (bytes : ByteArray) :
    Both (Alike scope) (disk.write path bytes) (disk'.write path bytes) := by
  obtain ⟨hfails, hsucceeds⟩ := h.toAgreesOutside.write hclear bytes
  cases hwrite : disk.write path bytes with
  | error e =>
    rw [hfails e hwrite]
    exact .error e
  | ok written =>
    obtain ⟨written', hwrite', hagree⟩ := hsucceeds written hwrite
    rw [hwrite']
    exact .ok ⟨hagree, by rw [clock_of_write hwrite', clock_of_write hwrite, h.clock]⟩

theorem Alike.createDir (hclear : disk.ClearOf scope path) :
    Both (Alike scope) (disk.createDir path) (disk'.createDir path) := by
  unfold Disk.createDir
  rw [h.place hclear]
  cases hplace : disk.place path with
  | error e => exact .error e
  | ok found =>
    cases found with
    | none => exact .error _
    | some location =>
      obtain ⟨-, hne, -, hwalk⟩ := walk_of_place hplace
      obtain rfl : location = disk.locationOf path := by
        rw [locationOf_eq_foldl_steps]
        exact walk_eq hwalk
      simp only [bind, Except.bind, h.nodes _ hclear.locationOf]
      split
      · exact .error _
      · exact .ok (h.put hne .dir)

theorem Alike.ensureDir (hclear : disk.ClearOf scope path) :
    Both (Alike scope) (disk.ensureDir path) (disk'.ensureDir path) := by
  have hcreated := h.createDir hclear
  unfold Disk.ensureDir
  rw [h.isDir hclear]
  generalize disk.createDir path = created at hcreated
  generalize disk'.createDir path = created' at hcreated
  cases hcreated with
  | error e =>
    simp only
    split
    · exact .ok h
    · exact .error e
  | ok hcreated => exact .ok hcreated

theorem Alike.createChain {paths : List Text} (hclear : ∀ p ∈ paths, disk.ClearOf scope p) :
    AlikeAfter scope (disk.createChain paths) (disk'.createChain paths) := by
  induction paths with
  | nil => exact .intro _ h
  | cons p around ih =>
    obtain ⟨hfirst, haround⟩ := List.forall_mem_cons.1 hclear
    have hcreated := h.createDir hfirst
    have hchain := ih haround
    have hworkDir := disk.workDir_createChain around
    rw [Disk.createChain, Disk.createChain]
    split
    · exact .intro _ h
    · generalize disk.createDir p = created at hcreated
      generalize disk'.createDir p = created' at hcreated
      cases hcreated with
      | ok hcreated => exact .intro _ hcreated
      | error e =>
        cases e with
        | notFound =>
          -- the directories around it come first, and then this one is tried again
          generalize disk.createChain around = ran at hchain hworkDir
          generalize disk'.createChain around = ran' at hchain
          cases hchain with
          | intro result hchanged =>
            cases result with
            | error e => exact .intro _ hchanged
            | ok _ =>
              have hensured := hchanged.ensureDir (hfirst.congr hworkDir)
              simp only [settled]
              generalize Disk.ensureDir _ p = ensured at hensured
              generalize Disk.ensureDir _ p = ensured' at hensured
              cases hensured with
              | error e => exact .intro _ hchanged
              | ok hensured => exact .intro _ hensured
        | _ =>
          rw [h.isDir hfirst]
          exact .intro _ h

/-- A directory is provided alike along a path that is clear of the scope all the way. -/
theorem Alike.provideDir (hclear : ∀ p ∈ PathName.ancestors path, disk.ClearOf scope p) :
    AlikeAfter scope (disk.provideDir path) (disk'.provideDir path) := by
  obtain ⟨around, hpath⟩ := ancestors_eq_cons path
  have hlast : disk.ClearOf scope path := hclear path (by simp [hpath])
  unfold Disk.provideDir
  rw [h.pathExists hlast]
  split
  · exact .intro _ h
  · exact h.createChain hclear

theorem Alike.discard (hclear : disk.ClearOf scope path) :
    Alike scope (Process.discard disk path) (Process.discard disk' path) := by
  unfold Process.discard Disk.remove
  rw [h.locate hclear]
  cases hlocate : disk.locate path with
  | error e => exact h
  | ok location =>
    obtain rfl := locate_eq hlocate
    simp only [bind, Except.bind, h.nodes _ hclear.locationOf]
    cases hnode : disk.node? (disk.locationOf path) with
    | none => exact h
    | some node =>
      cases node with
      | dir => exact h
      | sink => exact h.drop (ne_root_of_node? hnode (by simp))
      | file bytes => exact h.drop (ne_root_of_node? hnode (by simp))

end

end Disk

namespace Process

open Disk

variable {scope : Location → Prop} {disk disk' : Disk} {settings : ToolSettings} {root : Text}

/-! ## Sources -/

/-- The paths that a toolchain goes along by itself: to the directory that programs are started in,
to the directory for source files if one is configured, and to the source files. -/
inductive Uses (settings : ToolSettings) (root : Text) (disk : Disk) : Text → Prop where
  | root : Uses settings root disk root
  | scratch (dir : Text) (hdir : settings.scratchDir = some dir) (path : Text)
      (hpath : path ∈ PathName.ancestors (PathName.join root dir)) : Uses settings root disk path
  | source (number : Nat) : Uses settings root disk (sourceFile settings root disk number)

/-- Nothing of a scope is on these paths. -/
def ClearOf (settings : ToolSettings) (root : Text) (disk : Disk) (scope : Location → Prop) :
    Prop :=
  ∀ path, Uses settings root disk path → disk.ClearOf scope path

theorem uses_congr (h : disk'.workDir = disk.workDir) {path : Text}
    (huses : Uses settings root disk' path) : Uses settings root disk path := by
  cases huses with
  | root => exact .root
  | scratch dir hdir path hpath => exact .scratch dir hdir path hpath
  | source number =>
    rw [sourceFile, absolute_congr h]
    exact .source number

theorem ClearOf.congr (hclear : ClearOf settings root disk scope)
    (h : disk'.workDir = disk.workDir) : ClearOf settings root disk' scope :=
  fun path huses => (hclear path (uses_congr h huses)).congr h

/-- The same names are taken. -/
theorem alike_freshPath (h : Alike scope disk disk') {dir extension : Text}
    (hclear : ∀ number, disk.ClearOf scope (PathName.join dir (tempName extension number)))
    (fuel : Nat) :
    AlikeAfter scope (freshPath disk dir extension fuel) (freshPath disk' dir extension fuel) := by
  -- the clocks go on together, so the same name is tried on both disks each time
  induction fuel generalizing disk disk' with
  | zero => exact .intro _ h
  | succ fuel ih =>
    simp only [freshPath, h.clock, h.pathExists (hclear disk.clock)]
    split
    · exact ih h.tick fun number => (hclear number).congr rfl
    · exact .intro _ h.tick

theorem alike_prepareDir (h : Alike scope disk disk')
    (hclear : ClearOf settings root disk scope) :
    AlikeAfter scope (prepareDir disk (settings.scratchDir.map (PathName.join root)))
      (prepareDir disk' (settings.scratchDir.map (PathName.join root))) := by
  cases hscratch : settings.scratchDir with
  | none => exact .intro _ h
  | some dir => exact h.provideDir fun p hp => hclear p (.scratch dir hscratch p hp)

/-- A source is written to the same path. -/
theorem alike_writeSource (h : Alike scope disk disk') (hclear : ClearOf settings root disk scope)
    (body : Text) :
    AlikeAfter scope (writeSource settings root body disk)
      (writeSource settings root body disk') := by
  have hprepare := alike_prepareDir h hclear
  have hworkDir := workDir_prepareDir disk (settings.scratchDir.map (PathName.join root))
  simp only [writeSource]
  generalize prepareDir disk (settings.scratchDir.map (PathName.join root)) = ran
    at hprepare hworkDir
  generalize prepareDir disk' (settings.scratchDir.map (PathName.join root)) = ran' at hprepare
  cases hprepare with
  | @intro result prepared prepared' hprepared =>
    cases result with
    | error e => exact .intro _ hprepared
    | ok _ =>
      have hnames : ∀ number, prepared.ClearOf scope (sourceFile settings root prepared number) :=
        fun number => hclear.congr hworkDir _ (.source number)
      have halike := alike_freshPath hprepared hnames stampCount
      have hstays := workDir_freshPath prepared (absolute prepared (sourceDir settings root))
        settings.extension stampCount
      simp only
      rw [← sourceDir, absolute_congr hprepared.workDir]
      rcases hfresh : freshPath prepared (absolute prepared (sourceDir settings root))
        settings.extension stampCount with ⟨result, before⟩
      rw [hfresh] at halike hstays
      generalize freshPath prepared' (absolute prepared (sourceDir settings root))
        settings.extension stampCount = ran' at halike
      cases halike with
      | intro _ hbefore =>
        cases result with
        | error e => exact .intro _ hbefore
        | ok path =>
          obtain ⟨number, rfl⟩ := exists_number_of_freshPath hfresh
          have hwrite := hbefore.write ((hnames number).congr hstays) (Text.encode body)
          simp only [writeText]
          rw [← sourceFile]
          generalize Disk.write before _ (Text.encode body) = written at hwrite
          generalize Disk.write _ _ (Text.encode body) = written' at hwrite
          cases hwrite with
          | error e => exact .intro _ hbefore
          | ok hwritten => exact .intro _ hwritten

/-! ## Runs -/

theorem alike_startDir (h : Alike scope disk disk') (hclear : disk.ClearOf scope root) :
    startDir disk' root = startDir disk root := by
  unfold startDir
  rw [h.locate hclear]
  cases hlocate : disk.locate root with
  | error e => rfl
  | ok location =>
    obtain rfl := locate_eq hlocate
    simp only [bind, Except.bind, h.checkDir hclear.locationOf]

end Process

/-- Two programs have ended alike. -/
structure Finished.Alike (scope : Location → Prop) (finished finished' : Finished) : Prop where
  stdout : finished'.stdout = finished.stdout
  stderr : finished'.stderr = finished.stderr
  status : finished'.status = finished.status
  disk : finished.disk.Alike scope finished'.disk

/-- A program that does not look at a scope ends alike on disks that differ there alone. -/
def Programs.Ignores (programs : Programs) (program : Text) (scope : Location → Prop) : Prop :=
  ∀ args {disk disk' : Disk}, disk.Alike scope disk' →
    Both (Finished.Alike scope) (programs program args disk) (programs program args disk')

namespace Process

open Disk

variable {programs : Programs} {scope : Location → Prop} {disk disk' : Disk}
  {settings : ToolSettings} {root : Text}

theorem alike_start {program : Text} (hignores : programs.Ignores program scope)
    (h : Alike scope disk disk') (hclear : disk.ClearOf scope root) (args : List Text) :
    Both (Finished.Alike scope) (start programs root program args disk)
      (start programs root program args disk') := by
  simp only [start]
  split
  · exact .error _
  · rw [alike_startDir h hclear]
    cases startDir disk root with
    | error e => exact .error e
    | ok location =>
      -- agreement does not hang on the directory that the program is started in
      have hended := hignores args (h.startedIn location)
      simp only [bind, Except.bind]
      generalize programs program args { disk with workDir := location } = ended at hended
      generalize programs program args { disk' with workDir := location } = ended' at hended
      cases hended with
      | error e => exact .error e
      | ok hended =>
        refine .ok ⟨hended.stdout, hended.stderr, hended.status, ?_⟩
        rw [h.workDir]
        exact hended.disk.startedIn disk.workDir

/-- A request has the same output. -/
theorem alike_run (hignores : programs.Ignores settings.program scope)
    (h : Alike scope disk disk') (hclear : ClearOf settings root disk scope) (request : Request) :
    AlikeAfter scope (run programs settings root request disk)
      (run programs settings root request disk') := by
  have halike := alike_writeSource h hclear request.body
  simp only [run]
  rcases hsource : writeSource settings root request.body disk with ⟨result, written⟩
  rw [hsource] at halike
  generalize writeSource settings root request.body disk' = ran' at halike
  cases halike with
  | intro _ hwritten =>
    cases result with
    | error e => exact .intro _ hwritten
    | ok path =>
      obtain ⟨⟨number, rfl⟩, hworkDir⟩ := path_of_writeSource hsource
      -- the source is discarded from where it was written, whatever became of the program
      have hpath : written.ClearOf scope (sourceFile settings root disk number) :=
        (hclear _ (.source number)).congr hworkDir
      have halike := alike_start hignores hwritten ((hclear root .root).congr hworkDir)
        (argumentsFor settings request.mode ++ [sourceFile settings root disk number])
      simp only
      cases hstart : start programs root settings.program
          (argumentsFor settings request.mode ++ [sourceFile settings root disk number])
          written with
      | error e =>
        rw [hstart] at halike
        generalize start _ _ _ _ _ = started' at halike
        cases halike with
        | error => exact .intro _ (hwritten.discard hpath)
      | ok finished =>
        obtain ⟨location, left, -, -, rfl⟩ := start_cases hstart
        rw [hstart] at halike
        generalize start _ _ _ _ _ = started' at halike
        cases halike with
        | ok hended =>
          simp only [outcome, hended.stdout, hended.stderr, hended.status]
          exact .intro _ (hended.disk.discard (hpath.congr rfl))

end Process

/-! ## Pages -/

section

variable {τ : Type} {programs : Programs} {settings : ToolSettings} {root : Text}
  {scope : Location → Prop}

/-- Two worlds that are seen from a working directory and differ in a scope alone. -/
def World.AlikeFrom (workDir : Location) (scope : Location → Prop) (world world' : World τ) :
    Prop :=
  world.disk.workDir = workDir ∧ world.disk.Alike scope world'.disk

/-- Requests cannot tell such worlds apart, so neither can pages without a cache. -/
theorem Toolchain.process_simulates (start : Disk)
    (hleaves : programs.LeavesFiles settings.program)
    (hignores : programs.Ignores settings.program scope)
    (hclear : Process.ClearOf settings root start scope) :
    (Toolchain.process programs settings root).Simulates
      (World.AlikeFrom start.workDir scope : World τ → World τ → Prop)
      (Toolchain.process programs settings root) := by
  rintro world world' ⟨hworkDir, halike⟩ request
  have hran := Process.alike_run hignores halike (hclear.congr hworkDir) request
  have hstays := (Process.modifiesOnly_run hleaves root request world.disk).workDir
  simp only [Toolchain.process]
  generalize Process.run programs settings root request world.disk = ran at hran hstays
  generalize Process.run programs settings root request world'.disk = ran' at hran
  cases hran with
  | intro output hleft => exact ⟨rfl, hstays.trans hworkDir, hleft⟩

theorem Cache.none_simulates (workDir : Location) (scope : Location → Prop) :
    Cache.none.Simulates (World.AlikeFrom workDir scope : World τ → World τ → Prop) Cache.none where
  load _ _ := rfl
  store h _ _ := ⟨rfl, h⟩

end

end Weave
