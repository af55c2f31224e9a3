import Weave.Proofs.Interleaving

/-!
# Weave.Proofs.SharedDirectory — a cache directory that is shared

Stores into one directory may take turns in any order, and loads may come between any two turns.
Reports are written to files of their own, which nobody loads from, and an entry is changed by
renaming such a file and by nothing else: so an entry always has a complete report, and it is one for
its own key.

1. **Below a directory**: what stands there (`load_of_leads`), and what writing and renaming a file
   changes (`write_temp`, `rename_temp`).
2. **Turns**: `Deposit.Turns` says all that a turn of a store can do once the directory is there
   (`turns_step`, `turns_writePart`).
3. **Invariant**: `Shared` says what stands in the directory while stores are under way. Every turn
   keeps it (`Shared.take`), and what comes before the directory is there leads to it
   (`Waiting.take`).
4. **Schedules**: what holds of every state that a schedule leads to (`Reached`), put together in
   `run_shared`.
-/

namespace Weave

namespace DiskCache

/-! ## Below a directory -/

section

variable {dir : Text} {disk : Disk}

/-- The disk on which a cache directory was created. -/
def provided (dir : Text) (disk : Disk) : Disk :=
  (disk.createDirs dir).2

/-- What comes there are directories. -/
theorem grows_provided (dir : Text) (disk : Disk) :
    disk.Grows (fun l => ∃ p ∈ PathName.ancestors dir, l = disk.locationOf p) Disk.Nowhere
      (provided dir disk) :=
  Disk.grows_createDirs disk dir

/-- What stands at an entry. -/
theorem stat_entry (hleads : disk.Leads dir) (hnul : '\x00' ∉ dir) (request : Request) :
    disk.stat (entryFile dir (.ofRequest request))
      = (disk.node? (entryName request :: disk.locationOf dir)).elim (.error .notFound) .ok :=
  Disk.stat_of_leads hleads (isName_entryName request) (noNul_entryFile hnul request)

theorem stat_temp (hleads : disk.Leads dir) (hnul : '\x00' ∉ dir) (deposit : Deposit) :
    disk.stat (deposit.temp dir)
      = (disk.node? (partName deposit.request deposit.stamp :: disk.locationOf dir)).elim
          (.error .notFound) .ok :=
  Disk.stat_of_leads hleads (isName_partName deposit.request deposit.stamp)
    (noNul_tempPath hnul deposit.request deposit.stamp)

/-- What is loaded from there. -/
theorem load_of_leads (hleads : disk.Leads dir) (hnul : '\x00' ∉ dir) (request : Request) :
    load dir (.ofRequest request) disk
      = (disk.node? (entryName request :: disk.locationOf dir)).elim (.ok none) fun node =>
          node.text.map some :=
  load_eq_of_stat (stat_entry hleads hnul request)

end

namespace Deposit

variable (deposit : Deposit) (home : Location)

/-- Where the report is in the end, if the directory is at `home`. -/
def entryAt : Location :=
  entryName deposit.request :: home

/-- Where it is while it is written. -/
def tempAt : Location :=
  partName deposit.request deposit.stamp :: home

variable {deposit home} {other : Deposit}

theorem tempAt_ne_entryAt : deposit.tempAt home ≠ other.entryAt home :=
  fun h => partName_ne_entryName _ _ _ (List.cons.inj h).1

theorem temp_eq_of_tempAt (h : deposit.tempAt home = other.tempAt home) (dir : Text) :
    deposit.temp dir = other.temp dir :=
  congrArg (PathName.join dir) (List.cons.inj h).1

section

variable {dir : Text} {disk : Disk}

/-- A report is written, or a part of it: the file for it holds that, and nothing else changes. -/
theorem write_temp (hleads : disk.Leads dir) (hnul : '\x00' ∉ dir)
    (hfile : disk.node? (deposit.tempAt (disk.locationOf dir)) = none ∨
      ∃ old, disk.node? (deposit.tempAt (disk.locationOf dir)) = some (.file old))
    (bytes : ByteArray) :
    ∃ written, disk.write (deposit.temp dir) bytes = .ok written ∧
      written.workDir = disk.workDir ∧ written.Leads dir ∧
      ∀ l, written.node? l = if l = deposit.tempAt (disk.locationOf dir) then some (.file bytes)
        else disk.node? l := by
  have hwrite := Disk.write_join hleads (isName_partName deposit.request deposit.stamp)
    (noNul_tempPath hnul deposit.request deposit.stamp) hfile bytes
  have hgrown : disk.Grows Disk.Nowhere _ _ := Disk.grows_write hwrite
  exact ⟨_, hwrite, rfl, hleads.grows hgrown, fun l => disk.node?_put l _ (List.cons_ne_nil _ _)⟩

/-- The file is renamed: it is where the entry was, and nothing else changes. -/
theorem rename_temp (hleads : disk.Leads dir) (hnul : '\x00' ∉ dir) {bytes : ByteArray}
    (hfile : disk.node? (deposit.tempAt (disk.locationOf dir)) = some (.file bytes))
    (hentry : disk.node? (deposit.entryAt (disk.locationOf dir)) ≠ some .dir) :
    ∃ renamed, disk.rename (deposit.temp dir) (deposit.entry dir) = .ok renamed ∧
      renamed.workDir = disk.workDir ∧ renamed.Leads dir ∧
      ∀ l, renamed.node? l = if l = deposit.entryAt (disk.locationOf dir) then some (.file bytes)
        else if l = deposit.tempAt (disk.locationOf dir) then none else disk.node? l := by
  have hrename := Disk.rename_join hleads (isName_partName deposit.request deposit.stamp)
    (noNul_tempPath hnul deposit.request deposit.stamp) (isName_entryName deposit.request)
    (noNul_entryFile hnul deposit.request) hfile hentry
  have hgrown : disk.Grows Disk.Nowhere _ _ := Disk.grows_rename hrename
  refine ⟨_, hrename, rfl, hleads.grows hgrown, fun l => ?_⟩
  rw [Disk.node?_put _ l _ (List.cons_ne_nil _ _), Disk.node?_drop disk l (List.cons_ne_nil _ _)]
  rfl

end

/-! ## Turns -/

/-- What stands where the report is written, by how far the store has come. Something may be left
there of another store that was broken off; then it is a file. -/
def TempIs (deposit : Deposit) : Stage → Option Node → Prop
  | .checking, node | .creating, node | .writing, node =>
    node = none ∨ ∃ bytes, node = some (.file bytes)
  | .moving, node => node = some (.file (Text.encode deposit.report))
  | .stored, node => node = none
  | .failed _, _ => False

/-- What a turn of a store can do to a disk with the directory at `home`. -/
inductive Turns (deposit : Deposit) (dir : Text) (home : Location) (disk : Disk) :
    Stage → Stage × Disk → Prop where
  /-- Nothing is changed. -/
  | rests {before after : Stage}
      (htemp : ∀ node, deposit.TempIs before node → deposit.TempIs after node)
      (hstored : after = .stored ↔ before = .stored) :
      Turns deposit dir home disk before (after, disk)
  /-- The report is written, or a part of it. -/
  | writes {bytes : ByteArray} {after : Stage} {written : Disk}
      (hafter : after = .writing ∨ after = .moving ∧ bytes = Text.encode deposit.report)
      (hworkDir : written.workDir = disk.workDir) (hleads : written.Leads dir)
      (hnode : ∀ l, written.node? l = if l = deposit.tempAt home then some (.file bytes)
        else disk.node? l) :
      Turns deposit dir home disk .writing (after, written)
  /-- The file with the report takes the place of the entry. -/
  | renames {renamed : Disk} (hworkDir : renamed.workDir = disk.workDir)
      (hleads : renamed.Leads dir)
      (hnode : ∀ l, renamed.node? l = if l = deposit.entryAt home
        then some (.file (Text.encode deposit.report))
        else if l = deposit.tempAt home then none else disk.node? l) :
      Turns deposit dir home disk .moving (.stored, renamed)

section

variable {dir : Text} {disk : Disk} {stage : Stage}

theorem turns_step (hleads : disk.Leads dir) (hnul : '\x00' ∉ dir)
    (htemp : deposit.TempIs stage (disk.node? (deposit.tempAt (disk.locationOf dir))))
    (hentry : disk.node? (deposit.entryAt (disk.locationOf dir)) ≠ some .dir) :
    deposit.Turns dir (disk.locationOf dir) disk stage (deposit.step dir (stage, disk)) := by
  cases stage with
  | checking =>
    rw [step]
    split
    · exact .rests (fun _ h => h) (by simp)
    · exact .rests (fun _ h => h) (by simp)
  | creating =>
    -- another store has created it in the meantime, which is no failure
    rw [step, Disk.createDirs_of_leads hleads hnul]
    exact .rests (fun _ h => h) (by simp)
  | writing =>
    have hgrown : disk.Grows Disk.Nowhere Disk.Nowhere disk.tick := Disk.grows_tick disk
    have hticked : disk.tick.Leads dir := hleads.grows hgrown
    obtain ⟨written, hwrite, hworkDir, hwritten, hnode⟩ :=
      write_temp hticked hnul htemp (Text.encode deposit.report)
    rw [step, Disk.writeText, hwrite]
    exact .writes (.inr ⟨rfl, rfl⟩) hworkDir hwritten hnode
  | moving =>
    obtain ⟨renamed, hrename, hworkDir, hrenamed, hnode⟩ := rename_temp hleads hnul htemp hentry
    rw [step, hrename]
    exact .renames hworkDir hrenamed hnode
  | stored => exact .rests (fun _ h => h) Iff.rfl
  | failed e => exact htemp.elim

theorem turns_writePart (hleads : disk.Leads dir) (hnul : '\x00' ∉ dir)
    (htemp : deposit.TempIs stage (disk.node? (deposit.tempAt (disk.locationOf dir))))
    (size : Nat) :
    deposit.Turns dir (disk.locationOf dir) disk stage
      (deposit.writePart dir size (stage, disk)) := by
  cases stage with
  | writing =>
    obtain ⟨written, hwrite, hworkDir, hwritten, hnode⟩ :=
      write_temp hleads hnul htemp ((Text.encode deposit.report).extract 0 size)
    rw [writePart, hwrite]
    exact .writes (.inl rfl) hworkDir hwritten hnode
  | checking | creating | moving | stored => exact .rests (fun _ h => h) Iff.rfl
  | failed e => exact htemp.elim

end

end Deposit

/-! ## The invariant -/

/-- Stores that may go on at a time: a directory that can be created, or is there; different files to
write to, which are no directories or devices if there is anything; and no directories where the
entries are. Nothing is created for the empty path: that one is the working directory, which has to
be there. -/
structure Shareable {ι : Type} (dir : Text) (deposits : ι → Deposit) (disk : Disk) : Prop where
  workDir : dir = [] → disk.node? disk.workDir = some .dir
  creatable : (disk.createDirs dir).1 = .ok ()
  different : ∀ i j, i ≠ j → (deposits i).temp dir ≠ (deposits j).temp dir
  temps : ∀ i, (provided dir disk).pathExists ((deposits i).temp dir) = true →
    (provided dir disk).isFile ((deposits i).temp dir) = true
  entries : ∀ i, (provided dir disk).isDir ((deposits i).entry dir) = false

/-- What stands on a disk while stores are under way, if `made` is the disk on which the directory was
created. Where reports are written stands what each store has written so far. Everywhere else is what
stood there before, or an entry that has the report of a store that has ended. -/
structure Shared {ι : Type} (dir : Text) (deposits : ι → Deposit) (made : Disk)
    (state : Sharing ι) : Prop where
  workDir : state.disk.workDir = made.workDir
  leads : state.disk.Leads dir
  temps : ∀ i, (deposits i).TempIs (state.stage i)
    (state.disk.node? ((deposits i).tempAt (made.locationOf dir)))
  others : ∀ l, (∀ i, l ≠ (deposits i).tempAt (made.locationOf dir)) →
    (state.disk.node? l = made.node? l ∧
      ∀ i, l = (deposits i).entryAt (made.locationOf dir) → state.stage i ≠ .stored) ∨
    ∃ i, l = (deposits i).entryAt (made.locationOf dir) ∧ state.stage i = .stored ∧
      state.disk.node? l = some (.file (Text.encode (deposits i).report))

/-- The state before any store has found or created the directory. -/
structure Waiting {ι : Type} (disk : Disk) (state : Sharing ι) : Prop where
  disk_eq : state.disk = disk
  stages : ∀ i, state.stage i = .checking ∨ state.stage i = .creating

section

variable {ι : Type} {dir : Text} {deposits : ι → Deposit} {disk : Disk}

namespace Shareable

variable (h : Shareable dir deposits disk)

include h

theorem createDirs_eq : disk.createDirs dir = (.ok (), provided dir disk) :=
  Prod.ext h.creatable rfl

theorem noNul : '\x00' ∉ dir := by
  have hprovide : disk.provideDir dir = (.ok (), (disk.provideDir dir).2) := by
    unfold Disk.provideDir
    split
    · rfl
    · exact h.createDirs_eq
  exact Disk.noNul_of_provideDir hprovide

theorem leads : (provided dir disk).Leads dir :=
  Disk.leads_of_createDirs h.workDir h.createDirs_eq

/-- A directory that is there is not changed. What is there is a directory, for no other thing is in
the way of creating it. -/
theorem provided_eq (hexists : disk.pathExists dir = true) : provided dir disk = disk := by
  obtain ⟨node, hstat⟩ : ∃ node, disk.stat dir = .ok node := exists_ok_of_isOk hexists
  obtain ⟨hlocate, hnode⟩ := Disk.node?_of_stat hstat
  have hgrown := grows_provided dir disk
  have hdir := h.leads.isDir
  rw [Disk.locationOf_congr hgrown.workDir] at hdir
  have hsame : (provided dir disk).node? (disk.locationOf dir) = some node :=
    hgrown.node? hnode id
  obtain rfl : node = .dir := Option.some.inj (hsame.symm.trans hdir)
  have hleads : disk.Leads dir := ⟨Disk.walk_steps_of_locate hlocate, hnode⟩
  exact congrArg Prod.snd (Disk.createDirs_of_leads hleads h.noNul)

theorem entry_ne_dir (i : ι) :
    (provided dir disk).node? ((deposits i).entryAt ((provided dir disk).locationOf dir))
      ≠ some .dir := by
  intro hdir
  have hnone := h.entries i
  have hstat := stat_entry h.leads h.noNul (deposits i).request
  rw [Deposit.entryAt] at hdir
  rw [hdir] at hstat
  have hfound : (provided dir disk).stat ((deposits i).entry dir) = .ok .dir := hstat
  simp [Disk.isDir, hfound] at hnone

theorem temp_isFile (i : ι) :
    (provided dir disk).node? ((deposits i).tempAt ((provided dir disk).locationOf dir)) = none ∨
      ∃ bytes, (provided dir disk).node? ((deposits i).tempAt ((provided dir disk).locationOf dir))
        = some (.file bytes) := by
  have hfile := h.temps i
  have hstat := stat_temp h.leads h.noNul (deposits i)
  rw [Disk.pathExists, Disk.isFile, hstat] at hfile
  rw [Deposit.tempAt]
  cases hnode : (provided dir disk).node? (partName (deposits i).request (deposits i).stamp
      :: (provided dir disk).locationOf dir) with
  | none => exact .inl rfl
  | some node =>
    rw [hnode] at hfile
    cases node with
    | file bytes => exact .inr ⟨bytes, rfl⟩
    | dir => cases hfile rfl
    | sink => cases hfile rfl

/-- Different stores write to different places. -/
theorem tempAt_ne {i j : ι} (hij : i ≠ j) (home : Location) :
    (deposits i).tempAt home ≠ (deposits j).tempAt home :=
  fun heq => h.different i j hij (Deposit.temp_eq_of_tempAt heq dir)

/-- Stores that have not written anything, where the directory is. -/
theorem shared {state : Sharing ι} (hdisk : state.disk = provided dir disk)
    (hstage : ∀ i, state.stage i = .checking ∨ state.stage i = .creating ∨
      state.stage i = .writing) : Shared dir deposits (provided dir disk) state where
  workDir := by rw [hdisk]
  leads := hdisk ▸ h.leads
  temps i := by
    rw [hdisk]
    obtain hi | hi | hi := hstage i <;> rw [hi] <;> exact h.temp_isFile i
  others l _ := by
    refine .inl ⟨by rw [hdisk], fun i _ hstored => ?_⟩
    obtain hi | hi | hi := hstage i <;> rw [hi] at hstored <;> cases hstored

end Shareable

section

variable [DecidableEq ι] {state : Sharing ι} {made : Disk}

/-- What a turn of a store can do keeps the invariant. -/
theorem Shared.put (h : Shared dir deposits made state)
    (hdifferent : ∀ i j, i ≠ j → (deposits i).tempAt (made.locationOf dir)
      ≠ (deposits j).tempAt (made.locationOf dir)) {i : ι} {after : Stage × Disk}
    (hturn : (deposits i).Turns dir (made.locationOf dir) state.disk (state.stage i) after) :
    Shared dir deposits made (state.put i after) := by
  -- a turn touches the file of its own store, or puts it in the place of the entry
  have htemps := h.temps i
  generalize hbefore : state.stage i = before at hturn htemps
  cases hturn with
  | @rests before stage htemp hstored =>
    have hsame : ∀ j, (state.put i (stage, state.disk)).stage j = .stored ↔ state.stage j = .stored :=
      Sharing.forall_put (fun j stage => stage = .stored ↔ state.stage j = .stored)
        (by rw [hbefore, hstored]) fun _ _ => Iff.rfl
    refine ⟨h.workDir, h.leads, ?_, fun l hl => ?_⟩
    · exact Sharing.forall_put (fun j stage => (deposits j).TempIs stage
        (state.disk.node? ((deposits j).tempAt (made.locationOf dir)))) (htemp _ htemps)
        fun j _ => h.temps j
    · simp only [ne_eq, hsame]
      exact h.others l hl
  | @writes bytes stage written hafter hworkDir hleads hnode =>
    have hsame : ∀ j, (state.put i (stage, written)).stage j = .stored ↔ state.stage j = .stored := by
      refine Sharing.forall_put (fun j stage => stage = .stored ↔ state.stage j = .stored) ?_
        fun _ _ => Iff.rfl
      rw [hbefore]
      obtain rfl | ⟨rfl, -⟩ := hafter <;> simp
    refine ⟨hworkDir.trans h.workDir, hleads, ?_, fun l hl => ?_⟩
    · -- the file of this store alone is another one
      refine Sharing.forall_put (fun j stage => (deposits j).TempIs stage
        (written.node? ((deposits j).tempAt (made.locationOf dir)))) ?_ fun j hj => ?_
      · rw [hnode, if_pos rfl]
        obtain rfl | ⟨rfl, rfl⟩ := hafter
        · exact .inr ⟨bytes, rfl⟩
        · rfl
      · rw [hnode, if_neg (hdifferent j i hj)]
        exact h.temps j
    · simp only [ne_eq, hsame]
      rw [Sharing.put_disk, hnode, if_neg (hl i)]
      exact h.others l hl
  | @renames renamed hworkDir hleads hnode =>
    refine ⟨hworkDir.trans h.workDir, hleads, ?_, fun l hl => ?_⟩
    · -- it is gone, and the files of the others are as they were
      refine Sharing.forall_put (fun j stage => (deposits j).TempIs stage
        (renamed.node? ((deposits j).tempAt (made.locationOf dir)))) ?_ fun j hj => ?_
      · rw [hnode, if_neg Deposit.tempAt_ne_entryAt, if_pos rfl]
        rfl
      · rw [hnode, if_neg Deposit.tempAt_ne_entryAt, if_neg (hdifferent j i hj)]
        exact h.temps j
    · rw [Sharing.put_disk, hnode, if_neg (hl i)]
      by_cases hentry : l = (deposits i).entryAt (made.locationOf dir)
      · -- the entry has the report of this store, whatever it had before
        rw [if_pos hentry]
        exact .inr ⟨i, hentry, Sharing.put_stage_self _ _ _, rfl⟩
      · rw [if_neg hentry]
        have hne : ∀ j, l = (deposits j).entryAt (made.locationOf dir) → j ≠ i := by
          rintro j hj rfl
          exact hentry hj
        obtain ⟨hmade, hnone⟩ | ⟨j, hj, hstored, hreport⟩ := h.others l hl
        · refine .inl ⟨hmade, fun j hj => ?_⟩
          rw [Sharing.put_stage_of_ne state (hne j hj)]
          exact hnone j hj
        · refine .inr ⟨j, hj, ?_, hreport⟩
          rw [Sharing.put_stage_of_ne state (hne j hj)]
          exact hstored

/-- Every turn keeps the invariant. -/
theorem Shared.take (h : Shareable dir deposits disk)
    (hshared : Shared dir deposits (provided dir disk) state) (turn : Turn ι) :
    Shared dir deposits (provided dir disk) (state.take dir deposits turn) := by
  have hlocation := Disk.locationOf_congr hshared.workDir dir
  have hentry : ∀ i, state.disk.node? ((deposits i).entryAt (state.disk.locationOf dir))
      ≠ some .dir := by
    intro i
    rw [hlocation]
    have hne : ∀ j, (deposits i).entryAt ((provided dir disk).locationOf dir)
        ≠ (deposits j).tempAt ((provided dir disk).locationOf dir) :=
      fun j => Deposit.tempAt_ne_entryAt.symm
    obtain ⟨hmade, -⟩ | ⟨j, -, -, hreport⟩ := hshared.others _ hne
    · rw [hmade]
      exact h.entry_ne_dir i
    · rw [hreport]
      simp
  have htemps := hshared.temps
  rw [← hlocation] at htemps
  cases turn with
  | step i =>
    refine hshared.put (fun i j hij => h.tempAt_ne hij _) ?_
    rw [← hlocation]
    exact Deposit.turns_step hshared.leads h.noNul (htemps i) (hentry i)
  | part i size =>
    refine hshared.put (fun i j hij => h.tempAt_ne hij _) ?_
    rw [← hlocation]
    exact Deposit.turns_writePart hshared.leads h.noNul (htemps i) size

/-- Before the directory is there, a turn leads to the invariant or leaves everything as it is. -/
theorem Waiting.take (h : Shareable dir deposits disk) (hwaiting : Waiting disk state)
    (turn : Turn ι) :
    Waiting disk (state.take dir deposits turn) ∨
      Shared dir deposits (provided dir disk) (state.take dir deposits turn) := by
  have hrests : ∀ {i after}, after = .checking ∨ after = .creating →
      Waiting disk (state.put i (after, disk)) := by
    intro i after hafter
    exact ⟨rfl, Sharing.forall_put (fun _ stage => stage = .checking ∨ stage = .creating) hafter
      fun j _ => hwaiting.stages j⟩
  have hbegins : ∀ i, Shared dir deposits (provided dir disk)
      (state.put i (.writing, provided dir disk)) := by
    intro i
    exact h.shared rfl (Sharing.forall_put
      (fun _ stage => stage = .checking ∨ stage = .creating ∨ stage = .writing) (.inr (.inr rfl))
      fun j _ => (hwaiting.stages j).imp_right .inl)
  cases turn with
  | step i =>
    rw [Sharing.take, hwaiting.disk_eq]
    obtain hstage | hstage := hwaiting.stages i
    · rw [hstage, Deposit.step]
      by_cases hexists : disk.pathExists dir = true
      · -- the directory was there from the start, so creating it would change nothing
        have hfound := hbegins i
        rw [h.provided_eq hexists] at hfound ⊢
        rw [if_pos hexists]
        exact .inr hfound
      · rw [if_neg hexists]
        exact .inl (hrests (.inr rfl))
    · rw [hstage, Deposit.step, h.createDirs_eq]
      exact .inr (hbegins i)
  | part i size =>
    -- nothing is written yet
    rw [Sharing.take, hwaiting.disk_eq]
    obtain hstage | hstage := hwaiting.stages i
    · rw [hstage]
      exact .inl (hrests (.inl rfl))
    · rw [hstage]
      exact .inl (hrests (.inr rfl))

end

/-! ## What is found -/

/-- A directory that is created has in it what can be found at its path before. If the path has dots in
it, there may be something that was not found while a directory on the way was missing. -/
theorem Shareable.load_provided (h : Shareable dir deposits disk)
    (hplain : disk.pathExists dir = true ∨ disk.IsTree ∧ ['.', '.'] ∉ PathName.segments dir)
    (request : Request) :
    load dir (.ofRequest request) (provided dir disk) = load dir (.ofRequest request) disk := by
  by_cases hexists : disk.pathExists dir = true
  · rw [h.provided_eq hexists]
  · obtain ⟨htree, hup⟩ := hplain.resolve_left hexists
    have hgrown := grows_provided dir disk
    have hlocation := Disk.locationOf_congr hgrown.workDir dir
    have hmade : (provided dir disk).IsTree := by
      have hprovided := htree.provideDir dir
      rwa [Disk.provideDir, if_neg hexists] at hprovided
    have hentry : (provided dir disk).node? (entryName request :: disk.locationOf dir)
        = disk.node? (entryName request :: disk.locationOf dir) := by
      rcases hgrown.others (entryName request :: disk.locationOf dir) id
        with hsame | ⟨⟨p, hp, hfresh⟩, -⟩
      · exact hsame
      · -- what is created is on the way to the directory, and not below it
        have habove := Disk.suffix_of_mem_ancestors hup p hp disk
        rw [← hfresh] at habove
        exact absurd (below_cons _) (not_below_of_suffix habove)
    -- so the path finds the entry, or something on the way is missing and the entry is too
    have hdirs : ∀ l, l <:+ disk.locationOf dir →
        disk.node? l = none ∨ disk.node? l = some .dir := by
      intro l hl
      have hdir := hmade.dir_of_suffix h.leads.isDir (hlocation ▸ hl)
      rcases hgrown.others l id with hsame | ⟨-, hnone, -⟩
      · exact .inr (hsame ▸ hdir)
      · exact .inl hnone
    have hstat := Disk.stat_join htree hup hdirs (isName_entryName request)
      (noNul_entryFile h.noNul request)
    rw [load_of_leads h.leads h.noNul, hlocation, hentry]
    exact (load_eq_of_stat hstat).symm

theorem entryAt_eq_iff {deposit : Deposit} {request : Request} {home : Location} :
    entryName request :: home = deposit.entryAt home ↔ deposit.key = .ofRequest request := by
  constructor
  · intro h
    exact (ofRequest_eq_of_entryName (List.cons.inj h).1).symm
  · intro h
    rw [Deposit.entryAt, entryName, entryName, ← h]
    rfl

section

variable {state : Sharing ι}

/-- What stands at an entry while stores are under way: what stood there before, if no store for it has
ended, and else the report of one. -/
theorem Shared.entry {made : Disk} (h : Shared dir deposits made state) (request : Request) :
    (state.disk.node? (entryName request :: made.locationOf dir)
        = made.node? (entryName request :: made.locationOf dir) ∧
      ∀ i, (deposits i).key = .ofRequest request → state.stage i ≠ .stored) ∨
    ∃ i, (deposits i).key = .ofRequest request ∧ state.stage i = .stored ∧
      state.disk.node? (entryName request :: made.locationOf dir)
        = some (.file (Text.encode (deposits i).report)) := by
  have hothers := h.others (entryName request :: made.locationOf dir) fun i heq =>
    partName_ne_entryName _ _ _ (List.cons.inj heq).1.symm
  simpa only [entryAt_eq_iff] using hothers

/-- So this is what is loaded. -/
theorem Shared.load (h : Shareable dir deposits disk)
    (hshared : Shared dir deposits (provided dir disk) state) (request : Request) :
    (load dir (.ofRequest request) state.disk = load dir (.ofRequest request) (provided dir disk) ∧
      ∀ i, (deposits i).key = .ofRequest request → state.stage i ≠ .stored) ∨
    ∃ i, (deposits i).key = .ofRequest request ∧ state.stage i = .stored ∧
      load dir (.ofRequest request) state.disk = .ok (some (deposits i).report) := by
  rw [load_of_leads hshared.leads h.noNul, load_of_leads h.leads h.noNul,
    Disk.locationOf_congr hshared.workDir]
  obtain ⟨hmade, hnone⟩ | ⟨i, hkey, hstored, hreport⟩ := hshared.entry request
  · exact .inl ⟨by rw [hmade], hnone⟩
  · refine .inr ⟨i, hkey, hstored, ?_⟩
    rw [hreport]
    simp only [Option.elim_some, text_encode, Except.map]

/-- An entry is there if it was there before, or a store for it has ended. -/
theorem Shared.pathExists_iff (h : Shareable dir deposits disk)
    (hshared : Shared dir deposits (provided dir disk) state) (request : Request) :
    state.disk.pathExists (entryFile dir (.ofRequest request)) = true ↔
      (provided dir disk).pathExists (entryFile dir (.ofRequest request)) = true ∨
        ∃ i, (deposits i).key = .ofRequest request ∧ state.stage i = .stored := by
  have hexists : ∀ found : Disk, found.Leads dir →
      (found.pathExists (entryFile dir (.ofRequest request)) = true ↔
        found.node? (entryName request :: found.locationOf dir) ≠ none) := by
    intro found hleads
    rw [Disk.pathExists, stat_entry hleads h.noNul]
    cases found.node? (entryName request :: found.locationOf dir) <;>
      simp [Except.isOk, Except.toBool]
  rw [hexists _ hshared.leads, hexists _ h.leads, Disk.locationOf_congr hshared.workDir]
  obtain ⟨hmade, hnone⟩ | ⟨i, hkey, hstored, hreport⟩ := hshared.entry request
  · rw [hmade]
    refine ⟨.inl, fun hor => hor.resolve_right ?_⟩
    rintro ⟨i, hkey, hstored⟩
    exact hnone i hkey hstored
  · rw [hreport]
    exact ⟨fun _ => .inr ⟨i, hkey, hstored⟩, fun _ => Option.some_ne_none _⟩

end

end

/-! ## Schedules -/

/-- The states that schedules lead to. -/
def Reached {ι : Type} (dir : Text) (deposits : ι → Deposit) (disk : Disk) (state : Sharing ι) :
    Prop :=
  Waiting disk state ∨ Shared dir deposits (provided dir disk) state

theorem reached_start {ι : Type} (dir : Text) (deposits : ι → Deposit) (disk : Disk) :
    Reached dir deposits disk (.start disk) :=
  .inl ⟨rfl, fun _ => .inl rfl⟩

section

variable {ι : Type} {dir : Text} {deposits : ι → Deposit} {disk : Disk} {state : Sharing ι}

theorem Reached.ne_failed (hreached : Reached dir deposits disk state) (i : ι) (e : IoError) :
    state.stage i ≠ .failed e := by
  intro hfailed
  obtain hwaiting | hshared := hreached
  · obtain hstage | hstage := hwaiting.stages i <;> cases hfailed.symm.trans hstage
  · have htemp := hshared.temps i
    rw [hfailed] at htemp
    exact htemp

/-- A store that has no steps before it has ended well. -/
theorem Reached.stored_of_rank (hreached : Reached dir deposits disk state) {i : ι}
    (hrank : (state.stage i).rank = 0) : state.stage i = .stored := by
  have hfails := hreached.ne_failed i
  cases hstage : state.stage i with
  | stored => rfl
  | failed e => exact absurd hstage (hfails e)
  | checking | creating | writing | moving =>
    rw [hstage] at hrank
    cases hrank

theorem Reached.shared_of_stored (hreached : Reached dir deposits disk state) {i : ι}
    (hstored : state.stage i = .stored) : Shared dir deposits (provided dir disk) state := by
  refine hreached.resolve_left fun hwaiting => ?_
  obtain hstage | hstage := hwaiting.stages i <;> cases hstored.symm.trans hstage

/-- When a store has ended, the file that it has written to is gone. -/
theorem Reached.temp_gone (h : Shareable dir deposits disk)
    (hreached : Reached dir deposits disk state) {i : ι} (hstored : state.stage i = .stored) :
    state.disk.pathExists ((deposits i).temp dir) = false := by
  have hshared := hreached.shared_of_stored hstored
  have htemp := hshared.temps i
  rw [hstored, ← Disk.locationOf_congr hshared.workDir] at htemp
  have hnone : state.disk.node? (partName (deposits i).request (deposits i).stamp
      :: state.disk.locationOf dir) = none := htemp
  rw [Disk.pathExists, stat_temp hshared.leads h.noNul, hnone]
  rfl

/-- Its entry has a report that was stored for its key. -/
theorem Reached.entry_stored (h : Shareable dir deposits disk)
    (hreached : Reached dir deposits disk state) {i : ι} (hstored : state.stage i = .stored) :
    ∃ j, (deposits j).key = (deposits i).key ∧ state.stage j = .stored ∧
      load dir (deposits i).key state.disk = .ok (some (deposits j).report) := by
  have hshared := hreached.shared_of_stored hstored
  obtain ⟨-, hnone⟩ | hreport := hshared.load h (deposits i).request
  · exact absurd hstored (hnone i rfl)
  · exact hreport

variable [DecidableEq ι]

/-- A schedule keeps the invariant, -/
theorem Shared.run (h : Shareable dir deposits disk)
    (hshared : Shared dir deposits (provided dir disk) state) (schedule : List (Turn ι)) :
    Shared dir deposits (provided dir disk) (state.run dir deposits schedule) :=
  Sharing.run_induction (Shared dir deposits (provided dir disk))
    (fun _ turn hbefore => hbefore.take h turn) hshared schedule

/-- and it leads there if it gets anywhere. -/
theorem Reached.run (h : Shareable dir deposits disk) (hreached : Reached dir deposits disk state)
    (schedule : List (Turn ι)) : Reached dir deposits disk (state.run dir deposits schedule) := by
  refine Sharing.run_induction (Reached dir deposits disk) ?_ hreached schedule
  rintro before turn (hbefore | hbefore)
  · exact hbefore.take h turn
  · exact .inr (hbefore.take h turn)

/-- An entry that is there stays there. -/
theorem Reached.pathExists_run (h : Shareable dir deposits disk)
    (hreached : Reached dir deposits disk state) {request : Request}
    (hexists : state.disk.pathExists (entryFile dir (.ofRequest request)) = true)
    (schedule : List (Turn ι)) :
    (state.run dir deposits schedule).disk.pathExists (entryFile dir (.ofRequest request))
      = true := by
  obtain hwaiting | hshared := hreached
  · obtain hwaiting' | hshared' := Reached.run h (.inl hwaiting) schedule
    · rw [hwaiting'.disk_eq, ← hwaiting.disk_eq]
      exact hexists
    · -- it was there before the directory was created
      rw [hwaiting.disk_eq] at hexists
      obtain ⟨node, hstat⟩ : ∃ node, disk.stat (entryFile dir (.ofRequest request)) = .ok node :=
        exists_ok_of_isOk hexists
      refine (hshared'.pathExists_iff h request).2 (.inl ?_)
      rw [Disk.pathExists, (grows_provided dir disk).stat hstat id]
      rfl
  · rw [hshared.pathExists_iff h request] at hexists
    refine ((hshared.run h schedule).pathExists_iff h request).2 (hexists.imp_right ?_)
    rintro ⟨i, hkey, hstored⟩
    refine ⟨i, hkey, ?_⟩
    exact Sharing.run_induction (fun after => after.stage i = .stored)
      (fun _ turn hbefore => Sharing.stored_take hbefore turn) hstored schedule

/-- Stores into a shared directory, in any order of their steps, with a report written in any number
of parts. The steps are those of the cache: one after the other, they are its store. No store fails,
and each is finished after four steps of its own, whatever the others do. A load finds what the entry
had before, at its path or once the directory was created, or it finds the complete report of a store
for that key that has ended. What it had before is the same at both times if the directory was there,
or if its path has no dots in it. An entry that is there stays there. When all stores have ended, the
files they have written to are gone, and each entry has the complete report of a store for its key. -/
theorem run_shared (h : Shareable dir deposits disk) (schedule : List (Turn ι)) :
    let state := (Sharing.start disk).run dir deposits schedule
    (∀ request report (before : Disk), ∃ n stage,
      (Deposit.step dir ⟨request, report, before.stamp⟩)^[n] (.checking, before)
        = (stage, (store dir (.ofRequest request) report before).2) ∧
      stage.result? = some (store dir (.ofRequest request) report before).1) ∧
    (∀ i, (∀ e, state.stage i ≠ .failed e) ∧
      (4 ≤ schedule.count (.step i) → state.stage i = .stored)) ∧
    (∀ request,
      load dir (.ofRequest request) state.disk = load dir (.ofRequest request) disk ∨
      load dir (.ofRequest request) state.disk = load dir (.ofRequest request) (provided dir disk) ∨
      ∃ i, (deposits i).key = .ofRequest request ∧ state.stage i = .stored ∧
        load dir (.ofRequest request) state.disk = .ok (some (deposits i).report)) ∧
    (disk.pathExists dir = true ∨ disk.IsTree ∧ ['.', '.'] ∉ PathName.segments dir →
      ∀ request, load dir (.ofRequest request) (provided dir disk)
        = load dir (.ofRequest request) disk) ∧
    (∀ request more, state.disk.pathExists (entryFile dir (.ofRequest request)) = true →
      (state.run dir deposits more).disk.pathExists (entryFile dir (.ofRequest request)) = true) ∧
    ((∀ i, state.stage i = .stored) →
      (∀ i, state.disk.pathExists ((deposits i).temp dir) = false) ∧
      ∀ i, ∃ j, (deposits j).key = (deposits i).key ∧
        load dir (deposits i).key state.disk = .ok (some (deposits j).report)) := by
  intro state
  have hreached : Reached dir deposits disk state :=
    (reached_start dir deposits disk).run h schedule
  refine ⟨fun request report before => store_eq_steps dir request report before,
    fun i => ⟨hreached.ne_failed i, fun hcount => ?_⟩, fun request => ?_, h.load_provided,
    fun request more hexists => hreached.pathExists_run h hexists more,
    fun hall => ⟨fun i => hreached.temp_gone h (hall i), fun i => ?_⟩⟩
  · have hrank := Sharing.rank_run dir deposits (.start disk) schedule i
    have hfirst : ((Sharing.start disk : Sharing ι).stage i).rank = 4 := rfl
    rw [hfirst, Nat.sub_eq_zero_of_le hcount] at hrank
    exact hreached.stored_of_rank (Nat.le_zero.1 hrank)
  · obtain hwaiting | hshared := hreached
    · exact .inl (by rw [hwaiting.disk_eq])
    · obtain ⟨hmade, -⟩ | hreport := hshared.load h request
      · exact .inr (.inl hmade)
      · exact .inr (.inr hreport)
  · obtain ⟨j, hkey, -, hreport⟩ := hreached.entry_stored h (hall i)
    exact ⟨j, hkey, hreport⟩

end

/-- Two reports for one program. -/
def racingDeposits : Bool → Deposit
  | false => ⟨⟨.run, "a".toList⟩, "first\n".toList, ⟨7, 5⟩⟩
  | true => ⟨⟨.run, "a".toList⟩, "second\n".toList, ⟨8, 5⟩⟩

/-- Both stores look for the directory before either creates it. The second one is over while the
first one has written a part of its report, which then takes its place. -/
def racingSchedule : List (Turn Bool) :=
  [.step false, .step true, .step true, .step false, .part false 3, .step true, .part false 5,
    .step true, .step false, .step false]

/-- Neither of them fails, and the directory is created two levels deep. While the first one is
writing, the report of the second one is found; in the end it is that of the first one, and the files
they were written to are gone. -/
theorem run_shared_race :
    let dir := "book/cache/reports".toList
    let halfway := (Sharing.start bookDisk).run dir racingDeposits (racingSchedule.take 8)
    let state := (Sharing.start bookDisk).run dir racingDeposits racingSchedule
    Shareable dir racingDeposits bookDisk ∧
      halfway.stage false = .writing ∧
      load dir (.ofRequest ⟨.run, "a".toList⟩) halfway.disk = .ok (some "second\n".toList) ∧
      (∀ i, state.stage i = .stored) ∧
      load dir (.ofRequest ⟨.run, "a".toList⟩) state.disk = .ok (some "first\n".toList) ∧
      ∀ i, state.disk.pathExists ((racingDeposits i).temp dir) = false := by
  intro dir halfway state
  have hfacts : (∀ i j, i ≠ j → (racingDeposits i).temp dir ≠ (racingDeposits j).temp dir) ∧
      (∀ i, (provided dir bookDisk).pathExists ((racingDeposits i).temp dir) = false) ∧
      (∀ i, (provided dir bookDisk).isDir ((racingDeposits i).entry dir) = false) ∧
      halfway.stage false = .writing ∧
      load dir (.ofRequest ⟨.run, "a".toList⟩) halfway.disk = .ok (some "second\n".toList) ∧
      load dir (.ofRequest ⟨.run, "a".toList⟩) state.disk = .ok (some "first\n".toList) := by
    decide +kernel
  obtain ⟨hdifferent, htemps, hentries, hwriting, hsecond, hfirst⟩ := hfacts
  have hshareable : Shareable dir racingDeposits bookDisk :=
    ⟨fun _ => rfl, by decide +kernel, hdifferent,
      fun i hexists => absurd (htemps i) (by simp [hexists]), hentries⟩
  obtain ⟨-, hstages, -, -, -, hend⟩ := run_shared hshareable racingSchedule
  have hall : ∀ i, state.stage i = .stored := fun i =>
    (hstages i).2 (by cases i <;> decide)
  exact ⟨hshareable, hwriting, hsecond, hall, hfirst, (hend hall).1⟩

/-- A report in a directory that is there, but not by way of a directory that is missing. -/
def detourDisk : Disk :=
  (Disk.blank ["w".toList]).plantAt (entryFile "x".toList (.ofRequest ⟨.run, "a".toList⟩))
    (.file (Text.encode "old\n".toList))

/-- The report of another program, to be stored by that way. -/
def detourDeposits : Unit → Deposit := fun _ =>
  ⟨⟨.run, "b".toList⟩, "new\n".toList, ⟨7, 5⟩⟩

/-- Nothing is found for a program before the store, and nothing is stored for it. When the way was
created for the other report, there is one for this program too: that which stood there all the time. -/
theorem run_shared_detour :
    let dir := "missing/../x".toList
    let other : Request := ⟨.run, "a".toList⟩
    let state := (Sharing.start detourDisk).run dir detourDeposits (List.replicate 4 (.step ()))
    Shareable dir detourDeposits detourDisk ∧ (∀ i, (detourDeposits i).key ≠ .ofRequest other) ∧
      load dir (.ofRequest other) detourDisk = .ok none ∧
      (∀ i, state.stage i = .stored) ∧
      load dir (.ofRequest other) state.disk = .ok (some "old\n".toList) := by
  intro dir other state
  have hfacts : (detourDisk.createDirs dir).1 = .ok () ∧
      (provided dir detourDisk).pathExists ((detourDeposits ()).temp dir) = false ∧
      (provided dir detourDisk).isDir ((detourDeposits ()).entry dir) = false ∧
      (detourDeposits ()).key ≠ .ofRequest other ∧
      load dir (.ofRequest other) detourDisk = .ok none ∧ state.stage () = .stored ∧
      load dir (.ofRequest other) state.disk = .ok (some "old\n".toList) := by
    decide +kernel
  obtain ⟨hcreatable, htemp, hentry, hkey, hnone, hstored, hold⟩ := hfacts
  have hshareable : Shareable dir detourDeposits detourDisk :=
    ⟨fun hempty => absurd hempty (by decide), hcreatable, fun _ _ hne => absurd rfl hne,
      fun _ hexists => absurd htemp (by simp [hexists]), fun _ => hentry⟩
  exact ⟨hshareable, fun _ => hkey, hnone, fun _ => hstored, hold⟩

end DiskCache

end Weave
