import Mathlib.Logic.Function.Basic
import Mathlib.Logic.Function.Iterate
import Weave.Proofs.CacheDirectory

/-!
# Weave.Proofs.Interleaving — stores that are under way

Several programs may use one cache directory at a time. Each store of theirs is made of steps: look
for the directory, create it, write the report to a file of its own, and rename that file. Between
two steps of one of them anything may happen to the others, and while a report is written the file
may hold any part of it.

1. **Steps**: `Deposit.step` is the next step of a store, `Deposit.writePart` writes a part of the
   report. A store that nobody interrupts is the one of the cache (`store_eq_steps`).
2. **Schedules**: `Sharing.run` lets stores take turns in any order. After enough turns of its own a
   store is finished, whatever the others do (`rank_run`).
-/

namespace Weave

namespace DiskCache

/-! ## Steps -/

/-- How far a store has come: what its next step is, or how it ended. -/
inductive Stage where
  | checking
  | creating
  | writing
  | moving
  | stored
  | failed (e : IoError)
deriving Repr, DecidableEq, Inhabited

/-- What a store that has ended came to. -/
def Stage.result? : Stage → Option (Except IoError Unit)
  | .stored => some (.ok ())
  | .failed e => some (.error e)
  | _ => none

/-- The number of steps that a store has before it. -/
def Stage.rank : Stage → Nat
  | .checking => 4
  | .creating => 3
  | .writing => 2
  | .moving => 1
  | .stored => 0
  | .failed _ => 0

/-- A report that is to be stored for a request. The stamp is that of the file that holds the report
while it is written. -/
structure Deposit where
  request : Request
  report : Text
  stamp : Stamp
deriving Repr, DecidableEq, Inhabited

namespace Deposit

variable (dir : Text) (deposit : Deposit)

def key : CacheKey :=
  .ofRequest deposit.request

/-- The file that the report has in the end. -/
def entry : Text :=
  entryFile dir deposit.key

/-- The file that holds the report while it is written. -/
def temp : Text :=
  tempPath dir deposit.key deposit.stamp

/-- The next step of a store. One that has ended takes none. -/
def step : Stage × Disk → Stage × Disk
  | (.checking, disk) => (if disk.pathExists dir then .writing else .creating, disk)
  | (.creating, disk) =>
    match disk.createDirs dir with
    | (.ok (), created) => (.writing, created)
    | (.error e, created) => (.failed e, created)
  | (.writing, disk) =>
    match disk.tick.writeText (deposit.temp dir) deposit.report with
    | .ok written => (.moving, written)
    | .error e => (.failed e, disk.tick)
  | (.moving, disk) =>
    match disk.rename (deposit.temp dir) (deposit.entry dir) with
    | .ok renamed => (.stored, renamed)
    | .error e => (.failed e, (disk.remove (deposit.temp dir)).toOption.getD disk)
  | (.stored, disk) => (.stored, disk)
  | (.failed e, disk) => (.failed e, disk)

/-- The first bytes of the report are written, and the others are not yet. -/
def writePart (size : Nat) : Stage × Disk → Stage × Disk
  | (.writing, disk) =>
    match disk.write (deposit.temp dir) ((Text.encode deposit.report).extract 0 size) with
    | .ok written => (.writing, written)
    | .error e => (.failed e, disk)
  | state => state

variable {dir deposit}

theorem rank_step (stage : Stage) (disk : Disk) :
    (deposit.step dir (stage, disk)).1.rank ≤ stage.rank - 1 := by
  cases stage with
  | checking =>
    rw [step]
    split <;> simp [Stage.rank]
  | creating | writing | moving =>
    rw [step]
    split <;> simp [Stage.rank]
  | stored | failed => exact Nat.zero_le _

theorem rank_writePart (size : Nat) (stage : Stage) (disk : Disk) :
    (deposit.writePart dir size (stage, disk)).1.rank ≤ stage.rank := by
  cases stage with
  | writing =>
    rw [writePart]
    split <;> simp [Stage.rank]
  | checking | creating | moving | stored | failed => exact Nat.le_refl _

end Deposit

theorem stamp_createDir {disk created : Disk} {path : Text}
    (h : disk.createDir path = .ok created) : created.stamp = disk.stamp := by
  obtain ⟨-, -, -, rfl⟩ := Disk.createDir_cases h
  rfl

theorem stamp_createDirs (disk : Disk) (path : Text) :
    (disk.createDirs path).2.stamp = disk.stamp :=
  Disk.createChain_induction disk
    (fun _ _ _ _ hbefore hcreate => (stamp_createDir hcreate).trans hbefore) rfl

/-- From a disk with the directory, the report is written and the file is moved. -/
theorem writeEntry_eq_steps (dir : Text) (deposit : Deposit) (disk : Disk)
    (hstamp : disk.stamp = deposit.stamp) :
    ∃ n stage, (deposit.step dir)^[n] (.writing, disk)
        = (stage, (writeEntry dir deposit.key deposit.report disk).2) ∧
      stage.result? = some (writeEntry dir deposit.key deposit.report disk).1 := by
  have htemp : tempPath dir deposit.key disk.stamp = deposit.temp dir := by
    rw [hstamp]
    rfl
  simp only [writeEntry, htemp]
  cases hwrite : disk.tick.writeText (deposit.temp dir) deposit.report with
  | error e => exact ⟨1, .failed e, by simp only [Function.iterate_one, Deposit.step, hwrite], rfl⟩
  | ok written =>
    have hsteps : (deposit.step dir)^[2] (.writing, disk) = deposit.step dir (.moving, written) := by
      simp only [Function.iterate_succ, Function.iterate_zero, Function.comp_apply, id_eq,
        Deposit.step, hwrite]
    have hentry : entryFile dir deposit.key = deposit.entry dir := rfl
    simp only [hentry]
    cases hrename : written.rename (deposit.temp dir) (deposit.entry dir) with
    | ok renamed => exact ⟨2, .stored, by simp only [hsteps, Deposit.step, hrename], rfl⟩
    | error e => exact ⟨2, .failed e, by simp only [hsteps, Deposit.step, hrename], rfl⟩

/-- The steps of a store, one after the other, are what the cache does at once. -/
theorem store_eq_steps (dir : Text) (request : Request) (report : Text) (disk : Disk) :
    let deposit : Deposit := ⟨request, report, disk.stamp⟩
    ∃ n stage, (deposit.step dir)^[n] (.checking, disk)
        = (stage, (store dir (.ofRequest request) report disk).2) ∧
      stage.result? = some (store dir (.ofRequest request) report disk).1 := by
  intro deposit
  rw [store, Disk.provideDir]
  by_cases hexists : disk.pathExists dir = true
  · -- the directory is there, and the step that creates it is left out
    obtain ⟨n, stage, hsteps, hresult⟩ :=
      writeEntry_eq_steps dir deposit disk rfl
    refine ⟨n + 1, stage, ?_, by rw [if_pos hexists]; exact hresult⟩
    rw [if_pos hexists, Function.iterate_succ_apply, Deposit.step, if_pos hexists]
    exact hsteps
  · -- creating it leaves the stamp alone, so the file gets the name that it was to have
    have hstamp := stamp_createDirs disk dir
    rw [if_neg hexists]
    rcases hcreate : disk.createDirs dir with ⟨e | ⟨⟨⟩⟩, created⟩
    · refine ⟨2, .failed e, ?_, rfl⟩
      simp only [Function.iterate_succ, Function.iterate_zero, Function.comp_apply, id_eq,
        Deposit.step, if_neg hexists, hcreate]
    · rw [hcreate] at hstamp
      obtain ⟨n, stage, hsteps, hresult⟩ :=
        writeEntry_eq_steps dir deposit created hstamp
      refine ⟨n + 2, stage, ?_, hresult⟩
      simp only [Function.iterate_succ_apply, Deposit.step, if_neg hexists, hcreate]
      exact hsteps

/-! ## Schedules -/

/-- What happens next, if the stores have the names `ι`. -/
inductive Turn (ι : Type) where
  /-- The next step of a store. -/
  | step (i : ι)
  /-- The first bytes of its report, if it is about to be written. -/
  | part (i : ι) (size : Nat)
deriving Repr, DecidableEq

/-- The disk, and how far each store has come. What a load finds is a matter of the disk alone, and a
load does not change it. -/
structure Sharing (ι : Type) where
  disk : Disk
  stage : ι → Stage

namespace Sharing

variable {ι : Type} [DecidableEq ι]

/-- No store has begun. -/
def start (disk : Disk) : Sharing ι :=
  ⟨disk, fun _ => .checking⟩

/-- The state after one store has gone on. -/
def put (state : Sharing ι) (i : ι) (after : Stage × Disk) : Sharing ι :=
  ⟨after.2, Function.update state.stage i after.1⟩

/-- The state after a turn. -/
def take (dir : Text) (deposits : ι → Deposit) (state : Sharing ι) : Turn ι → Sharing ι
  | .step i => state.put i ((deposits i).step dir (state.stage i, state.disk))
  | .part i size => state.put i ((deposits i).writePart dir size (state.stage i, state.disk))

/-- The state after turns in any order. -/
def run (dir : Text) (deposits : ι → Deposit) (schedule : List (Turn ι)) (state : Sharing ι) :
    Sharing ι :=
  schedule.foldl (take dir deposits) state

@[simp] theorem put_disk (state : Sharing ι) (i : ι) (after : Stage × Disk) :
    (state.put i after).disk = after.2 := rfl

@[simp] theorem put_stage_self (state : Sharing ι) (i : ι) (after : Stage × Disk) :
    (state.put i after).stage i = after.1 := by
  simp [put]

theorem put_stage_of_ne (state : Sharing ι) {i j : ι} (h : j ≠ i) (after : Stage × Disk) :
    (state.put i after).stage j = state.stage j := by
  simp [put, h]

/-- What holds of the stages when one store has gone on: it holds of the new stage of that one, and
of the stages of the others. -/
theorem forall_put (Holds : ι → Stage → Prop) {state : Sharing ι} {i : ι} {after : Stage × Disk}
    (hself : Holds i after.1) (hothers : ∀ j, j ≠ i → Holds j (state.stage j)) (j : ι) :
    Holds j ((state.put i after).stage j) := by
  by_cases hj : j = i
  · subst hj
    rw [put_stage_self]
    exact hself
  · rw [put_stage_of_ne state hj]
    exact hothers j hj

variable {dir : Text} {deposits : ι → Deposit}

/-- What holds of a state goes on to hold if each turn keeps it. -/
theorem run_induction (Holds : Sharing ι → Prop) {state : Sharing ι}
    (htake : ∀ before turn, Holds before → Holds (before.take dir deposits turn))
    (hstate : Holds state) (schedule : List (Turn ι)) :
    Holds (state.run dir deposits schedule) := by
  induction schedule generalizing state with
  | nil => exact hstate
  | cons turn schedule ih => exact ih (htake state turn hstate)

section

variable (dir deposits)

/-- A turn of a store takes a step off it, and no other turn adds one. -/
theorem rank_take (state : Sharing ι) (turn : Turn ι) (i : ι) :
    ((state.take dir deposits turn).stage i).rank
      ≤ (state.stage i).rank - if turn = .step i then 1 else 0 := by
  cases turn with
  | step j =>
    by_cases hj : i = j
    · subst hj
      rw [if_pos rfl, take, put_stage_self]
      exact Deposit.rank_step _ _
    · rw [if_neg fun h => hj (Turn.step.inj h).symm, take, put_stage_of_ne _ hj]
      exact Nat.le_refl _
  | part j size =>
    rw [if_neg nofun]
    by_cases hj : i = j
    · subst hj
      rw [take, put_stage_self]
      exact Deposit.rank_writePart size _ _
    · rw [take, put_stage_of_ne _ hj]
      exact Nat.le_refl _

theorem rank_run (state : Sharing ι) (schedule : List (Turn ι)) (i : ι) :
    ((state.run dir deposits schedule).stage i).rank
      ≤ (state.stage i).rank - schedule.count (.step i) := by
  induction schedule generalizing state with
  | nil => exact Nat.le_refl _
  | cons turn schedule ih =>
    -- the first turn takes off what it counts for, and the others what they count for
    have hfirst := rank_take dir deposits state turn i
    have hrest := ih (state.take dir deposits turn)
    have hcount : (turn :: schedule).count (.step i)
        = schedule.count (.step i) + if turn = .step i then 1 else 0 := by
      rw [List.count_cons]
      simp only [beq_iff_eq]
    rw [hcount]
    exact hrest.trans (by omega)

end

/-- A report that is stored stays stored. -/
theorem stored_take {state : Sharing ι} {i : ι} (h : state.stage i = .stored) (turn : Turn ι) :
    (state.take dir deposits turn).stage i = .stored := by
  -- a turn of another store is not about this one, and one of its own rests
  have hkeeps : ∀ (j : ι) (turn : Stage × Disk → Stage × Disk),
      (∀ disk, turn (.stored, disk) = (.stored, disk)) →
        (state.put j (turn (state.stage j, state.disk))).stage i = .stored := by
    intro j turn hturn
    refine forall_put (fun k stage => k = i → stage = .stored) ?_ ?_ i rfl
    · rintro rfl
      rw [h, hturn]
    · rintro k - rfl
      exact h
  cases turn with
  | step j => exact hkeeps j _ fun _ => rfl
  | part j size => exact hkeeps j _ fun _ => rfl

end Sharing

end DiskCache

end Weave
