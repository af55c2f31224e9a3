import Mathlib.Data.List.Infix
import Weave.Proofs.Footprint

/-!
# Weave.Proofs.Crossing — what a path leads past

A walk along a path looks at the locations on its way and at nothing else. So two disks that differ
only at locations which a path does not cross cannot be told apart along this path: it leads to the
same place, the same is read there, and the same can be written.

1. **Crossing**: the locations of a path (`Disk.Crosses`), and paths that are clear of a scope
   (`Disk.ClearOf`).
2. **Agreement**: two disks with the same nodes outside of a scope (`Disk.AgreesOutside`).
3. **Along a path** that is clear of the scope they do the same: `locate`, `stat`, `readText`,
   `filePlace`, `write`.
-/

namespace Weave.Disk

/-! ## Crossing -/

/-- A path crosses a location if it leads there or past it. -/
def Crosses (disk : Disk) (path : Text) (location : Location) : Prop :=
  ∃ ms, ms <+: moves path ∧ ms.foldl Move.apply (disk.origin path) = location

/-- A path is clear of a scope if it crosses nothing there. -/
def ClearOf (disk : Disk) (scope : Location → Prop) (path : Text) : Prop :=
  ∀ location, scope location → ¬ disk.Crosses path location

theorem crosses_iff {disk : Disk} {path : Text} {location : Location} :
    disk.Crosses path location
      ↔ location ∈ (moves path).inits.map fun ms => ms.foldl Move.apply (disk.origin path) := by
  simp only [Crosses, List.mem_map, List.mem_inits]

instance (disk : Disk) (path : Text) (location : Location) :
    Decidable (disk.Crosses path location) :=
  decidable_of_iff _ crosses_iff.symm

theorem crosses_locationOf (disk : Disk) (path : Text) :
    disk.Crosses path (disk.locationOf path) :=
  ⟨moves path, List.prefix_refl _, rfl⟩

/-- A path leads no deeper than it has steps. -/
theorem length_le_of_crosses {disk : Disk} {path : Text} {location : Location}
    (h : disk.Crosses path location) :
    location.length ≤ (disk.origin path).length + (moves path).length := by
  have happly : ∀ (ms : List Move) (start : Location),
      (ms.foldl Move.apply start).length ≤ start.length + ms.length := by
    intro ms
    induction ms with
    | nil => simp
    | cons m ms ih =>
      intro start
      have hrest := ih (m.apply start)
      have hone : (m.apply start).length ≤ start.length + 1 := by
        cases m with
        | here => exact Nat.le_succ _
        | up =>
          rw [Move.apply, List.length_tail]
          omega
        | down name => exact Nat.le_refl _
      simp only [List.foldl_cons, List.length_cons]
      omega
  obtain ⟨ms, hprefix, rfl⟩ := h
  have hsteps := hprefix.length_le
  have hdeep := happly ms (disk.origin path)
  omega

/-- The steps of a path are its moves, up to a slash at the end. -/
theorem steps_prefix_moves (path : Text) : steps path <+: moves path := by
  unfold moves
  split
  · exact List.prefix_append _ _
  · exact List.prefix_refl _

/-! ## Agreement -/

/-- Two disks have the same working directory, and the same nodes outside of a scope. -/
structure AgreesOutside (scope : Location → Prop) (disk disk' : Disk) : Prop where
  workDir : disk'.workDir = disk.workDir
  nodes : ∀ location, ¬ scope location → disk'.node? location = disk.node? location

section

variable {scope wider : Location → Prop} {disk disk' disk'' : Disk} {path : Text}

theorem AgreesOutside.refl (disk : Disk) : AgreesOutside scope disk disk :=
  ⟨rfl, fun _ _ => rfl⟩

theorem AgreesOutside.trans (h : AgreesOutside scope disk disk')
    (h' : AgreesOutside scope disk' disk'') : AgreesOutside scope disk disk'' where
  workDir := h'.workDir.trans h.workDir
  nodes location hout := (h'.nodes location hout).trans (h.nodes location hout)

theorem AgreesOutside.mono (h : AgreesOutside scope disk disk')
    (hwider : ∀ location, scope location → wider location) : AgreesOutside wider disk disk' where
  workDir := h.workDir
  nodes location hout := h.nodes location fun hin => hout (hwider location hin)

theorem AgreesOutside.put (h : AgreesOutside scope disk disk') {location : Location}
    (hne : location ≠ []) (node : Node) :
    AgreesOutside scope (disk.put location node) (disk'.put location node) where
  workDir := h.workDir
  nodes l hout := by rw [node?_put _ l node hne, node?_put _ l node hne, h.nodes l hout]

/-- Writing a file changes nothing else. -/
theorem agreesOutside_write {bytes : ByteArray} (h : disk.write path bytes = .ok disk') :
    AgreesOutside (· = disk.locationOf path) disk disk' := by
  obtain ⟨-, hne, ⟨-, rfl⟩ | ⟨-, rfl⟩⟩ := write_cases h
  · exact .refl _
  · exact ⟨rfl, fun l hl => by rw [node?_put disk l _ hne, if_neg hl]⟩

theorem AgreesOutside.origin (h : AgreesOutside scope disk disk') (path : Text) :
    disk'.origin path = disk.origin path := by
  rw [Disk.origin, Disk.origin, h.workDir]

theorem AgreesOutside.checkDir (h : AgreesOutside scope disk disk') {location : Location}
    (hout : ¬ scope location) : disk'.checkDir location = disk.checkDir location := by
  rw [Disk.checkDir, Disk.checkDir, h.nodes location hout]

/-- Steps that lead past nothing in the scope are taken alike. -/
theorem AgreesOutside.walk (h : AgreesOutside scope disk disk') {location : Location}
    {ms : List Move}
    (hclear : ∀ before, before <+: ms → ¬ scope (before.foldl Move.apply location)) :
    disk'.walk location ms = disk.walk location ms := by
  induction ms generalizing location with
  | nil => rfl
  | cons m ms ih =>
    have hhere : ¬ scope location := hclear [] List.nil_prefix
    have hnext := ih fun before hbefore =>
      hclear (m :: before) ((List.prefix_cons_inj m).2 hbefore)
    rw [Disk.walk, Disk.walk, h.checkDir hhere, hnext]

/-- The end of a path that is clear of a scope is not in it. -/
theorem ClearOf.locationOf (hclear : disk.ClearOf scope path) : ¬ scope (disk.locationOf path) :=
  fun hscope => hclear _ hscope (disk.crosses_locationOf path)

section

variable (h : AgreesOutside scope disk disk') (hclear : disk.ClearOf scope path)
include h hclear

theorem AgreesOutside.locate : disk'.locate path = disk.locate path := by
  have hwalk : disk'.walk (disk.origin path) (moves path)
      = disk.walk (disk.origin path) (moves path) :=
    h.walk fun before hbefore hscope => hclear _ hscope ⟨before, hbefore, rfl⟩
  rw [Disk.locate, Disk.locate, h.origin, hwalk]

/-- What stands at the end of the path is the same. -/
theorem AgreesOutside.stat : disk'.stat path = disk.stat path := by
  unfold Disk.stat
  rw [h.locate hclear]
  cases hlocate : disk.locate path with
  | error e => rfl
  | ok location =>
    obtain rfl := locate_eq hlocate
    simp only [bind, Except.bind, h.nodes _ hclear.locationOf]

theorem AgreesOutside.read : disk'.read path = disk.read path := by
  rw [Disk.read, Disk.read, h.stat hclear]

theorem AgreesOutside.readText : disk'.readText path = disk.readText path := by
  rw [Disk.readText, Disk.readText, h.read hclear]

theorem AgreesOutside.place : disk'.place path = disk.place path := by
  have hsteps : ∀ before, before <+: steps path →
      ¬ scope (before.foldl Move.apply (disk.origin path)) :=
    fun before hbefore hscope =>
      hclear _ hscope ⟨before, hbefore.trans (steps_prefix_moves path), rfl⟩
  have hlast : (steps path).dropLast <+: steps path := List.dropLast_prefix _
  have hwalk : disk'.walk (disk.origin path) (steps path).dropLast
      = disk.walk (disk.origin path) (steps path).dropLast :=
    h.walk fun before hbefore => hsteps before (hbefore.trans hlast)
  simp only [Disk.place]
  change (do checkName path; let parent ← disk'.walk (disk'.origin path) (steps path).dropLast; _)
    = (do checkName path; let parent ← disk.walk (disk.origin path) (steps path).dropLast; _)
  rw [h.origin, hwalk]
  cases checkName path with
  | error e => rfl
  | ok _ =>
    cases hparent : disk.walk (disk.origin path) (steps path).dropLast with
    | error e => rfl
    | ok parent =>
      obtain rfl := walk_eq hparent
      simp only [bind, Except.bind, h.checkDir (hsteps _ hlast)]

theorem AgreesOutside.filePlace : disk'.filePlace path = disk.filePlace path := by
  rw [Disk.filePlace, Disk.filePlace, h.place hclear]

/-- What can be written on the one can be written on the other, and then they agree as before. -/
theorem AgreesOutside.write (bytes : ByteArray) :
    (∀ e, disk.write path bytes = .error e → disk'.write path bytes = .error e) ∧
      ∀ written, disk.write path bytes = .ok written →
        ∃ written', disk'.write path bytes = .ok written' ∧
          AgreesOutside scope written written' := by
  unfold Disk.write
  rw [h.filePlace hclear]
  cases hplace : disk.filePlace path with
  | error e => exact ⟨fun _ => id, fun _ hwrite => nomatch hwrite⟩
  | ok location =>
    obtain ⟨-, rfl, hne⟩ := locate_of_filePlace hplace
    simp only [bind, Except.bind, h.nodes _ hclear.locationOf]
    cases disk.node? (disk.locationOf path) with
    | none => exact ⟨fun _ => nofun, fun _ hwrite => ⟨_, rfl, Except.ok.inj hwrite ▸ h.put hne _⟩⟩
    | some node =>
      cases node with
      | dir => exact ⟨fun _ => id, fun _ => nofun⟩
      | sink => exact ⟨fun _ => nofun, fun _ hwrite => ⟨_, rfl, Except.ok.inj hwrite ▸ h⟩⟩
      | file _ =>
        exact ⟨fun _ => nofun, fun _ hwrite => ⟨_, rfl, Except.ok.inj hwrite ▸ h.put hne _⟩⟩

end

end

end Weave.Disk
