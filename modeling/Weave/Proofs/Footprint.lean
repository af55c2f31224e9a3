import Weave.Proofs.Asking
import Weave.Proofs.Locations

/-!
# Weave.Proofs.Footprint — which files a pass can change

What an operation does to a disk is bounded by a scope: the locations where it may create, change or
remove regular files (`Disk.ModifiesOnly`). Directories may come and go anywhere. Scopes compose
along a run, so the scope of a pass is that of its toolchain together with that of its cache.

1. **Operations**: each acts where its paths lead, and fails elsewhere (`createDir_cases`,
   `write_cases`, `remove_cases`, `rename_cases`).
2. **Growth**: they keep all directories, and all other nodes outside of their scope (`Disk.Grows`,
   `grows_provideDir`, `grows_write`, `grows_remove`, `grows_rename`). What was written can be read
   back (`stat_of_write`).
3. **The cache on disk** has the files that `DiskCache.Owns`, all of them in its directory
   (`DiskCache.exists_name_of_owns`).
4. **Passes**: `modifiesOnly_weave`.
-/

namespace Weave

/-! ## Files and scopes -/

/-- The bytes of a regular file. -/
def Node.bytes? : Node → Option ByteArray
  | .file bytes => some bytes
  | .dir => none
  | .sink => none

namespace Disk

/-- The bytes of the regular file at a location. -/
def file? (disk : Disk) (location : Location) : Option ByteArray :=
  (disk.node? location).bind Node.bytes?

/-- The working directory stays, and so do the regular files outside of a scope: none of them is
created, changed or removed. -/
structure ModifiesOnly (scope : Location → Prop) (before after : Disk) : Prop where
  workDir : after.workDir = before.workDir
  files : ∀ location, ¬ scope location → after.file? location = before.file? location

/-- The scope in which there is nothing. -/
abbrev Nowhere : Location → Prop :=
  fun _ => False

section

variable {scope wider : Location → Prop} {disk disk' disk'' : Disk}

theorem ModifiesOnly.refl (disk : Disk) : ModifiesOnly scope disk disk :=
  ⟨rfl, fun _ _ => rfl⟩

theorem ModifiesOnly.trans (h : ModifiesOnly scope disk disk')
    (h' : ModifiesOnly scope disk' disk'') : ModifiesOnly scope disk disk'' where
  workDir := h'.workDir.trans h.workDir
  files location hout := (h'.files location hout).trans (h.files location hout)

theorem ModifiesOnly.mono (h : ModifiesOnly scope disk disk')
    (hwider : ∀ location, scope location → wider location) : ModifiesOnly wider disk disk' where
  workDir := h.workDir
  files location hout := h.files location fun hin => hout (hwider location hin)

/-- What touches no file stays in every scope. -/
theorem ModifiesOnly.of_nowhere (h : ModifiesOnly Nowhere disk disk') :
    ModifiesOnly scope disk disk' :=
  h.mono fun _ => False.elim

/-! ## What the operations do -/

/-- The root is a directory. -/
theorem ne_root_of_node? {location : Location} {node : Node}
    (h : disk.node? location = some node) (hdir : node ≠ .dir) : location ≠ [] := by
  rintro rfl
  exact hdir (Option.some.inj h).symm

/-- How a directory is created: in a directory, where nothing was. -/
theorem createDir_cases {path : Text} (h : disk.createDir path = .ok disk') :
    disk.locationOf path ≠ [] ∧ disk.node? (disk.locationOf path).tail = some .dir ∧
      disk.node? (disk.locationOf path) = none ∧ disk' = disk.put (disk.locationOf path) .dir := by
  obtain ⟨place, hplace, h⟩ := ok_of_bind h
  cases place with
  | none => cases h
  | some location =>
    obtain ⟨-, hne, hparent, hwalk⟩ := walk_of_place hplace
    obtain rfl : location = disk.locationOf path := by
      rw [locationOf_eq_foldl_steps]
      exact walk_eq hwalk
    simp only at h
    split at h
    · cases h
    · next hnew => exact ⟨hne, hparent, Option.not_isSome_iff_eq_none.1 hnew, (Except.ok.inj h).symm⟩

/-- What holds of a disk on which directories are created is what each new directory keeps. -/
theorem createChain_induction {Holds : Disk → Prop} {paths : List Text} (disk : Disk)
    (hcreate : ∀ path ∈ paths, ∀ before after, Holds before → before.createDir path = .ok after →
      Holds after) (hdisk : Holds disk) : Holds (disk.createChain paths).2 := by
  have hensure : ∀ path ∈ paths, ∀ before after, Holds before →
      before.ensureDir path = .ok after → Holds after := by
    intro path hpath before after hbefore h
    unfold ensureDir at h
    split at h
    · next hcreated =>
      obtain rfl := Except.ok.inj h
      exact hcreate path hpath before _ hbefore hcreated
    · split at h
      · obtain rfl := Except.ok.inj h
        exact hbefore
      · cases h
  induction paths generalizing disk with
  | nil => exact hdisk
  | cons path around ih =>
    have hpath : path ∈ path :: around := List.mem_cons_self
    have haround := ih disk (fun p hp => hcreate p (List.mem_cons_of_mem path hp)) hdisk
      (fun p hp => hensure p (List.mem_cons_of_mem path hp))
    rw [createChain]
    split
    · exact hdisk
    · split
      · next hcreated => exact hcreate path hpath disk _ hdisk hcreated
      · split
        · next changed hchanged =>
          rw [hchanged] at haround
          unfold settled
          split
          · next hensured => exact hensure path hpath changed _ haround hensured
          · exact haround
        · exact haround
      · exact hdisk

theorem provideDir_induction {Holds : Disk → Prop} {path : Text} (disk : Disk)
    (hcreate : ∀ p ∈ PathName.ancestors path, ∀ before after, Holds before →
      before.createDir p = .ok after → Holds after) (hdisk : Holds disk) :
    Holds (disk.provideDir path).2 := by
  unfold provideDir
  split
  · exact hdisk
  · exact createChain_induction disk hcreate hdisk

/-- How a file is written: at the location of its path, where no directory is. A device forgets what
is written. -/
theorem write_cases {path : Text} {bytes : ByteArray} (h : disk.write path bytes = .ok disk') :
    disk.locate path = .ok (disk.locationOf path) ∧ disk.locationOf path ≠ [] ∧
      (disk.node? (disk.locationOf path) = some .sink ∧ disk' = disk ∨
        disk.node? (disk.locationOf path) ≠ some .dir ∧
          disk' = disk.put (disk.locationOf path) (.file bytes)) := by
  obtain ⟨location, hplace, h⟩ := ok_of_bind h
  obtain ⟨hlocate, rfl, hne⟩ := locate_of_filePlace hplace
  refine ⟨hlocate, hne, ?_⟩
  split at h
  · cases h
  · next hsink => exact .inl ⟨hsink, (Except.ok.inj h).symm⟩
  · next hdir _ => exact .inr ⟨hdir, (Except.ok.inj h).symm⟩

/-- How a file is removed. -/
theorem remove_cases {path : Text} (h : disk.remove path = .ok disk') :
    ∃ node, disk.node? (disk.locationOf path) = some node ∧ node ≠ .dir ∧
      disk' = disk.drop (disk.locationOf path) := by
  obtain ⟨location, hlocate, h⟩ := ok_of_bind h
  obtain rfl := locate_eq hlocate
  split at h
  · cases h
  · next node hdir hnode => exact ⟨node, hnode, hdir, (Except.ok.inj h).symm⟩
  · cases h

/-- How a file is moved: away from where it was, and in the place of what is no directory. -/
theorem rename_cases {source target : Text} (h : disk.rename source target = .ok disk') :
    disk.locate target = .ok (disk.locationOf target) ∧ disk.locationOf target ≠ [] ∧
      disk.node? (disk.locationOf target) ≠ some .dir ∧
      ∃ node, disk.node? (disk.locationOf source) = some node ∧ node ≠ .dir ∧
        disk' = (disk.drop (disk.locationOf source)).put (disk.locationOf target) node := by
  obtain ⟨old, hold, h⟩ := ok_of_bind h
  obtain ⟨new, hnew, h⟩ := ok_of_bind h
  obtain rfl := locate_eq hold
  obtain ⟨hlocate, rfl, hne⟩ := locate_of_filePlace hnew
  refine ⟨hlocate, hne, ?_⟩
  split at h
  · cases h
  · cases h
  · cases h
  · next node hdir hnode htarget => exact ⟨htarget, node, hnode, hdir, (Except.ok.inj h).symm⟩

theorem stat_of_locate {path : Text} {location : Location} {node : Node}
    (hlocate : disk.locate path = .ok location) (hnode : disk.node? location = some node) :
    disk.stat path = .ok node := by
  unfold stat
  rw [hlocate]
  simp only [bind, Except.bind, hnode]
  rfl

theorem node?_of_stat {path : Text} {node : Node} (h : disk.stat path = .ok node) :
    disk.locate path = .ok (disk.locationOf path) ∧
      disk.node? (disk.locationOf path) = some node := by
  obtain ⟨location, hlocate, h⟩ := ok_of_bind h
  obtain rfl := locate_eq hlocate
  split at h
  · next found hfound => exact ⟨hlocate, hfound.trans (congrArg some (Except.ok.inj h))⟩
  · cases h

/-! ## Growth -/

/-- The working directory and all other directories stay. Outside of a scope every other node stays
as well, and what comes there are directories at fresh locations. -/
structure Grows (fresh scope : Location → Prop) (before after : Disk) : Prop where
  workDir : after.workDir = before.workDir
  dirs : ∀ location, before.node? location = some .dir → after.node? location = some .dir
  others : ∀ location, ¬ scope location → after.node? location = before.node? location ∨
    fresh location ∧ before.node? location = none ∧ after.node? location = some .dir

section

variable {fresh fresher : Location → Prop}

theorem Grows.refl (disk : Disk) : Grows fresh scope disk disk :=
  ⟨rfl, fun _ h => h, fun _ _ => .inl rfl⟩

theorem Grows.trans (h : Grows fresh scope disk disk') (h' : Grows fresh scope disk' disk'') :
    Grows fresh scope disk disk'' where
  workDir := h'.workDir.trans h.workDir
  dirs location hdir := h'.dirs location (h.dirs location hdir)
  others location hout := by
    rcases h.others location hout with hsame | ⟨hfresh, hnone, hdir⟩
    · rcases h'.others location hout with hsame' | ⟨hfresh, hnone, hdir⟩
      · exact .inl (hsame'.trans hsame)
      · exact .inr ⟨hfresh, hsame ▸ hnone, hdir⟩
    · exact .inr ⟨hfresh, hnone, h'.dirs location hdir⟩

theorem Grows.mono (h : Grows fresh scope disk disk')
    (hfresher : ∀ location, fresh location → fresher location)
    (hwider : ∀ location, scope location → wider location) : Grows fresher wider disk disk' where
  workDir := h.workDir
  dirs := h.dirs
  others location hout := by
    rcases h.others location fun hin => hout (hwider location hin) with hsame | ⟨hfresh, hnew⟩
    · exact .inl hsame
    · exact .inr ⟨hfresher location hfresh, hnew⟩

/-- A path that leads anywhere goes on to lead there. -/
theorem Grows.locate (h : Grows fresh scope disk disk') {path : Text} {location : Location}
    (hlocate : disk.locate path = .ok location) : disk'.locate path = .ok location := by
  obtain ⟨_, hname, hwalk⟩ := ok_of_bind hlocate
  have horigin : disk'.origin path = disk.origin path := by rw [origin, origin, h.workDir]
  rw [Disk.locate, hname, horigin]
  exact walk_of_dirs h.dirs hwalk

/-- What stands at a location outside of the scope stays there. -/
theorem Grows.node? (h : Grows fresh scope disk disk') {location : Location} {node : Node}
    (hnode : disk.node? location = some node) (hout : ¬ scope location) :
    disk'.node? location = some node := by
  rcases h.others location hout with hsame | ⟨-, hnone, -⟩
  · rw [hsame, hnode]
  · rw [hnode] at hnone
    cases hnone

/-- So what stands at the end of a path stays there. -/
theorem Grows.stat (h : Grows fresh scope disk disk') {path : Text} {node : Node}
    (hstat : disk.stat path = .ok node) (hout : ¬ scope (disk.locationOf path)) :
    disk'.stat path = .ok node :=
  have hfound := node?_of_stat hstat
  stat_of_locate (h.locate hfound.1) (h.node? hfound.2 hout)

/-- Where nothing else changes no file is touched. -/
theorem Grows.modifiesOnly (h : Grows fresh scope disk disk') : ModifiesOnly scope disk disk' where
  workDir := h.workDir
  files location hout := by
    rw [file?, file?]
    rcases h.others location hout with hsame | ⟨-, hnone, hdir⟩
    · rw [hsame]
    · rw [hnone, hdir]
      rfl

theorem grows_clock (disk : Disk) (number : Nat) :
    Grows fresh scope disk { disk with clock := number } :=
  ⟨rfl, fun _ h => h, fun _ _ => .inl rfl⟩

theorem grows_tick (disk : Disk) : Grows fresh scope disk disk.tick :=
  grows_clock disk (disk.clock + 1)

/-- A node that takes the place of no directory. -/
theorem grows_put {location : Location} (hne : location ≠ [])
    (hdir : disk.node? location ≠ some .dir) (node : Node) :
    Grows fresh (· = location) disk (disk.put location node) where
  workDir := rfl
  dirs l hl := by
    rw [node?_put disk l node hne, if_neg, hl]
    rintro rfl
    exact hdir hl
  others l hl := .inl (by rw [node?_put disk l node hne, if_neg hl])

/-- A node that was no directory and is gone. -/
theorem grows_drop {location : Location} {node : Node} (hnode : disk.node? location = some node)
    (hdir : node ≠ .dir) : Grows fresh (· = location) disk (disk.drop location) where
  workDir := rfl
  dirs l hl := by
    rw [node?_drop disk l (ne_root_of_node? hnode hdir), if_neg, hl]
    rintro rfl
    exact hdir (Option.some.inj (hnode.symm.trans hl))
  others l hl := .inl (by rw [node?_drop disk l (ne_root_of_node? hnode hdir), if_neg hl])

theorem grows_createDir {path : Text} (h : disk.createDir path = .ok disk') :
    Grows (· = disk.locationOf path) Nowhere disk disk' := by
  obtain ⟨hne, -, hnone, rfl⟩ := createDir_cases h
  have hgrown : Grows (fun _ => False) (· = disk.locationOf path) disk
      (disk.put (disk.locationOf path) .dir) :=
    grows_put hne (by simp [hnone]) .dir
  refine ⟨rfl, hgrown.dirs, fun l _ => ?_⟩
  by_cases hl : l = disk.locationOf path
  · refine .inr ⟨hl, hl ▸ hnone, ?_⟩
    rw [node?_put disk l .dir hne, if_pos hl]
  · exact .inl ((hgrown.others l hl).resolve_right fun h => h.1)

/-- Directories that are created one in the other, also if the last of them cannot be created. -/
theorem grows_createDirs (disk : Disk) (path : Text) :
    Grows (fun l => ∃ p ∈ PathName.ancestors path, l = disk.locationOf p) Nowhere disk
      (disk.createDirs path).2 := by
  refine createChain_induction disk (fun p hp before after hbefore hcreate => ?_) (.refl disk)
  refine hbefore.trans ((grows_createDir hcreate).mono ?_ fun _ => id)
  rintro l rfl
  exact ⟨p, hp, locationOf_congr hbefore.workDir p⟩

theorem grows_provideDir (disk : Disk) (path : Text) :
    Grows (fun l => ∃ p ∈ PathName.ancestors path, l = disk.locationOf p) Nowhere disk
      (disk.provideDir path).2 := by
  unfold provideDir
  split
  · exact .refl disk
  · exact grows_createDirs disk path

theorem grows_write {path : Text} {bytes : ByteArray} (h : disk.write path bytes = .ok disk') :
    Grows fresh (· = disk.locationOf path) disk disk' := by
  obtain ⟨-, hne, ⟨-, rfl⟩ | ⟨hdir, rfl⟩⟩ := write_cases h
  · exact .refl _
  · exact grows_put hne hdir _

/-- A disk from which a file is written has all directories that are there then. -/
theorem grows_unwrite {path : Text} {bytes : ByteArray} (h : disk.write path bytes = .ok disk') :
    Grows fresh (· = disk.locationOf path) disk' disk := by
  obtain ⟨-, hne, ⟨-, rfl⟩ | ⟨-, rfl⟩⟩ := write_cases h
  · exact .refl _
  · have hput := fun l => node?_put disk l (.file bytes) hne
    refine ⟨rfl, fun l hl => ?_, fun l hl => .inl (by rw [hput, if_neg hl])⟩
    rw [hput] at hl
    split at hl
    · cases hl
    · exact hl

theorem grows_remove {path : Text} (h : disk.remove path = .ok disk') :
    Grows fresh (· = disk.locationOf path) disk disk' := by
  obtain ⟨node, hnode, hdir, rfl⟩ := remove_cases h
  exact grows_drop hnode hdir

theorem grows_rename {source target : Text} (h : disk.rename source target = .ok disk') :
    Grows fresh (fun l => l = disk.locationOf source ∨ l = disk.locationOf target) disk disk' := by
  obtain ⟨-, hne, htarget, node, hnode, hdir, rfl⟩ := rename_cases h
  have hdropped : Grows fresh (· = disk.locationOf source) disk
      (disk.drop (disk.locationOf source)) :=
    grows_drop hnode hdir
  have htarget' : (disk.drop (disk.locationOf source)).node? (disk.locationOf target)
      ≠ some .dir := by
    rw [node?_drop disk _ (ne_root_of_node? hnode hdir)]
    split
    · simp
    · exact htarget
  exact (hdropped.mono (fun _ => id) fun _ => .inl).trans
    ((grows_put hne htarget' node).mono (fun _ => id) fun _ => .inr)

theorem modifiesOnly_write {path : Text} {bytes : ByteArray}
    (h : disk.write path bytes = .ok disk') :
    ModifiesOnly (· = disk.locationOf path) disk disk' :=
  have hgrown : Grows Nowhere (· = disk.locationOf path) disk disk' := grows_write h
  hgrown.modifiesOnly

/-- What was written is what stands there, unless a device has forgotten it. -/
theorem stat_of_write {path : Text} {bytes : ByteArray} (h : disk.write path bytes = .ok disk') :
    disk'.stat path = .ok (.file bytes) ∨ disk'.stat path = .ok .sink ∧ disk' = disk := by
  obtain ⟨hlocate, hne, ⟨hsink, rfl⟩ | ⟨hdir, rfl⟩⟩ := write_cases h
  · exact .inr ⟨stat_of_locate hlocate hsink, rfl⟩
  · left
    -- the directories on the way are still there, as the file is none of them
    have hgrown : Grows Nowhere (· = disk.locationOf path) disk
        (disk.put (disk.locationOf path) (.file bytes)) :=
      grows_put hne hdir _
    refine stat_of_locate (hgrown.locate hlocate) ?_
    rw [node?_put disk _ _ hne, if_pos rfl]

end

end

end Disk

/-! ## The cache on disk -/

/-- The names in the cache are made of letters and digits, but for what is the same in all of
them. -/
theorem Digest.isAlphanum_of_mem_hex {digest : Digest} {c : Char} (h : c ∈ Digest.hex digest) :
    c.isAlphanum = true := by
  have hdigit : ∀ n < 16, (Digest.hexDigit n).isAlphanum = true := by decide
  simp only [Digest.hex, Digest.hexWord, List.mem_flatMap, List.mem_map] at h
  obtain ⟨word, -, i, -, rfl⟩ := h
  exact hdigit _ (Nat.mod_lt _ (by decide))

theorem CacheKey.isAlphanum_of_mem {request : Request} {c : Char}
    (h : c ∈ (CacheKey.ofRequest request).text) : c.isAlphanum = true :=
  Digest.isAlphanum_of_mem_hex (List.mem_of_mem_take h)

theorem Text.isDigit_of_mem_ofNat {n : Nat} {c : Char} (h : c ∈ Text.ofNat n) :
    c.isDigit = true :=
  Nat.isDigit_of_mem_toDigits (by decide) (by decide) h

namespace DiskCache

/-- The files that a cache in a directory can have: its entries, and the reports that are being
written. -/
inductive Owns (dir : Text) (disk : Disk) : Location → Prop where
  | entry (request : Request) :
      Owns dir disk (disk.locationOf (entryFile dir (.ofRequest request)))
  | temp (request : Request) (stamp : Stamp) :
      Owns dir disk (disk.locationOf (tempPath dir (.ofRequest request) stamp))

/-- The name of the file for a request. -/
def entryName (request : Request) : Text :=
  (CacheKey.ofRequest request).text ++ ".txt".toList

/-- The name of the file that holds a report while it is written. -/
def partName (request : Request) (stamp : Stamp) : Text :=
  (CacheKey.ofRequest request).text ++ ".txt.tmp-".toList ++ Text.ofNat stamp.process
    ++ '-' :: Text.ofNat stamp.time

/-- What is no letter and no digit is in these names only if it is in all of them. -/
theorem not_mem_entryName {c : Char} (hc : c.isAlphanum = false) (hfix : c ∉ ".txt".toList)
    (request : Request) : c ∉ entryName request := by
  rw [entryName, List.mem_append, not_or]
  refine ⟨fun h => ?_, hfix⟩
  rw [CacheKey.isAlphanum_of_mem h] at hc
  cases hc

theorem not_mem_partName {c : Char} (hc : c.isAlphanum = false)
    (hfix : c ∉ ".txt.tmp-".toList) (request : Request) (stamp : Stamp) :
    c ∉ partName request stamp := by
  have hkey : c ∉ (CacheKey.ofRequest request).text := by
    intro h
    rw [CacheKey.isAlphanum_of_mem h] at hc
    cases hc
  have hdigits : ∀ n, c ∉ Text.ofNat n := by
    intro n h
    rw [Char.isAlphanum, Text.isDigit_of_mem_ofNat h, Bool.or_true] at hc
    cases hc
  have hdash : c ≠ '-' := by
    rintro rfl
    exact absurd hfix (by decide)
  simp only [partName, List.mem_append, List.mem_cons, not_or]
  exact ⟨⟨⟨hkey, hfix⟩, hdigits _⟩, hdash, hdigits _⟩

theorem isName_entryName (request : Request) : PathName.IsName (entryName request) := by
  apply PathName.isName_of_length (not_mem_entryName (by decide) (by decide) request)
  rw [entryName, List.length_append]
  exact Nat.le_add_left_of_le (by decide)

theorem isName_partName (request : Request) (stamp : Stamp) :
    PathName.IsName (partName request stamp) := by
  apply PathName.isName_of_length (not_mem_partName (by decide) (by decide) request stamp)
  rw [partName, List.length_append, List.length_append, List.length_append]
  exact Nat.le_add_right_of_le (Nat.le_add_right_of_le (Nat.le_add_left_of_le (by decide)))

theorem getLast?_entryName (request : Request) : (entryName request).getLast? = some 't' := by
  have hsuffix : ".txt".toList.getLast? = some 't' := by decide
  rw [entryName, List.getLast?_append, hsuffix, Option.some_or]

theorem exists_getLast?_partName (request : Request) (stamp : Stamp) :
    ∃ c, (partName request stamp).getLast? = some c ∧ c.isDigit = true := by
  have hdigits : Text.ofNat stamp.time ≠ [] := Nat.toDigits_ne_nil
  refine ⟨(Text.ofNat stamp.time).getLast hdigits, ?_,
    Text.isDigit_of_mem_ofNat (List.getLast_mem hdigits)⟩
  rw [partName, List.getLast?_append, List.getLast?_cons,
    List.getLast?_eq_some_getLast hdigits]
  rfl

/-- An entry is no report that is being written: that one ends in a digit. -/
theorem partName_ne_entryName (request other : Request) (stamp : Stamp) :
    partName request stamp ≠ entryName other := by
  intro h
  obtain ⟨c, hlast, hdigit⟩ := exists_getLast?_partName request stamp
  rw [h, getLast?_entryName] at hlast
  rw [← Option.some.inj hlast] at hdigit
  exact absurd hdigit (by decide)

/-- Where they are. -/
theorem locationOf_entryFile (dir : Text) (disk : Disk) (request : Request) :
    disk.locationOf (entryFile dir (.ofRequest request))
      = entryName request :: disk.locationOf dir :=
  disk.locationOf_join (isName_entryName request) dir

theorem locationOf_tempPath (dir : Text) (disk : Disk) (request : Request) (stamp : Stamp) :
    disk.locationOf (tempPath dir (.ofRequest request) stamp)
      = partName request stamp :: disk.locationOf dir :=
  disk.locationOf_join (isName_partName request stamp) dir

/-- All of them are in its directory. -/
theorem exists_name_of_owns {dir : Text} {disk : Disk} {location : Location}
    (h : Owns dir disk location) : ∃ name, location = name :: disk.locationOf dir := by
  cases h with
  | entry request => exact ⟨_, locationOf_entryFile dir disk request⟩
  | temp request stamp => exact ⟨_, locationOf_tempPath dir disk request stamp⟩

/-- They are where they are because of the working directory alone. -/
theorem Owns.congr {dir : Text} {disk disk' : Disk} {location : Location}
    (h : disk'.workDir = disk.workDir) (howns : Owns dir disk' location) :
    Owns dir disk location := by
  cases howns with
  | entry request =>
    rw [Disk.locationOf_congr h]
    exact .entry request
  | temp request stamp =>
    rw [Disk.locationOf_congr h]
    exact .temp request stamp

/-- A report is written to the entry of its request and to a file of its own alone, also if that
fails halfway. -/
theorem grows_writeEntry {fresh : Location → Prop} (dir : Text) (request : Request)
    (report : Text) (disk : Disk) :
    disk.Grows fresh
      (fun l => l = disk.locationOf (entryFile dir (.ofRequest request)) ∨
        l = disk.locationOf (tempPath dir (.ofRequest request) disk.stamp))
      (writeEntry dir (.ofRequest request) report disk).2 := by
  let temp := tempPath dir (.ofRequest request) disk.stamp
  simp only [writeEntry]
  cases hwrite : disk.tick.writeText temp report with
  | error e => exact Disk.grows_tick disk
  | ok written =>
    have hwritten : disk.Grows fresh (· = disk.locationOf temp) written :=
      (Disk.grows_tick disk).trans (Disk.grows_write hwrite)
    have hlocation := Disk.locationOf_congr hwritten.workDir
    simp only
    cases hrename : written.rename temp (entryFile dir (.ofRequest request)) with
    | ok renamed =>
      refine (hwritten.mono (fun _ => id) fun _ => .inr).trans
        ((Disk.grows_rename hrename).mono (fun _ => id) fun l hl => ?_)
      rw [hlocation, hlocation] at hl
      exact hl.symm
    | error e =>
      simp only
      cases hremove : written.remove temp with
      | error e => exact hwritten.mono (fun _ => id) fun _ => .inr
      | ok removed =>
        refine (hwritten.trans ((Disk.grows_remove hremove).mono (fun _ => id) fun l hl => ?_)).mono
          (fun _ => id) fun _ => .inr
        rw [hlocation] at hl
        exact hl

/-- The files of the cache that belong to a request. -/
inductive OwnsFor (dir : Text) (disk : Disk) (request : Request) : Location → Prop where
  | entry : OwnsFor dir disk request (disk.locationOf (entryFile dir (.ofRequest request)))
  | temp (stamp : Stamp) :
      OwnsFor dir disk request (disk.locationOf (tempPath dir (.ofRequest request) stamp))

theorem OwnsFor.owns {dir : Text} {disk : Disk} {request : Request} {location : Location}
    (h : OwnsFor dir disk request location) : Owns dir disk location := by
  cases h with
  | entry => exact .entry request
  | temp stamp => exact .temp request stamp

/-- A report is stored in the files for its request, and directories lead there afterwards. -/
theorem grows_store (dir : Text) (request : Request) (report : Text) (disk : Disk) :
    disk.Grows (fun l => ∃ p ∈ PathName.ancestors dir, l = disk.locationOf p)
      (OwnsFor dir disk request) (store dir (.ofRequest request) report disk).2 := by
  have hprovided := (Disk.grows_provideDir disk dir).mono (fun _ => id)
    (fun l (h : Disk.Nowhere l) => (h.elim : OwnsFor dir disk request l))
  unfold store
  split
  · next e between hprovide =>
    rw [hprovide] at hprovided
    exact hprovided
  · next between hprovide =>
    rw [hprovide] at hprovided
    refine hprovided.trans ((grows_writeEntry dir request report between).mono (fun _ => id) ?_)
    rintro l (rfl | rfl)
    · rw [Disk.locationOf_congr hprovided.workDir]
      exact .entry
    · rw [Disk.locationOf_congr hprovided.workDir]
      exact .temp between.stamp

end DiskCache

/-! ## Toolchains, caches and runners that stay in a scope -/

section

variable {τ : Type}

/-- From a working directory, a toolchain changes no file outside of a scope. -/
def Toolchain.StaysIn (toolchain : Toolchain (World τ)) (workDir : Location)
    (scope : Location → Prop) : Prop :=
  ∀ request (world : World τ), world.disk.workDir = workDir →
    world.disk.ModifiesOnly scope (toolchain.execute request world).2.disk

/-- From a working directory, a cache changes no file outside of a scope. -/
def Cache.StaysIn (cache : Cache (World τ)) (workDir : Location) (scope : Location → Prop) : Prop :=
  ∀ request report (world : World τ), world.disk.workDir = workDir →
    world.disk.ModifiesOnly scope (cache.store (.ofRequest request) report world).2.disk

/-- From a working directory, a runner changes no file outside of a scope. -/
def Runner.StaysIn (runner : Runner (World τ)) (workDir : Location) (scope : Location → Prop) :
    Prop :=
  ∀ request (session : Session (World τ)), session.world.disk.workDir = workDir →
    session.world.disk.ModifiesOnly scope (runner request session).2.world.disk

theorem Cache.none_staysIn (workDir : Location) (scope : Location → Prop) :
    (Cache.none : Cache (World τ)).StaysIn workDir scope :=
  fun _ _ world _ => .refl world.disk

theorem Cache.memory_staysIn (workDir : Location) (scope : Location → Prop) :
    (Cache.memory : Cache (World τ)).StaysIn workDir scope :=
  fun _ _ world _ => .refl world.disk

theorem Cache.disk_staysIn (dir : Text) (disk : Disk) :
    (Cache.disk dir : Cache (World τ)).StaysIn disk.workDir (DiskCache.Owns dir disk) := by
  intro request report world hworkDir
  have hstored := (DiskCache.grows_store dir request report world.disk).modifiesOnly
  have hscope : world.disk.ModifiesOnly (DiskCache.Owns dir disk) _ :=
    hstored.mono fun _ howns => .congr hworkDir howns.owns
  simp only [Cache.disk]
  split
  · next hstore => rwa [hstore] at hscope
  · next hstore => rwa [hstore] at hscope

variable {toolchain : Toolchain (World τ)} {cache : Cache (World τ)} {runner : Runner (World τ)}
  {workDir : Location} {scope : Location → Prop}

/-- From a working directory, one world leads to another without a change outside of a scope. -/
def World.StaysIn (workDir : Location) (scope : Location → Prop) (before after : World τ) : Prop :=
  before.disk.workDir = workDir → before.disk.ModifiesOnly scope after.disk

theorem World.StaysIn.trans {first second third : World τ}
    (h : World.StaysIn workDir scope first second) (h' : World.StaysIn workDir scope second third) :
    World.StaysIn workDir scope first third :=
  fun hworkDir => (h hworkDir).trans (h' ((h hworkDir).workDir.trans hworkDir))

/-- A cached toolchain stays where the toolchain and the cache stay. -/
theorem Runner.cached_staysIn (htoolchain : toolchain.StaysIn workDir scope)
    (hcache : cache.StaysIn workDir scope) :
    (Runner.cached toolchain cache).StaysIn workDir scope :=
  Runner.leads_cached (World.StaysIn workDir scope) (fun world _ => .refl world.disk)
    World.StaysIn.trans htoolchain hcache

/-- Requests that are answered one after the other stay in the scope of the runner. -/
theorem modifiesOnly_afterAll (hrunner : runner.StaysIn workDir scope) (requests : List Request)
    {session : Session (World τ)} (hworkDir : session.world.disk.workDir = workDir) :
    session.world.disk.ModifiesOnly scope (runner.afterAll requests session).world.disk :=
  Runner.leads_afterAll (World.StaysIn workDir scope) (fun world _ => .refl world.disk)
    World.StaysIn.trans hrunner requests session hworkDir

/-- A pass stays in the scope of its runner, whether it fails or not. -/
theorem modifiesOnly_weave (hrunner : runner.StaysIn workDir scope) (options : Options)
    (content : Text) {session : Session (World τ)}
    (hworkDir : session.world.disk.workDir = workDir) :
    session.world.disk.ModifiesOnly scope
      (weave options runner content session).session.world.disk := by
  rw [session_weave]
  exact modifiesOnly_afterAll hrunner _ hworkDir

end

end Weave
