import Mathlib.Data.List.Find
import Weave.Process
import Weave.Project
import Weave.Proofs.CacheDirectory

/-!
# Weave.Proofs.ConfigFiles — when a project is configured as before

The configuration of a project is the text of the first candidate that is a regular file. Files and
directories come and go while a page is rendered, but no candidate becomes a file by that: in a root
directory the candidates are looked for below directories that exist, and elsewhere there are none.

1. **Candidates**: each of them is a path of names below the root (`moves_candidate`), so that in a
   tree with a root directory it leads to what is at its location (`stat_candidate`).
2. **Configurations** depend on the candidates that are files alone (`load_congr`). They stay when
   the disk grows (`load_of_grows`) and when another file is written (`load_of_write`).
3. **Missing roots**: without a root directory nothing is configured (`load_eq_standard`).
-/

namespace Weave

open Disk PathName

/-! ## Names below a directory -/

theorem PathName.join_of_relative {name : Text} (hname : isAbsolute name = false) (dir : Text) :
    join dir name
      = if dir = [] ∨ dir.getLast? = some '/' then dir ++ name else dir ++ '/' :: name := by
  rw [join, if_neg (by simp [hname])]
  simp only [Bool.or_eq_true, decide_eq_true_eq]

theorem PathName.mem_join {dir name : Text} {c : Char} (hname : isAbsolute name = false)
    (hc : c ≠ '/') : c ∈ join dir name ↔ c ∈ dir ∨ c ∈ name := by
  rw [join_of_relative hname]
  split <;> simp [hc]

/-- A name in a directory with a name is found below that directory. -/
theorem PathName.join_append {name : Text} (hname : IsName name) {last : Text} (hlast : IsName last)
    (dir : Text) : join dir (name ++ '/' :: last) = join (join dir name) last := by
  have hrelative : isAbsolute (name ++ '/' :: last) = false := by
    rw [isAbsolute_append hname.ne_nil, hname.not_absolute]
  have hinner : ¬ (join dir name = [] ∨ (join dir name).getLast? = some '/') :=
    not_or.2 ⟨join_ne_nil hname dir, getLast?_join_ne_slash hname dir⟩
  rw [join_of_relative hlast.not_absolute (join dir name), if_neg hinner,
    join_of_relative hrelative, join_of_relative hname.not_absolute]
  split <;> simp

namespace Process

variable {disk : Disk} {root : Text} {location : Location}

/-- A directory to start programs in is where its path leads. -/
theorem walk_of_startDir (h : startDir disk root = .ok location) :
    '\x00' ∉ root ∧ disk.walk (disk.origin root) (steps root) = .ok (disk.locationOf root) ∧
      disk.node? (disk.locationOf root) = some .dir := by
  obtain ⟨found, hlocate, h⟩ := ok_of_bind h
  obtain ⟨_, hdir, hfound⟩ := ok_of_bind h
  obtain rfl := Except.ok.inj hfound
  obtain rfl := locate_eq hlocate
  obtain ⟨_, hname, -⟩ := ok_of_bind hlocate
  refine ⟨fun hnul => ?_, walk_steps_of_locate hlocate, checkDir_eq_ok_iff.1 hdir⟩
  simp [checkName, hnul] at hname

theorem startDir_of_walk (hne : root ≠ []) (hnul : '\x00' ∉ root)
    (hwalk : disk.walk (disk.origin root) (steps root) = .ok location)
    (hdir : disk.checkDir location = .ok ()) : startDir disk root = .ok location := by
  have hlocate := locate_of_walk_steps hnul hne hwalk hdir
  rw [startDir, hlocate]
  simp only [bind, Except.bind, hdir]
  rfl

end Process

namespace Project

variable {disk disk' : Disk} {root : Text}

/-! ## Candidates -/

/-- A candidate is a path of names below the root, of which this is the last one. -/
structure Descends (candidate last : Text) : Prop where
  moves : ∀ root, ∃ front : List Text, moves (join root candidate)
    = steps root ++ (front.map Move.down ++ [Move.down last])
  origin : ∀ root (disk : Disk), disk.origin (join root candidate) = disk.origin root
  nul : ∀ root, '\x00' ∈ join root candidate ↔ '\x00' ∈ root
  ne : ∀ root, join root candidate ≠ []

theorem descends_of_isName {name : Text} (hname : IsName name) (hnul : '\x00' ∉ name) :
    Descends name name where
  moves root := ⟨[], moves_join hname root⟩
  origin root disk := origin_join hname disk root
  nul root := by simp [mem_join hname.not_absolute, hnul]
  ne root := join_ne_nil hname root

theorem Descends.cons {name last : Text} (hname : IsName name) (hnul : '\x00' ∉ name)
    (hlast : IsName last) (hnul' : '\x00' ∉ last) : Descends (name ++ '/' :: last) last where
  moves root := by
    rw [join_append hname hlast, moves_join hlast, steps_join hname]
    exact ⟨[name], by simp⟩
  origin root disk := by rw [join_append hname hlast, origin_join hlast, origin_join hname]
  nul root := by
    rw [join_append hname hlast, mem_join hlast.not_absolute (by decide),
      mem_join hname.not_absolute (by decide)]
    simp [hnul, hnul']
  ne root := by
    rw [join_append hname hlast]
    exact join_ne_nil hlast _

/-- Each of them ends in the same letter, which no file of a cache ends in. -/
theorem descends_of_mem {candidate : Text} (h : candidate ∈ configCandidates) :
    ∃ last, Descends candidate last ∧ last.getLast? = some 'l' := by
  have hname : ∀ name ∈ ["zmd.toml", ".zmd.toml", ".config"].map String.toList,
      IsName name ∧ '\x00' ∉ name := by
    intro name hmem
    refine ⟨isName_of_length ?_ ?_, ?_⟩ <;> revert hmem <;> revert name <;> decide
  obtain ⟨hplain, hplain'⟩ := hname "zmd.toml".toList (by decide)
  obtain ⟨hhidden, hhidden'⟩ := hname ".zmd.toml".toList (by decide)
  obtain ⟨hinner, hinner'⟩ := hname ".config".toList (by decide)
  rw [configCandidates, List.map_cons, List.map_cons, List.map_cons, List.map_nil] at h
  simp only [List.mem_cons, List.not_mem_nil, or_false] at h
  rcases h with rfl | rfl | rfl
  · exact ⟨_, descends_of_isName hplain hplain', by decide⟩
  · exact ⟨_, descends_of_isName hhidden hhidden', by decide⟩
  · exact ⟨_, Descends.cons hinner hinner' hplain hplain', by decide⟩

/-- So its location lies below that of the root. -/
theorem Descends.locationOf {candidate last : Text} (h : Descends candidate last) {root : Text}
    {front : List Text}
    (hmoves : Disk.moves (join root candidate)
      = steps root ++ (front.map Move.down ++ [Move.down last])) (disk : Disk) :
    disk.locationOf (join root candidate)
      = last :: (front.map Move.down).foldl Move.apply (disk.locationOf root) := by
  rw [Disk.locationOf, hmoves, h.origin, List.foldl_append, List.foldl_append,
    ← locationOf_eq_foldl_steps]
  rfl

/-- A candidate is no file of a cache. -/
theorem not_owns_candidate {candidate : Text} (h : candidate ∈ configCandidates) (dir root : Text)
    (disk : Disk) : ¬ DiskCache.Owns dir disk (disk.locationOf (join root candidate)) := by
  obtain ⟨last, hpath, hend⟩ := descends_of_mem h
  obtain ⟨front, hmoves⟩ := hpath.moves root
  rw [hpath.locationOf hmoves disk]
  intro howns
  generalize hfile : last :: _ = l at howns
  cases howns with
  | entry request =>
    rw [DiskCache.locationOf_entryFile] at hfile
    rw [(List.cons.inj hfile).1, DiskCache.getLast?_entryName] at hend
    exact absurd (Option.some.inj hend) (by decide)
  | temp request stamp =>
    rw [DiskCache.locationOf_tempPath] at hfile
    obtain ⟨c, hlast, hdigit⟩ := DiskCache.exists_getLast?_partName request stamp
    rw [(List.cons.inj hfile).1, hlast] at hend
    rw [Option.some.inj hend] at hdigit
    exact absurd hdigit (by decide)

/-- In a tree with a root directory, a candidate leads to what is at its location. -/
theorem stat_candidate (htree : disk.IsTree) {location : Location}
    (hstart : Process.startDir disk root = .ok location) {candidate : Text}
    (hcandidate : candidate ∈ configCandidates) {node : Node}
    (hnode : disk.node? (disk.locationOf (join root candidate)) = some node) :
    disk.stat (join root candidate) = .ok node := by
  obtain ⟨hnul, hwalk, -⟩ := Process.walk_of_startDir hstart
  obtain ⟨last, hpath, -⟩ := descends_of_mem hcandidate
  obtain ⟨front, hmoves⟩ := hpath.moves root
  have hlocation := hpath.locationOf hmoves disk
  have hdir : disk.node? ((front.map Move.down).foldl Move.apply (disk.locationOf root))
      = some .dir :=
    htree.around (hlocation ▸ hnode)
  have hdown : Move.up ∉ front.map Move.down := by simp
  have hlocate : disk.locate (join root candidate)
      = .ok (disk.locationOf (join root candidate)) := by
    rw [locate, checkName_eq_ok (mt (hpath.nul root).1 hnul) (hpath.ne root), hpath.origin, hmoves,
      hlocation]
    exact (walk_append hwalk _).trans
      (walk_concat (walk_of_dir htree hdown hdir) (checkDir_eq_ok_iff.2 hdir) (.down last))
  exact stat_of_locate hlocate hnode

/-- Where a candidate leads to anything, the root is a directory, unless it is the empty path. -/
theorem startDir_of_stat (hne : root ≠ []) {candidate : Text}
    (hcandidate : candidate ∈ configCandidates) {node : Node}
    (hstat : disk.stat (join root candidate) = .ok node) :
    ∃ location, Process.startDir disk root = .ok location := by
  obtain ⟨_, hname, hwalk⟩ := ok_of_bind (node?_of_stat hstat).1
  obtain ⟨last, hpath, -⟩ := descends_of_mem hcandidate
  obtain ⟨front, hmoves⟩ := hpath.moves root
  have hnul : '\x00' ∉ root := by
    intro hnul
    simp [checkName, (hpath.nul root).2 hnul] at hname
  rw [hmoves, hpath.origin] at hwalk
  obtain ⟨between, hroot, honward⟩ := walk_of_append hwalk
  refine ⟨between, Process.startDir_of_walk hne hnul hroot ?_⟩
  -- the next step needs a directory to start from
  obtain ⟨first, rest, hrest⟩ : ∃ first rest, front.map Move.down ++ [Move.down last] = first :: rest :=
    List.exists_cons_of_ne_nil (by simp)
  rw [hrest, walk] at honward
  split at honward
  · next hdir => exact hdir
  · cases honward

/-! ## Configurations -/

theorem isFile_iff {path : Text} :
    disk.isFile path = true ↔ ∃ bytes, disk.stat path = .ok (.file bytes) := by
  unfold isFile
  split <;> simp_all

theorem isFile_eq_false_iff {path : Text} :
    disk.isFile path = false ↔ ∀ bytes, disk.stat path ≠ .ok (.file bytes) := by
  rw [Bool.eq_false_iff, Ne, isFile_iff, not_exists]

theorem configFile?_eq : configFile? disk root
    = (configCandidates.find? fun name => disk.isFile (join root name)).map (join root) :=
  List.find?_map ..

/-- The file that is read is the one whose path is kept. -/
theorem load_eq : load disk root
    = match configFile? disk root with
      | none => .ok ⟨root, .standard, none⟩
      | some path => (readConfig disk path).map fun config => ⟨root, config, some path⟩ := by
  unfold load loadConfig loadConfig?
  cases configFile? disk root with
  | none => rfl
  | some path => cases hread : readConfig disk path <;> simp [hread, Except.map]

/-- A configuration is read from the candidates that are files, and from nothing else. -/
theorem load_congr (h : ∀ candidate ∈ configCandidates, ∀ bytes,
    disk'.stat (join root candidate) = .ok (.file bytes) ↔
      disk.stat (join root candidate) = .ok (.file bytes)) :
    load disk' root = load disk root := by
  have hfile : ∀ path ∈ configCandidates.map (join root), disk'.isFile path = disk.isFile path := by
    intro path hpath
    obtain ⟨candidate, hcandidate, rfl⟩ := List.mem_map.1 hpath
    rw [Bool.eq_iff_iff, isFile_iff, isFile_iff]
    exact exists_congr (h candidate hcandidate)
  have hfound : configFile? disk' root = configFile? disk root := List.find?_congr hfile
  rw [load_eq, load_eq, hfound]
  -- the same candidate is found, and it holds the same bytes
  cases hpath : configFile? disk root with
  | none => rfl
  | some path =>
    obtain ⟨candidate, hcandidate, rfl⟩ := List.mem_map.1 (List.mem_of_find?_eq_some hpath)
    obtain ⟨bytes, hstat⟩ := isFile_iff.1 (List.find?_some hpath)
    have hread : disk'.readText (join root candidate) = disk.readText (join root candidate) := by
      rw [readText_eq, readText_eq, hstat, (h candidate hcandidate bytes).2 hstat]
    simp only [readConfig, hread]

theorem root_of_load {project : Project} (h : load disk root = .ok project) :
    project.root = root := by
  rw [load_eq] at h
  split at h
  · rw [← Except.ok.inj h]
  · next path hpath =>
    cases hread : readConfig disk path with
    | error failure => simp [hread, Except.map] at h
    | ok config =>
      rw [hread] at h
      rw [← Except.ok.inj h]

/-- A project with a root directory is configured as before if no candidate is touched, whatever
directories are created. -/
theorem load_of_grows {fresh scope : Location → Prop} (htree : disk.IsTree)
    (hgrown : disk.Grows fresh scope disk') {location : Location}
    (hstart : Process.startDir disk root = .ok location)
    (hout : ∀ candidate ∈ configCandidates, ¬ scope (disk.locationOf (join root candidate))) :
    load disk' root = load disk root := by
  refine load_congr fun candidate hcandidate bytes => ⟨fun hstat => ?_, fun hstat => ?_⟩
  · have hnode := (node?_of_stat hstat).2
    rw [locationOf_congr hgrown.workDir] at hnode
    rcases hgrown.others _ (hout candidate hcandidate) with hsame | ⟨-, -, hdir⟩
    · exact stat_candidate htree hstart hcandidate (hsame ▸ hnode)
    · rw [hnode] at hdir
      cases hdir
  · exact hgrown.stat hstat (hout candidate hcandidate)

/-- A project is configured as before if a file is written that is no candidate. -/
theorem load_of_write {path : Text} {bytes : ByteArray} (hwrite : disk.write path bytes = .ok disk')
    (hout : ∀ candidate ∈ configCandidates,
      disk.locationOf path ≠ disk.locationOf (join root candidate)) :
    load disk' root = load disk root := by
  have hforth : disk.Grows Nowhere (· = disk.locationOf path) disk' := grows_write hwrite
  have hback : disk'.Grows Nowhere (· = disk.locationOf path) disk := grows_unwrite hwrite
  refine load_congr fun candidate hcandidate bytes => ⟨fun hstat => ?_, fun hstat => ?_⟩
  · refine hback.stat hstat ?_
    rw [locationOf_congr hforth.workDir]
    exact (hout candidate hcandidate).symm
  · exact hforth.stat hstat (hout candidate hcandidate).symm

/-! ## Missing roots -/

/-- Without a file nothing is configured. -/
theorem load_eq_standard_of_noFile
    (h : ∀ candidate ∈ configCandidates, ∀ bytes,
      disk.stat (join root candidate) ≠ .ok (.file bytes)) :
    load disk root = .ok ⟨root, .standard, none⟩ := by
  have hfind : configCandidates.find? (fun name => disk.isFile (join root name)) = none :=
    List.find?_eq_none.2 fun candidate hmem => by simp [isFile_eq_false_iff.2 (h candidate hmem)]
  rw [load_eq, configFile?_eq, hfind]
  rfl

/-- Without a root directory there is no configuration. -/
theorem load_eq_standard (hne : root ≠ [])
    (hroot : ∀ location, Process.startDir disk root ≠ .ok location) :
    load disk root = .ok ⟨root, .standard, none⟩ := by
  refine load_eq_standard_of_noFile fun candidate hcandidate bytes hstat => ?_
  obtain ⟨location, hlocation⟩ := startDir_of_stat hne hcandidate hstat
  exact hroot location hlocation

end Project

end Weave
