import Weave.Proofs.Components
import Weave.World

/-!
# Weave.Proofs.Locations — where paths lead

A path is a text, and the operations on a disk act at locations. Whatever stands on the disk, a path
that leads anywhere leads to the location that its segments spell one after the other, from the root
or from the working directory.

1. **Locations**: where a path leads (`locationOf_eq`), which is said by its components
   (`locationOf_eq_foldl_components`); where a name below a directory leads (`locationOf_join`), and
   the parent of a file (`locationOf_of_fileName?`).
2. **Walks**: a path that leads anywhere leads to its location (`locate_eq`), a file is put there
   (`locate_of_filePlace`), and a walk goes the same way wherever its directories stand
   (`walk_of_dirs`).
-/

namespace Weave

/-- What is done in two steps succeeds only if both do. -/
theorem ok_of_bind {ε α β : Type} {first : Except ε α} {next : α → Except ε β} {result : β}
    (h : first >>= next = .ok result) : ∃ value, first = .ok value ∧ next value = .ok result := by
  cases first with
  | error failure => cases h
  | ok value => exact ⟨value, rfl, h⟩

theorem bind_eq_ok_iff {ε α β : Type} {first : Except ε α} {next : α → Except ε β} {result : β} :
    first >>= next = .ok result ↔ ∃ value, first = .ok value ∧ next value = .ok result := by
  constructor
  · exact ok_of_bind
  · rintro ⟨value, hfirst, hnext⟩
    rw [hfirst]
    exact hnext

/-- What is no failure is a result. -/
theorem exists_ok_of_isOk {ε α : Type} {result : Except ε α} (h : result.isOk = true) :
    ∃ value, result = .ok value := by
  cases result with
  | error failure => cases h
  | ok value => exact ⟨value, rfl⟩

namespace Disk

open PathName

/-! ## Segments one after the other -/

/-- Where a segment leads from a location. -/
def enter (location : Location) (segment : Text) : Location :=
  if isIdle segment then location
  else if segment = ['.', '.'] then location.tail
  else segment :: location

theorem enter_of_isIdle {segment : Text} (h : isIdle segment = true) (location : Location) :
    enter location segment = location := by
  rw [enter, if_pos h]

/-- The steps of a path, without the one that a slash at the end asks for. -/
def steps (path : Text) : List Move :=
  ((segments path).filter (· ≠ [])).map .ofSegment

/-- Steps lead where segments lead. -/
theorem foldl_ofSegment (segments : List Text) (location : Location) :
    ((segments.filter (· ≠ [])).map Move.ofSegment).foldl Move.apply location
      = segments.foldl enter location := by
  induction segments generalizing location with
  | nil => rfl
  | cons segment segments ih =>
    by_cases hempty : segment = []
    · rw [hempty, List.filter_cons_of_neg (by simp), List.foldl_cons]
      exact ih location
    · rw [List.filter_cons_of_pos (by simpa using hempty), List.map_cons, List.foldl_cons,
        List.foldl_cons, ih]
      congr 1
      by_cases hdot : segment = ['.']
      · simp [hdot, Move.ofSegment, Move.apply, enter, isIdle]
      · by_cases hup : segment = ['.', '.'] <;>
          simp [Move.ofSegment, Move.apply, enter, isIdle, hempty, hdot, hup]

/-- Where a component leads from a location. -/
def follow (location : Location) : Component → Location
  | .root => []
  | .here => location
  | .up => location.tail
  | .name text => text :: location

theorem follow_ofSegment {segment : Text} (h : isIdle segment = false) (location : Location) :
    follow location (.ofSegment segment) = enter location segment := by
  rw [enter, if_neg (by simp [h]), Component.ofSegment]
  split <;> rfl

/-- Segments lead where their components lead. -/
theorem foldl_enter_eq (segments : List Text) (location : Location) :
    segments.foldl enter location
      = ((segments.filter fun s => !isIdle s).map .ofSegment).foldl follow location := by
  induction segments generalizing location with
  | nil => rfl
  | cons segment segments ih =>
    rw [List.foldl_cons, ih]
    cases hidle : isIdle segment with
    | true => rw [List.filter_cons_of_neg (by simp [hidle]), enter_of_isIdle hidle]
    | false => rw [List.filter_cons_of_pos (by simp [hidle]), List.map_cons, List.foldl_cons,
        follow_ofSegment hidle]

/-- Idle segments at the end lead no further. -/
theorem foldl_dropIdleEnd (segments : List Text) (location : Location) :
    (dropIdleEnd segments).foldl enter location = segments.foldl enter location := by
  rw [foldl_enter_eq, filter_dropIdleEnd, ← foldl_enter_eq]

/-- A slash at the end leads no further. -/
theorem locationOf_eq_foldl_steps (disk : Disk) (path : Text) :
    disk.locationOf path = (steps path).foldl Move.apply (disk.origin path) := by
  unfold locationOf moves
  split
  · rw [List.foldl_append]
    rfl
  · rfl

/-- The location of a path is spelled by its segments. -/
theorem locationOf_eq (disk : Disk) (path : Text) :
    disk.locationOf path = (segments path).foldl enter (disk.origin path) := by
  rw [locationOf_eq_foldl_steps]
  exact foldl_ofSegment (segments path) (disk.origin path)

/-- It is spelled by its components, so that it is the same for paths with the same components. -/
theorem locationOf_eq_foldl_components (disk : Disk) (path : Text) :
    disk.locationOf path = (components path).foldl follow disk.workDir := by
  obtain ⟨head, rest, hpath⟩ := exists_segments_eq path
  rw [locationOf_eq, hpath, components_of_segments hpath, List.foldl_cons, foldl_enter_eq,
    List.foldl_append]
  congr 1
  -- the first segment leads from where the path begins
  have hidle : enter (disk.origin path) [] = disk.origin path := enter_of_isIdle rfl _
  unfold headComponent?
  by_cases habsolute : isAbsolute path = true
  · obtain ⟨rfl, -⟩ := (isAbsolute_iff hpath).1 habsolute
    rw [if_pos habsolute, hidle, origin, if_pos habsolute]
    rfl
  · rw [if_neg habsolute, origin, if_neg habsolute]
    by_cases hempty : head = []
    · subst hempty
      rfl
    · by_cases hdot : head = ['.']
      · subst hdot
        rfl
      · have hlive : isIdle head = false := by simp [isIdle, hempty, hdot]
        rw [if_neg hempty, if_neg hdot]
        exact (follow_ofSegment hlive disk.workDir).symm

/-- It depends on the working directory alone. -/
theorem locationOf_congr {disk disk' : Disk} (h : disk'.workDir = disk.workDir) (path : Text) :
    disk'.locationOf path = disk.locationOf path := by
  simp only [locationOf, origin, h]

/-! ## Paths that are put together and taken apart -/

/-- A name below a directory is one more step. -/
theorem steps_join {name : Text} (hname : IsName name) (dir : Text) :
    steps (join dir name) = steps dir ++ [.down name] := by
  have hlast : ((segments name).filter (· ≠ [])).map Move.ofSegment = [.down name] := by
    have hempty : name ≠ [] := hname.ne_nil
    have hdot : name ≠ ['.'] := by
      rintro rfl
      exact absurd hname.live (by decide)
    rw [segments_of_noSlash hname.noSlash]
    simp [hempty, hdot, Move.ofSegment, hname.notUp]
  rw [join, if_neg (by simp [hname.not_absolute])]
  by_cases hempty : dir = []
  · subst hempty
    rw [if_pos (by simp), List.nil_append]
    exact hlast
  · by_cases hslash : dir.getLast? = some '/'
    · -- the empty segment behind the slash makes way for the name
      obtain ⟨start, rfl⟩ := List.getLast?_eq_some_iff.1 hslash
      have hend : segments ([] : Text) = [[]] := List.splitOnP_nil
      rw [if_pos (by simp [hslash]), List.append_assoc, List.singleton_append, steps, steps,
        segments_append_slash, segments_append_slash, hend, List.filter_append, List.filter_append,
        List.map_append, List.map_append, hlast]
      simp
    · rw [if_neg (by simp [hempty, hslash]), steps, steps, segments_append_slash,
        List.filter_append, List.map_append, hlast]

/-- It does not end in a slash. -/
theorem getLast?_join_ne_slash {name : Text} (hname : IsName name) (dir : Text) :
    (join dir name).getLast? ≠ some '/' := by
  have hend : name.getLast? ≠ some '/' := fun h => hname.noSlash (List.mem_of_getLast? h)
  have hbehind : ∀ start : Text, (start ++ name).getLast? = name.getLast? := by
    intro start
    rw [List.getLast?_append, List.getLast?_eq_some_getLast hname.ne_nil, Option.some_or]
  unfold join
  rw [if_neg (by simp [hname.not_absolute])]
  split
  · rwa [hbehind]
  · rwa [List.append_cons, hbehind]

theorem moves_join {name : Text} (hname : IsName name) (dir : Text) :
    moves (join dir name) = steps dir ++ [.down name] := by
  rw [moves, if_neg (getLast?_join_ne_slash hname dir)]
  exact steps_join hname dir

/-- It begins where the directory begins. -/
theorem origin_join {name : Text} (hname : IsName name) (disk : Disk) (dir : Text) :
    disk.origin (join dir name) = disk.origin dir := by
  by_cases hempty : dir = []
  · have hjoined : join dir name = name := by simp [join, hname.not_absolute, hempty]
    rw [hjoined, hempty, origin, origin, hname.not_absolute]
    rfl
  · rw [join, if_neg (by simp [hname.not_absolute]), origin, origin]
    split <;> rw [isAbsolute_append hempty]

/-- So it lies below the location of the directory. -/
theorem locationOf_join {name : Text} (hname : IsName name) (disk : Disk) (dir : Text) :
    disk.locationOf (join dir name) = name :: disk.locationOf dir := by
  rw [locationOf_eq_foldl_steps, steps_join hname, origin_join hname, List.foldl_append,
    ← locationOf_eq_foldl_steps]
  rfl

/-- Other segments after the first one lead on from where the path begins. -/
theorem locationOf_ofHead {path head : Text} {rest front : List Text}
    (hsegments : segments path = head :: rest) (hrest : rest ≠ [])
    (hslash : ∀ s ∈ front, '/' ∉ s) (disk : Disk) :
    disk.locationOf (ofHead path head front) = (head :: front).foldl enter (disk.origin path) := by
  rcases ofHead_cases hsegments hrest hslash with ⟨hroot, habsolute, rfl, rfl⟩ | ⟨hjoined, hsame⟩
  · have horigin : disk.origin path = [] := if_pos habsolute
    rw [hroot, horigin]
    rfl
  · rw [locationOf_eq, hjoined, origin, origin, hsame]

/-- A path that leads to a file has a parent, and its location is the name of the file below that of
the parent. -/
theorem locationOf_of_fileName? {path name : Text} (h : fileName? path = some name) :
    IsName name ∧ ∃ parent, parent? path = some parent ∧
      ∀ disk : Disk, disk.locationOf path = name :: disk.locationOf parent := by
  obtain ⟨hname, parent, hparent, hcomponents⟩ := exists_parent_of_fileName? h
  refine ⟨hname, parent, hparent, fun disk => ?_⟩
  rw [locationOf_eq_foldl_components, hcomponents, List.foldl_append,
    ← locationOf_eq_foldl_components]
  rfl

/-! ## Walks -/

theorem checkDir_eq_ok_iff {disk : Disk} {location : Location} :
    disk.checkDir location = .ok () ↔ disk.node? location = some .dir := by
  unfold checkDir
  split <;> simp_all

/-- A walk that does not fail goes where its steps lead. -/
theorem walk_eq {disk : Disk} {location goal : Location} {ms : List Move}
    (h : disk.walk location ms = .ok goal) : goal = ms.foldl Move.apply location := by
  induction ms generalizing location with
  | nil => exact (Except.ok.inj h).symm
  | cons m ms ih =>
    rw [walk] at h
    split at h
    · exact ih h
    · cases h

/-- A walk goes the same way wherever its directories stand. -/
theorem walk_of_dirs {disk disk' : Disk}
    (hdirs : ∀ location, disk.node? location = some .dir → disk'.node? location = some .dir)
    {location goal : Location} {ms : List Move} (h : disk.walk location ms = .ok goal) :
    disk'.walk location ms = .ok goal := by
  induction ms generalizing location with
  | nil => exact h
  | cons m ms ih =>
    rw [walk] at h ⊢
    split at h
    · next hdir =>
      rw [checkDir_eq_ok_iff.2 (hdirs location (checkDir_eq_ok_iff.1 hdir))]
      exact ih h
    · cases h

/-- Steps that are taken in two goes. -/
theorem walk_append {disk : Disk} {location between : Location} {ms : List Move}
    (h : disk.walk location ms = .ok between) (ms' : List Move) :
    disk.walk location (ms ++ ms') = disk.walk between ms' := by
  induction ms generalizing location with
  | nil =>
    obtain rfl : location = between := Except.ok.inj h
    rfl
  | cons m ms ih =>
    rw [walk] at h
    rw [List.cons_append, walk]
    split at h
    · exact ih h
    · cases h

/-- A walk goes one step further from a directory. -/
theorem walk_concat {disk : Disk} {location goal : Location} {ms : List Move}
    (h : disk.walk location ms = .ok goal) (hdir : disk.checkDir goal = .ok ()) (m : Move) :
    disk.walk location (ms ++ [m]) = .ok (m.apply goal) := by
  rw [walk_append h, walk, hdir]
  rfl

/-- A path that leads anywhere leads to its location. -/
theorem locate_eq {disk : Disk} {path : Text} {location : Location}
    (h : disk.locate path = .ok location) : location = disk.locationOf path := by
  obtain ⟨_, -, hwalk⟩ := ok_of_bind h
  exact walk_eq hwalk

/-- The place for a new node is where the steps of its path lead. It is not the root, and the
directory around it exists. -/
theorem walk_of_place {disk : Disk} {path : Text} {location : Location}
    (h : disk.place path = .ok (some location)) :
    checkName path = .ok () ∧ location ≠ [] ∧ disk.node? location.tail = some .dir
      ∧ disk.walk (disk.origin path) (steps path) = .ok location := by
  obtain ⟨_, hname, h⟩ := ok_of_bind h
  obtain ⟨parent, hparent, h⟩ := ok_of_bind h
  obtain ⟨_, hdir, h⟩ := ok_of_bind h
  split at h
  · next name hlast =>
    obtain rfl : name :: parent = location := Option.some.inj (Except.ok.inj h)
    obtain ⟨before, hsteps⟩ := List.getLast?_eq_some_iff.1 hlast
    rw [hsteps, List.dropLast_concat] at hparent
    refine ⟨hname, by simp, checkDir_eq_ok_iff.1 hdir, ?_⟩
    rw [steps, hsteps]
    exact walk_concat hparent hdir (.down name)
  · cases h

/-- A file is put where its path leads. -/
theorem locate_of_filePlace {disk : Disk} {path : Text} {location : Location}
    (h : disk.filePlace path = .ok location) :
    disk.locate path = .ok location ∧ location = disk.locationOf path ∧ location ≠ [] := by
  obtain ⟨place, hplace, h⟩ := ok_of_bind h
  cases place with
  | none => cases h
  | some found =>
    simp only at h
    split at h
    · cases h
    · next hslash =>
      obtain rfl : found = location := Except.ok.inj h
      obtain ⟨hname, hne, -, hwalk⟩ := walk_of_place hplace
      have hmoves : moves path = steps path := if_neg hslash
      have hlocate : disk.locate path = .ok found := by
        rw [locate, hname, hmoves]
        exact hwalk
      exact ⟨hlocate, locate_eq hlocate, hne⟩

end Disk

end Weave
