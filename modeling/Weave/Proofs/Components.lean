import Mathlib.Data.List.DropRight
import Weave.PathName

/-!
# Weave.Proofs.Components — paths that are put together and taken apart

Two paths that are spelled differently lead the same way if they have the same components. A name
put below a directory is one more component, and the parent of a path leaves it out again.

1. **Segments**: what is put together is taken apart again (`segments_ofSegments`), and the name of
   a file is the last segment that counts (`segments_of_fileName?`).
2. **Components**: of a name below a directory (`components_join`), of the parent of a file
   (`exists_parent_of_fileName?`); the last one is the name of a file (`fileName?_eq_some_iff`).
-/

namespace Weave

/-! ## Names -/

namespace PathName

/-- A segment that stands for a node below a directory. -/
structure IsName (name : Text) : Prop where
  noSlash : '/' ∉ name
  live : isIdle name = false
  notUp : name ≠ ['.', '.']

theorem segments_append_slash (start rest : Text) :
    segments (start ++ '/' :: rest) = segments start ++ segments rest :=
  List.splitOnP_append_cons start rest (by simp)

theorem segments_of_noSlash {s : Text} (h : '/' ∉ s) : segments s = [s] := by
  apply List.splitOnP_eq_singleton
  intro c hc
  simp only [decide_eq_false_iff_not]
  rintro rfl
  exact h hc

/-- A path has a segment at least, be it empty. -/
theorem exists_segments_eq (path : Text) : ∃ head rest, segments path = head :: rest :=
  List.exists_cons_of_ne_nil (List.splitOnP_ne_nil (· = '/') path)

theorem segments_slash_cons (path : Text) : segments ('/' :: path) = [] :: segments path :=
  segments_append_slash [] path

/-- Another character is put before the first segment. -/
theorem segments_cons_of_ne {path head : Text} {rest : List Text} {c : Char} (hc : c ≠ '/')
    (h : segments path = head :: rest) : segments (c :: path) = (c :: head) :: rest := by
  rw [segments, List.splitOnP_cons_eq_if_modifyHead, if_neg (by simpa using hc), ← segments, h,
    List.modifyHead_cons]

/-- No segment holds a slash. -/
theorem noSlash_of_mem_segments {path : Text} : ∀ s ∈ segments path, '/' ∉ s := by
  induction path with
  | nil => simp [segments, List.splitOnP_nil]
  | cons c cs ih =>
    by_cases hc : c = '/'
    · rw [hc, segments_slash_cons, List.forall_mem_cons]
      exact ⟨List.not_mem_nil, ih⟩
    · obtain ⟨head, rest, hcs⟩ := exists_segments_eq cs
      rw [hcs, List.forall_mem_cons] at ih
      rw [segments_cons_of_ne hc hcs, List.forall_mem_cons]
      refine ⟨?_, ih.2⟩
      simpa [Ne.symm hc] using ih.1

theorem isAbsolute_append {start : Text} (h : start ≠ []) (rest : Text) :
    isAbsolute (start ++ rest) = isAbsolute start := by
  cases start with
  | nil => exact absurd rfl h
  | cons c cs => rfl

theorem IsName.ne_nil {name : Text} (h : IsName name) : name ≠ [] := by
  rintro rfl
  exact absurd h.live (by decide)

theorem IsName.not_absolute {name : Text} (h : IsName name) : isAbsolute name = false := by
  have hnoSlash := h.noSlash
  cases name with
  | nil => rfl
  | cons c cs =>
    simp only [List.mem_cons, not_or] at hnoSlash
    simpa [isAbsolute] using Ne.symm hnoSlash.1

/-- Idle segments and the two dots are shorter. -/
theorem isName_of_length {name : Text} (hslash : '/' ∉ name) (hlong : 3 ≤ name.length) :
    IsName name where
  noSlash := hslash
  live := by
    rw [isIdle, Bool.or_eq_false_iff, decide_eq_false_iff_not, decide_eq_false_iff_not]
    constructor <;> rintro rfl <;> simp at hlong
  notUp := by
    rintro rfl
    simp at hlong

/-- A segment that is a component of its own is a name. -/
theorem isName_of_ofSegment {s name : Text} (hslash : '/' ∉ s) (hlive : isIdle s = false)
    (h : Component.ofSegment s = .name name) : s = name ∧ IsName name := by
  unfold Component.ofSegment at h
  by_cases hup : s = ['.', '.']
  · simp [hup] at h
  · rw [if_neg hup, Component.name.injEq] at h
    subst h
    exact ⟨rfl, hslash, hlive, hup⟩

/-! ## Segments -/

/-- A path is absolute if it has an empty segment before others. -/
theorem isAbsolute_iff {path head : Text} {rest : List Text} (h : segments path = head :: rest) :
    isAbsolute path = true ↔ head = [] ∧ rest ≠ [] := by
  cases path with
  | nil =>
    rw [segments, List.splitOnP_nil, List.cons.injEq] at h
    simp [isAbsolute, ← h.2]
  | cons c cs =>
    obtain ⟨first, others, hcs⟩ := exists_segments_eq cs
    by_cases hc : c = '/'
    · rw [hc, segments_slash_cons, hcs, List.cons.injEq] at h
      simp [isAbsolute, hc, ← h.1, ← h.2]
    · rw [segments_cons_of_ne hc hcs, List.cons.injEq] at h
      simp [isAbsolute, hc, ← h.1]

theorem ofSegments_cons_cons (head next : Text) (rest : List Text) :
    ofSegments (head :: next :: rest) = head ++ '/' :: ofSegments (next :: rest) := by
  simp [ofSegments]

theorem ofSegments_segments (path : Text) : ofSegments (segments path) = path :=
  List.intercalate_splitOn '/'

theorem mem_ofSegments_iff {segments : List Text} {c : Char} (hc : c ≠ '/') :
    c ∈ ofSegments segments ↔ ∃ s ∈ segments, c ∈ s := by
  induction segments with
  | nil => simp [ofSegments]
  | cons head rest ih =>
    cases rest with
    | nil => simp [ofSegments]
    | cons next rest =>
      rw [ofSegments_cons_cons, List.mem_append, List.mem_cons, ih]
      simp [hc]

/-- The characters of a path are those of its segments, and slashes. -/
theorem mem_iff_mem_segments {path : Text} {c : Char} (hc : c ≠ '/') :
    c ∈ path ↔ ∃ s ∈ segments path, c ∈ s := by
  rw [← mem_ofSegments_iff hc, ofSegments_segments]

/-- Segments that are put together are taken apart again. -/
theorem segments_ofSegments {head : Text} {rest : List Text}
    (hslash : ∀ s ∈ head :: rest, '/' ∉ s) : segments (ofSegments (head :: rest)) = head :: rest := by
  induction rest generalizing head with
  | nil =>
    rw [List.forall_mem_cons] at hslash
    simpa [ofSegments] using segments_of_noSlash hslash.1
  | cons next rest ih =>
    rw [List.forall_mem_cons] at hslash
    rw [ofSegments_cons_cons, segments_append_slash, segments_of_noSlash hslash.1, ih hslash.2]
    rfl

theorem dropIdleEnd_concat (segments : List Text) (s : Text) :
    dropIdleEnd (segments ++ [s]) = if isIdle s then dropIdleEnd segments else segments ++ [s] :=
  List.rdropWhile_concat isIdle segments s

/-- The segments that count are all there when the idle ones at the end are gone. -/
theorem filter_dropIdleEnd (segments : List Text) :
    (dropIdleEnd segments).filter (fun s => !isIdle s) = segments.filter fun s => !isIdle s := by
  induction segments using List.reverseRecOn with
  | nil => rfl
  | append_singleton segments s ih =>
    rw [dropIdleEnd_concat]
    cases hidle : isIdle s with
    | true => simp [hidle, ih]
    | false => simp

theorem mem_of_mem_dropIdleEnd {segments : List Text} {s : Text} (h : s ∈ dropIdleEnd segments) :
    s ∈ segments :=
  (List.rdropWhile_prefix isIdle segments).subset h

/-- What is last then is not idle. -/
theorem isIdle_of_dropIdleEnd {segments front : List Text} {s : Text}
    (h : dropIdleEnd segments = front ++ [s]) : isIdle s = false := by
  induction segments using List.reverseRecOn with
  | nil => simp [dropIdleEnd] at h
  | append_singleton segments last ih =>
    rw [dropIdleEnd_concat] at h
    split at h
    · exact ih h
    · next hlast =>
      obtain ⟨-, rfl⟩ := List.append_inj' h rfl |>.imp_right List.singleton_inj.1
      simpa using hlast

/-- The name of the file that a path leads to is the last segment that counts. -/
theorem segments_of_fileName? {path name : Text} (h : fileName? path = some name) :
    IsName name ∧ ∃ head rest, segments path = head :: rest ∧
      (dropIdleEnd rest = [] ∧ head = name ∨ ∃ front, dropIdleEnd rest = front ++ [name]) := by
  have hcomponent : (components path).getLast? = some (.name name) := by
    unfold fileName? at h
    split at h
    · next n hlast => rwa [Option.some.inj h] at hlast
    · cases h
  have hslash : ∀ s ∈ segments path, '/' ∉ s := noSlash_of_mem_segments
  unfold components at hcomponent
  cases hsegments : segments path with
  | nil => simp [hsegments] at hcomponent
  | cons head rest =>
    simp only [hsegments] at hcomponent
    rw [hsegments, List.forall_mem_cons] at hslash
    rw [← filter_dropIdleEnd] at hcomponent
    rcases List.eq_nil_or_concat (dropIdleEnd rest) with hlive | ⟨front, s, hlive⟩
    · -- nothing after the first segment counts
      rw [hlive] at hcomponent
      simp only [List.filter_nil, List.map_nil, List.append_nil] at hcomponent
      unfold headComponent? at hcomponent
      split at hcomponent
      · simp at hcomponent
      · split at hcomponent
        · simp at hcomponent
        · split at hcomponent
          · simp at hcomponent
          · next hhead hdot =>
            have hidle : isIdle head = false := by simp [isIdle, hhead, hdot]
            obtain ⟨hname, hisName⟩ :=
              isName_of_ofSegment hslash.1 hidle (Option.some.inj hcomponent)
            exact ⟨hisName, head, rest, rfl, .inl ⟨hlive, hname⟩⟩
    · rw [List.concat_eq_append] at hlive
      have hidle : isIdle s = false := isIdle_of_dropIdleEnd hlive
      have hmem : s ∈ rest := mem_of_mem_dropIdleEnd (by simp [hlive])
      rw [hlive, List.filter_append, List.filter_cons_of_pos (by simp [hidle]), List.filter_nil,
        List.map_append, List.map_cons, List.map_nil, ← List.append_assoc,
        List.getLast?_concat, Option.some.injEq] at hcomponent
      obtain ⟨rfl, hisName⟩ := isName_of_ofSegment (hslash.2 s hmem) hidle hcomponent
      exact ⟨hisName, head, rest, rfl, .inr ⟨front, hlive⟩⟩

/-- What is left of a path without the last segments begins as the path does. -/
theorem ofHead_cases {path head : Text} {rest front : List Text}
    (hsegments : segments path = head :: rest) (hrest : rest ≠ [])
    (hslash : ∀ s ∈ front, '/' ∉ s) :
    ofHead path head front = ['/'] ∧ isAbsolute path = true ∧ head = [] ∧ front = [] ∨
      segments (ofHead path head front) = head :: front ∧
        isAbsolute (ofHead path head front) = isAbsolute path := by
  have hmem : head ∈ segments path := by simp [hsegments]
  have hhead : '/' ∉ head := noSlash_of_mem_segments head hmem
  have habsolute := isAbsolute_iff hsegments
  unfold ofHead
  split
  · next hroot =>
    rw [Bool.and_eq_true, List.isEmpty_iff] at hroot
    exact .inl ⟨rfl, hroot.2, (habsolute.1 hroot.2).1, hroot.1⟩
  · next hroot =>
    have hjoined := segments_ofSegments (List.forall_mem_cons.2 ⟨hhead, hslash⟩)
    refine .inr ⟨hjoined, ?_⟩
    rw [Bool.eq_iff_iff, isAbsolute_iff hjoined, habsolute]
    refine ⟨fun h => ⟨h.1, hrest⟩, fun h => ⟨h.1, ?_⟩⟩
    rintro rfl
    exact hroot (by simpa using habsolute.2 h)

/-! ## Components -/

theorem components_of_segments {path head : Text} {rest : List Text}
    (h : segments path = head :: rest) :
    components path = (headComponent? path head).toList
      ++ (rest.filter fun s => !isIdle s).map .ofSegment := by
  rw [components, h]

theorem components_nil : components [] = [] := by
  decide

/-- The first component depends on the rest of the path only in that an absolute path has a root. -/
theorem headComponent?_congr {path path' : Text} (h : isAbsolute path' = isAbsolute path)
    (head : Text) : headComponent? path' head = headComponent? path head := by
  rw [headComponent?, headComponent?, h]

theorem IsName.ofSegment {name : Text} (h : IsName name) :
    Component.ofSegment name = .name name :=
  if_neg h.notUp

/-- A name that a path begins with is a component of it. -/
theorem IsName.headComponent? {path name : Text} (h : IsName name)
    (hrelative : isAbsolute path = false) : headComponent? path name = some (.name name) := by
  have hdot : name ≠ ['.'] := by
    rintro rfl
    exact absurd h.live (by decide)
  rw [PathName.headComponent?, if_neg (by simp [hrelative]), if_neg h.ne_nil, if_neg hdot,
    h.ofSegment]

/-- Alone, it is the only one. -/
theorem components_of_isName {name : Text} (h : IsName name) : components name = [.name name] := by
  rw [components_of_segments (segments_of_noSlash h.noSlash), h.headComponent? h.not_absolute]
  rfl

/-- One more segment is one more component, unless it is idle. -/
theorem components_append_slash (start : Text) {segment : Text} (hslash : '/' ∉ segment) :
    components (start ++ '/' :: segment)
      = components (start ++ ['/']) ++ if isIdle segment then [] else [.ofSegment segment] := by
  obtain ⟨head, rest, hstart⟩ := exists_segments_eq start
  have hsegments : ∀ more : Text, '/' ∉ more →
      segments (start ++ '/' :: more) = head :: (rest ++ [more]) := by
    intro more hmore
    rw [segments_append_slash, segments_of_noSlash hmore, hstart, List.cons_append]
  have habsolute : isAbsolute (start ++ '/' :: segment) = isAbsolute (start ++ ['/']) := by
    cases start <;> rfl
  have hidle : isIdle [] = true := rfl
  rw [components_of_segments (hsegments segment hslash),
    components_of_segments (hsegments [] List.not_mem_nil), headComponent?_congr habsolute,
    List.filter_append, List.filter_append, List.map_append, List.map_append]
  cases hsegment : isIdle segment <;> simp [hsegment, hidle]

/-- A slash at the end is none. -/
theorem components_append_end {path : Text} (h : path ≠ []) :
    components (path ++ ['/']) = components path := by
  obtain ⟨head, rest, hpath⟩ := exists_segments_eq path
  have hempty : segments ([] : Text) = [[]] := List.splitOnP_nil
  have hidle : isIdle [] = true := rfl
  have hlonger : segments (path ++ ['/']) = head :: (rest ++ [[]]) := by
    rw [segments_append_slash, hempty, hpath, List.cons_append]
  rw [components_of_segments hlonger, components_of_segments hpath,
    headComponent?_congr (isAbsolute_append h _), List.filter_append]
  simp [hidle]

/-- A name below a directory is the last component. -/
theorem components_join {name : Text} (hname : IsName name) (dir : Text) :
    components (join dir name) = components dir ++ [.name name] := by
  have hbelow : ∀ start : Text,
      components (start ++ '/' :: name) = components (start ++ ['/']) ++ [.name name] := by
    intro start
    rw [components_append_slash start hname.noSlash, hname.live, hname.ofSegment]
    rfl
  rw [join, if_neg (by simp [hname.not_absolute])]
  by_cases hempty : dir = []
  · rw [hempty, if_pos (by simp), components_nil]
    exact components_of_isName hname
  · by_cases hslash : dir.getLast? = some '/'
    · obtain ⟨start, rfl⟩ := List.getLast?_eq_some_iff.1 hslash
      rw [if_pos (by simp [hslash]), List.append_assoc]
      exact hbelow start
    · rw [if_neg (by simp [hempty, hslash]), hbelow, components_append_end hempty]

/-- Its components are those of the segments that are left. -/
theorem components_ofHead {path head : Text} {rest front : List Text}
    (hsegments : segments path = head :: rest) (hrest : rest ≠ [])
    (hslash : ∀ s ∈ front, '/' ∉ s) :
    components (ofHead path head front) = (headComponent? path head).toList
      ++ (front.filter fun s => !isIdle s).map .ofSegment := by
  rcases ofHead_cases hsegments hrest hslash with ⟨hroot, habsolute, rfl, rfl⟩ | ⟨hjoined, hsame⟩
  · rw [hroot, headComponent?, if_pos habsolute]
    decide
  · rw [components_of_segments hjoined, headComponent?_congr hsame]

/-- A path that leads to a file has a parent, and the name of the file is one more component. -/
theorem exists_parent_of_fileName? {path name : Text} (h : fileName? path = some name) :
    IsName name ∧ ∃ dir, parent? path = some dir ∧
      components path = components dir ++ [.name name] := by
  obtain ⟨hname, head, rest, hsegments, hlast⟩ := segments_of_fileName? h
  refine ⟨hname, ?_⟩
  rw [components_of_segments hsegments, ← filter_dropIdleEnd rest]
  rcases hlast with ⟨hlive, rfl⟩ | ⟨front, hlive⟩
  · -- the path is a name alone, below the working directory
    have hhead : head ≠ [] := hname.ne_nil
    have hrelative : isAbsolute path = false := by
      rw [← Bool.not_eq_true, isAbsolute_iff hsegments]
      exact fun habsolute => hhead habsolute.1
    refine ⟨[], by simp [parent?, hsegments, hlive, hrelative, hhead], ?_⟩
    rw [hlive, hname.headComponent? hrelative, components_nil]
    rfl
  · have hrest : rest ≠ [] := by
      rintro rfl
      simp [dropIdleEnd] at hlive
    have hslash : ∀ s ∈ dropIdleEnd front, '/' ∉ s := by
      intro s hs
      have hmem : s ∈ dropIdleEnd rest := by
        rw [hlive]
        exact List.mem_append_left _ (mem_of_mem_dropIdleEnd hs)
      have hpath : s ∈ segments path := by
        rw [hsegments]
        exact List.mem_cons_of_mem head (mem_of_mem_dropIdleEnd hmem)
      exact noSlash_of_mem_segments s hpath
    refine ⟨ofHead path head (dropIdleEnd front), by simp [parent?, hsegments, hlive], ?_⟩
    rw [components_ofHead hsegments hrest hslash, filter_dropIdleEnd front, hlive, List.filter_append,
      List.filter_cons_of_pos (by simp [hname.live]), List.filter_nil, List.map_append,
      List.append_assoc, List.map_singleton, hname.ofSegment]

/-- The name of a file is the last component of the path that leads to it. -/
theorem fileName?_eq_some_iff {path name : Text} :
    fileName? path = some name ↔ ∃ front, components path = front ++ [.name name] := by
  have hlast : fileName? path = some name ↔ (components path).getLast? = some (.name name) := by
    unfold fileName?
    split <;> simp_all
  rw [hlast, List.getLast?_eq_some_iff]

end PathName

end Weave
