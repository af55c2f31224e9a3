import Weave.Proofs.Components
import Weave.Text.Bytes

/-!
# Weave.Proofs.PathBytes — paths that need not be texts

The system has paths in bytes, which need not be UTF-8. Such a path is taken apart with a character for
each byte. The bytes of a text are taken apart as the text is, for a slash is a byte of no other
character: so what is said of path names that are texts is said of their bytes too.

1. **Characters**: `widen` goes through a text character by character (`widen_cons`), and no slash comes
   from anything else (`eq_of_slash_mem_wide`).
2. **Taking apart**: segments, components, names and parents of the bytes are those of the text
   (`segments_widen`, `components_widen`, `fileName?_widen`, `parent?_widen`).
3. **Bytes stay bytes**: `isBytes_join`, `isBytes_parent?`.
-/

namespace Weave

/-! ## Characters -/

namespace Text

/-- The characters that stand for the bytes of one character. -/
def wide (c : Char) : Text :=
  (String.utf8EncodeChar c).map fun b => Char.ofNat b.toNat

theorem widen_eq_flatMap (s : Text) : widen s = s.flatMap wide := by
  have hbytes : (encode s).data.toList = s.flatMap String.utf8EncodeChar := by
    rw [encode, String.toUTF8, String.toByteArray_ofList, List.utf8Encode, List.data_toByteArray]
  rw [widen, ofBytes, hbytes, List.map_flatMap]
  rfl

@[simp] theorem widen_nil : widen [] = [] :=
  widen_eq_flatMap []

theorem widen_cons (c : Char) (s : Text) : widen (c :: s) = wide c ++ widen s := by
  rw [widen_eq_flatMap, widen_eq_flatMap, List.flatMap_cons]

theorem widen_append (s t : Text) : widen (s ++ t) = widen s ++ widen t := by
  rw [widen_eq_flatMap, widen_eq_flatMap, widen_eq_flatMap, List.flatMap_append]

theorem wide_slash : wide '/' = ['/'] := by
  decide

theorem widen_slash_cons (s : Text) : widen ('/' :: s) = '/' :: widen s := by
  rw [widen_cons, wide_slash, List.singleton_append]

theorem widen_inj {s t : Text} : widen s = widen t ↔ s = t := by
  refine ⟨fun h => ?_, congrArg widen⟩
  have hbytes := congrArg toBytes h
  rw [widen, widen, toBytes_ofBytes, toBytes_ofBytes] at hbytes
  exact encode_injective hbytes

theorem wide_ne_nil (c : Char) : wide c ≠ [] := by
  rw [wide, ne_eq, List.map_eq_nil_iff]
  unfold String.utf8EncodeChar
  simp only
  split
  · exact List.cons_ne_nil _ _
  · split
    · exact List.cons_ne_nil _ _
    · split <;> exact List.cons_ne_nil _ _

/-- The bytes of a character are its own number, or all of them are above those of ASCII. -/
theorem utf8EncodeChar_cases (c : Char) :
    (c.toNat < 128 ∧ String.utf8EncodeChar c = [UInt8.ofNat c.toNat]) ∨
      ∀ b ∈ String.utf8EncodeChar c, 128 ≤ b.toNat := by
  have hnumber : c.val.toNat = c.toNat := rfl
  unfold String.utf8EncodeChar
  simp only [hnumber]
  split
  · next hascii => exact .inl ⟨Nat.lt_succ_of_le hascii, rfl⟩
  · right
    split
    · simp
      omega
    · split
      · simp
        omega
      · simp
        omega

/-- A slash is a byte of no other character. -/
theorem eq_of_slash_mem_wide {c : Char} (h : '/' ∈ wide c) : c = '/' := by
  obtain ⟨b, hb, hslash⟩ := List.mem_map.1 h
  have hbyte : b = 47 := by
    have hnumber := congrArg (fun c : Char => UInt8.ofNat c.toNat) hslash
    rwa [ofNat_toNat_byte] at hnumber
  -- the only byte of an ASCII character is its number, and the others have no byte below 128
  obtain ⟨hascii, hself⟩ | hhigh := utf8EncodeChar_cases c
  · rw [hself, List.mem_singleton] at hb
    have hnumber := congrArg UInt8.toNat (hb.symm.trans hbyte)
    rw [UInt8.toNat_ofNat_of_lt' (hascii.trans (by decide))] at hnumber
    exact Char.toNat_inj.1 hnumber
  · have hbound := hhigh b hb
    rw [hbyte] at hbound
    exact absurd hbound (by decide)

theorem slash_mem_widen_iff {s : Text} : '/' ∈ widen s ↔ '/' ∈ s := by
  rw [widen_eq_flatMap, List.mem_flatMap]
  constructor
  · rintro ⟨c, hc, hmem⟩
    rwa [← eq_of_slash_mem_wide hmem]
  · exact fun hmem => ⟨'/', hmem, by decide⟩

/-! ### Bytes -/

/-- All characters stand for bytes. -/
def IsBytes (s : Text) : Prop :=
  ∀ c ∈ s, c.toNat < 256

theorem isBytes_ofBytes (bytes : ByteArray) : IsBytes (ofBytes bytes) := by
  intro c hc
  obtain ⟨b, -, rfl⟩ := List.mem_map.1 hc
  have hvalid : b.toNat.isValidChar := .inl (Nat.lt_of_lt_of_le b.toNat_lt (by decide))
  rw [Char.ofNat, dif_pos hvalid]
  exact b.toNat_lt

theorem ofBytes_toBytes {s : Text} (h : IsBytes s) : ofBytes (toBytes s) = s := by
  have hsame : ∀ c ∈ s, Char.ofNat (UInt8.ofNat c.toNat).toNat = c := by
    intro c hc
    rw [UInt8.toNat_ofNat_of_lt' (h c hc), Char.ofNat_toNat]
  have hmap : (s.map fun c => Char.ofNat (UInt8.ofNat c.toNat).toNat) = s :=
    (List.map_congr_left hsame).trans (List.map_id s)
  rw [ofBytes, toBytes, List.map_map]
  exact hmap

theorem decode?_toBytes_eq_some_iff {s t : Text} (h : IsBytes s) :
    decode? (toBytes s) = some t ↔ s = widen t := by
  rw [decode?_eq_some_iff]
  constructor
  · intro hbytes
    rw [← ofBytes_toBytes h, hbytes, widen]
  · rintro rfl
    rw [widen, toBytes_ofBytes]

end Text

namespace PathName

open Text

/-! ## Taking apart -/

theorem ofSegments_widen (segments : List Text) :
    ofSegments (segments.map widen) = widen (ofSegments segments) := by
  induction segments with
  | nil => rw [List.map_nil, ofSegments]; exact widen_nil.symm
  | cons head rest ih =>
    cases rest with
    | nil => simp [ofSegments]
    | cons next rest =>
      rw [List.map_cons, List.map_cons, ofSegments_cons_cons, ofSegments_cons_cons, widen_append,
        widen_slash_cons, ← ih, List.map_cons]

/-- The bytes of the segments have no slash, so they are the segments of the bytes. -/
theorem segments_widen (path : Text) : segments (widen path) = (segments path).map widen := by
  obtain ⟨head, rest, hpath⟩ := exists_segments_eq path
  have hslash : ∀ s ∈ (head :: rest).map widen, '/' ∉ s := by
    rw [List.forall_mem_map]
    intro s hs hmem
    exact noSlash_of_mem_segments s (hpath ▸ hs) (slash_mem_widen_iff.1 hmem)
  calc segments (widen path)
      = segments (ofSegments ((head :: rest).map widen)) := by
        rw [ofSegments_widen, ← hpath, ofSegments_segments]
    _ = (segments path).map widen := by
        rw [hpath]
        exact segments_ofSegments hslash

theorem isAbsolute_widen (path : Text) : isAbsolute (widen path) = isAbsolute path := by
  cases path with
  | nil => rw [widen_nil]
  | cons c path =>
    by_cases hc : c = '/'
    · rw [hc, widen_slash_cons]
      rfl
    · obtain ⟨first, others, hwide⟩ := List.exists_cons_of_ne_nil (wide_ne_nil c)
      have hfirst : first ≠ '/' := by
        rintro rfl
        exact hc (eq_of_slash_mem_wide (hwide ▸ List.mem_cons_self))
      rw [widen_cons, hwide]
      simp [isAbsolute, hfirst, hc]

theorem widen_eq_nil_iff {s : Text} : widen s = [] ↔ s = [] := by
  rw [← @widen_inj s [], widen_nil]

theorem widen_eq_dot_iff {s : Text} : widen s = ['.'] ↔ s = ['.'] := by
  have hdot : widen ['.'] = ['.'] := by decide
  rw [← hdot, widen_inj, hdot]

theorem widen_eq_dots_iff {s : Text} : widen s = ['.', '.'] ↔ s = ['.', '.'] := by
  have hdots : widen ['.', '.'] = ['.', '.'] := by decide
  rw [← hdots, widen_inj, hdots]

theorem isIdle_widen (s : Text) : isIdle (widen s) = isIdle s := by
  simp only [isIdle, widen_eq_nil_iff, widen_eq_dot_iff]

/-- The component with its bytes. -/
def Component.widen : Component → Component
  | .name text => .name (Text.widen text)
  | component => component

theorem Component.ofSegment_widen (s : Text) :
    Component.ofSegment (Text.widen s) = (Component.ofSegment s).widen := by
  unfold Component.ofSegment
  simp only [widen_eq_dots_iff]
  split <;> rfl

theorem headComponent?_widen (path head : Text) :
    headComponent? (widen path) (widen head) = (headComponent? path head).map Component.widen := by
  unfold headComponent?
  simp only [isAbsolute_widen, widen_eq_nil_iff, widen_eq_dot_iff, Component.ofSegment_widen]
  split
  · rfl
  · split
    · rfl
    · split <;> rfl

theorem components_widen (path : Text) :
    components (widen path) = (components path).map Component.widen := by
  obtain ⟨head, rest, hpath⟩ := exists_segments_eq path
  have hwidened : segments (widen path) = widen head :: rest.map widen := by
    rw [segments_widen, hpath, List.map_cons]
  -- the segments that are dropped are the same ones
  have hlive : (rest.map widen).filter (fun s => !isIdle s)
      = (rest.filter fun s => !isIdle s).map widen := by
    rw [List.filter_map]
    simp only [Function.comp_def, isIdle_widen]
  rw [components_of_segments hwidened, components_of_segments hpath, headComponent?_widen, hlive,
    List.map_append, List.map_map, List.map_map]
  congr 1
  · cases headComponent? path head <;> rfl
  · exact List.map_congr_left fun s _ => Component.ofSegment_widen s

theorem fileName?_widen (path : Text) : fileName? (widen path) = (fileName? path).map widen := by
  unfold fileName?
  rw [components_widen, List.getLast?_map]
  cases (components path).getLast? with
  | none => rfl
  | some component => cases component <;> rfl

theorem dropIdleEnd_widen (segments : List Text) :
    dropIdleEnd (segments.map widen) = (dropIdleEnd segments).map widen := by
  induction segments using List.reverseRecOn with
  | nil => rfl
  | append_singleton segments s ih =>
    rw [List.map_append, List.map_singleton, dropIdleEnd_concat, dropIdleEnd_concat, isIdle_widen]
    split
    · exact ih
    · rw [List.map_append, List.map_singleton]

theorem ofHead_widen (path head : Text) (rest : List Text) :
    ofHead (widen path) (widen head) (rest.map widen) = widen (ofHead path head rest) := by
  unfold ofHead
  rw [isAbsolute_widen, List.isEmpty_map, ← List.map_cons, ofSegments_widen]
  split
  · decide
  · rfl

theorem parent?_widen (path : Text) : parent? (widen path) = (parent? path).map widen := by
  obtain ⟨head, rest, hpath⟩ := exists_segments_eq path
  unfold parent?
  rw [segments_widen, hpath]
  simp only [List.map_cons, dropIdleEnd_widen, List.isEmpty_map, isAbsolute_widen, widen_eq_nil_iff,
    ← List.map_dropLast, ofHead_widen]
  split
  · split
    · rfl
    · rw [Option.map_some, widen_nil]
  · rfl

theorem getLast?_widen_eq_slash_iff {path : Text} :
    (widen path).getLast? = some '/' ↔ path.getLast? = some '/' := by
  rcases List.eq_nil_or_concat path with rfl | ⟨front, c, rfl⟩
  · simp
  · rw [List.concat_eq_append, widen_append, widen_cons, widen_nil, List.append_nil,
      List.getLast?_append, List.getLast?_concat, List.getLast?_eq_some_getLast (wide_ne_nil c),
      Option.some_or, Option.some_inj, Option.some_inj]
    constructor
    · intro h
      exact eq_of_slash_mem_wide (h ▸ List.getLast_mem (wide_ne_nil c))
    · rintro rfl
      decide

theorem join_widen (dir path : Text) : join (widen dir) (widen path) = widen (join dir path) := by
  unfold join
  simp only [isAbsolute_widen, widen_eq_nil_iff, getLast?_widen_eq_slash_iff]
  split
  · rfl
  · split
    · exact (widen_append dir path).symm
    · rw [widen_append, widen_slash_cons]

/-! ## Bytes stay bytes -/

theorem isBytes_of_mem_segments {path s : Text} (h : IsBytes path) (hs : s ∈ segments path) :
    IsBytes s := by
  intro c hc
  have hslash : c ≠ '/' := fun hsame => noSlash_of_mem_segments s hs (hsame ▸ hc)
  exact h c ((mem_iff_mem_segments hslash).2 ⟨s, hs, hc⟩)

theorem isBytes_fileName? {path name : Text} (h : IsBytes path) (hname : fileName? path = some name) :
    IsBytes name := by
  obtain ⟨-, head, rest, hsegments, hlast⟩ := segments_of_fileName? hname
  apply isBytes_of_mem_segments h
  rw [hsegments]
  rcases hlast with ⟨-, rfl⟩ | ⟨front, hfront⟩
  · exact List.mem_cons_self
  · refine List.mem_cons_of_mem head (mem_of_mem_dropIdleEnd ?_)
    rw [hfront]
    exact List.mem_append_right front List.mem_cons_self

theorem isBytes_join {dir path : Text} (hdir : IsBytes dir) (hpath : IsBytes path) :
    IsBytes (join dir path) := by
  unfold join
  split
  · exact hpath
  · split
    · exact List.forall_mem_append.2 ⟨hdir, hpath⟩
    · exact List.forall_mem_append.2 ⟨hdir, List.forall_mem_cons.2 ⟨by decide, hpath⟩⟩

theorem isBytes_ofSegments {segments : List Text} (h : ∀ s ∈ segments, IsBytes s) :
    IsBytes (ofSegments segments) := by
  intro c hc
  by_cases hslash : c = '/'
  · rw [hslash]
    decide
  · obtain ⟨s, hs, hmem⟩ := (mem_ofSegments_iff hslash).1 hc
    exact h s hs c hmem

theorem isBytes_parent? {path dir : Text} (h : IsBytes path) (hdir : parent? path = some dir) :
    IsBytes dir := by
  unfold parent? at hdir
  cases hsegments : segments path with
  | nil => simp [hsegments] at hdir
  | cons head rest =>
    simp only [hsegments] at hdir
    split at hdir
    · split at hdir
      · cases hdir
      · cases hdir
        exact fun c hc => absurd hc List.not_mem_nil
    · obtain rfl := Option.some.inj hdir
      unfold ofHead
      split
      · exact List.forall_mem_singleton.2 (by decide)
      · refine isBytes_ofSegments fun s hs => isBytes_of_mem_segments h ?_
        rw [hsegments]
        rcases List.mem_cons.1 hs with rfl | hs
        · exact List.mem_cons_self
        · exact List.mem_cons_of_mem head (mem_of_mem_dropIdleEnd
            (List.dropLast_subset _ (mem_of_mem_dropIdleEnd hs)))

end PathName

end Weave
