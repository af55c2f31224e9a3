import Weave.Proofs.AtomicStore

/-!
# Weave.Proofs.KeyNames — what tells requests apart in a cache

A key is the beginning of a digest in hexadecimal digits. What is digested is different for different
requests, so two of them have one key only if their digests begin alike. Keys with different digits
name different files of the cache directory, and none of these names is that of a file in which a report
is being written: that one has another extension.

1. **Digits** tell the words that they were written for (`flatMap_hexWord_injective`), and the sixteen
   digits of a key are those of two words (`take_hex`).
2. **Bytes** tell the request that they stand for (`Request.bytes_injective`).
3. **Extensions**: `PathName.withExtension`, for a file below a directory (`withExtension_join`).
4. **Files**: entries and the files that become entries have different names
   (`partName_ne_entryName`), so that an entry is not changed before its report is whole
   (`load_of_write_aside`).
5. `keys_keepApart` puts these together.
-/

namespace Weave

/-! ## Digits -/

namespace Digest

/-- Numbers with the same digits are the same up to what the digits leave out. -/
theorem mod_pow_eq_of_digits {n m : Nat} (count : Nat)
    (h : ∀ i < count, n / Nat.pow 16 i % 16 = m / Nat.pow 16 i % 16) :
    n % Nat.pow 16 count = m % Nat.pow 16 count := by
  induction count with
  | zero => exact (Nat.mod_one n).trans (Nat.mod_one m).symm
  | succ count ih =>
    have hlast := h count (Nat.lt_succ_self count)
    have hrest := ih fun i hi => h i (Nat.lt_succ_of_lt hi)
    simp only [Nat.pow_eq] at hlast hrest ⊢
    rw [Nat.mod_pow_succ, Nat.mod_pow_succ, hlast, hrest]

theorem hexDigit_injective {n m : Nat} (hn : n < 16) (hm : m < 16) (h : hexDigit n = hexDigit m) :
    n = m := by
  have hall : ∀ n < 16, ∀ m < 16, hexDigit n = hexDigit m → n = m := by decide
  exact hall n hn m hm h

theorem length_hexWord (w : UInt32) : (hexWord w).length = 8 := by
  rw [hexWord, List.length_map, List.length_range]

theorem length_flatMap_hexWord (words : List UInt32) :
    (words.flatMap hexWord).length = 8 * words.length := by
  induction words with
  | nil => rfl
  | cons word words ih =>
    rw [List.flatMap_cons, List.length_append, length_hexWord, ih, List.length_cons]
    omega

/-- No leading zero is left out. -/
theorem hexWord_injective {w v : UInt32} (h : hexWord w = hexWord v) : w = v := by
  have hdigits : ∀ i < 8, w.toNat / Nat.pow 16 i % 16 = v.toNat / Nat.pow 16 i % 16 := by
    intro i hi
    -- the digit of the place `i` is the one at `7 - i`, since the highest place is written first
    have hdigit := List.map_inj_left.1 h (7 - i) (List.mem_range.2 (by omega))
    have hplace : 7 - (7 - i) = i := by omega
    rw [hplace] at hdigit
    exact hexDigit_injective (Nat.mod_lt _ (by decide)) (Nat.mod_lt _ (by decide)) hdigit
  have hroom : ∀ u : UInt32, u.toNat < Nat.pow 16 8 := UInt32.toNat_lt
  have hmod := mod_pow_eq_of_digits 8 hdigits
  rw [Nat.mod_eq_of_lt (hroom w), Nat.mod_eq_of_lt (hroom v)] at hmod
  exact UInt32.toNat_inj.1 hmod

theorem flatMap_hexWord_injective {words others : List UInt32}
    (h : words.flatMap hexWord = others.flatMap hexWord) : words = others := by
  have hlength : words.length = others.length := by
    have hdigits := congrArg List.length h
    rw [length_flatMap_hexWord, length_flatMap_hexWord] at hdigits
    omega
  induction words generalizing others with
  | nil => exact (List.length_eq_zero_iff.1 hlength.symm).symm
  | cons word words ih =>
    obtain ⟨other, others, rfl⟩ := List.exists_cons_of_length_eq_add_one hlength.symm
    obtain ⟨hword, hwords⟩ := List.append_inj h (by rw [length_hexWord, length_hexWord])
    rw [hexWord_injective hword, ih hwords (Nat.succ.inj hlength)]

/-- Eight times as many digits as words. -/
theorem take_flatMap_hexWord (words : List UInt32) (count : Nat) :
    (words.flatMap hexWord).take (8 * count) = (words.take count).flatMap hexWord := by
  induction count generalizing words with
  | zero => rw [Nat.mul_zero, List.take_zero, List.take_zero, List.flatMap_nil]
  | succ count ih =>
    cases words with
    | nil => rw [List.flatMap_nil, List.take_nil, List.take_nil, List.flatMap_nil]
    | cons word words =>
      rw [List.flatMap_cons, List.take_succ_cons, List.flatMap_cons, ← ih words,
        ← length_hexWord word, Nat.mul_succ, Nat.add_comm, List.take_length_add_append]

/-- Sixteen digits are those of the first two words. -/
theorem take_hex (d : Digest) : (hex d).take 16 = (d.toList.take 2).flatMap hexWord :=
  take_flatMap_hexWord d.toList 2

theorem take_hex_eq_iff {d e : Digest} :
    (hex d).take 16 = (hex e).take 16 ↔ d.toList.take 2 = e.toList.take 2 := by
  rw [take_hex, take_hex]
  exact ⟨flatMap_hexWord_injective, congrArg _⟩

theorem mem_of_mem_hex {d : Digest} {c : Char} (h : c ∈ hex d) : c ∈ "0123456789abcdef".toList := by
  have hdigit : ∀ n < 16, hexDigit n ∈ "0123456789abcdef".toList := by decide
  simp only [hex, hexWord, List.mem_flatMap, List.mem_map] at h
  obtain ⟨word, -, i, -, rfl⟩ := h
  exact hdigit _ (Nat.mod_lt _ (by decide))

/-- Different messages whose digests begin with the same 64 bits. -/
def Collide (message other : List UInt8) : Prop :=
  message ≠ other ∧ (ofBytes message).toList.take 2 = (ofBytes other).toList.take 2

end Digest

/-! ## Bytes of requests -/

/-- The bytes are listed from the one at which the loop stands. -/
theorem toList_loop (bytes : ByteArray) (i : Nat) (front : List UInt8) :
    ByteArray.toList.loop bytes i front = front.reverse ++ bytes.data.toList.drop i := by
  induction i, front using ByteArray.toList.loop.induct bytes with
  | case1 i front hi ih =>
    have hlength : i < bytes.data.toList.length := hi
    have hbyte : bytes.get! i = bytes.data.toList[i] := by
      rw [Array.getElem_toList]
      exact getElem!_pos bytes.data i hi
    rw [ByteArray.toList.loop, if_pos hi, ih, hbyte, List.drop_eq_getElem_cons hlength,
      List.reverse_cons, List.append_assoc, List.singleton_append]
  | case2 i front hi =>
    have hlength : bytes.data.toList.length ≤ i := Nat.le_of_not_lt hi
    rw [ByteArray.toList.loop, if_neg hi, List.drop_of_length_le hlength, List.append_nil]

theorem toList_eq_data (bytes : ByteArray) : bytes.toList = bytes.data.toList := by
  rw [ByteArray.toList, toList_loop]
  rfl

namespace Request

/-- The word for the mode, a zero byte, and the source text. -/
theorem toList_bytes (request : Request) :
    request.bytes.toList = (Text.encode request.mode.name).data.toList
      ++ 0 :: (Text.encode request.body).data.toList := by
  rw [toList_eq_data, bytes, ByteArray.data_append, ByteArray.data_append]
  simp

/-- Different requests have different bytes: the words for the modes differ in their first letters, and
behind the zero byte stands nothing but the source text, whatever it holds. -/
theorem bytes_injective {request other : Request} (h : request.bytes.toList = other.bytes.toList) :
    request = other := by
  obtain ⟨mode, body⟩ := request
  obtain ⟨mode', body'⟩ := other
  rw [toList_bytes, toList_bytes] at h
  -- `r` or `t` comes first, so the words need not be equally long
  have hmode : mode = mode' := by
    have hrun : (Text.encode Mode.run.name).data.toList = [114, 117, 110] := by decide +kernel
    have htest : (Text.encode Mode.test.name).data.toList = [116, 101, 115, 116] := by
      decide +kernel
    cases mode <;> cases mode'
    · rfl
    · simp [hrun, htest] at h
    · simp [hrun, htest] at h
    · rfl
  subst hmode
  have hbody := (List.cons.inj (List.append_cancel_left h)).2
  exact congrArg (Request.mk mode) (Text.encode_injective (ByteArray.ext (Array.toList_inj.1 hbody)))

end Request

/-! ## Extensions -/

namespace PathName

/-- The name of a file without its extension: what stands in front of the last dot. A dot at the
beginning starts no extension. -/
def fileStem (name : Text) : Text :=
  let front := Text.trimEndWhere (· ≠ '.') name
  if front.length ≤ 1 then name else front.dropLast

/-- The path name with another extension for the file that it leads to. What stands behind its name is
cut off. -/
def withExtension (path extension : Text) : Text :=
  match fileName? path with
  | none => path
  | some name =>
    let stem := fileStem name
    let renamed := if extension.isEmpty then stem else stem ++ '.' :: extension
    ofSegments ((dropIdleEnd (segments path)).dropLast ++ [renamed])

/-- Names below a directory are put behind the same text. -/
theorem join_cases (dir : Text) :
    (∀ name, isAbsolute name = false → join dir name = name) ∨
      ∃ start, ∀ name, isAbsolute name = false → join dir name = start ++ '/' :: name := by
  by_cases hempty : dir = []
  · exact .inl fun name hname => by simp [join, hname, hempty]
  · right
    by_cases hslash : dir.getLast? = some '/'
    · obtain ⟨start, rfl⟩ := List.getLast?_eq_some_iff.1 hslash
      exact ⟨start, fun name hname => by simp [join, hname]⟩
    · exact ⟨dir, fun name hname => by simp [join, hname, hempty, hslash]⟩

/-- A file below a directory keeps its place there. -/
theorem withExtension_join {name extension : Text} (hname : IsName name) (hne : extension ≠ [])
    (hrenamed : IsName (fileStem name ++ '.' :: extension)) (dir : Text) :
    withExtension (join dir name) extension = join dir (fileStem name ++ '.' :: extension) := by
  have hfile : fileName? (join dir name) = some name :=
    fileName?_eq_some_iff.2 ⟨components dir, components_join hname dir⟩
  have hidle : isIdle name = false := hname.live
  simp only [withExtension, hfile, List.isEmpty_iff, hne, if_false]
  -- the name stands alone, or it is the last segment behind those of the directory
  rcases join_cases dir with hjoin | ⟨start, hjoin⟩
  · rw [hjoin name hname.not_absolute, hjoin _ hrenamed.not_absolute,
      segments_of_noSlash hname.noSlash]
    have hsegments : dropIdleEnd [name] = [name] := by
      rw [← List.nil_append [name], dropIdleEnd_concat, hidle]
      rfl
    rw [hsegments, List.dropLast_singleton, List.nil_append,
      ← segments_of_noSlash hrenamed.noSlash, ofSegments_segments]
  · rw [hjoin name hname.not_absolute, hjoin _ hrenamed.not_absolute, segments_append_slash,
      segments_of_noSlash hname.noSlash, dropIdleEnd_concat, hidle, if_neg Bool.false_ne_true,
      List.dropLast_concat, ← segments_of_noSlash hrenamed.noSlash, ← segments_append_slash,
      ofSegments_segments]

end PathName

/-! ## Files -/

/-- A path that leads anywhere holds no zero character, and neither does the directory in it. -/
theorem Disk.noNul_of_locate_join {dir name : Text} {disk : Disk} {location : Location}
    (hname : PathName.IsName name) (h : disk.locate (PathName.join dir name) = .ok location) :
    '\x00' ∉ dir := by
  obtain ⟨_, hchecked, -⟩ := ok_of_bind h
  intro hnul
  have hmem : '\x00' ∈ PathName.join dir name := by
    rw [PathName.join, hname.not_absolute, if_neg Bool.false_ne_true]
    split <;> exact List.mem_append_left _ hnul
  simp [checkName, hmem] at hchecked

namespace DiskCache

open PathName Disk

/-- The extension of a file in which a report is written. -/
def partExtension (stamp : Stamp) : Text :=
  "txt.tmp-".toList ++ Text.ofNat stamp.process ++ '-' :: Text.ofNat stamp.time

/-- The path where the report of a request is written before it is moved to the entry: that of the entry,
with another extension. -/
def asidePath (dir : Text) (request : Request) (stamp : Stamp) : Text :=
  withExtension (entryFile dir (.ofRequest request)) (partExtension stamp)

theorem length_key (request : Request) : (CacheKey.ofRequest request).text.length = 16 := by
  have htake := Digest.take_hex (Digest.ofBytes request.bytes.toList)
  have hkey : (CacheKey.ofRequest request).text
      = (Digest.hex (Digest.ofBytes request.bytes.toList)).take 16 := rfl
  rw [hkey, htake, Digest.length_flatMap_hexWord, List.length_take, Vector.length_toList]
  rfl

theorem fileStem_entryName (request : Request) :
    fileStem (entryName request) = (CacheKey.ofRequest request).text := by
  have hfront : Text.trimEndWhere (· ≠ '.') (entryName request)
      = (CacheKey.ofRequest request).text ++ ['.'] := by
    simp [Text.trimEndWhere, entryName]
  have hlong : ¬ ((CacheKey.ofRequest request).text ++ ['.']).length ≤ 1 := by
    rw [List.length_append, length_key]
    decide
  simp only [fileStem, hfront, if_neg hlong, List.dropLast_concat]

theorem append_partExtension (key : Text) (stamp : Stamp) :
    key ++ '.' :: partExtension stamp
      = key ++ ".txt.tmp-".toList ++ Text.ofNat stamp.process ++ '-' :: Text.ofNat stamp.time := by
  have hdot : ".txt.tmp-".toList = '.' :: "txt.tmp-".toList := by decide
  unfold partExtension
  simp only [hdot, List.append_assoc, List.cons_append]

/-- It is the file that a store writes. -/
theorem asidePath_eq (dir : Text) (request : Request) (stamp : Stamp) :
    asidePath dir request stamp = tempPath dir (.ofRequest request) stamp := by
  have hrenamed : fileStem (entryName request) ++ '.' :: partExtension stamp
      = partName request stamp := by
    unfold partName
    rw [fileStem_entryName, append_partExtension]
  have hextension : partExtension stamp ≠ [] := by
    unfold partExtension
    exact List.append_ne_nil_of_right_ne_nil _ (List.cons_ne_nil _ _)
  have hname := isName_partName request stamp
  rw [← hrenamed] at hname
  have hpath := withExtension_join (isName_entryName request) hextension hname dir
  rw [hrenamed] at hpath
  exact hpath

/-- A report that is being written, whole or in part, changes no entry. -/
theorem load_of_write_aside {dir : Text} {request : Request} {stamp : Stamp}
    {disk written : Disk} {bytes : ByteArray}
    (hwrite : disk.write (asidePath dir request stamp) bytes = .ok written)
    (other : Request) :
    load dir (.ofRequest other) written = load dir (.ofRequest other) disk := by
  rw [asidePath_eq] at hwrite
  have hname := isName_partName request stamp
  have hgrown : Grows Nowhere _ disk written := grows_write hwrite
  obtain ⟨hlocate, hne, ⟨-, rfl⟩ | ⟨-, rfl⟩⟩ := write_cases hwrite
  · rfl
  · have hleads := leads_of_locate_join hname hlocate
    have hnul := noNul_of_locate_join hname hlocate
    -- the path of the directory leads to one place before and after, so the node of the entry decides
    have hloaded : ∀ {disk' : Disk}, disk'.Leads dir → load dir (.ofRequest other) disk'
        = (disk'.node? (entryName other :: disk'.locationOf dir)).elim (.ok none) fun node =>
            node.text.map some := fun hleads' =>
      load_eq_of_stat (stat_of_leads hleads' (isName_entryName other) (noNul_entryFile hnul other))
    rw [hloaded hleads, hloaded (hleads.grows hgrown), locationOf_congr hgrown.workDir,
      node?_put _ _ _ hne, locationOf_tempPath, if_neg]
    intro hsame
    exact partName_ne_entryName request other stamp (List.cons.inj hsame).1.symm

/-- What the files of a cache directory are called. -/
structure KeepsApart (dir : Text) : Prop where
  /-- Entries of different keys are different, however their paths are spelled. -/
  injective : ∀ request other,
    components (entryFile dir (.ofRequest request)) = components (entryFile dir (.ofRequest other)) →
      CacheKey.ofRequest request = CacheKey.ofRequest other
  /-- An entry is a direct child of the directory: its path is that of the directory with one more
  component, and its location one more name below that of the directory. -/
  child : ∀ request, let key := CacheKey.ofRequest request
    let name := key.text ++ ".txt".toList
    components (entryFile dir key) = components dir ++ [.name name] ∧
      (∃ parent, parent? (entryFile dir key) = some parent ∧ components parent = components dir) ∧
      ∀ disk : Disk, disk.locationOf (entryFile dir key) = name :: disk.locationOf dir
  /-- A store writes its report to the path of the entry with another extension. -/
  aside : ∀ request stamp, tempPath dir (.ofRequest request) stamp = asidePath dir request stamp
  /-- That path, of whatever process and time, is that of no entry. -/
  disjoint : ∀ request other stamp,
    let temp := asidePath dir request stamp
    let entry := entryFile dir (.ofRequest other)
    components temp ≠ components entry ∧ ∀ disk : Disk, disk.locationOf temp ≠ disk.locationOf entry
  /-- As long as a report is not moved from there to its entry, nothing of it is loaded: under every key
  the cache has what it had before. -/
  unfinished : ∀ request stamp (disk written : Disk) bytes,
    disk.write (asidePath dir request stamp) bytes = .ok written →
      ∀ other, load dir (.ofRequest other) written = load dir (.ofRequest other) disk

theorem components_entryFile (dir : Text) (request : Request) :
    components (entryFile dir (.ofRequest request)) = components dir ++ [.name (entryName request)] :=
  components_join (isName_entryName request) dir

theorem keepsApart (dir : Text) : KeepsApart dir := by
  constructor
  case injective =>
    intro request other h
    rw [components_entryFile, components_entryFile] at h
    have hname := Component.name.inj (List.singleton_inj.1 (List.append_cancel_left h))
    exact ofRequest_eq_of_entryName hname
  case child =>
    intro request
    have hcomponents := components_entryFile dir request
    obtain ⟨-, parent, hparent, hsplit⟩ :=
      exists_parent_of_fileName? (fileName?_eq_some_iff.2 ⟨_, hcomponents⟩)
    rw [hcomponents] at hsplit
    exact ⟨hcomponents, ⟨parent, hparent, (List.append_cancel_right hsplit).symm⟩,
      fun disk => locationOf_entryFile dir disk request⟩
  case aside =>
    intro request stamp
    exact (asidePath_eq dir request stamp).symm
  case disjoint =>
    intro request other stamp
    have hne := partName_ne_entryName request other stamp
    have hcomponents : components (tempPath dir (.ofRequest request) stamp)
        = components dir ++ [.name (partName request stamp)] :=
      components_join (isName_partName request stamp) dir
    constructor
    · rw [asidePath_eq, hcomponents, components_entryFile]
      intro h
      exact hne (Component.name.inj (List.singleton_inj.1 (List.append_cancel_left h)))
    · intro disk
      rw [asidePath_eq, locationOf_tempPath, locationOf_entryFile]
      exact fun h => hne (List.cons.inj h).1
  case unfinished =>
    intro request stamp disk written bytes hwrite other
    exact load_of_write_aside hwrite other

/-- Keys are sixteen hexadecimal digits. Different requests have different bytes, so that they have one
key only if their digests begin with the same 64 bits. In a cache directory keys that differ have
different files, and no such file is one in which a report is being written. -/
theorem keys_keepApart :
    (∀ request, (CacheKey.ofRequest request).text.length = 16 ∧
      ∀ c ∈ (CacheKey.ofRequest request).text, c ∈ "0123456789abcdef".toList) ∧
    (∀ request other : Request, request ≠ other → request.bytes.toList ≠ other.bytes.toList) ∧
    (∀ request other, CacheKey.ofRequest request = CacheKey.ofRequest other ↔
      request = other ∨ Digest.Collide request.bytes.toList other.bytes.toList) ∧
    ∀ dir, KeepsApart dir := by
  have hbytes : ∀ request other : Request, request ≠ other →
      request.bytes.toList ≠ other.bytes.toList := by
    intro request other hne h
    exact hne (Request.bytes_injective h)
  refine ⟨fun request => ⟨length_key request, fun c hc => ?_⟩, hbytes, fun request other => ?_,
    keepsApart⟩
  · exact Digest.mem_of_mem_hex (List.mem_of_mem_take hc)
  · have hkey : CacheKey.ofRequest request = CacheKey.ofRequest other ↔
        (Digest.hex (Digest.ofBytes request.bytes.toList)).take 16
          = (Digest.hex (Digest.ofBytes other.bytes.toList)).take 16 :=
      ⟨CacheKey.mk.inj, congrArg CacheKey.mk⟩
    rw [hkey, Digest.take_hex_eq_iff]
    constructor
    · intro h
      by_cases hsame : request = other
      · exact .inl hsame
      · exact .inr ⟨hbytes request other hsame, h⟩
    · rintro (rfl | ⟨-, h⟩)
      · rfl
      · exact h

/-- The same text, with a zero character in it, to be run and to be tested. While the report of the run is
being written, nothing is loaded for either of them. -/
theorem keys_keepApart_modes :
    let dir := "cache".toList
    let run : Request := ⟨.run, "a\x00b".toList⟩
    let test : Request := ⟨.test, "a\x00b".toList⟩
    let disk := (Disk.blank ["w".toList]).plantAt dir .dir
    let temp := asidePath dir run ⟨7, 5⟩
    (CacheKey.ofRequest run).text.length = 16 ∧ run.bytes.toList ≠ test.bytes.toList ∧
      CacheKey.ofRequest run ≠ CacheKey.ofRequest test ∧
      components temp ≠ components (entryFile dir (.ofRequest run)) ∧
      ∃ written, disk.write temp (Text.encode "$stdout:\n".toList) = .ok written ∧
        written.pathExists temp = true ∧ load dir (.ofRequest run) written = .ok none ∧
        load dir (.ofRequest test) written = .ok none := by
  intro dir run test disk temp
  obtain ⟨hdigits, hbytes, -, hapart⟩ := keys_keepApart
  have hkeys : CacheKey.ofRequest run ≠ CacheKey.ofRequest test := by decide +kernel
  have hnone : load dir (.ofRequest run) disk = .ok none ∧
      load dir (.ofRequest test) disk = .ok none := by
    decide +kernel
  have hexists : (disk.write temp (Text.encode "$stdout:\n".toList)).toOption.map (·.pathExists temp)
      = some true := by
    decide +kernel
  refine ⟨(hdigits run).1, hbytes run test (by decide), hkeys, ((hapart dir).disjoint run run ⟨7, 5⟩).1,
    ?_⟩
  cases hwrite : disk.write temp (Text.encode "$stdout:\n".toList) with
  | error e =>
    rw [hwrite] at hexists
    cases hexists
  | ok written =>
    rw [hwrite] at hexists
    have hload := (hapart dir).unfinished run ⟨7, 5⟩ disk written _ hwrite
    exact ⟨written, rfl, Option.some.inj hexists, (hload run).trans hnone.1,
      (hload test).trans hnone.2⟩

end DiskCache

end Weave
