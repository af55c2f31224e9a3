import Weave.Proofs.PathBytes
import Weave.Proofs.Processing

/-!
# Weave.Proofs.PageName — a page stands beside its source

The name of a page comes from the name of its source: the suffix goes and `.md` takes its place. So
the two are in one directory, and they are the same file if `.md` is itself the suffix of sources.

1. **Paths in bytes**: which sources have a page, and its components (`exists_outputFile_iff`,
   `components_outputFile_eq_iff`).
2. **Paths that are texts** lead to texts (`outputFile_encode`), and to the directory of the source on
   every disk (`locationOf_outputPath`).
3. **Pages**: `outputPath_exact` puts these together. The page is the source where sources end in `.md`
   (`locationOf_outputPath_eq_iff`): `process_keepsSource` is about any other suffix, and
   `process_overwritesSource` about this one.
-/

namespace Weave

/-- What precedes an ending is what it is put behind. -/
theorem Text.before?_eq_some_iff {ending s start : Text} :
    Text.before? ending s = some start ↔ s = start ++ ending := by
  rw [Text.before?, Option.map_eq_some_iff]
  constructor
  · rintro ⟨back, hback, rfl⟩
    have hreverse := List.append_eq_of_isPrefixOf?_eq_some hback
    rw [← List.reverse_reverse s, ← hreverse, List.reverse_append, List.reverse_reverse]
  · rintro rfl
    exact ⟨start.reverse, by simp, List.reverse_reverse start⟩

namespace PathName

/-- What stands before `.md` makes a name of it. -/
theorem isName_page {stem ending : Text} (h : IsName (stem ++ ending)) :
    IsName (stem ++ ".md".toList) := by
  apply isName_of_length
  · have hslash := h.noSlash
    rw [List.mem_append, not_or] at hslash ⊢
    exact ⟨hslash.1, by decide⟩
  · simp

theorem widen_page (stem : Text) :
    Text.widen (stem ++ ".md".toList) = Text.widen stem ++ ".md".toList := by
  have hpage : Text.widen ".md".toList = ".md".toList := by decide
  rw [Text.widen_append, hpage]

/-- A source has a page if its name is a text with something before the suffix. The page is in the
directory of the source, and `.md` stands for the suffix. -/
theorem outputFile?_eq_some_iff {path suffix output : Text} (hpath : Text.IsBytes path) :
    outputFile? path suffix = some output ↔
      ∃ stem dir, stem ≠ [] ∧ fileName? path = some (Text.widen (stem ++ suffix)) ∧
        parent? path = some dir ∧ output = join dir (Text.widen (stem ++ ".md".toList)) := by
  have hwritten : ∀ {name dir : Text} (page : Text), fileName? path = some name →
      parent? path = some dir → withFileName path page = join dir page := by
    intro name dir page hname hdir
    rw [withFileName, hname, hdir]
  constructor
  · intro h
    unfold outputFile? at h
    -- the name is found, decoded, and cut before the suffix, one after the other
    obtain ⟨bytes, hname, hrest⟩ := Option.bind_eq_some_iff.1 h
    obtain ⟨name, hdecoded, hrest⟩ := Option.bind_eq_some_iff.1 hrest
    obtain ⟨stem, hstem, hpage⟩ := Option.bind_eq_some_iff.1 hrest
    obtain rfl := (Text.decode?_toBytes_eq_some_iff (isBytes_fileName? hpath hname)).1 hdecoded
    obtain rfl := Text.before?_eq_some_iff.1 hstem
    obtain ⟨-, dir, hdir, -⟩ := exists_parent_of_fileName? hname
    split at hpage
    · cases hpage
    · next hne =>
      refine ⟨stem, dir, by simpa using hne, hname, hdir, ?_⟩
      rw [← Option.some.inj hpage, hwritten _ hname hdir]
  · rintro ⟨stem, dir, hne, hname, hdir, rfl⟩
    have hdecoded : Text.decode? (Text.toBytes (Text.widen (stem ++ suffix)))
        = some (stem ++ suffix) :=
      (Text.decode?_toBytes_eq_some_iff (isBytes_fileName? hpath hname)).2 rfl
    have hstem : Text.before? suffix (stem ++ suffix) = some stem :=
      Text.before?_eq_some_iff.2 rfl
    have hnonempty : ¬ stem.isEmpty = true := by simpa using hne
    rw [outputFile?, hname, ← hwritten _ hname hdir]
    simp only [bind, Option.bind, hdecoded, hstem]
    rw [if_neg hnonempty]

/-- It has the components of the source but for the last one. -/
theorem components_outputFile? {input suffix output : Text} (hinput : Text.IsBytes input)
    (h : outputFile? input suffix = some output) :
    ∃ stem dir, parent? input = some dir ∧
      components input = components dir ++ [.name (Text.widen (stem ++ suffix))] ∧
      components output = components dir ++ [.name (Text.widen (stem ++ ".md".toList))] := by
  obtain ⟨stem, dir, -, hname, hdir, rfl⟩ := (outputFile?_eq_some_iff hinput).1 h
  obtain ⟨hisName, parent, hparent, hcomponents⟩ := exists_parent_of_fileName? hname
  obtain rfl := Option.some.inj (hdir.symm.trans hparent)
  rw [Text.widen_append] at hisName
  refine ⟨stem, dir, hdir, hcomponents, components_join ?_ dir⟩
  rw [widen_page]
  exact isName_page hisName

theorem isBytes_outputFile? {input suffix output : Text} (hinput : Text.IsBytes input)
    (h : outputFile? input suffix = some output) : Text.IsBytes output := by
  obtain ⟨stem, dir, -, -, hdir, rfl⟩ := (outputFile?_eq_some_iff hinput).1 h
  exact isBytes_join (isBytes_parent? hinput hdir) (Text.isBytes_ofBytes _)

end PathName

namespace Document

open PathName

variable {τ : Type}

/-! ## Paths in bytes -/

section

variable {input output : ByteArray} {suffix : Text}

theorem outputFile_eq_ok_iff :
    outputFile input suffix = .ok output ↔
      PathName.outputFile? (Text.ofBytes input) suffix = some (Text.ofBytes output) := by
  unfold outputFile
  cases hpage : PathName.outputFile? (Text.ofBytes input) suffix with
  | none => simp
  | some path =>
    have hpath := isBytes_outputFile? (Text.isBytes_ofBytes input) hpage
    simp only [Except.ok.injEq, Option.some.injEq]
    constructor
    · rintro rfl
      rw [Text.ofBytes_toBytes hpath]
    · rintro rfl
      rw [Text.toBytes_ofBytes]

/-- The names of a source and of its page, which have parents with the same components. -/
theorem names_of_outputFile (h : outputFile input suffix = .ok output) :
    ∃ stem dir dir', fileName? (Text.ofBytes input) = some (Text.widen (stem ++ suffix)) ∧
      fileName? (Text.ofBytes output) = some (Text.widen (stem ++ ".md".toList)) ∧
      parent? (Text.ofBytes input) = some dir ∧ parent? (Text.ofBytes output) = some dir' ∧
      components dir' = components dir := by
  obtain ⟨stem, dir, hdir, hinput, houtput⟩ :=
    components_outputFile? (Text.isBytes_ofBytes input) (outputFile_eq_ok_iff.1 h)
  have hname : fileName? (Text.ofBytes output) = some (Text.widen (stem ++ ".md".toList)) :=
    fileName?_eq_some_iff.2 ⟨components dir, houtput⟩
  obtain ⟨-, dir', hdir', hparent⟩ := exists_parent_of_fileName? hname
  refine ⟨stem, dir, dir', ?_, hname, hdir, hdir', ?_⟩
  · exact fileName?_eq_some_iff.2 ⟨components dir, hinput⟩
  · exact List.append_cancel_right (hparent.symm.trans houtput)

/-- The name of a source that has a page is a text that ends in the suffix, and is longer. -/
theorem exists_outputFile_iff :
    (∃ output, outputFile input suffix = .ok output) ↔
      ∃ name, fileName? (Text.ofBytes input) = some (Text.widen name) ∧ suffix <:+ name ∧
        suffix.length < name.length := by
  have hbytes := Text.isBytes_ofBytes input
  constructor
  · rintro ⟨output, houtput⟩
    obtain ⟨stem, dir, hne, hname, -⟩ :=
      (outputFile?_eq_some_iff hbytes).1 (outputFile_eq_ok_iff.1 houtput)
    refine ⟨stem ++ suffix, hname, List.suffix_append stem suffix, ?_⟩
    have hlength := List.length_pos_of_ne_nil hne
    rw [List.length_append]
    omega
  · rintro ⟨name, hname, ⟨stem, rfl⟩, hlonger⟩
    have hne : stem ≠ [] := by
      rintro rfl
      simp at hlonger
    obtain ⟨-, dir, hdir, -⟩ := exists_parent_of_fileName? hname
    have hpage := (outputFile?_eq_some_iff hbytes).2 ⟨stem, dir, hne, hname, hdir, rfl⟩
    rw [← Text.ofBytes_toBytes (isBytes_outputFile? hbytes hpage)] at hpage
    exact ⟨_, outputFile_eq_ok_iff.2 hpage⟩

/-- The pages of two sources have the same components only if the sources have. -/
theorem components_outputFile_eq_iff {other output' : ByteArray}
    (h : outputFile input suffix = .ok output) (h' : outputFile other suffix = .ok output') :
    components (Text.ofBytes output') = components (Text.ofBytes output) ↔
      components (Text.ofBytes other) = components (Text.ofBytes input) := by
  obtain ⟨stem, dir, -, hinput, houtput⟩ :=
    components_outputFile? (Text.isBytes_ofBytes input) (outputFile_eq_ok_iff.1 h)
  obtain ⟨stem', dir', -, hother, houtput'⟩ :=
    components_outputFile? (Text.isBytes_ofBytes other) (outputFile_eq_ok_iff.1 h')
  rw [hinput, hother, houtput, houtput']
  simp [Text.widen_inj]

end

/-! ## Paths that are texts -/

section

variable {input suffix output : Text}

/-- Bytes of a text lead to bytes of a text, and the page is told by the text. -/
theorem outputFile_encode_eq_ok_iff {bytes : ByteArray} :
    outputFile (Text.encode input) suffix = .ok bytes ↔
      ∃ stem dir, stem ≠ [] ∧ fileName? input = some (stem ++ suffix) ∧ parent? input = some dir ∧
        bytes = Text.encode (join dir (stem ++ ".md".toList)) := by
  have hname : ∀ name : Text, fileName? (Text.widen input) = some (Text.widen name) ↔
      fileName? input = some name := by
    intro name
    simp [fileName?_widen, Option.map_eq_some_iff, Text.widen_inj]
  have hwritten : ∀ text : Text,
      Text.ofBytes bytes = Text.widen text ↔ bytes = Text.encode text := by
    intro text
    refine ⟨fun h => ?_, fun h => h ▸ rfl⟩
    rw [← Text.toBytes_ofBytes bytes, h, Text.widen, Text.toBytes_ofBytes]
  rw [outputFile_eq_ok_iff, outputFile?_eq_some_iff (Text.isBytes_ofBytes _)]
  constructor
  · rintro ⟨stem, dir, hne, hfile, hdir, hbytes⟩
    rw [← Text.widen, parent?_widen, Option.map_eq_some_iff] at hdir
    obtain ⟨dir, hdir, rfl⟩ := hdir
    rw [join_widen, hwritten] at hbytes
    exact ⟨stem, dir, hne, (hname _).1 hfile, hdir, hbytes⟩
  · rintro ⟨stem, dir, hne, hfile, hdir, rfl⟩
    refine ⟨stem, Text.widen dir, hne, (hname _).2 hfile, ?_, ?_⟩
    · rw [← Text.widen, parent?_widen, hdir, Option.map_some]
    · rw [join_widen, Text.widen]

theorem outputPath_eq_ok_iff :
    outputPath input suffix = .ok output ↔
      ∃ stem dir, stem ≠ [] ∧ fileName? input = some (stem ++ suffix) ∧ parent? input = some dir ∧
        output = join dir (stem ++ ".md".toList) := by
  have hshown : outputPath input suffix = .ok output ↔
      ∃ bytes, outputFile (Text.encode input) suffix = .ok bytes ∧ Text.shown bytes = output := by
    rw [outputPath]
    cases outputFile (Text.encode input) suffix <;> simp [Except.map]
  rw [hshown]
  simp only [outputFile_encode_eq_ok_iff]
  constructor
  · rintro ⟨_, ⟨stem, dir, hne, hname, hdir, rfl⟩, rfl⟩
    exact ⟨stem, dir, hne, hname, hdir, Text.shown_encode _⟩
  · rintro ⟨stem, dir, hne, hname, hdir, rfl⟩
    exact ⟨_, ⟨stem, dir, hne, hname, hdir, rfl⟩, Text.shown_encode _⟩

/-- What is said of the bytes is said of the text. -/
theorem outputFile_encode (input suffix : Text) :
    outputFile (Text.encode input) suffix = (outputPath input suffix).map Text.encode := by
  rw [outputPath]
  cases hbytes : outputFile (Text.encode input) suffix with
  | error failure => rfl
  | ok bytes =>
    obtain ⟨stem, dir, -, -, -, rfl⟩ := outputFile_encode_eq_ok_iff.1 hbytes
    simp [Except.map]

/-- The page of a source is in the directory of the source. The suffix in its name is replaced. -/
theorem locationOf_outputPath (h : outputPath input suffix = .ok output) :
    ∃ stem parent, ∀ disk : Disk,
      disk.locationOf input = (stem ++ suffix) :: disk.locationOf parent ∧
      disk.locationOf output = (stem ++ ".md".toList) :: disk.locationOf parent := by
  obtain ⟨stem, dir, -, hname, hdir, rfl⟩ := outputPath_eq_ok_iff.1 h
  obtain ⟨hisName, parent, hparent, hinput⟩ := Disk.locationOf_of_fileName? hname
  obtain rfl := Option.some.inj (hdir.symm.trans hparent)
  exact ⟨stem, dir, fun disk => ⟨hinput disk, disk.locationOf_join (isName_page hisName) dir⟩⟩

end

/-! ## Pages -/

/-- The page of a source, whatever bytes the path of the source has. There is one exactly if the name of
the source is a text that ends in the suffix and is longer, and what is said otherwise names the source,
as it can be shown, and the suffix. The page has the name of the source with this one suffix replaced by
`.md`, below the same components. So sources with different names have different pages, and the pages
of two sources have the same components only if the sources have. A path that is a text has the page that
its bytes have; on every disk the pages of two such sources are in the same place only if the sources
are. -/
theorem outputPath_exact (suffix : Text) :
    (∀ input : ByteArray,
      ((∃ output, outputFile input suffix = .ok output) ↔
        ∃ name, fileName? (Text.ofBytes input) = some (Text.widen name) ∧ suffix <:+ name ∧
          suffix.length < name.length) ∧
      (∀ failure, outputFile input suffix = .error failure →
        failure = .unrecognizedSuffix (Text.shown input) suffix) ∧
      ∀ output, outputFile input suffix = .ok output →
        (∃ stem dir dir', fileName? (Text.ofBytes input) = some (Text.widen (stem ++ suffix)) ∧
          fileName? (Text.ofBytes output) = some (Text.widen (stem ++ ".md".toList)) ∧
          parent? (Text.ofBytes input) = some dir ∧ parent? (Text.ofBytes output) = some dir' ∧
          components dir' = components dir) ∧
        ∀ other output', outputFile other suffix = .ok output' →
          (fileName? (Text.ofBytes other) ≠ fileName? (Text.ofBytes input) →
            fileName? (Text.ofBytes output') ≠ fileName? (Text.ofBytes output)) ∧
          (components (Text.ofBytes output') = components (Text.ofBytes output) ↔
            components (Text.ofBytes other) = components (Text.ofBytes input))) ∧
    ∀ input : Text,
      outputFile (Text.encode input) suffix = (outputPath input suffix).map Text.encode ∧
      ∀ output other output', outputPath input suffix = .ok output →
        outputPath other suffix = .ok output' →
          ∀ disk : Disk, disk.locationOf output' = disk.locationOf output ↔
            disk.locationOf other = disk.locationOf input := by
  refine ⟨fun input => ⟨exists_outputFile_iff, ?_, ?_⟩,
    fun input => ⟨outputFile_encode input suffix, ?_⟩⟩
  · intro failure hfailure
    unfold outputFile at hfailure
    split at hfailure
    · cases hfailure
    · exact (Except.error.inj hfailure).symm
  · intro output houtput
    refine ⟨names_of_outputFile houtput, fun other output' houtput' =>
      ⟨?_, components_outputFile_eq_iff houtput houtput'⟩⟩
    obtain ⟨stem, _, _, hinput, hpage, -⟩ := names_of_outputFile houtput
    obtain ⟨stem', _, _, hother, hpage', -⟩ := names_of_outputFile houtput'
    -- names that differ and end in the same suffix differ before it
    rw [hinput, hother, hpage, hpage']
    simp [Text.widen_inj]
  · intro output other output' houtput houtput' disk
    obtain ⟨stem, dir, hlocations⟩ := locationOf_outputPath houtput
    obtain ⟨stem', dir', hlocations'⟩ := locationOf_outputPath houtput'
    rw [(hlocations disk).1, (hlocations disk).2, (hlocations' disk).1, (hlocations' disk).2]
    simp

/-- Only the last of two suffixes goes, and so do the idle ends of the path. A directory need not be
UTF-8. -/
theorem outputPath_exact_twice :
    let dir : ByteArray := ⟨#[0xff]⟩
    let input := dir ++ Text.encode "//./x.z.md.z.md/.".toList
    let output := dir ++ Text.encode "/x.z.md.md".toList
    outputFile input ".z.md".toList = .ok output ∧
      ∃ stem, fileName? (Text.ofBytes input) = some (Text.widen (stem ++ ".z.md".toList)) ∧
        fileName? (Text.ofBytes output) = some (Text.widen (stem ++ ".md".toList)) := by
  intro dir input output
  have houtput : outputFile input ".z.md".toList = .ok output := by decide +kernel
  obtain ⟨stem, _, _, hname, hpage, -⟩ :=
    (((outputPath_exact ".z.md".toList).1 input).2.2 output houtput).1
  exact ⟨houtput, stem, hname, hpage⟩

/-- Two documents in the working directory. -/
def twoDocuments : Disk :=
  ((Disk.blank ["w".toList]).plantAt "a.z.md".toList (.file (Text.encode "a\n".toList))).plantAt
    "b.z.md".toList (.file (Text.encode "b\n".toList))

/-- A name whose bytes end in the suffix is rejected if it is not UTF-8, and the failure does not carry
the path as it was given. And where the file of the page is asked for, it may be the page of another
document, which is lost. -/
theorem outputPath_notUtf8 :
    let suffix := ".z.md".toList
    let input : ByteArray := ⟨#[0xff]⟩ ++ Text.encode suffix
    (fileName? (Text.ofBytes input) = some (Text.ofBytes input) ∧
      Text.widen suffix <:+ Text.ofBytes input ∧
      (Text.widen suffix).length < (Text.ofBytes input).length ∧
      outputFile input suffix = .error (.unrecognizedSuffix "\ufffd.z.md".toList suffix) ∧
      Text.encode "\ufffd.z.md".toList ≠ input) ∧
    let runner := Runner.cached Toolchain.scripted .memory
    let first := process "a.z.md".toList suffix .standard ⟨none, false⟩ runner
      (.start (.ofDisk twoDocuments (.ofResponses [])))
    let second := process "b.z.md".toList suffix .standard ⟨some "a.md".toList, false⟩ runner first.2
    first.1.map DocumentReport.output = .ok "a.md".toList ∧
      first.2.world.disk.readText "a.md".toList = .ok "a\n".toList ∧
      second.1.map DocumentReport.output = .ok "a.md".toList ∧
      second.2.world.disk.readText "a.md".toList = .ok "b\n".toList := by
  decide +kernel

/-- The page of a source is the source itself exactly if sources end in `.md`. -/
theorem locationOf_outputPath_eq_iff {input suffix output : Text}
    (h : outputPath input suffix = .ok output) (disk : Disk) :
    disk.locationOf output = disk.locationOf input ↔ suffix = ".md".toList := by
  obtain ⟨stem, parent, hlocations⟩ := locationOf_outputPath h
  rw [(hlocations disk).1, (hlocations disk).2, List.cons.injEq, List.append_right_inj]
  simp [eq_comm]

/-- A source is not touched by its own page. If the suffix of sources is not `.md`, then the path of
the page leads elsewhere, on every disk. Whatever becomes of the document, its source then has the
bytes that it had, unless the toolchain or the cache has changed them. -/
theorem process_keepsSource {toolchain : Toolchain (World τ)} {cache : Cache (World τ)}
    {input suffix : Text} {target : Target} {session : Session (World τ)} (options : Options)
    (hsuffix : suffix ≠ ".md".toList) (hderived : target.output = none)
    (htoolchain : toolchain.StaysIn session.world.disk.workDir
      (· ≠ session.world.disk.locationOf input))
    (hcache : cache.StaysIn session.world.disk.workDir
      (· ≠ session.world.disk.locationOf input)) :
    (∀ output, outputPath input suffix = .ok output →
      ∀ disk : Disk, disk.locationOf output ≠ disk.locationOf input) ∧
    (process input suffix options target (Runner.cached toolchain cache)
        session).2.world.disk.file? (session.world.disk.locationOf input)
      = session.world.disk.file? (session.world.disk.locationOf input) := by
  have helsewhere : ∀ output, outputPath input suffix = .ok output →
      ∀ disk : Disk, disk.locationOf output ≠ disk.locationOf input :=
    fun output houtput disk hsame => hsuffix ((locationOf_outputPath_eq_iff houtput disk).1 hsame)
  refine ⟨helsewhere, ?_⟩
  have hrunner := Runner.cached_staysIn htoolchain hcache
  have hrendered : ∀ source, session.world.disk.ModifiesOnly
      (· ≠ session.world.disk.locationOf input)
      (weave options (Runner.cached toolchain cache) source session).session.world.disk :=
    fun source => modifiesOnly_weave hrunner options source rfl
  have hkept : ∀ {disk : Disk},
      session.world.disk.ModifiesOnly (· ≠ session.world.disk.locationOf input) disk →
      disk.file? (session.world.disk.locationOf input)
        = session.world.disk.file? (session.world.disk.locationOf input) :=
    fun hdisk => hdisk.files _ fun hne => hne rfl
  have hprocessed := processed input suffix options target (Runner.cached toolchain cache) session
  generalize process input suffix options target (Runner.cached toolchain cache) session
    = result at hprocessed ⊢
  cases hprocessed with
  | unnamed failure htarget => rfl
  | unread e hread => rfl
  | unrendered source failure hread hresult => exact hkept (hrendered source)
  | unwritten output source page e htarget hread hresult hwrite => exact hkept (hrendered source)
  | done output source page written report after htarget hread hresult hwrite hreport hafter =>
    have hbefore := hrendered source
    rw [hafter]
    cases hdry : target.dryRun with
    | true =>
      rw [writePage_of_dryRun hdry hwrite]
      exact hkept hbefore
    | false =>
      have hwritten := Disk.modifiesOnly_write (writePage_of_not_dryRun hdry hwrite)
      have houtput : outputPath input suffix = .ok output := by
        rwa [targetPath, hderived] at htarget
      rw [Disk.locationOf_congr hbefore.workDir] at hwritten
      -- the page is written where it leads after the rendering, which is where it led before
      refine hkept (hbefore.trans (hwritten.mono fun l hl => ?_))
      rw [hl]
      exact helsewhere output houtput session.world.disk

/-- The source in the working directory has its bytes after its page was written beside it. -/
theorem process_keepsSource_program :
    let source := programSession.world.disk.locationOf "a.z.md".toList
    Toolchain.scripted.StaysIn programSession.world.disk.workDir (· ≠ source) ∧
      (Cache.disk "cache".toList : Cache (World Script)).StaysIn
        programSession.world.disk.workDir (· ≠ source) ∧
      outputPath "a.z.md".toList ".z.md".toList = .ok "a.md".toList ∧
      programSession.world.disk.locationOf "a.md".toList ≠ source ∧
      (process "a.z.md".toList ".z.md".toList .standard ⟨none, false⟩
        (Runner.cached Toolchain.scripted (.disk "cache".toList)) programSession).1.map
          DocumentReport.written = .ok true ∧
      (process "a.z.md".toList ".z.md".toList .standard ⟨none, false⟩
        (Runner.cached Toolchain.scripted (.disk "cache".toList)) programSession).2.world.disk.file?
          source = programSession.world.disk.file? source := by
  intro source
  have htoolchain : Toolchain.scripted.StaysIn programSession.world.disk.workDir (· ≠ source) :=
    fun _ world _ => .refl world.disk
  have hsource : source = ["a.z.md".toList, "w".toList] := by decide +kernel
  have hdirectory : programSession.world.disk.locationOf "cache".toList
      = ["cache".toList, "w".toList] := by
    decide +kernel
  have hcache : (Cache.disk "cache".toList : Cache (World Script)).StaysIn
      programSession.world.disk.workDir (· ≠ source) := by
    intro request report world hworkDir
    refine (Keeping.cache_staysIn (.directory "cache".toList) programSession.world.disk request
      report world hworkDir).mono ?_
    rintro location ⟨name, rfl⟩ hsame
    rw [hdirectory, hsource] at hsame
    simp at hsame
  have hname : outputPath "a.z.md".toList ".z.md".toList = .ok "a.md".toList := by decide +kernel
  have hwritten : (process "a.z.md".toList ".z.md".toList .standard ⟨none, false⟩
      (Runner.cached Toolchain.scripted (.disk "cache".toList)) programSession).1.map
        DocumentReport.written = .ok true := by
    decide +kernel
  have hsuffix : ".z.md".toList ≠ ".md".toList := by decide
  have hderived : (⟨none, false⟩ : Target).output = none := rfl
  obtain ⟨helsewhere, hkept⟩ :=
    process_keepsSource .standard hsuffix hderived htoolchain hcache
  exact ⟨htoolchain, hcache, hname, helsewhere _ hname _, hwritten, hkept⟩

/-- A working directory with the program in a file `a.md`. -/
def plainDisk : Disk :=
  (Disk.blank ["w".toList]).plantAt "a.md".toList
    (.file (Text.encode "```zig -singleFile\nx\n```\n".toList))

/-- Where sources end in `.md`, the page is put in the place of its source. -/
theorem process_overwritesSource :
    outputPath "a.md".toList ".md".toList = .ok "a.md".toList ∧
      let ran := process "a.md".toList ".md".toList .standard ⟨none, false⟩
        (Runner.cached Toolchain.scripted .memory) (.start (.ofDisk plainDisk (.ofResponses [])))
      plainDisk.readText "a.md".toList = .ok "```zig -singleFile\nx\n```\n".toList ∧
        ran.1.map DocumentReport.output = .ok "a.md".toList ∧
        ran.2.world.disk.readText "a.md".toList = .ok programPage := by
  decide +kernel

end Document

end Weave
