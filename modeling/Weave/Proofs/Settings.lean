import Weave.Config
import Weave.Proofs.ConfigFiles

/-!
# Weave.Proofs.Settings — where the settings of a project come from

The settings of a project come from one file, or from none. What the file says is a table, and each
setting is what stands under its key, or else a default that is the same however much is missing.

1. **Tables**: every configuration text stands for a table (`exists_table_of_ofText?`).
2. **Settings**: `Given` says what a table gives for a key, and `Stated` that settings are the ones
   that the tables give. Reading a table is stating its settings (`ofTable_eq_ok_iff`), where a
   section that is missing has the empty table (`given_section_iff`).
3. **Unknown keys**: tables that agree on the keys of settings have the same settings
   (`ofTable_of_agree`).
4. **Projects**: one candidate is the `Source` of the settings, or none, and nothing else is read
   (`load_oneSource`).
-/

namespace Weave

/-! ## Tables -/

namespace Toml

/-- A value that is a table. -/
def Value.IsTable (v : Value) : Prop :=
  ∃ kind entries, v = .table kind entries

/-- A change that leaves tables tables. -/
def KeepsTables (f : Value → Except Error Value) : Prop :=
  ∀ v w, v.IsTable → f v = .ok w → w.IsTable

namespace Value

theorem keepsTables_descend {f : Value → Except Error Value} (hf : KeepsTables f) (dotted : Bool)
    (path : List Text) : KeepsTables (descend dotted f path) := by
  rintro v w ⟨kind, entries, rfl⟩ h
  cases path with
  | nil => exact hf _ w ⟨kind, entries, rfl⟩ h
  | cons key path =>
    rw [descend] at h
    obtain ⟨changed, -, h⟩ := ok_of_bind h
    exact ⟨kind, changed, (Except.ok.inj h).symm⟩

theorem keepsTables_addEntry (dotted : Bool) (key : Text) (v : Value) :
    KeepsTables (addEntry dotted key v) := by
  rintro _ w ⟨kind, entries, rfl⟩ h
  rw [addEntry] at h
  split at h
  · cases h
  · obtain ⟨changed, -, h⟩ := ok_of_bind h
    exact ⟨kind, changed, (Except.ok.inj h).symm⟩

theorem keepsTables_insert (path : List Text) (v : Value) : KeepsTables (insert · path v) := by
  intro table w htable h
  simp only [insert] at h
  split at h
  · cases h
  · exact keepsTables_descend (keepsTables_addEntry _ _ v) true _ table w htable h

theorem keepsTables_atHeader (path : List Text) (f : Text → Option Value → Except Error Value) :
    KeepsTables (atHeader path f) := by
  intro root w hroot h
  rw [atHeader] at h
  split at h
  · cases h
  · refine keepsTables_descend ?_ false _ root w hroot h
    rintro _ w ⟨kind, entries, rfl⟩ h
    obtain ⟨changed, -, h⟩ := ok_of_bind h
    exact ⟨kind, changed, (Except.ok.inj h).symm⟩

end Value

/-- A line adds to a table. -/
theorem isTable_readLine {progress progress' : Progress} {s rest : Text}
    (hroot : progress.root.IsTable) (h : progress.readLine s = .ok (progress', rest)) :
    progress'.root.IsTable := by
  unfold Progress.readLine at h
  -- a line opens an item of a list, or a table, or gives a value to a key
  split at h
  · obtain ⟨⟨path, s⟩, -, h⟩ := ok_of_bind h
    obtain ⟨root, hopen, h⟩ := ok_of_bind h
    obtain rfl := (Prod.mk.inj (Except.ok.inj h)).1
    exact Value.keepsTables_atHeader path _ _ root hroot hopen
  · obtain ⟨⟨path, s⟩, -, h⟩ := ok_of_bind h
    obtain ⟨root, hopen, h⟩ := ok_of_bind h
    obtain rfl := (Prod.mk.inj (Except.ok.inj h)).1
    exact Value.keepsTables_atHeader path _ _ root hroot hopen
  · obtain ⟨⟨path, s⟩, -, h⟩ := ok_of_bind h
    simp only at h
    split at h
    · obtain ⟨⟨v, s⟩, -, h⟩ := ok_of_bind h
      obtain ⟨root, hinsert, h⟩ := ok_of_bind h
      obtain rfl := (Prod.mk.inj (Except.ok.inj h)).1
      exact Value.keepsTables_descend (Value.keepsTables_insert path v) false _ _ root hroot hinsert
    · cases h

theorem isTable_readLinesFrom {fuel : Nat} {progress : Progress} {s : Text} {v : Value}
    (hroot : progress.root.IsTable) (h : readLinesFrom fuel progress s = .ok v) : v.IsTable := by
  induction fuel generalizing progress s with
  | zero => exact Except.ok.inj h ▸ hroot
  | succ fuel ih =>
    rw [readLinesFrom] at h
    obtain ⟨s, -, h⟩ := ok_of_bind h
    split at h
    · exact Except.ok.inj h ▸ hroot
    · obtain ⟨⟨progress', rest⟩, hline, h⟩ := ok_of_bind h
      obtain ⟨s, -, h⟩ := ok_of_bind h
      exact ih (isTable_readLine hroot hline) h

/-- A configuration text stands for a table. -/
theorem exists_table_of_ofText? {s : Text} {v : Value} (h : Value.ofText? s = .ok v) :
    ∃ kind entries, v = .table kind entries :=
  isTable_readLinesFrom ⟨.header, [], rfl⟩ h

end Toml

/-! ## Settings -/

namespace Config

/-- The entries of a table. -/
abbrev Entries : Type :=
  List (Text × Toml.Value)

variable {entries entries' inner : Entries} {kind : Toml.TableKind} {v : Toml.Value} {key : Text}

/-- A setting is what stands under its key, or the default if the key is missing. -/
def Given {α : Type} (entries : Entries) (key : String) (default : α)
    (stands : Toml.Value → α → Prop) (setting : α) : Prop :=
  match Toml.Value.find? key.toList entries with
  | none => setting = default
  | some v => stands v setting

/-- The table of a section, which is empty if the section is missing. -/
def SectionOf (entries : Entries) (key : String) (inner : Entries) : Prop :=
  Given entries key [] (fun v inner => ∃ kind, v = .table kind inner) inner

section Given

variable {α : Type} {key : String} {default setting : α} {stands : Toml.Value → α → Prop}

theorem given_nil : Given [] key default stands setting ↔ setting = default :=
  Iff.rfl

/-- What is read from a group of settings is what the table gives. -/
theorem get_eq_ok_iff {place : Nat} {read : Text → Toml.Value → Except Toml.Error α}
    (hread : ∀ v, read key.toList v = .ok setting ↔ stands v setting) :
    Section.get (fun _ key => Toml.Value.find? key entries) place key default read = .ok setting
      ↔ Given entries key default stands setting := by
  cases hfind : Toml.Value.find? key.toList entries with
  | none => simp [Section.get, Given, hfind, eq_comm]
  | some v => simpa [Section.get, Given, hfind] using hread v

/-- A setting that is a group of settings comes from the table of the group. If the group is missing,
its table is empty. -/
theorem given_section_iff (stated : Entries → α → Prop)
    (hsection : SectionOf entries key inner)
    (hempty : stated [] setting ↔ setting = default)
    (htable : ∀ kind, stands (.table kind inner) setting ↔ stated inner setting) :
    Given entries key default stands setting ↔ stated inner setting := by
  cases hfind : Toml.Value.find? key.toList entries with
  | none =>
    -- a missing section gives what an empty one gives
    obtain rfl : inner = [] := by simpa [SectionOf, Given, hfind] using hsection
    simpa [Given, hfind] using hempty.symm
  | some v =>
    obtain ⟨kind, rfl⟩ : ∃ kind, v = .table kind inner := by
      simpa [SectionOf, Given, hfind] using hsection
    simpa [Given, hfind] using htable kind

end Given

/-! ### Values -/

theorem readText_eq_ok_iff {s : Text} : readText key v = .ok s ↔ v = .text s := by
  cases v <;> simp [readText]

theorem readBool_eq_ok_iff {b : Bool} : readBool key v = .ok b ↔ v = .bool b := by
  cases v <;> simp [readBool]

theorem mapM_readText_eq_ok_iff {items : List Toml.Value} {texts : List Text} :
    items.mapM (readText key) = .ok texts ↔ items = texts.map .text := by
  induction items generalizing texts with
  | nil => cases texts <;> simp [pure, Except.pure]
  | cons item items ih =>
    rw [List.mapM_cons, bind_eq_ok_iff]
    constructor
    · rintro ⟨s, hitem, h⟩
      obtain ⟨texts, hitems, h⟩ := bind_eq_ok_iff.1 h
      obtain rfl := Except.ok.inj h
      rw [readText_eq_ok_iff.1 hitem, ih.1 hitems, List.map_cons]
    · intro h
      cases texts with
      | nil => cases h
      | cons s texts =>
        rw [List.map_cons, List.cons.injEq] at h
        exact ⟨s, readText_eq_ok_iff.2 h.1, bind_eq_ok_iff.2 ⟨texts, ih.2 h.2, rfl⟩⟩

theorem readTexts_eq_ok_iff {texts : List Text} :
    readTexts key v = .ok texts ↔ ∃ ofHeaders, v = .array ofHeaders (texts.map .text) := by
  cases v <;> simp [readTexts, mapM_readText_eq_ok_iff]

theorem map_readText_eq_ok_iff {α : Type} {f : Text → α} {a : α} :
    (readText key v).map f = .ok a ↔ ∃ s, v = .text s ∧ f s = a := by
  cases v <;> simp [readText, Except.map]

/-! ### Groups -/

/-- The keys of the settings of a text, its sections included. -/
def rootKeys : List String :=
  ["language", "result_tag", "source_suffix", "toolchain", "cache"]

/-- The keys of the settings of the toolchain. -/
def toolchainKeys : List String :=
  ["program", "run_args", "test_args", "extension", "scratch_dir", "entry_point"]

/-- The keys of the settings of the cache. -/
def cacheKeys : List String :=
  ["dir", "enabled"]

/-- The numbers under keys that no setting has are in range. -/
def UnknownInRange (keys : List String) (entries : Entries) : Prop :=
  Toml.entriesInRange (entries.filter fun entry => !(keys.any fun key => key.toList = entry.1))
    = true

theorem ofValue_eq_ok_iff {name : Text} {keys : List String} {group : Section} :
    Section.ofValue name keys (.table kind entries) = .ok group ↔
      UnknownInRange keys entries ∧ group = fun _ key => Toml.Value.find? key entries := by
  simp only [Section.ofValue, UnknownInRange]
  split
  · next hrange => rw [Except.ok.injEq, and_iff_right hrange, eq_comm]
  · next hrange => exact ⟨fun h => (by cases h), fun h => absurd h.1 hrange⟩

end Config

open Config

/-- The settings of the toolchain are the ones that a table gives. -/
structure ToolSettings.Stated (entries : Entries) (tool : ToolSettings) : Prop where
  program : Given entries "program" Config.standard.toolchain.program
    (fun v s => v = .text s) tool.program
  runArgs : Given entries "run_args" Config.standard.toolchain.runArgs
    (fun v args => ∃ ofHeaders, v = .array ofHeaders (args.map .text)) tool.runArgs
  testArgs : Given entries "test_args" Config.standard.toolchain.testArgs
    (fun v args => ∃ ofHeaders, v = .array ofHeaders (args.map .text)) tool.testArgs
  extension : Given entries "extension" Config.standard.toolchain.extension
    (fun v s => v = .text s) tool.extension
  scratchDir : Given entries "scratch_dir" Config.standard.toolchain.scratchDir
    (fun v dir => ∃ s, v = .text s ∧ some s = dir) tool.scratchDir
  entryPoint : Given entries "entry_point" Config.standard.toolchain.entryPoint
    (fun v entry => ∃ s, v = .text s ∧ EntryPoint.mk s = entry) tool.entryPoint

/-- The settings of the cache are the ones that a table gives. -/
structure CacheSettings.Stated (entries : Entries) (cache : CacheSettings) : Prop where
  dir : Given entries "dir" Config.standard.cache.dir (fun v s => v = .text s) cache.dir
  enabled : Given entries "enabled" Config.standard.cache.enabled
    (fun v b => v = .bool b) cache.enabled

namespace Config

variable {entries entries' inner : Entries} {kind : Toml.TableKind} {key : Text}
  {tool : ToolSettings} {cache : CacheSettings} {config : Config}

theorem readToolchain_eq_ok_iff :
    readToolchain key (.table kind entries) = .ok tool ↔
      UnknownInRange toolchainKeys entries ∧ tool.Stated entries := by
  constructor
  · intro h
    obtain ⟨group, hgroup, h⟩ := ok_of_bind h
    obtain ⟨hrange, rfl⟩ := ofValue_eq_ok_iff.1 hgroup
    obtain ⟨program, hprogram, h⟩ := ok_of_bind h
    obtain ⟨runArgs, hrunArgs, h⟩ := ok_of_bind h
    obtain ⟨testArgs, htestArgs, h⟩ := ok_of_bind h
    obtain ⟨extension, hextension, h⟩ := ok_of_bind h
    obtain ⟨scratchDir, hscratchDir, h⟩ := ok_of_bind h
    obtain ⟨entryPoint, hentryPoint, h⟩ := ok_of_bind h
    obtain rfl := Except.ok.inj h
    exact ⟨hrange, {
      program := (get_eq_ok_iff fun _ => readText_eq_ok_iff).1 hprogram
      runArgs := (get_eq_ok_iff fun _ => readTexts_eq_ok_iff).1 hrunArgs
      testArgs := (get_eq_ok_iff fun _ => readTexts_eq_ok_iff).1 htestArgs
      extension := (get_eq_ok_iff fun _ => readText_eq_ok_iff).1 hextension
      scratchDir := (get_eq_ok_iff fun _ => map_readText_eq_ok_iff).1 hscratchDir
      entryPoint := (get_eq_ok_iff fun _ => map_readText_eq_ok_iff).1 hentryPoint }⟩
  · rintro ⟨hrange, h⟩
    refine bind_eq_ok_iff.2 ⟨_, ofValue_eq_ok_iff.2 ⟨hrange, rfl⟩, ?_⟩
    refine bind_eq_ok_iff.2 ⟨_, (get_eq_ok_iff fun _ => readText_eq_ok_iff).2 h.program, ?_⟩
    refine bind_eq_ok_iff.2 ⟨_, (get_eq_ok_iff fun _ => readTexts_eq_ok_iff).2 h.runArgs, ?_⟩
    refine bind_eq_ok_iff.2 ⟨_, (get_eq_ok_iff fun _ => readTexts_eq_ok_iff).2 h.testArgs, ?_⟩
    refine bind_eq_ok_iff.2 ⟨_, (get_eq_ok_iff fun _ => readText_eq_ok_iff).2 h.extension, ?_⟩
    refine bind_eq_ok_iff.2 ⟨_, (get_eq_ok_iff fun _ => map_readText_eq_ok_iff).2 h.scratchDir, ?_⟩
    exact bind_eq_ok_iff.2
      ⟨_, (get_eq_ok_iff fun _ => map_readText_eq_ok_iff).2 h.entryPoint, rfl⟩

theorem readCache_eq_ok_iff :
    readCache key (.table kind entries) = .ok cache ↔
      UnknownInRange cacheKeys entries ∧ cache.Stated entries := by
  constructor
  · intro h
    obtain ⟨group, hgroup, h⟩ := ok_of_bind h
    obtain ⟨hrange, rfl⟩ := ofValue_eq_ok_iff.1 hgroup
    obtain ⟨dir, hdir, h⟩ := ok_of_bind h
    obtain ⟨enabled, henabled, h⟩ := ok_of_bind h
    obtain rfl := Except.ok.inj h
    exact ⟨hrange, {
      dir := (get_eq_ok_iff fun _ => readText_eq_ok_iff).1 hdir
      enabled := (get_eq_ok_iff fun _ => readBool_eq_ok_iff).1 henabled }⟩
  · rintro ⟨hrange, h⟩
    refine bind_eq_ok_iff.2 ⟨_, ofValue_eq_ok_iff.2 ⟨hrange, rfl⟩, ?_⟩
    refine bind_eq_ok_iff.2 ⟨_, (get_eq_ok_iff fun _ => readText_eq_ok_iff).2 h.dir, ?_⟩
    exact bind_eq_ok_iff.2 ⟨_, (get_eq_ok_iff fun _ => readBool_eq_ok_iff).2 h.enabled, rfl⟩

/-! ### Sections -/

theorem toolchain_stated_nil_iff : tool.Stated [] ↔ tool = standard.toolchain := by
  constructor
  · rintro ⟨hprogram, hrunArgs, htestArgs, hextension, hscratchDir, hentryPoint⟩
    rw [given_nil] at hprogram hrunArgs htestArgs hextension hscratchDir hentryPoint
    cases tool
    subst_vars
    rfl
  · rintro rfl
    exact ⟨given_nil.2 rfl, given_nil.2 rfl, given_nil.2 rfl, given_nil.2 rfl, given_nil.2 rfl,
      given_nil.2 rfl⟩

theorem cache_stated_nil_iff : cache.Stated [] ↔ cache = standard.cache := by
  constructor
  · rintro ⟨hdir, henabled⟩
    rw [given_nil] at hdir henabled
    cases cache
    subst_vars
    rfl
  · rintro rfl
    exact ⟨given_nil.2 rfl, given_nil.2 rfl⟩

theorem given_toolchain_iff (hsection : SectionOf entries "toolchain" inner) :
    Given entries "toolchain" ToolSettings.standard
        (fun v tool => readToolchain "toolchain".toList v = .ok tool) tool
      ↔ UnknownInRange toolchainKeys inner ∧ tool.Stated inner :=
  given_section_iff
    (fun inner tool => UnknownInRange toolchainKeys inner ∧ ToolSettings.Stated inner tool) hsection
    ((and_iff_right rfl).trans toolchain_stated_nil_iff)
    fun _ => readToolchain_eq_ok_iff

theorem given_cache_iff (hsection : SectionOf entries "cache" inner) :
    Given entries "cache" CacheSettings.standard
        (fun v cache => readCache "cache".toList v = .ok cache) cache
      ↔ UnknownInRange cacheKeys inner ∧ cache.Stated inner :=
  given_section_iff
    (fun inner cache => UnknownInRange cacheKeys inner ∧ CacheSettings.Stated inner cache) hsection
    ((and_iff_right rfl).trans cache_stated_nil_iff) fun _ => readCache_eq_ok_iff

/-- The tables that settings stand in: the one of the text and those of its sections. -/
structure Tables where
  root : Entries
  toolchain : Entries
  cache : Entries

/-- The sections of a table, where the table of a missing section is empty. -/
structure Tables.Of (entries : Entries) (tables : Tables) : Prop where
  root : tables.root = entries
  toolchain : SectionOf entries "toolchain" tables.toolchain
  cache : SectionOf entries "cache" tables.cache

/-- The settings are the ones that tables give. -/
structure Stated (tables : Tables) (config : Config) : Prop where
  language : Given tables.root "language" standard.language (fun v s => v = .text s) config.language
  resultTag : Given tables.root "result_tag" standard.resultTag
    (fun v s => v = .text s) config.resultTag
  sourceSuffix : Given tables.root "source_suffix" standard.sourceSuffix
    (fun v s => v = .text s) config.sourceSuffix
  toolchain : config.toolchain.Stated tables.toolchain
  cache : config.cache.Stated tables.cache

/-- The numbers under keys that no setting has are in range. -/
structure Tables.UnknownInRange (tables : Tables) : Prop where
  root : Config.UnknownInRange rootKeys tables.root
  toolchain : Config.UnknownInRange toolchainKeys tables.toolchain
  cache : Config.UnknownInRange cacheKeys tables.cache

/-- Tables are accepted if their settings can be stated, and they stand for these settings. -/
theorem ofTable_eq_ok_iff {tables : Tables} (htables : tables.Of entries) :
    ofTable (.table kind entries) = .ok config ↔ tables.UnknownInRange ∧ config.Stated tables := by
  obtain ⟨root, toolchain, cache⟩ := tables
  obtain ⟨rfl, htoolchain, hcache⟩ := htables
  constructor
  · intro h
    obtain ⟨group, hgroup, h⟩ := ok_of_bind h
    obtain ⟨hrange, rfl⟩ := ofValue_eq_ok_iff.1 hgroup
    obtain ⟨language, hlanguage, h⟩ := ok_of_bind h
    obtain ⟨resultTag, hresultTag, h⟩ := ok_of_bind h
    obtain ⟨sourceSuffix, hsourceSuffix, h⟩ := ok_of_bind h
    obtain ⟨tool, htoolRead, h⟩ := ok_of_bind h
    obtain ⟨settings, hcacheRead, h⟩ := ok_of_bind h
    obtain rfl := Except.ok.inj h
    obtain ⟨htoolRange, htoolStated⟩ :=
      (given_toolchain_iff htoolchain).1 ((get_eq_ok_iff fun _ => Iff.rfl).1 htoolRead)
    obtain ⟨hcacheRange, hcacheStated⟩ :=
      (given_cache_iff hcache).1 ((get_eq_ok_iff fun _ => Iff.rfl).1 hcacheRead)
    exact ⟨⟨hrange, htoolRange, hcacheRange⟩, {
      language := (get_eq_ok_iff fun _ => readText_eq_ok_iff).1 hlanguage
      resultTag := (get_eq_ok_iff fun _ => readText_eq_ok_iff).1 hresultTag
      sourceSuffix := (get_eq_ok_iff fun _ => readText_eq_ok_iff).1 hsourceSuffix
      toolchain := htoolStated
      cache := hcacheStated }⟩
  · rintro ⟨hrange, h⟩
    refine bind_eq_ok_iff.2 ⟨_, ofValue_eq_ok_iff.2 ⟨hrange.root, rfl⟩, ?_⟩
    refine bind_eq_ok_iff.2 ⟨_, (get_eq_ok_iff fun _ => readText_eq_ok_iff).2 h.language, ?_⟩
    refine bind_eq_ok_iff.2 ⟨_, (get_eq_ok_iff fun _ => readText_eq_ok_iff).2 h.resultTag, ?_⟩
    refine bind_eq_ok_iff.2 ⟨_, (get_eq_ok_iff fun _ => readText_eq_ok_iff).2 h.sourceSuffix, ?_⟩
    refine bind_eq_ok_iff.2 ⟨_, (get_eq_ok_iff fun _ => Iff.rfl).2
      ((given_toolchain_iff htoolchain).2 ⟨hrange.toolchain, h.toolchain⟩), ?_⟩
    exact bind_eq_ok_iff.2 ⟨_, (get_eq_ok_iff fun _ => Iff.rfl).2
      ((given_cache_iff hcache).2 ⟨hrange.cache, h.cache⟩), rfl⟩

/-! ### Texts -/

/-- The values under the keys of the sections are tables, where there are any. -/
def SectionsAreTables (entries : Entries) : Prop :=
  ∀ key ∈ ["toolchain", "cache"], ∀ v, Toml.Value.find? key.toList entries = some v → v.IsTable

theorem exists_sectionOf {key : String}
    (h : ∀ v, Toml.Value.find? key.toList entries = some v → v.IsTable) :
    ∃ inner, SectionOf entries key inner := by
  cases hfind : Toml.Value.find? key.toList entries with
  | none => exact ⟨[], by simp [SectionOf, Given, hfind]⟩
  | some v =>
    obtain ⟨kind, inner, rfl⟩ := h v hfind
    exact ⟨inner, by simp [SectionOf, Given, hfind]⟩

theorem SectionsAreTables.exists_tables (h : SectionsAreTables entries) :
    ∃ tables : Tables, tables.Of entries := by
  obtain ⟨toolchain, htoolchain⟩ := exists_sectionOf (h "toolchain" (by simp))
  obtain ⟨cache, hcache⟩ := exists_sectionOf (h "cache" (by simp))
  exact ⟨⟨entries, toolchain, cache⟩, rfl, htoolchain, hcache⟩

theorem ofText?_of_table {s : Text} (h : Toml.Value.ofText? s = .ok v) : ofText? s = ofTable v := by
  rw [ofText?, h]
  rfl

/-- A text with settings stands for a table. -/
theorem exists_table_of_ofText? {s : Text} (h : ofText? s = .ok config) :
    ∃ kind entries, Toml.Value.ofText? s = .ok (.table kind entries) ∧
      ofTable (.table kind entries) = .ok config := by
  obtain ⟨v, hv, hread⟩ := ok_of_bind h
  obtain ⟨kind, entries, rfl⟩ := Toml.exists_table_of_ofText? hv
  exact ⟨kind, entries, hv, hread⟩

/-! ### Unknown keys -/

/-- Two tables have the same values under some keys. -/
def AgreeOn (keys : List String) (entries entries' : Entries) : Prop :=
  ∀ key ∈ keys, Toml.Value.find? key.toList entries' = Toml.Value.find? key.toList entries

theorem AgreeOn.symm {keys : List String} (h : AgreeOn keys entries entries') :
    AgreeOn keys entries' entries :=
  fun key hkey => (h key hkey).symm

theorem AgreeOn.given {α : Type} {keys : List String} {key : String} {default setting : α}
    {stands : Toml.Value → α → Prop} (hagree : AgreeOn keys entries entries')
    (h : Given entries key default stands setting) (hkey : key ∈ keys) :
    Given entries' key default stands setting := by
  unfold Given
  rw [hagree key hkey]
  exact h

theorem AgreeOn.stated_toolchain (hagree : AgreeOn toolchainKeys entries entries')
    (h : tool.Stated entries) : tool.Stated entries' where
  program := hagree.given h.program (by simp [toolchainKeys])
  runArgs := hagree.given h.runArgs (by simp [toolchainKeys])
  testArgs := hagree.given h.testArgs (by simp [toolchainKeys])
  extension := hagree.given h.extension (by simp [toolchainKeys])
  scratchDir := hagree.given h.scratchDir (by simp [toolchainKeys])
  entryPoint := hagree.given h.entryPoint (by simp [toolchainKeys])

theorem AgreeOn.stated_cache (hagree : AgreeOn cacheKeys entries entries')
    (h : cache.Stated entries) : cache.Stated entries' where
  dir := hagree.given h.dir (by simp [cacheKeys])
  enabled := hagree.given h.enabled (by simp [cacheKeys])

/-- Two groups of tables have the same values under the keys of settings. -/
structure Tables.Agree (tables tables' : Tables) : Prop where
  root : AgreeOn ["language", "result_tag", "source_suffix"] tables.root tables'.root
  toolchain : AgreeOn toolchainKeys tables.toolchain tables'.toolchain
  cache : AgreeOn cacheKeys tables.cache tables'.cache

theorem Tables.Agree.symm {tables tables' : Tables} (h : tables.Agree tables') :
    tables'.Agree tables :=
  ⟨h.root.symm, h.toolchain.symm, h.cache.symm⟩

/-- The settings do not depend on other keys. -/
theorem Stated.of_agree {tables tables' : Tables} (h : config.Stated tables)
    (hagree : tables.Agree tables') : config.Stated tables' where
  language := hagree.root.given h.language (by simp)
  resultTag := hagree.root.given h.resultTag (by simp)
  sourceSuffix := hagree.root.given h.sourceSuffix (by simp)
  toolchain := hagree.toolchain.stated_toolchain h.toolchain
  cache := hagree.cache.stated_cache h.cache

/-- A table that agrees with one that is accepted is accepted if its numbers are in range, and has
the same settings. -/
theorem ofTable_of_agree {kind kind' : Toml.TableKind} {tables tables' : Tables} {config' : Config}
    (htables : tables.Of entries) (htables' : tables'.Of entries') (hagree : tables.Agree tables')
    (h : ofTable (.table kind entries) = .ok config) :
    ofTable (.table kind' entries') = .ok config' ↔
      config' = config ∧ tables'.UnknownInRange := by
  obtain ⟨hrange, hstated⟩ := (ofTable_eq_ok_iff htables).1 h
  constructor
  · intro h'
    obtain ⟨hrange', hstated'⟩ := (ofTable_eq_ok_iff htables').1 h'
    -- the first table states these settings too, and it can only be read in one way
    have hsame : ofTable (.table kind entries) = .ok config' :=
      (ofTable_eq_ok_iff htables).2 ⟨hrange, hstated'.of_agree hagree.symm⟩
    exact ⟨Except.ok.inj (hsame.symm.trans h), hrange'⟩
  · rintro ⟨rfl, hrange'⟩
    exact (ofTable_eq_ok_iff htables').2 ⟨hrange', hstated.of_agree hagree⟩

end Config

/-! ## Projects -/

namespace Project

open PathName

variable {disk : Disk} {root candidate : Text} {bytes : ByteArray}

/-- The source of the settings in a directory: a candidate that is a regular file, while those
before it are none. -/
def Source (disk : Disk) (root candidate : Text) (bytes : ByteArray) : Prop :=
  ∃ before after, configCandidates = before ++ candidate :: after ∧
    (∀ earlier ∈ before, ∀ other, disk.stat (join root earlier) ≠ .ok (.file other)) ∧
    disk.stat (join root candidate) = .ok (.file bytes)

theorem source_iff : Source disk root candidate bytes ↔
    configCandidates.find? (fun name => disk.isFile (join root name)) = some candidate ∧
      disk.stat (join root candidate) = .ok (.file bytes) := by
  rw [List.find?_eq_some_iff_append]
  constructor
  · rintro ⟨before, after, hsplit, hbefore, hstat⟩
    refine ⟨⟨isFile_iff.2 ⟨bytes, hstat⟩, before, after, hsplit, fun earlier hmem => ?_⟩, hstat⟩
    simp [isFile_eq_false_iff.2 (hbefore earlier hmem)]
  · rintro ⟨⟨-, before, after, hsplit, hbefore⟩, hstat⟩
    refine ⟨before, after, hsplit, fun earlier hmem => ?_, hstat⟩
    simpa [← isFile_eq_false_iff] using hbefore earlier hmem

/-- Nothing but the source is read. -/
theorem Source.load_eq (h : Source disk root candidate bytes) :
    load disk root
      = match Text.decode? bytes with
        | none => .error (.io .invalidData)
        | some s =>
          match Config.ofText? s with
          | .error e => .error (.configParse e)
          | .ok config => .ok ⟨root, config, some (join root candidate)⟩ := by
  obtain ⟨hfind, hstat⟩ := source_iff.1 h
  rw [Project.load_eq, configFile?_eq, hfind]
  simp only [Option.map_some, readConfig, Disk.readText_eq, hstat, Except.bind, Node.text]
  cases Text.decode? bytes with
  | none => rfl
  | some s => cases hread : Config.ofText? s <;> simp [hread, Except.map]

/-- A directory has no source or one. -/
theorem exists_source (disk : Disk) (root : Text) :
    (∀ candidate ∈ configCandidates, ∀ bytes, disk.stat (join root candidate) ≠ .ok (.file bytes)) ∨
      ∃ candidate bytes, Source disk root candidate bytes := by
  cases hfind : configCandidates.find? fun name => disk.isFile (join root name) with
  | none =>
    rw [List.find?_eq_none] at hfind
    exact .inl fun candidate hmem =>
      isFile_eq_false_iff.1 (Bool.eq_false_iff.2 (hfind candidate hmem))
  | some candidate =>
    have hfile : disk.isFile (join root candidate) = true :=
      (List.find?_eq_some_iff_append.1 hfind).1
    obtain ⟨bytes, hstat⟩ := isFile_iff.1 hfile
    exact .inr ⟨candidate, bytes, source_iff.2 ⟨hfind, hstat⟩⟩

theorem Source.unique {candidate' : Text} {bytes' : ByteArray}
    (h : Source disk root candidate bytes) (h' : Source disk root candidate' bytes') :
    candidate' = candidate ∧ bytes' = bytes := by
  obtain ⟨hfind, hstat⟩ := source_iff.1 h
  obtain ⟨hfind', hstat'⟩ := source_iff.1 h'
  obtain rfl := Option.some.inj (hfind'.symm.trans hfind)
  rw [hstat'] at hstat
  cases hstat
  exact ⟨rfl, rfl⟩

/-- A project is configured by one file or by none. Without a file it has the standard settings.
Otherwise the settings are those of the first candidate that is a regular file, whatever the later
ones hold, and if its bytes are no text or the text is refused, then so is the project. In a text
whose sections are tables, every setting is the value under its key, or the standard one where the
key is missing, and a text that differs in other keys has the same settings or has a number out of
range under one of them. -/
theorem load_oneSource (disk : Disk) (root : Text) :
    ((∀ candidate ∈ configCandidates, ∀ bytes,
          disk.stat (join root candidate) ≠ .ok (.file bytes)) ∧
        load disk root = .ok ⟨root, .standard, none⟩ ∨
      ∃ candidate bytes, Source disk root candidate bytes ∧
        (∀ candidate' bytes', Source disk root candidate' bytes' →
          candidate' = candidate ∧ bytes' = bytes) ∧
        (∀ disk', Source disk' root candidate bytes → load disk' root = load disk root) ∧
        load disk root
          = match Text.decode? bytes with
            | none => .error (.io .invalidData)
            | some s =>
              match Config.ofText? s with
              | .error e => .error (.configParse e)
              | .ok config => .ok ⟨root, config, some (join root candidate)⟩) ∧
    ∀ s config, Config.ofText? s = .ok config →
      ∃ kind entries, Toml.Value.ofText? s = .ok (.table kind entries) ∧
        (Config.SectionsAreTables entries →
          ∃ tables : Config.Tables, tables.Of entries ∧ config.Stated tables ∧
            ∀ s' kind' entries' tables' config',
              Toml.Value.ofText? s' = .ok (.table kind' entries') → tables'.Of entries' →
              tables.Agree tables' →
              (Config.ofText? s' = .ok config' ↔ config' = config ∧ tables'.UnknownInRange)) := by
  refine ⟨?_, fun s config h => ?_⟩
  · rcases exists_source disk root with hnone | ⟨candidate, bytes, hsource⟩
    · exact .inl ⟨hnone, load_eq_standard_of_noFile hnone⟩
    · refine .inr ⟨candidate, bytes, hsource, fun _ _ => hsource.unique, fun disk' hsource' => ?_,
        hsource.load_eq⟩
      rw [hsource'.load_eq, hsource.load_eq]
  · obtain ⟨kind, entries, hs, htable⟩ := Config.exists_table_of_ofText? h
    refine ⟨kind, entries, hs, fun hsections => ?_⟩
    obtain ⟨tables, htables⟩ := hsections.exists_tables
    refine ⟨tables, htables, ((Config.ofTable_eq_ok_iff htables).1 htable).2, ?_⟩
    intro s' kind' entries' tables' config' hs' htables' hagree
    rw [Config.ofText?_of_table hs']
    exact Config.ofTable_of_agree htables htables' hagree htable

/-- What a text holds that names a compiler, and others beside it. -/
def compilerEntries (others : Config.Entries) : Config.Entries :=
  [("toolchain".toList, .table .header (("program".toList, .text "cc".toList) :: others))]

theorem tables_compilerEntries {others : Config.Entries} {tables : Config.Tables} :
    tables.Of (compilerEntries others) ↔
      tables = ⟨compilerEntries others, ("program".toList, .text "cc".toList) :: others, []⟩ := by
  constructor
  · rintro ⟨hroot, htoolchain, hcache⟩
    obtain ⟨root, toolchain, cache⟩ := tables
    obtain ⟨kind, htable⟩ := htoolchain
    cases htable
    obtain rfl : root = compilerEntries others := hroot
    obtain rfl : cache = [] := hcache
    rfl
  · rintro rfl
    exact ⟨rfl, ⟨.header, rfl⟩, rfl⟩

def compilerText : Text :=
  "[toolchain]\nprogram = \"cc\"".toList

/-- The same text with a linker, under a key that no setting has. -/
def linkerText : Text :=
  compilerText ++ "\nlinker = 1".toList

theorem ofText?_compilerText :
    Toml.Value.ofText? compilerText = .ok (.table .header (compilerEntries [])) := by
  with_unfolding_all rfl

theorem ofText?_linkerText : Toml.Value.ofText? linkerText
    = .ok (.table .header (compilerEntries [("linker".toList, .int 1)])) := by
  with_unfolding_all rfl

/-- A project whose first candidate is a directory. -/
def linkerDisk : Disk :=
  ((Disk.blank ["w".toList]).plantAt "zmd.toml".toList .dir).plantAt ".zmd.toml".toList
    (.file (Text.encode linkerText))

/-- The second candidate is the source. It fills a section partly and has the standard settings for the
rest, and the text without the linker has the same ones. -/
theorem load_oneSource_linker :
    let config := { Config.standard with
      toolchain := { Config.standard.toolchain with program := "cc".toList } }
    Source linkerDisk ".".toList ".zmd.toml".toList (Text.encode linkerText) ∧
      load linkerDisk ".".toList = .ok ⟨".".toList, config, some "./.zmd.toml".toList⟩ ∧
      Config.ofText? compilerText = .ok config := by
  intro config
  have hdirectory : linkerDisk.stat (join ".".toList "zmd.toml".toList) = .ok .dir := by
    decide +kernel
  have hfile : linkerDisk.stat (join ".".toList ".zmd.toml".toList)
      = .ok (.file (Text.encode linkerText)) := by
    decide +kernel
  have hsource : Source linkerDisk ".".toList ".zmd.toml".toList (Text.encode linkerText) := by
    refine ⟨["zmd.toml".toList], [".config/zmd.toml".toList], rfl, ?_, hfile⟩
    rintro earlier hearlier other hstat
    rw [List.mem_singleton.1 hearlier, hdirectory] at hstat
    cases hstat
  have hread : Config.ofText? linkerText = .ok config := by decide +kernel
  obtain ⟨hproject, htexts⟩ := load_oneSource linkerDisk ".".toList
  refine ⟨hsource, ?_, ?_⟩
  · -- the source is the one of the theorem, as there is no other
    obtain ⟨hnone, -⟩ | ⟨candidate, bytes, -, hunique, -, hload⟩ := hproject
    · exact absurd hfile (hnone _ (by decide) _)
    · obtain ⟨rfl, rfl⟩ := hunique _ _ hsource
      rw [hload, Text.decode?_encode]
      simp only [hread]
      rfl
  · obtain ⟨kind, entries, hentries, htables⟩ := htexts linkerText config hread
    rw [ofText?_linkerText, Except.ok.injEq, Toml.Value.table.injEq] at hentries
    obtain ⟨rfl, rfl⟩ := hentries
    have hsections : Config.SectionsAreTables (compilerEntries [("linker".toList, .int 1)]) := by
      intro key hkey v hfind
      rw [List.mem_pair] at hkey
      obtain rfl | rfl := hkey
      · cases hfind
        exact ⟨_, _, rfl⟩
      · cases hfind
    obtain ⟨tables, hof, -, hunknown⟩ := htables hsections
    obtain rfl := tables_compilerEntries.1 hof
    -- the texts agree on all keys of settings, and the shorter one has no others
    refine (hunknown _ _ _ _ config ofText?_compilerText (tables_compilerEntries.2 rfl) ?_).2
      ⟨rfl, ?_⟩
    · constructor
      case root =>
        simp only [Config.AgreeOn, List.forall_mem_cons]
        exact ⟨rfl, rfl, rfl, by simp⟩
      case toolchain =>
        simp only [Config.AgreeOn, Config.toolchainKeys, List.forall_mem_cons]
        exact ⟨rfl, rfl, rfl, rfl, rfl, rfl, by simp⟩
      case cache => exact fun _ _ => rfl
    · exact ⟨rfl, rfl, rfl⟩

end Project

end Weave
