import Weave.Options
import Weave.Toml.Document
import Weave.Toml.Range

/-!
# Weave.Config — what can be configured

The settings of a project, each of which has a default. Keys that no setting has are ignored, but
the numbers under them have to be in range; a key with a value of the wrong type is an error. A list
can stand for a section: its items are the values of the settings in their order, and what comes
after them is not looked at.
-/

namespace Weave

/-! ## Settings -/

structure ToolSettings where
  program : Text
  /-- The arguments before the source file when a request is run. -/
  runArgs : List Text
  /-- The arguments before the source file when a request is tested. -/
  testArgs : List Text
  /-- The extension of source files. -/
  extension : Text
  /-- The directory of source files, if it is not the one of the system. -/
  scratchDir : Option Text
  entryPoint : EntryPoint
deriving Repr, DecidableEq

/-- Where reports are kept. -/
structure CacheSettings where
  dir : Text
  enabled : Bool
deriving Repr, DecidableEq

structure Config where
  language : Text
  resultTag : Text
  /-- What the names of source files end in. -/
  sourceSuffix : Text
  toolchain : ToolSettings
  cache : CacheSettings
deriving Repr, DecidableEq

/-- The toolchain where nothing is configured. -/
def ToolSettings.standard : ToolSettings where
  program := "zig".toList
  runArgs := ["run".toList]
  testArgs := ["test".toList]
  extension := "zig".toList
  scratchDir := none
  entryPoint := EntryPoint.standard

/-- The cache where nothing is configured. -/
def CacheSettings.standard : CacheSettings where
  dir := ".zmd/cache".toList
  enabled := true

namespace Config

/-- The settings where nothing is configured. -/
def standard : Config where
  language := "zig".toList
  resultTag := "ansi".toList
  sourceSuffix := ".z.md".toList
  toolchain := .standard
  cache := .standard

instance : Inhabited Config := ⟨standard⟩

/-- How pages are rendered with these settings. -/
def options (config : Config) : Options :=
  ⟨config.language, config.resultTag, config.toolchain.entryPoint⟩

/-! ## Sections -/

/-- A group of settings: what it says about a setting, which has a place and a key in it. -/
abbrev Section : Type :=
  Nat → Text → Option Toml.Value

/-- The group of settings with the given keys that a value stands for. A table goes by keys and a
list by places. A date has no settings. -/
def Section.ofValue (name : Text) (keys : List String) : Toml.Value → Except Toml.Error Section
  | .table _ entries =>
    let ignored := entries.filter fun entry => !(keys.any fun key => key.toList = entry.1)
    if Toml.entriesInRange ignored then .ok fun _ key => Toml.Value.find? key entries
    else .error (.outOfRange name)
  | .array _ items => .ok fun place _ => items[place]?
  | .dateTime _ => .ok fun _ _ => none
  | _ => .error (.wrongType name)

/-- The value of a setting, read by `read`, or its default. -/
def Section.get {α : Type} (group : Section) (place : Nat) (key : String) (default : α)
    (read : Text → Toml.Value → Except Toml.Error α) : Except Toml.Error α :=
  match group place key.toList with
  | none => .ok default
  | some v => read key.toList v

def readText (key : Text) : Toml.Value → Except Toml.Error Text
  | .text s => .ok s
  | _ => .error (.wrongType key)

def readBool (key : Text) : Toml.Value → Except Toml.Error Bool
  | .bool b => .ok b
  | _ => .error (.wrongType key)

def readTexts (key : Text) : Toml.Value → Except Toml.Error (List Text)
  | .array _ items => items.mapM (readText key)
  | _ => .error (.wrongType key)

def readToolchain (key : Text) (v : Toml.Value) : Except Toml.Error ToolSettings := do
  let keys := ["program", "run_args", "test_args", "extension", "scratch_dir", "entry_point"]
  let group ← Section.ofValue key keys v
  let standard := ToolSettings.standard
  return {
    program := ← group.get 0 "program" standard.program readText
    runArgs := ← group.get 1 "run_args" standard.runArgs readTexts
    testArgs := ← group.get 2 "test_args" standard.testArgs readTexts
    extension := ← group.get 3 "extension" standard.extension readText
    scratchDir := ← group.get 4 "scratch_dir" standard.scratchDir
      fun key v => (readText key v).map some
    entryPoint := ← group.get 5 "entry_point" standard.entryPoint
      fun key v => (readText key v).map EntryPoint.mk }

def readCache (key : Text) (v : Toml.Value) : Except Toml.Error CacheSettings := do
  let group ← Section.ofValue key ["dir", "enabled"] v
  let standard := CacheSettings.standard
  return {
    dir := ← group.get 0 "dir" standard.dir readText
    enabled := ← group.get 1 "enabled" standard.enabled readBool }

def ofTable (v : Toml.Value) : Except Toml.Error Config := do
  let keys := ["language", "result_tag", "source_suffix", "toolchain", "cache"]
  let group ← Section.ofValue [] keys v
  return {
    language := ← group.get 0 "language" standard.language readText
    resultTag := ← group.get 1 "result_tag" standard.resultTag readText
    sourceSuffix := ← group.get 2 "source_suffix" standard.sourceSuffix readText
    toolchain := ← group.get 3 "toolchain" standard.toolchain readToolchain
    cache := ← group.get 4 "cache" standard.cache readCache }

/-- The settings that a configuration text stands for. -/
def ofText? (s : Text) : Except Toml.Error Config := do
  ofTable (← Toml.Value.ofText? s)

end Config

end Weave
