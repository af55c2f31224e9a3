import Weave.Document
import Weave.Process

/-!
# Weave.Project — a directory with its configuration

The configuration of a project is read from the first file among the candidates in its root
directory. It decides how documents are rendered, which toolchain runs them and where reports are
kept.
-/

namespace Weave

/-- A directory with its configuration. -/
structure Project where
  root : Text
  config : Config
  /-- The file that the configuration was read from, if there was one. -/
  configPath : Option Text
deriving Repr, DecidableEq

namespace Project

/-! ## Loading -/

/-- Where a configuration may stand, the strongest place first. -/
def configCandidates : List Text :=
  ["zmd.toml", ".zmd.toml", ".config/zmd.toml"].map String.toList

/-- The configuration file of a directory: the first candidate that is a regular file. -/
def configFile? (disk : Disk) (root : Text) : Option Text :=
  (configCandidates.map (PathName.join root)).find? disk.isFile

def readConfig (disk : Disk) (path : Text) : Except Failure Config :=
  match disk.readText path with
  | .error e => .error (.io e)
  | .ok content =>
    match Config.ofText? content with
    | .error e => .error (.configParse e)
    | .ok config => .ok config

/-- The configuration of a directory, if it has a configuration file. -/
def loadConfig? (disk : Disk) (root : Text) : Except Failure (Option Config) :=
  match configFile? disk root with
  | none => .ok none
  | some path => (readConfig disk path).map some

/-- The configuration of a directory, or the standard one. -/
def loadConfig (disk : Disk) (root : Text) : Except Failure Config :=
  (loadConfig? disk root).map fun config => config.getD .standard

/-- The project in a directory. Its configuration file is looked for twice: for its path, and to
read it. -/
def load (disk : Disk) (root : Text) : Except Failure Project :=
  let configPath := configFile? disk root
  (loadConfig disk root).map fun config => ⟨root, config, configPath⟩

/-! ## Running -/

/-- The directory of reports. -/
def cacheDir (project : Project) : Text :=
  PathName.join project.root project.config.cache.dir

/-- The cache of a project. It is not used if the configuration or the caller says so. -/
def cache {τ : Type} (project : Project) (noCache : Bool) : Cache (World τ) :=
  if noCache || !project.config.cache.enabled then .none else .disk project.cacheDir

/-- How the requests of a project are answered. -/
def runner {τ : Type} (project : Project) (programs : Programs) (noCache : Bool) :
    Runner (World τ) :=
  .cached (.process programs project.config.toolchain project.root) (project.cache noCache)

def process {τ : Type} (project : Project) (runner : Runner (World τ)) (input : Text)
    (target : Target) (session : Session (World τ)) :
    Except Failure DocumentReport × Session (World τ) :=
  Document.process input project.config.sourceSuffix project.config.options target runner session

end Project

end Weave
