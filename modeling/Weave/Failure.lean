import Weave.Block
import Weave.IoError
import Weave.Template.Error
import Weave.Toml.Error

/-!
# Weave.Failure — why a page cannot be rendered

Every cause has a code, a wording and perhaps a hint. Lines are counted from one.
-/

namespace Weave

/-- Why a page cannot be rendered. -/
inductive Failure where
  | io (cause : IoError)
  /-- A collection is run of which nothing was collected. -/
  | unresolvedCollection (family : Family) (id : CollectionId) (line : Nat)
  /-- The public collection is run. -/
  | wildcardExecution (family : Family) (line : Nat)
  /-- An id is a number of more than 64 bits. -/
  | collectionIdOutOfRange (digits : Text) (line : Nat)
  | toolchainSpawn (program reason : Text)
  | toolchainFailure (mode : Mode) (status stderr : Text)
  | unterminatedBlock (line : Nat)
  | unrecognizedSuffix (path suffix : Text)
  | configParse (cause : Toml.Error)
  | template (cause : Template.Error)
deriving Repr, DecidableEq, Inhabited

namespace Failure

def code : Failure → Text
  | .io _ => "zmd::io_error".toList
  | .unresolvedCollection .. => "zmd::unresolved_collection".toList
  | .wildcardExecution .. => "zmd::wildcard_execution".toList
  | .collectionIdOutOfRange .. => "zmd::collection_id_out_of_range".toList
  | .toolchainSpawn .. => "zmd::toolchain_spawn".toList
  | .toolchainFailure .. => "zmd::toolchain_failure".toList
  | .unterminatedBlock _ => "zmd::unterminated_block".toList
  | .unrecognizedSuffix .. => "zmd::unrecognized_suffix".toList
  | .configParse _ => "zmd::config_parse".toList
  | .template _ => "zmd::template_render".toList

/-- A text in the quotes that messages use. -/
def ticked (s : Text) : Text :=
  '\x60' :: s ++ ['\x60']

/-- What can be done about a failure, where there is something to say. -/
def help? : Failure → Option Text
  | .io _ => none
  | .unresolvedCollection _ id _ => some <|
    "collect fragments with id ".toList ++ ticked id.text
      ++ " above this directive before using it".toList
  | .wildcardExecution .. => some <|
    "public ".toList ++ ticked ['*']
      ++ " fragments are prepended to every numbered block; use a numbered id instead".toList
  | .collectionIdOutOfRange .. =>
    some "collection ids must fit in an unsigned 64-bit integer".toList
  | .toolchainSpawn .. => some <|
    "check that the toolchain is installed or set ".toList ++ ticked "[toolchain] program".toList
      ++ " in zmd.toml".toList
  | .toolchainFailure .. => none
  | .unterminatedBlock _ => some <|
    "add a closing ".toList ++ List.replicate 3 '\x60' ++ " line after the block body".toList
  | .unrecognizedSuffix _ suffix => some <|
    "rename the source to ".toList ++ ticked ('*' :: suffix) ++ " or pass ".toList
      ++ ticked "--output".toList ++ " explicitly".toList
  | .configParse _ => some
    "check that zmd.toml is valid TOML with [toolchain] and/or [cache] sections".toList
  | .template _ => none

def message : Failure → Text
  | .io cause => cause.message
  | .unresolvedCollection family id line =>
    "code block with ".toList ++ family.name ++ " number ".toList ++ id.text
      ++ " is not saved (line ".toList ++ Text.ofNat line ++ [')']
  | .wildcardExecution family line =>
    "cannot ".toList ++ family.name ++ " public code at line ".toList ++ Text.ofNat line
  | .collectionIdOutOfRange digits line =>
    "collection id ".toList ++ ticked digits ++ " at line ".toList ++ Text.ofNat line
      ++ " is too large".toList
  | .toolchainSpawn program reason =>
    "failed to start toolchain ".toList ++ ticked program ++ ": ".toList ++ reason
  | .toolchainFailure mode status stderr =>
    "toolchain ".toList ++ ticked mode.name ++ " exited with ".toList ++ status ++ ":\n".toList
      ++ stderr
  | .unterminatedBlock line =>
    "code block opened at line ".toList ++ Text.ofNat line ++ " is never closed".toList
  | .unrecognizedSuffix path suffix =>
    "input ".toList ++ ticked path ++ " does not end with ".toList ++ ticked suffix
  | .configParse cause => "failed to parse config file: ".toList ++ cause.message
  | .template cause => "entry point template failed to render: ".toList ++ cause.message

end Failure

end Weave
