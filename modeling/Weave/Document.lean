import Weave.Loom
import Weave.World

/-!
# Weave.Document — from a source file to its page

A document is read from a file, rendered, and written to the file of its page. Nothing is written
unless the whole document was rendered.
-/

namespace Weave

/-- What is asked for besides the document itself. -/
structure Target where
  /-- The file of the page, if it is not the one that the name of the source leads to. -/
  output : Option Text
  /-- Whether the page is only rendered and not written. -/
  dryRun : Bool
deriving Repr, DecidableEq, Inhabited

/-- What became of a document. -/
structure DocumentReport where
  input : Text
  output : Text
  content : Text
  managedBlocks : Nat
  /-- What was counted for this document alone. -/
  stats : Stats
  /-- Whether the page was written. -/
  written : Bool
deriving Repr, DecidableEq, Inhabited

namespace Document

/-- The bytes of the path of the page, from those of the path of a source. -/
def outputFile (input : ByteArray) (suffix : Text) : Except Failure ByteArray :=
  match PathName.outputFile? (Text.ofBytes input) suffix with
  | some path => .ok (Text.toBytes path)
  | none => .error (.unrecognizedSuffix (Text.shown input) suffix)

/-- The file of the page for a source whose path is a text. -/
def outputPath (input suffix : Text) : Except Failure Text :=
  (outputFile (Text.encode input) suffix).map Text.shown

/-- The file that a page goes to. -/
def targetPath (input suffix : Text) (target : Target) : Except Failure Text :=
  match target.output with
  | some path => .ok path
  | none => outputPath input suffix

/-- The disk after the page was written, unless it is only rendered. -/
def writePage (disk : Disk) (output content : Text) (target : Target) : Except IoError Disk :=
  if target.dryRun then .ok disk else disk.writeText output content

/-- Renders a document and writes its page. -/
def process {τ : Type} (input suffix : Text) (options : Options) (target : Target)
    (runner : Runner (World τ)) (session : Session (World τ)) :
    Except Failure DocumentReport × Session (World τ) :=
  match targetPath input suffix target with
  | .error failure => (.error failure, session)
  | .ok output =>
    match session.world.disk.readText input with
    | .error e => (.error (.io e), session)
    | .ok source =>
      -- nothing is written before the whole page is there
      let weaving := weave options runner source session
      let after := weaving.session
      match weaving.result with
      | .error failure => (.error failure, after)
      | .ok page =>
        match writePage after.world.disk output page.content target with
        | .error e => (.error (.io e), after)
        | .ok disk =>
          (.ok {
            input := input
            output := output
            content := page.content
            managedBlocks := page.managedBlocks
            stats := after.stats.since session.stats
            written := !target.dryRun },
           { after with world := { after.world with disk := disk } })

end Document

end Weave
