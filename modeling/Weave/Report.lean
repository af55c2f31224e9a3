import Weave.Text.Basic

/-!
# Weave.Report — what a page shows of a run

The report of a run has a section for each of the two streams of output.
-/

namespace Weave

/-- What a toolchain printed. -/
structure ToolOutput where
  stdout : Text
  stderr : Text
deriving Repr, DecidableEq, Inhabited

/-- A text with a line feed at its end, added if there is none. -/
def Text.terminated (s : Text) : Text :=
  if s.getLast? = some '\n' then s else s ++ ['\n']

/-- The section of a stream: its name and its text, or one line that says that there is none. -/
def streamSection (name content : Text) : Text :=
  if content.isEmpty then '$' :: name ++ " returns nothing.\n".toList
  else '$' :: name ++ ":\n".toList ++ Text.terminated content

def ToolOutput.report (output : ToolOutput) : Text :=
  streamSection "stdout".toList output.stdout ++ streamSection "stderr".toList output.stderr

end Weave
