import Weave.Template.Render

/-!
# Weave.EntryPoint — the frame around short snippets

A plain block is a snippet without a program around it. The entry point is a template that gives
it one; the snippet is bound to the name `code`.
-/

namespace Weave

/-- A template for a program around a snippet. -/
structure EntryPoint where
  template : Text
deriving Repr, DecidableEq, Inhabited

namespace EntryPoint

/-- The name that the snippet is bound to. -/
def codeName : Text :=
  "code".toList

/-- The entry point of a program of the default language. -/
def standard : EntryPoint :=
  ⟨"const std = @import(\"std\");\npub fn main() !void \x7b\n \x7b\x7b code \x7d\x7d \n\x7d".toList⟩

/-- The program around a snippet. -/
def wrap (entry : EntryPoint) (code : Text) : Except Template.Error Text :=
  Template.render [(codeName, .text code)] entry.template

end EntryPoint

end Weave
