import Weave.Shell.Tool.Calculate
import Weave.Shell.Tool.Cat
import Weave.Shell.Tool.Characters
import Weave.Shell.Tool.Count
import Weave.Shell.Tool.Directory
import Weave.Shell.Tool.Edit
import Weave.Shell.Tool.Excerpt
import Weave.Shell.Tool.Order
import Weave.Shell.Tool.Print
import Weave.Shell.Tool.Reshape
import Weave.Shell.Tool.Search

/-!
# Weave.Shell.Tool.Table — the tools by their names
-/

namespace Weave.Shell

def tools : List (Text × Tool) :=
  [("[", Print.bracket), ("arch", Print.fact "x86_64"), ("basename", Directory.basename),
   ("cat", Cat.tool), ("chmod", Directory.chmod), ("comm", Order.comm), ("cp", Directory.cp),
   ("cut", Reshape.cut), ("dirname", Directory.dirname), ("echo", Print.echo),
   ("egrep", Search.tool .extended), ("expr", Calculate.tool), ("false", Print.fail),
   ("fgrep", Search.tool .fixed), ("fold", Reshape.fold), ("grep", Search.tool .basic),
   ("head", Excerpt.head), ("ls", Directory.ls), ("mkdir", Directory.mkdir), ("mv", Directory.mv),
   ("nl", Count.nl), ("paste", Reshape.paste), ("printf", Print.printf), ("pwd", Directory.pwd),
   ("realpath", Directory.realpath), ("rev", Reshape.rev), ("rm", Directory.rm),
   ("rmdir", Directory.rmdir), ("sed", Edit.tool), ("seq", Count.seq),
   ("sleep", Print.sleep), ("sort", Order.sort),
   ("tac", Reshape.tac), ("tail", Excerpt.tail), ("tee", Reshape.tee), ("test", Print.test),
   ("touch", Directory.touch), ("tr", Characters.tr), ("true", Print.succeed),
   ("uname", Print.fact "Linux"), ("uniq", Order.uniq), ("wc", Count.wc),
   ("whoami", Print.fact "root"), ("yes", Reshape.yes)].map fun (name, tool) => (name.toList, tool)

def tool? (name : Text) : Option Tool :=
  (tools.find? (·.1 = name)).map Prod.snd

end Weave.Shell
