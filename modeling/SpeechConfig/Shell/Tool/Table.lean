/-
# The tools by name

The tools that a script finds.  Those that tell about the machine, or set priorities and
owners, are left out: the work of a compiler script is on texts and files.
-/
import SpeechConfig.Shell.Tool.Awk.Run
import SpeechConfig.Shell.Tool.Checksum
import SpeechConfig.Shell.Tool.Columns
import SpeechConfig.Shell.Tool.Compare
import SpeechConfig.Shell.Tool.Edit
import SpeechConfig.Shell.Tool.Files
import SpeechConfig.Shell.Tool.Find
import SpeechConfig.Shell.Tool.List
import SpeechConfig.Shell.Tool.Plain
import SpeechConfig.Shell.Tool.Search
import SpeechConfig.Shell.Tool.Show
import SpeechConfig.Shell.Tool.Sort
import SpeechConfig.Shell.Tool.Sum

namespace SpeechConfig.Shell

/-- Tools that write, or work something out. -/
def plainTools : List (String × Tool) :=
  [("true", fun _ _ => return 0), ("false", fun _ _ => return 1), ("echo", Tool.echo),
    ("printf", Tool.printf), ("yes", Tool.yes), ("seq", Tool.seq), ("[", Tool.test "["),
    ("test", Tool.test "test"), ("expr", Tool.expr), ("pwd", Tool.pwd), ("basename", Tool.basename),
    ("dirname", Tool.dirname), ("sleep", Tool.sleep), ("date", Tool.date), ("id", Tool.id),
    ("whoami", fun _ _ => Tool.say "whoami" "root\n")]

/-- Tools that start other programs, or tell about them. -/
def launchers : List (String × Tool) :=
  [("env", Tool.env), ("printenv", Tool.printenv), ("timeout", Tool.timeout),
    ("xargs", Tool.xargs), ("find", Tool.find), ("which", Tool.which)]

/-- Tools that read texts and write others. -/
def textTools : List (String × Tool) :=
  [("cat", Tool.cat), ("tac", Tool.tac), ("rev", Tool.rev), ("tee", Tool.tee),
    ("head", Tool.part "head" false), ("tail", Tool.part "tail" true), ("wc", Tool.wc), ("nl", Tool.nl),
    ("fold", Tool.fold), ("expand", Tool.expand), ("unexpand", Tool.unexpand), ("od", Tool.od),
    ("cut", Tool.cut), ("paste", Tool.paste), ("comm", Tool.comm), ("uniq", Tool.uniq),
    ("join", Tool.join), ("split", Tool.split), ("tr", Tool.tr), ("sort", Tool.sort), ("cmp", Tool.cmp),
    ("diff", Tool.diff), ("cksum", Tool.cksum), ("md5sum", Tool.digestTool "md5sum" Tool.md5),
    ("sha256sum", Tool.digestTool "sha256sum" Tool.sha256), ("awk", Tool.awk), ("mawk", Tool.awk),
    ("sed", Tool.sed), ("grep", Tool.grep []), ("egrep", Tool.grep ["-E"]), ("fgrep", Tool.grep ["-F"]),
    ("base64", Tool.encodingTool "base64" Tool.sixtyFour),
    ("base32", Tool.encodingTool "base32" Tool.thirtyTwo)]

/-- Tools that work with files as a whole. -/
def fileTools : List (String × Tool) :=
  [("mkdir", Tool.mkdir), ("touch", Tool.touch), ("ln", Tool.ln), ("rm", Tool.rm), ("rmdir", Tool.rmdir),
    ("unlink", Tool.unlink), ("cp", Tool.cp), ("mv", Tool.mv), ("install", Tool.install),
    ("chmod", Tool.chmod), ("truncate", Tool.truncate), ("mktemp", Tool.mktemp), ("dd", Tool.dd),
    ("readlink", Tool.readlink), ("realpath", Tool.realpath), ("ls", Tool.ls), ("stat", Tool.stat)]

def tools : List (String × Tool) :=
  plainTools ++ launchers ++ textTools ++ fileTools

end SpeechConfig.Shell
