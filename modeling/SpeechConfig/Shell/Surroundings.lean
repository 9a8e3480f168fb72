/-
# Surroundings

What a script finds around the files it is about: the directories of the system, its
programs and its devices.
-/
import SpeechConfig.Shell.Launch

namespace SpeechConfig.Shell

def systemDirectories : List Location :=
  [["usr"], ["bin", "usr"], ["sbin", "usr"], ["lib", "usr"], ["local", "usr"], ["bin", "local", "usr"],
    ["sbin", "local", "usr"], ["share", "usr"], ["etc"], ["dev"], ["fd", "dev"], ["proc"], ["root"],
    ["home"], ["var"], ["tmp", "var"], ["log", "var"], ["opt"], ["run"], ["srv"], ["mnt"], ["media"],
    ["boot"], ["sys"], ["tmp"]]

def systemLinks : List (Location × String) :=
  [(["bin"], "usr/bin"), (["sbin"], "usr/sbin"), (["lib"], "usr/lib"), (["sh", "bin", "usr"], "dash"),
    (["rbash", "bin", "usr"], "bash")]

def systemDevices : List String :=
  ["null", "zero", "full", "random", "urandom", "tty"]

/-- What programs look like to those who read them. -/
def programContent : ByteArray :=
  Octets.toBytes "\x7fELF\x02\x01\x01\x00"

def surroundings : List (Location × Node) :=
  systemDirectories.map (fun l => (l, Node.directory)) ++
  systemLinks.map (fun e => (e.1, Node.link ⟨e.2⟩)) ++
  systemDevices.map (fun name => ([name, "dev"], Node.file ByteArray.empty)) ++
  ("bash" :: "dash" :: tools.map Prod.fst).map fun name => (name :: systemPrograms, Node.file programContent)

/-- The files together with what stands around and is not among them: what was added, and
the files. -/
def surround (fs : FileSystem) : List (Location × Node) × FileSystem :=
  let added := surroundings.filter fun e => (fs.node? e.1).isNone
  (added, added.foldl (fun fs e => fs.put e.1 e.2) fs)

/-- The files without what was added and is as it was. -/
def bereave (added : List (Location × Node)) (fs : FileSystem) : FileSystem :=
  added.foldl (fun fs e => if fs.node? e.1 = some e.2 then fs.erase e.1 else fs) fs

end SpeechConfig.Shell
