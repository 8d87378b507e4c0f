import ExitParity.Host.Tree

namespace ExitParity

/-- The names of the system's own programs. -/
def Applet.names : List (String × Applet) := [
  ("[", .test), ("arch", .tellMachine), ("awk", .scan), ("base32", .encode32), ("base64", .encode64), ("basename", .basename), ("bash", .extendedShell),
  ("cat", .concatenate), ("chgrp", .changeOwner), ("chmod", .changeMode), ("chown", .changeOwner),
  ("cksum", .checksum), ("cmp", .compareBytes), ("comm", .common), ("cp", .copy), ("cut", .cut),
  ("dash", .shell), ("date", .tellDate), ("dd", .copyBlocks), ("diff", .compareLines), ("dir", .list),
  ("dirname", .directoryName), ("du", .listRooms), ("echo", .echo), ("egrep", .grep), ("env", .environment),
  ("expand", .expandTabs), ("expr", .evaluate), ("factor", .factor), ("false", .fail), ("fgrep", .grep), ("find", .find),
  ("fold", .fold), ("grep", .grep), ("groups", .tellGroups), ("head", .head), ("hostname", .tellHost), ("id", .identity),
  ("install", .install), ("join", .join), ("kill", .kill), ("link", .addLink), ("ln", .link),
  ("logname", .login), ("ls", .list), ("mawk", .scan), ("md5sum", .fingerprint), ("mkdir", .makeDirectory), ("mkfifo", .makePipes), ("mknod", .makeNode),
  ("mktemp", .makeTemporary), ("mv", .move), ("nawk", .scan), ("nice", .withPriority), ("nl", .numberLines),
  ("nohup", .withoutHangup), ("nproc", .tellProcessors), ("od", .dump), ("paste", .paste),
  ("printenv", .printEnvironment), ("printf", .printf), ("pwd", .workingDirectory), ("readlink", .readLink),
  ("realpath", .realPath), ("rev", .reverseLetters), ("rm", .remove), ("rmdir", .removeDirectory),
  ("sed", .edit), ("seq", .numberSequence), ("setsid", .withSession), ("sha1sum", .fingerprint),
  ("sha224sum", .fingerprint), ("sha256sum", .fingerprint), ("sha384sum", .fingerprint),
  ("sha512sum", .fingerprint), ("shuf", .shuffle), ("sleep", .sleep), ("sort", .sort), ("split", .split), ("stat", .listFacts),
  ("stdbuf", .withBuffering), ("sum", .blockSum), ("sync", .synchronize), ("tac", .reverseLines),
  ("tail", .tail), ("tee", .tee), ("test", .test), ("timeout", .timeLimit), ("touch", .touch),
  ("tr", .translate), ("true", .succeed), ("truncate", .truncate), ("tsort", .rank), ("tty", .tellTerminal),
  ("uname", .tellSystem), ("unexpand", .contractBlanks), ("uniq", .unique), ("unlink", .dropLink), ("users", .tellVisitors),
  ("vdir", .list), ("wc", .wordCount), ("which", .seekPrograms), ("who", .tellVisitors), ("whoami", .tellUser), ("xargs", .gather),
  ("yes", .yes)]

namespace FileTree

def programMode : Nat := 0o755

/-- The time at which all begins, in nanoseconds since the beginning of 1970. -/
def epoch : Nat := 1800000000 * 10 ^ 9

/-- Nothing but a root. -/
def rootOnly : FileTree := ⟨#[.directory newDirectoryMode root true []], #[epoch], epoch, root⟩

/-- Put a new node under a name, and tell its number. -/
def install (tree : FileTree) (directory : Nat) (name : String) (node : Node) : Nat × FileTree :=
  let (number, tree) := tree.grow node
  (number, tree.setEntry directory (utf8 name) (some number))

def installDirectory (tree : FileTree) (directory : Nat) (name : String) : Nat × FileTree :=
  tree.install directory name (.directory newDirectoryMode directory true [])

/-- Put nodes under names of one directory. -/
def installAll (tree : FileTree) (directory : Nat) (nodes : List (String × Node)) : FileTree :=
  nodes.foldl (fun tree (name, node) => (tree.install directory name node).2) tree

/-- A system with nothing but its own programs, and an empty working directory. -/
def bare : FileTree :=
  let (usr, tree) := rootOnly.installDirectory root "usr"
  let (programs, tree) := tree.installDirectory usr "bin"
  let tree := tree.installAll programs
    (("sh", .link (utf8 "dash")) :: Applet.names.map fun (name, applet) => (name, .file programMode (.applet applet)))
  let tree := tree.installAll root [("bin", .link (utf8 "usr/bin"))]
  let (devices, tree) := tree.installDirectory root "dev"
  let tree := tree.installAll devices [("null", .device .null), ("full", .device .full), ("zero", .device .zero)]
  let tree := ["etc", "home", "root", "var"].foldl (fun tree name => (tree.installDirectory root name).2) tree
  let (scratch, tree) := tree.installDirectory root "tmp"
  let (work, tree) := tree.installDirectory scratch "work"
  { tree with cwd := work }

end FileTree
end ExitParity
