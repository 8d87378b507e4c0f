import ExitParity.Host.Applets.Blocks
import ExitParity.Host.Applets.Comparing
import ExitParity.Host.Applets.Copies
import ExitParity.Host.Applets.Counting
import ExitParity.Host.Applets.Digests
import ExitParity.Host.Applets.Dump
import ExitParity.Host.Applets.Editing
import ExitParity.Host.Applets.Encoding
import ExitParity.Host.Applets.Environment
import ExitParity.Host.Applets.Excerpts
import ExitParity.Host.Applets.Facts
import ExitParity.Host.Applets.Finding
import ExitParity.Host.Applets.Gathering
import ExitParity.Host.Applets.Lines
import ExitParity.Host.Applets.Listing
import ExitParity.Host.Applets.Modes
import ExitParity.Host.Applets.Numbers
import ExitParity.Host.Applets.Orders
import ExitParity.Host.Applets.Parts
import ExitParity.Host.Applets.Passing
import ExitParity.Host.Applets.Paths
import ExitParity.Host.Applets.Pipes
import ExitParity.Host.Applets.Printers
import ExitParity.Host.Applets.Reckoning
import ExitParity.Host.Applets.Removal
import ExitParity.Host.Applets.Scanning
import ExitParity.Host.Applets.Searching
import ExitParity.Host.Applets.Seeking
import ExitParity.Host.Applets.Sorting
import ExitParity.Host.Applets.Starters
import ExitParity.Host.Applets.Translation
import ExitParity.Shell.Program

namespace ExitParity.Launch

/-- What a program of the system other than a shell does, up to its exit code. -/
def deed (launch : Launcher) (program : Program) : Applet → Deed Nat
  | .shell | .extendedShell => return 1
  | .fail => do
    let _ ← program.answering (return 1)
    return 1
  | .succeed => program.answering (return 0)
  | .addLink => program.addLink
  | .basename => program.baseNames
  | .blockSum => program.blockSum
  | .changeMode => program.changeMode
  | .changeOwner => program.changeOwner
  | .checksum => program.checksum
  | .common => program.common
  | .compareBytes => program.compareBytes
  | .compareLines => program.compareLines
  | .concatenate => program.concatenate
  | .contractBlanks => program.contractBlanks
  | .copy => program.copy
  | .copyBlocks => program.copyBlocks
  | .cut => program.cut
  | .directoryName => program.directoryNames
  | .dropLink => program.dropLink
  | .dump => program.dump
  | .echo => program.echo
  | .edit => program.edit launch
  | .encode32 => program.encodeWith .of32
  | .encode64 => program.encodeWith .of64
  | .environment => program.withEnvironment launch
  | .evaluate => program.evaluate
  | .expandTabs => program.expandTabs
  | .factor => program.factor
  | .find => program.findFiles launch
  | .fingerprint => program.fingerprint
  | .fold => program.fold
  | .gather => program.gatherArguments launch
  | .grep => program.grep
  | .head => program.head
  | .identity => program.tellIdentity
  | .install => program.installFiles
  | .join => program.join
  | .kill => program.sendSignals
  | .link => program.link
  | .list => program.list
  | .listFacts => program.tellFacts
  | .listRooms => program.tellRooms
  | .login => program.tellLogin
  | .makeDirectory => program.makeDirectory
  | .makeNode => program.makeNode
  | .makePipes => program.makePipes
  | .makeTemporary => program.makeTemporary
  | .move => program.move
  | .numberLines => program.numberLines
  | .numberSequence => program.numberSequence
  | .paste => program.paste
  | .printEnvironment => program.printEnvironment
  | .printf => program.printFormatted
  | .rank => program.rank
  | .readLink => program.readLink
  | .realPath => program.realPath
  | .remove => program.remove
  | .removeDirectory => program.removeDirectory
  | .reverseLetters => program.reverseLetters
  | .reverseLines => program.reverseLines
  | .scan => program.scan launch
  | .seekPrograms => program.seekPrograms
  | .shuffle => program.shuffle
  | .sleep => program.sleep
  | .sort => program.sort
  | .split => program.split
  | .synchronize => program.synchronize
  | .tail => program.tail
  | .tee => program.tee
  | .tellDate => program.tellDate
  | .tellGroups => program.tellGroups
  | .tellHost => program.tellHost
  | .tellMachine => program.tellMachine
  | .tellProcessors => program.tellProcessors
  | .tellSystem => program.tellSystem
  | .tellTerminal => program.tellTerminal
  | .tellUser => program.tellUser
  | .tellVisitors => program.tellVisitors
  | .test => program.test
  | .timeLimit => program.limitTime launch
  | .touch => program.touch
  | .translate => program.translate
  | .truncate => program.truncate
  | .unique => program.unique
  | .withBuffering => program.withBuffering launch
  | .withoutHangup => program.withoutHangup launch
  | .withPriority => program.withPriority launch
  | .withSession => program.withSession launch
  | .wordCount => program.wordCount
  | .workingDirectory => program.workingDirectory
  | .yes => program.yes

/-- The exit code of a program whose output could not be written. -/
def faultCode : Applet → Nat
  | .edit => 4
  | .environment | .timeLimit | .withBuffering | .withoutHangup | .withPriority => 125
  | .compareBytes | .compareLines | .evaluate | .grep | .list | .printEnvironment | .scan | .sort => 2
  | _ => 1

/-- Run an image that was started by at most so many others before it. -/
def start : Nat → Launcher
  | 0, _, _ => .ended
  | depth + 1, image, program => Activity.thread do
    .rest startTime
    match image.applet with
    | .shell => .become fun () => Shell.run .core (start depth) program
    | .extendedShell => .become fun () => Shell.run .extended (start depth) program
    | applet => program.conclude (← deed (start depth) program applet) (faultCode applet)

/-- The number of programs that can have started one another. -/
def depthLimit : Nat := 1000000000

/-- Run an image as a program. -/
def image : Launcher := start depthLimit

end ExitParity.Launch
