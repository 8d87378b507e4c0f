import ExitParity.Comparison
import ExitParity.Host

namespace ExitParity

/-- One prepared answer to a call, and whether giving it cancels the run. -/
structure Reply where
  answer : Call → Answer
  cancels : Bool

/-- Prepared answers for one kind of call: a list for every known path text,
and perhaps a list for all other paths. -/
structure ReplyTable where
  known : List (String × List Reply)
  other : Option (List Reply)

/-- Prepared answers for every kind of call. -/
structure Script where
  assemble : ReplyTable
  interpret : ReplyTable
  candidate : ReplyTable

namespace Call

def path : Call → Path
  | .assemble path | .interpret path | .runCandidate path => path

/-- The short name of the tool that answers a call. -/
def tool : Call → String
  | .assemble _ => "as"
  | .interpret _ => "lli"
  | .runCandidate _ => "candidate"

/-- The line that stands for a call in a log. -/
def logLine (call : Call) : String := s!"{call.tool} {call.path.display}"

end Call

namespace Script

def table (script : Script) : Call → ReplyTable
  | .assemble _ => script.assemble
  | .interpret _ => script.interpret
  | .runCandidate _ => script.candidate

/-- The replies prepared for a call, in the order they are given. -/
def replies (script : Script) (call : Call) : List Reply :=
  let table := script.table call
  match table.known.find? (·.1 == call.path.display) with
  | some (_, replies) => replies
  | none => table.other.getD []

/-- The answer to a call for which nothing is prepared. -/
def unscripted : Reply where
  answer call := .error (.launch call.tool call.path.display (.described "unscripted"))
  cancels := false

/-- The reply to a call after the logged ones. Equal calls use up the list one
by one, and its last reply is repeated. -/
def reply (script : Script) (log : List Call) (call : Call) : Reply :=
  let replies := script.replies call
  let earlier := log.countP (·.logLine == call.logLine)
  (replies[earlier]?.or replies.getLast?).getD unscripted

/-- The script as a runner whose state is the log of earlier calls. -/
def runner (script : Script) : Runner (List Call) := fun call log =>
  ((script.reply log call).answer call, log ++ [call])

/-- A call with the value that the version variable had at its time. -/
structure Logged where
  call : Call
  version : Option Bytes

/-- The script as a runner on a host, with a log of the calls. -/
def hostRunner (script : Script) : Runner (Host × List Logged) := fun call (host, log) =>
  let reply := script.reply (log.map (·.call)) call
  (reply.answer call, (if reply.cancels then host.cancel else host,
    log ++ [⟨call, host.env.get? versionVariable⟩]))

end Script
end ExitParity
