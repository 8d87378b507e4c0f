import ExitParity.Failure
import ExitParity.Host
import ExitParity.Report.Encode

namespace ExitParity

namespace FileTree

/-- Store a file at the program's own request. -/
def store (tree : FileTree) (path : Path) (bytes : Bytes) : Except Fault FileTree :=
  if path.bytes.elem 0 then .error (.described "file name contained an unexpected NUL byte")
  else match tree.write path (.data bytes) with
    | .ok tree => .ok tree
    | .error errno => .error (.system errno)

end FileTree

/-- Store the machine readable report. The file is left alone when there is
no text to put into it. -/
def RunSummary.store (summary : RunSummary) (path : Path) (tree : FileTree) : Except Failure FileTree :=
  match summary.text? with
  | none => .error .unserializable
  | some text =>
    match tree.store path (utf8 text) with
    | .ok tree => .ok tree
    | .error cause => .error (.unwritable path cause)

/-- Store the machine readable report, or hand it to those who read the pipe
that the path leads to. -/
def RunSummary.send (summary : RunSummary) (path : Path) (host : Host) : Except Failure Host :=
  match summary.store path host.tree with
  | .error failure => .error failure
  | .ok tree =>
    let stored := { host with tree }
    match tree.node path with
    | .ok (.pipe _ pipe) =>
      match stored.feed pipe ((summary.text?.map utf8).getD []) with
      | .ok host => .ok host
      | .error errno => .error (.unwritable path (.system errno))
    | _ => .ok stored

theorem RunSummary.send_keeps {summary : RunSummary} {path : Path} {host after : Host}
    (sent : summary.send path host = .ok after) : after.token = host.token ∧ host.clock ≤ after.clock := by
  unfold send at sent
  split at sent
  · cases sent
  · simp only at sent
    split at sent
    · split at sent
      · next fed =>
        obtain rfl := Except.ok.inj sent
        have kept := Host.feed_keeps fed
        exact kept
      · cases sent
    · obtain rfl := Except.ok.inj sent
      exact ⟨rfl, Nat.le_refl _⟩

end ExitParity
