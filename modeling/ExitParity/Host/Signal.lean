import ExitParity.Bytes

namespace ExitParity.Signal

def hangup : Nat := 1
def interrupt : Nat := 2
def quit : Nat := 3
def kill : Nat := 9
def brokenPipe : Nat := 13
def alarm : Nat := 14
def terminate : Nat := 15
def continue_ : Nat := 18
def stop : Nat := 19
def processorTime : Nat := 24
def fileTooLarge : Nat := 25

/-- The highest signal number. -/
def last : Nat := 64

/-- The signals that nobody notices by default. -/
def harmless : List Nat := [17, 18, 23, 28]

/-- The signals that stop a process by default. -/
def stopping : List Nat := [19, 20, 21, 22]

/-- The signals with names of their own, in the order of their numbers. -/
def names : List (Nat × String) := [
  (1, "HUP"), (2, "INT"), (3, "QUIT"), (4, "ILL"), (5, "TRAP"), (6, "ABRT"), (7, "BUS"), (8, "FPE"), (9, "KILL"),
  (10, "USR1"), (11, "SEGV"), (12, "USR2"), (13, "PIPE"), (14, "ALRM"), (15, "TERM"), (17, "CHLD"),
  (18, "CONT"), (19, "STOP"), (20, "TSTP"), (21, "TTIN"), (22, "TTOU"), (23, "URG"), (24, "XCPU"), (25, "XFSZ"),
  (26, "VTALRM"), (27, "PROF"), (28, "WINCH"), (29, "IO"), (30, "PWR"), (31, "SYS")]

/-- The name of a signal, those for real-time use counted from both ends. -/
def name (number : Nat) : String :=
  match names.find? (·.1 == number) with
  | some (_, name) => name
  | none =>
    if number == 0 then "EXIT"
    else if number == 34 then "RTMIN"
    else if number == 64 then "RTMAX"
    else if 34 < number && number ≤ 49 then s!"RTMIN+{number - 34}"
    else if 49 < number && number < 64 then s!"RTMAX-{64 - number}"
    else toString number

/-- The number that a name stands for, in capital or small letters. -/
def ofName? (text : String) : Option Nat :=
  let capital := String.ofList (text.toList.map Char.toUpper)
  (List.range (last + 1)).find? fun number => name number == capital

/-- What is printed when a process was ended by a signal. -/
def description (number : Nat) : String :=
  match number with
  | 1 => "Hangup"
  | 2 => "Interrupt"
  | 3 => "Quit"
  | 4 => "Illegal instruction"
  | 5 => "Trace/breakpoint trap"
  | 6 => "Aborted"
  | 7 => "Bus error"
  | 8 => "Floating point exception"
  | 9 => "Killed"
  | 10 => "User defined signal 1"
  | 11 => "Segmentation fault"
  | 12 => "User defined signal 2"
  | 13 => "Broken pipe"
  | 14 => "Alarm clock"
  | 15 => "Terminated"
  | 16 => "Stack fault"
  | 17 => "Child exited"
  | 18 => "Continued"
  | 19 => "Stopped (signal)"
  | 20 => "Stopped"
  | 21 => "Stopped (tty input)"
  | 22 => "Stopped (tty output)"
  | 23 => "Urgent I/O condition"
  | 24 => "CPU time limit exceeded"
  | 25 => "File size limit exceeded"
  | 26 => "Virtual timer expired"
  | 27 => "Profiling timer expired"
  | 28 => "Window changed"
  | 29 => "I/O possible"
  | 30 => "Power failure"
  | 31 => "Bad system call"
  | _ => if 34 ≤ number && number ≤ last then s!"Real-time signal {number - 34}" else s!"Unknown signal {number}"

end ExitParity.Signal
