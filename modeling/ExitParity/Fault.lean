namespace ExitParity

/-- Why the operating system refused a request. -/
inductive Errno where
  | notPermitted
  | noEntry
  | noProcess
  | tooLong
  | badFormat
  | badDescriptor
  | denied
  | busy
  | exists_
  | notDirectory
  | isDirectory
  | invalid
  | tooLarge
  | noSpace
  | brokenPipe
  | nameTooLong
  | notEmpty
  | tooManyLinks
  deriving DecidableEq

namespace Errno

def code : Errno → Nat
  | .notPermitted => 1
  | .noEntry => 2
  | .noProcess => 3
  | .tooLong => 7
  | .badFormat => 8
  | .badDescriptor => 9
  | .denied => 13
  | .busy => 16
  | .exists_ => 17
  | .notDirectory => 20
  | .isDirectory => 21
  | .invalid => 22
  | .tooLarge => 27
  | .noSpace => 28
  | .brokenPipe => 32
  | .nameTooLong => 36
  | .notEmpty => 39
  | .tooManyLinks => 40

def text : Errno → String
  | .notPermitted => "Operation not permitted"
  | .noEntry => "No such file or directory"
  | .noProcess => "No such process"
  | .tooLong => "Argument list too long"
  | .badFormat => "Exec format error"
  | .badDescriptor => "Bad file descriptor"
  | .denied => "Permission denied"
  | .busy => "Device or resource busy"
  | .exists_ => "File exists"
  | .notDirectory => "Not a directory"
  | .isDirectory => "Is a directory"
  | .invalid => "Invalid argument"
  | .tooLarge => "File too large"
  | .noSpace => "No space left on device"
  | .brokenPipe => "Broken pipe"
  | .nameTooLong => "File name too long"
  | .notEmpty => "Directory not empty"
  | .tooManyLinks => "Too many levels of symbolic links"

end Errno

/-- Why a request to the system around the program failed. -/
inductive Fault where
  | system (errno : Errno)
  /-- A zero byte inside a text that the system ends at a zero byte. -/
  | nulByte
  | described (text : String)
  deriving DecidableEq

def Fault.message : Fault → String
  | .system errno => s!"{errno.text} (os error {errno.code})"
  | .nulByte => "nul byte found in provided data"
  | .described text => text

end ExitParity
