/-!
Why the system refuses an operation.
-/

namespace LinkBench

inductive IoError
  | notFound
  | argumentsTooLong
  | execFormat
  | badDescriptor
  | permissionDenied
  | busy
  | alreadyExists
  | notADirectory
  | isADirectory
  | invalidArgument
  | noSpace
  | brokenPipe
  | nameTooLong
  | directoryNotEmpty
  | tooManyLinks
  /-- Any other reason, in its own words. -/
  | other (text : String)
  deriving DecidableEq, Repr

namespace IoError

/-- The reason in words. -/
def reason : IoError → String
  | .notFound => "No such file or directory"
  | .argumentsTooLong => "Argument list too long"
  | .execFormat => "Exec format error"
  | .badDescriptor => "Bad file descriptor"
  | .permissionDenied => "Permission denied"
  | .busy => "Device or resource busy"
  | .alreadyExists => "File exists"
  | .notADirectory => "Not a directory"
  | .isADirectory => "Is a directory"
  | .invalidArgument => "Invalid argument"
  | .noSpace => "No space left on device"
  | .brokenPipe => "Broken pipe"
  | .nameTooLong => "File name too long"
  | .directoryNotEmpty => "Directory not empty"
  | .tooManyLinks => "Too many levels of symbolic links"
  | .other text => text

/-- The number of the error, for those that have one. -/
def number? : IoError → Option Nat
  | .notFound => some 2
  | .argumentsTooLong => some 7
  | .execFormat => some 8
  | .badDescriptor => some 9
  | .permissionDenied => some 13
  | .busy => some 16
  | .alreadyExists => some 17
  | .notADirectory => some 20
  | .isADirectory => some 21
  | .invalidArgument => some 22
  | .noSpace => some 28
  | .brokenPipe => some 32
  | .nameTooLong => some 36
  | .directoryNotEmpty => some 39
  | .tooManyLinks => some 40
  | .other _ => none

def message (e : IoError) : String :=
  match e.number? with
  | some n => s!"{e.reason} (os error {n})"
  | none => e.reason

/-- A path cannot be handed over to the system if it holds a NUL. -/
def nulInName : IoError := .other "file name contained an unexpected NUL byte"

end IoError

end LinkBench
