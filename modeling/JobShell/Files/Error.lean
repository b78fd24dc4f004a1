/-!
Why a request about a file fails, and how it is told.
-/

namespace JobShell

inductive FileError where
  | notFound
  | notDirectory
  | isDirectory
  | tooManyLinks
  | nameTooLong
  | alreadyExists
  | notEmpty
  | invalid
  | denied
  | notPermitted
  | busy
  | noSpace
  | brokenPipe
  | badDescriptor
  | noDevice
  | illegalSeek
  | badFormat
  | textBusy
  deriving DecidableEq, Repr

def FileError.message : FileError → String
  | notFound => "No such file or directory"
  | notDirectory => "Not a directory"
  | isDirectory => "Is a directory"
  | tooManyLinks => "Too many levels of symbolic links"
  | nameTooLong => "File name too long"
  | alreadyExists => "File exists"
  | notEmpty => "Directory not empty"
  | invalid => "Invalid argument"
  | denied => "Permission denied"
  | notPermitted => "Operation not permitted"
  | busy => "Device or resource busy"
  | noSpace => "No space left on device"
  | brokenPipe => "Broken pipe"
  | badDescriptor => "Bad file descriptor"
  | noDevice => "No such device or address"
  | illegalSeek => "Illegal seek"
  | badFormat => "Exec format error"
  | textBusy => "Text file busy"

end JobShell
