/-!
# Faults

Why a host cannot do what it is asked for. Every fault has a short code and a
wording.
-/

namespace CameraFleet
namespace Host

/-- Why something cannot be done. -/
inductive Fault
  /-- There is no such file. -/
  | missing
  /-- A file may not be used in this way. -/
  | denied
  /-- There is such a file already. -/
  | occupied
  /-- A name on the way does not belong to a directory. -/
  | notDirectory
  /-- A directory stands where a file is needed. -/
  | isDirectory
  /-- A directory is not empty. -/
  | notEmpty
  /-- A name, or a whole path, is too long. -/
  | nameTooLong
  /-- Links lead to links without end. -/
  | endlessLinks
  /-- There is no such descriptor, or it does not serve this purpose. -/
  | badDescriptor
  /-- Nobody reads what is written. -/
  | brokenPipe
  /-- There is no room left. -/
  | noSpace
  /-- There is no device behind a file. -/
  | noDevice
  /-- There is no such process. -/
  | noProcess
  /-- An argument makes no sense. -/
  | invalid
  /-- The arguments of a program are too long. -/
  | tooMuch
  /-- A signal came in between. -/
  | interrupted
  /-- Only others may do this. -/
  | notPermitted
  deriving Repr, DecidableEq

namespace Fault

/-- The code of a fault. -/
def code : Fault -> String
  | .missing => "ENOENT"
  | .denied => "EACCES"
  | .occupied => "EEXIST"
  | .notDirectory => "ENOTDIR"
  | .isDirectory => "EISDIR"
  | .notEmpty => "ENOTEMPTY"
  | .nameTooLong => "ENAMETOOLONG"
  | .endlessLinks => "ELOOP"
  | .badDescriptor => "EBADF"
  | .brokenPipe => "EPIPE"
  | .noSpace => "ENOSPC"
  | .noDevice => "ENXIO"
  | .noProcess => "ESRCH"
  | .invalid => "EINVAL"
  | .tooMuch => "E2BIG"
  | .interrupted => "EINTR"
  | .notPermitted => "EPERM"

/-- The wording of a fault. -/
def text : Fault -> String
  | .missing => "No such file or directory"
  | .denied => "Permission denied"
  | .occupied => "File exists"
  | .notDirectory => "Not a directory"
  | .isDirectory => "Is a directory"
  | .notEmpty => "Directory not empty"
  | .nameTooLong => "File name too long"
  | .endlessLinks => "Too many levels of symbolic links"
  | .badDescriptor => "Bad file descriptor"
  | .brokenPipe => "Broken pipe"
  | .noSpace => "No space left on device"
  | .noDevice => "No such device or address"
  | .noProcess => "No such process"
  | .invalid => "Invalid argument"
  | .tooMuch => "Argument list too long"
  | .interrupted => "Interrupted system call"
  | .notPermitted => "Operation not permitted"

end Fault
end Host
end CameraFleet
