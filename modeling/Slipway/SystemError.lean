/-!
# Errors of the operating system

What a file operation or the start of a process can fail with.
-/

namespace Slipway

inductive ErrorKind
  | notFound
  | permissionDenied
  | alreadyExists
  | invalidInput
  | invalidData
  | brokenPipe
  | unexpectedEnd
  | interrupted
  | timedOut
  | wouldBlock
  | writeZero
  | other
  deriving DecidableEq

def ErrorKind.message : ErrorKind → String
  | .notFound => "entity not found"
  | .permissionDenied => "permission denied"
  | .alreadyExists => "entity already exists"
  | .invalidInput => "invalid input parameter"
  | .invalidData => "invalid data"
  | .brokenPipe => "broken pipe"
  | .unexpectedEnd => "unexpected end of file"
  | .interrupted => "operation interrupted"
  | .timedOut => "timed out"
  | .wouldBlock => "operation would block"
  | .writeZero => "write zero"
  | .other => "other error"

/-- An error is known by its number, by its kind alone, or by its kind and a text of its own. -/
inductive SystemError
  | numbered (number : Int)
  | plain (kind : ErrorKind)
  | described (kind : ErrorKind) (text : String)
  deriving DecidableEq

namespace SystemError

/-! ## The numbers that occur -/

abbrev notPermitted : SystemError := .numbered 1
abbrev noEntry : SystemError := .numbered 2
abbrev noDevice : SystemError := .numbered 6
abbrev argumentsTooLong : SystemError := .numbered 7
abbrev badExecutable : SystemError := .numbered 8
abbrev noAccess : SystemError := .numbered 13
abbrev busy : SystemError := .numbered 16
abbrev alreadyThere : SystemError := .numbered 17
abbrev notDirectory : SystemError := .numbered 20
abbrev isDirectory : SystemError := .numbered 21
abbrev invalidArgument : SystemError := .numbered 22
abbrev textBusy : SystemError := .numbered 26
abbrev fileTooLarge : SystemError := .numbered 27
abbrev noSpace : SystemError := .numbered 28
abbrev nameTooLong : SystemError := .numbered 36
abbrev notEmpty : SystemError := .numbered 39
abbrev tooManyLinks : SystemError := .numbered 40

/-- The names of the numbers, in their order from 1. -/
def texts : List String := [
  "Operation not permitted", "No such file or directory", "No such process",
  "Interrupted system call", "Input/output error", "No such device or address",
  "Argument list too long", "Exec format error", "Bad file descriptor", "No child processes",
  "Resource temporarily unavailable", "Cannot allocate memory", "Permission denied", "Bad address",
  "Block device required", "Device or resource busy", "File exists", "Invalid cross-device link",
  "No such device", "Not a directory", "Is a directory", "Invalid argument",
  "Too many open files in system", "Too many open files", "Inappropriate ioctl for device",
  "Text file busy", "File too large", "No space left on device", "Illegal seek",
  "Read-only file system", "Too many links", "Broken pipe", "Numerical argument out of domain",
  "Numerical result out of range", "Resource deadlock avoided", "File name too long",
  "No locks available", "Function not implemented", "Directory not empty",
  "Too many levels of symbolic links", "Unknown error 41", "No message of desired type",
  "Identifier removed", "Channel number out of range", "Level 2 not synchronized",
  "Level 3 halted", "Level 3 reset", "Link number out of range", "Protocol driver not attached",
  "No CSI structure available", "Level 2 halted", "Invalid exchange", "Invalid request descriptor",
  "Exchange full", "No anode", "Invalid request code", "Invalid slot", "Unknown error 58",
  "Bad font file format", "Device not a stream", "No data available", "Timer expired",
  "Out of streams resources", "Machine is not on the network", "Package not installed",
  "Object is remote", "Link has been severed", "Advertise error", "Srmount error",
  "Communication error on send", "Protocol error", "Multihop attempted", "RFS specific error",
  "Bad message", "Value too large for defined data type", "Name not unique on network",
  "File descriptor in bad state", "Remote address changed",
  "Can not access a needed shared library", "Accessing a corrupted shared library",
  ".lib section in a.out corrupted", "Attempting to link in too many shared libraries",
  "Cannot exec a shared library directly", "Invalid or incomplete multibyte or wide character",
  "Interrupted system call should be restarted", "Streams pipe error", "Too many users",
  "Socket operation on non-socket", "Destination address required", "Message too long",
  "Protocol wrong type for socket", "Protocol not available", "Protocol not supported",
  "Socket type not supported", "Operation not supported", "Protocol family not supported",
  "Address family not supported by protocol", "Address already in use",
  "Cannot assign requested address", "Network is down", "Network is unreachable",
  "Network dropped connection on reset", "Software caused connection abort",
  "Connection reset by peer", "No buffer space available",
  "Transport endpoint is already connected", "Transport endpoint is not connected",
  "Cannot send after transport endpoint shutdown", "Too many references: cannot splice",
  "Connection timed out", "Connection refused", "Host is down", "No route to host",
  "Operation already in progress", "Operation now in progress", "Stale file handle",
  "Structure needs cleaning", "Not a XENIX named type file", "No XENIX semaphores available",
  "Is a named type file", "Remote I/O error", "Disk quota exceeded", "No medium found",
  "Wrong medium type", "Operation canceled", "Required key not available", "Key has expired",
  "Key has been revoked", "Key was rejected by service", "Owner died", "State not recoverable",
  "Operation not possible due to RF-kill", "Memory page has hardware error"]

def textOfNumber (number : Int) : String :=
  let unknown := "Unknown error " ++ toString number
  match number with
  | .ofNat 0 => "Success"
  | .ofNat (n + 1) => texts.getD n unknown
  | .negSucc _ => unknown

def message : SystemError → String
  | .numbered n => textOfNumber n ++ " (os error " ++ toString n ++ ")"
  | .plain kind => kind.message
  | .described _ text => text

/-- The kind of an error; only the kinds that decisions hang on are told apart by number. -/
def kind : SystemError → ErrorKind
  | .numbered 2 => .notFound
  | .numbered 17 => .alreadyExists
  | .numbered 13 => .permissionDenied
  | .numbered 1 => .permissionDenied
  | .numbered _ => .other
  | .plain kind => kind
  | .described kind _ => kind

/-- A path that holds a NUL names no file. -/
def nulInPath : SystemError :=
  .described .invalidInput "file name contained an unexpected NUL byte"

/-- A program or an argument that holds a NUL cannot be handed over. -/
def nulInArgument : SystemError :=
  .described .invalidInput "nul byte found in provided data"

def invalidText : SystemError :=
  .described .invalidData "stream did not contain valid UTF-8"

end SystemError

end Slipway
