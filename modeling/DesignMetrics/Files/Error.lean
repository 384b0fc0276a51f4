import DesignMetrics.Text.Quoted
import DesignMetrics.Text.Utf8

/-!
# Errors of file operations

What can be wrong with a path or with the bytes of a file, and how it is told.
-/

namespace DesignMetrics.Files

/-- Why the path of a file operation cannot be followed or used. -/
inductive Obstacle where
  | notPermitted
  | notFound
  | noDevice
  | accessDenied
  | alreadyExists
  | notDirectory
  | isDirectory
  | nameTooLong
  | tooManyLinks
deriving DecidableEq, Repr

namespace Obstacle

def number : Obstacle → Nat
  | .notPermitted => 1
  | .notFound => 2
  | .noDevice => 6
  | .accessDenied => 13
  | .alreadyExists => 17
  | .notDirectory => 20
  | .isDirectory => 21
  | .nameTooLong => 36
  | .tooManyLinks => 40

def text : Obstacle → String
  | .notPermitted => "Operation not permitted"
  | .notFound => "No such file or directory"
  | .noDevice => "No such device or address"
  | .accessDenied => "Permission denied"
  | .alreadyExists => "File exists"
  | .notDirectory => "Not a directory"
  | .isDirectory => "Is a directory"
  | .tooManyLinks => "Too many levels of symbolic links"
  | .nameTooLong => "File name too long"

end Obstacle

/-- Why a file operation is not possible. -/
inductive FileError where
  | blocked (obstacle : Obstacle) (path : String)
  /-- A link that cannot be made. -/
  | unlinked (obstacle : Obstacle) (target path : String)
  /-- A device that takes nothing. -/
  | noSpace
  /-- A path with a null character, which is refused before it is looked up. -/
  | nullInPath
deriving DecidableEq, Repr

/-- An obstacle with its number. -/
def Obstacle.describe (o : Obstacle) : String :=
  "[Errno " ++ Nat.repr o.number ++ "] " ++ o.text

def FileError.message : FileError → String
  | .blocked obstacle path => obstacle.describe ++ ": " ++ Text.quoted path
  | .unlinked obstacle target path =>
    obstacle.describe ++ ": " ++ Text.quoted target ++ " -> " ++ Text.quoted path
  | .noSpace => "[Errno 28] No space left on device"
  | .nullInPath => "embedded null byte"

end DesignMetrics.Files

namespace DesignMetrics.Text.Utf8

def Fault.text : Fault → String
  | .badStart => "invalid start byte"
  | .badContinuation => "invalid continuation byte"
  | .truncated => "unexpected end of data"

/-- Names one bad byte with its value, and several by their range. -/
def DecodeError.message (e : DecodeError) : String :=
  let place :=
    match e.bytes with
    | [b] => "byte 0x" ++ String.ofList (hexDigits 2 b.toNat) ++ " in position " ++ Nat.repr e.start
    | bs => "bytes in position " ++ Nat.repr e.start ++ "-" ++ Nat.repr (e.start + bs.length - 1)
  "'utf-8' codec can't decode " ++ place ++ ": " ++ e.fault.text

end DesignMetrics.Text.Utf8

namespace DesignMetrics.Files

/-- Why a text file cannot be read. -/
inductive ReadError where
  | file (e : FileError)
  | encoding (e : Text.Utf8.DecodeError)
deriving DecidableEq, Repr

def ReadError.message : ReadError → String
  | .file e => e.message
  | .encoding e => e.message

end DesignMetrics.Files
