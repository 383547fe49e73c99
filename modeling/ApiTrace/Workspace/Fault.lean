/-!
# Faults of file access

Why a file could not be read, written, created or removed.
-/

namespace ApiTrace

/-- The reason why an access to a file or directory failed. -/
inductive FileFault where
  /-- Nothing has this path. -/
  | missing
  /-- The path goes through something that is not a directory. -/
  | notDirectory
  /-- A directory stands where a file is needed. -/
  | isDirectory
  /-- Something stands where a directory is to be created. -/
  | occupied
  /-- The path stands for a directory that cannot be replaced. -/
  | busy
  /-- The path or one of its names has too many bytes. -/
  | tooLong
  /-- The path has a zero byte. -/
  | zeroByte
  /-- Nothing can be moved onto the path. -/
  | invalid
  /-- The bytes are not UTF-8 text. -/
  | notText
  deriving DecidableEq, Repr

/-- The wording of a fault. -/
def FileFault.message : FileFault → String
  | .missing => "No such file or directory (os error 2)"
  | .notDirectory => "Not a directory (os error 20)"
  | .isDirectory => "Is a directory (os error 21)"
  | .occupied => "File exists (os error 17)"
  | .busy => "Device or resource busy (os error 16)"
  | .tooLong => "File name too long (os error 36)"
  | .zeroByte => "file name contained an unexpected NUL byte"
  | .invalid => "Invalid argument (os error 22)"
  | .notText => "stream did not contain valid UTF-8"

end ApiTrace
