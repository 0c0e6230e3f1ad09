/-!
# What goes wrong with files
-/

namespace AlbumCatalog

inductive FileError
  | notFound
  | permissionDenied
  | busy
  | alreadyExists
  | notADirectory
  | isADirectory
  | nameTooLong
  /-- A name holds the character with the number zero. -/
  | zeroInName
  /-- A file that should hold text holds other bytes. -/
  | notText
  /-- Any other error that the system reports, with its number. -/
  | system (reason : String) (number : Nat)

namespace FileError

/-- The text of an error that the system has a number for. -/
def numbered (reason : String) (number : Nat) : String :=
  reason ++ " (os error " ++ toString number ++ ")"

def message : FileError → String
  | notFound => numbered "No such file or directory" 2
  | permissionDenied => numbered "Permission denied" 13
  | busy => numbered "Device or resource busy" 16
  | alreadyExists => numbered "File exists" 17
  | notADirectory => numbered "Not a directory" 20
  | isADirectory => numbered "Is a directory" 21
  | nameTooLong => numbered "File name too long" 36
  | zeroInName => "file name contained an unexpected NUL byte"
  | notText => "stream did not contain valid UTF-8"
  | system reason number => numbered reason number

end FileError

end AlbumCatalog
