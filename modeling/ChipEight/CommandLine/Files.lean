import ChipEight.Record

/-!
# Files

Why a file cannot be read, and what a path finds in a directory whose files are known.
-/

namespace ChipEight.CommandLine

/-- Why a file could not be read. -/
inductive ReadError
  | notFound | permissionDenied | notADirectory | isADirectory | nameTooLong
  /-- Any other cause, by the number the system gives it. -/
  | other (code : Nat) (message : String)
  deriving DecidableEq

/-- The cause as the system names it. -/
def ReadError.record : ReadError → Record
  | notFound => describe 2 "NotFound" "No such file or directory"
  | permissionDenied => describe 13 "PermissionDenied" "Permission denied"
  | notADirectory => describe 20 "NotADirectory" "Not a directory"
  | isADirectory => describe 21 "IsADirectory" "Is a directory"
  | nameTooLong => describe 36 "InvalidFilename" "File name too long"
  | other code message => describe code "Uncategorized" message
where
  describe (code : Nat) (kind message : String) : Record :=
    ⟨"Os", [("code", toString code), ("kind", kind), ("message", "\"" ++ message ++ "\"")]⟩

/-- A directory that holds files and no directories. Nothing else is known to exist but the
directories above it. -/
structure Directory where
  files : List (String × List UInt8)
  deriving DecidableEq

namespace Directory

/-- The bytes that a name may have. -/
def nameLimit : Nat := 255

/-- The bytes that a path may have. -/
def pathLimit : Nat := 4095

/-- Follows the names of a path, one directory after the other, from the directory itself or from
somewhere above it. A file has to be the last of them, and a name that is too long is refused before
it is looked up. -/
def follow (d : Directory) : (inside : Bool) → (names : List String) → Except ReadError (List UInt8)
  | _, [] => .error .isADirectory
  | inside, name :: names =>
    if name = "" ∨ name = "." then d.follow inside names
    else if name = ".." then d.follow false names
    else if nameLimit < name.utf8ByteSize then .error .nameTooLong
    else
      match if inside then d.files.lookup name else none with
      | none => .error .notFound
      | some contents => if names = [] then .ok contents else .error .notADirectory

/-- Reads the file that a path leads to from the directory, or from the top if it starts with a
slash. -/
def read (d : Directory) (path : String) : Except ReadError (List UInt8) :=
  if path = "" then .error .notFound
  else if pathLimit < path.utf8ByteSize then .error .nameTooLong
  else d.follow (path.toList.head? ≠ some '/') (path.splitOn "/")

end Directory

end ChipEight.CommandLine
