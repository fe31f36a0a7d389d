/-!
Why a file could not be opened, read or written. Errors of the formats embed these, so each format
says once how a storage error becomes one of its own.
-/

namespace Shapefile

/-- A failure of the storage beneath a format. -/
inductive StorageError where
  /-- No such file or directory. -/
  | notFound
  /-- A directory stands where a file was wanted. -/
  | isDirectory
  /-- A file stands where a directory was wanted. -/
  | notDirectory
  /-- A component of a path is longer than names can be. -/
  | nameTooLong
  /-- A path holds the character NUL. -/
  | nulInPath
  /-- The bytes `position ..< position + length` are not all inside a channel of `size` bytes. -/
  | pastEnd (position length size : Nat)
  /-- The channel lost bytes after its size was taken. -/
  | truncated
deriving DecidableEq, Repr

namespace StorageError

def message : StorageError → String
  | notFound => "os NotFound"
  | isDirectory => "os IsADirectory"
  | notDirectory => "os NotADirectory"
  | nameTooLong => "os InvalidFilename"
  | nulInPath => "file name contained an unexpected NUL byte"
  | pastEnd position length size =>
    "cannot read " ++ toString length ++ " bytes at offset " ++ toString position ++
      ": the file is " ++ toString size ++ " bytes long"
  | truncated => "failed to fill whole buffer"

end StorageError

/-- Error types that can carry a storage error. -/
class OfStorage (ε : Type) where
  ofStorage : StorageError → ε

instance : OfStorage StorageError where
  ofStorage := id

end Shapefile
