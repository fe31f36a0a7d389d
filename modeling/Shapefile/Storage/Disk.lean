import Shapefile.Binary.ByteOrder
import Shapefile.Storage.Error
import Shapefile.Storage.Path

/-!
A tree of directories and files. Directories give names to files, and a file keeps its identity when
its name changes: whoever has it open goes on with the same content. Creating a file over an
existing one empties that file.
-/

namespace Shapefile

/-- The identity of a file. -/
abbrev FileId := Nat

/-- What a name stands for. -/
inductive Node where
  | directory
  | file (id : FileId)
deriving DecidableEq, Repr

structure Disk where
  /-- Everything that has a name, by its names from the root. -/
  entries : List (List String × Node) := []
  /-- The content of every file that was ever created. -/
  contents : Array Bytes := #[]
deriving DecidableEq, Repr

/-- Content with these bytes at a position; a gap before them is filled with zeros. -/
def Bytes.overlay (content : Bytes) (position : Nat) (bytes : Bytes) : Bytes :=
  content.extract 0 position ++ Array.replicate (position - content.size) 0 ++ bytes ++
    content.extract (position + bytes.size) content.size

namespace Disk

/-! ### Names -/

def node? (d : Disk) (names : List String) : Option Node :=
  if names.isEmpty then some .directory
  else (d.entries.find? fun entry => entry.1 = names).map Prod.snd

/-- Greatest size of a name in bytes. -/
def greatestName : Nat := 255

/-- Follow components from a folder; every name but the last must be that of a directory. -/
def walk (d : Disk) (names : List String) : List String → Except StorageError (List String)
  | [] => .ok names
  | component :: rest =>
    match d.node? names with
    | none => .error .notFound
    | some (.file _) => .error .notDirectory
    | some .directory =>
      if Path.isStay component then d.walk names rest
      else if component = ".." then d.walk names.dropLast rest
      else if greatestName < component.utf8ByteSize then .error .nameTooLong
      else d.walk (names ++ [component]) rest

/-- The names that a path stands for, whether or not something has them. -/
def locate (d : Disk) (p : Path) : Except StorageError (List String) :=
  if p.text.isEmpty then .error .notFound
  else if p.text.toList.contains '\x00' then .error .nulInPath
  else d.walk [] p.components

def isFile (d : Disk) (p : Path) : Bool :=
  match d.locate p with
  | .ok names =>
    match d.node? names with
    | some (.file _) => true
    | _ => false
  | .error _ => false

/-- The file at a path. -/
def find (d : Disk) (p : Path) : Except StorageError FileId := do
  let names ← d.locate p
  match d.node? names with
  | none => .error .notFound
  | some .directory => .error .isDirectory
  | some (.file id) => .ok id

/-- The names of the entries of a directory. -/
def namesIn (d : Disk) (p : Path) : Except StorageError (List String) := do
  let names ← d.locate p
  match d.node? names with
  | none => .error .notFound
  | some (.file _) => .error .notDirectory
  | some .directory =>
    return d.entries.filterMap fun entry =>
      if entry.1.dropLast = names then entry.1.getLast? else none

/-! ### Contents -/

def content (d : Disk) (id : FileId) : Bytes := d.contents[id]?.getD #[]

def setContent (d : Disk) (id : FileId) (bytes : Bytes) : Disk :=
  { d with contents := d.contents.modify id fun _ => bytes }

/-- Write bytes into a file at a position. -/
def write (d : Disk) (id : FileId) (position : Nat) (bytes : Bytes) : Disk :=
  d.setContent id ((d.content id).overlay position bytes)

def read (d : Disk) (p : Path) : Except StorageError Bytes := do
  return d.content (← d.find p)

/-- An empty file at a path: a new one, or the existing one emptied. With a slash at its end the
path asks for a directory, whether or not something has that name. -/
def create (d : Disk) (p : Path) : Except StorageError (FileId × Disk) := do
  let names ← d.locate p.withoutSlashes
  if p.withoutSlashes ≠ p then
    .error .isDirectory
  match d.node? names with
  | some .directory => .error .isDirectory
  | some (.file id) => .ok (id, d.setContent id #[])
  | none =>
    match d.node? names.dropLast with
    | some .directory =>
      let id := d.contents.size
      .ok (id, { entries := d.entries ++ [(names, .file id)], contents := d.contents.push #[] })
    | some (.file _) => .error .notDirectory
    | none => .error .notFound

/-- A file with this content at a path. -/
def save (d : Disk) (p : Path) (bytes : Bytes) : Except StorageError Disk := do
  let (id, d) ← d.create p
  return d.setContent id bytes

/-! ### Management -/

/-- A directory at a path, and the directories above it. -/
def makeDirectory (d : Disk) (p : Path) : Except StorageError Disk := do
  let step (state : Disk × List String) (component : String) :
      Except StorageError (Disk × List String) := do
    let (d, names) := state
    if Path.isStay component then return state
    else if component = ".." then return (d, names.dropLast)
    else
      let names := names ++ [component]
      match d.node? names with
      | some .directory => return (d, names)
      | some (.file _) => .error .notDirectory
      | none => return ({ d with entries := d.entries ++ [(names, .directory)] }, names)
  let (d, _) ← p.components.foldlM step (d, [])
  return d

/-- Take the name of a file away. -/
def remove (d : Disk) (p : Path) : Except StorageError Disk := do
  let _ ← d.find p
  let names ← d.locate p
  return { d with entries := d.entries.filter fun entry => entry.1 ≠ names }

/-- Give a file or a directory, with all below it, another name. -/
def rename (d : Disk) (source target : Path) : Except StorageError Disk := do
  let old ← d.locate source
  let new ← d.locate target
  match d.node? old, d.node? new with
  | none, _ => .error .notFound
  | some (.file _), some .directory => .error .isDirectory
  | some _, _ =>
    let kept := if old = new then d.entries else d.entries.filter fun entry => entry.1 ≠ new
    let moved := kept.map fun (names, node) =>
      (if old.isPrefixOf names then new ++ names.drop old.length else names, node)
    return { d with entries := moved }

/-- Copy the content of one file to another. The target is created first, so a file copied onto
itself ends up empty. -/
def copy (d : Disk) (source target : Path) : Except StorageError Disk := do
  let old ← d.find source
  let (new, d) ← d.create target
  return d.setContent new (d.content old)

/-- Overwrite bytes of a file; no bytes change nothing, wherever they would go. -/
def patch (d : Disk) (p : Path) (position : Nat) (bytes : Bytes) : Except StorageError Disk := do
  let id ← d.find p
  return if bytes.isEmpty then d else d.write id position bytes

/-- Cut a file to a size; a smaller one stays as it is. -/
def truncate (d : Disk) (p : Path) (size : Nat) : Except StorageError Disk := do
  let id ← d.find p
  return d.setContent id ((d.content id).extract 0 size)

/-- Everything on the disk in the order of the names, with sizes; directories end in a slash. -/
def listing (d : Disk) : List (String × Nat) :=
  let line (entry : List String × Node) : String × Nat :=
    let name := "/".intercalate entry.1
    match entry.2 with
    | .directory => (name ++ "/", 0)
    | .file id => (name, (d.content id).size)
  (d.entries.map line).mergeSort fun a b => a.1 ≤ b.1

end Disk

/-- A file open for writing, and where the next bytes go. -/
structure OpenFile where
  id : FileId
  position : Nat := 0
deriving DecidableEq, Repr

namespace OpenFile

/-- Write one chunk after the other. -/
def append (f : OpenFile) (disk : Disk) (chunks : Array Bytes) : OpenFile × Disk :=
  chunks.foldl
    (fun (f, disk) chunk =>
      ({ f with position := f.position + chunk.size }, disk.write f.id f.position chunk))
    (f, disk)

end OpenFile

end Shapefile
