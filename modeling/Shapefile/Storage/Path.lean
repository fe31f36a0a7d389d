/-!
Paths as text with slashes between components. The extension of a file name is what follows its last
point, unless that point is the first character; the stem is what precedes it.
-/

namespace Shapefile

/-- A path in the form in which it was given. -/
structure Path where
  text : String
deriving DecidableEq, Repr, Inhabited

namespace Path

/-- The parts of a text between slashes. -/
def splitSlashes : List Char → List (List Char)
  | [] => [[]]
  | c :: rest =>
    if c = '/' then [] :: splitSlashes rest
    else
      match splitSlashes rest with
      | [] => [[c]]
      | first :: more => (c :: first) :: more

/-- The components of a path, with empty ones and points that stand for the same folder. -/
def components (p : Path) : List String := (splitSlashes p.text.toList).map String.ofList

/-- A component that stays in its folder. -/
def isStay (component : String) : Bool := component = "" || component = "."

/-- The components without trailing ones that stay in their folder. -/
def body (p : Path) : List String := (p.components.reverse.dropWhile isStay).reverse

/-- The last component, unless it leads out of its folder. -/
def fileName? (p : Path) : Option String :=
  p.body.getLast?.bind fun name => if name = ".." then none else some name

/-- Stem and extension of a file name. -/
def splitName (name : String) : String × Option String :=
  let reversed := name.toList.reverse
  let extension := reversed.takeWhile (· != '.')
  match reversed.dropWhile (· != '.') with
  | '.' :: c :: stem =>
    (String.ofList (c :: stem).reverse, some (String.ofList extension.reverse))
  | _ => (name, none)

def stem? (p : Path) : Option String := p.fileName?.map fun name => (splitName name).1

def extension? (p : Path) : Option String := p.fileName?.bind fun name => (splitName name).2

/-- The path with another extension, or with one where there was none. A path without a file name
stays as it is. A name such as `..x` leaves two points when its extension is taken off; these lead
out of the folder and take no other extension. -/
def withExtension (p : Path) (extension : String) : Path :=
  match p.stem? with
  | none => p
  | some stem =>
    let name := if stem = "." ∧ p.body = p.components then ".." else stem ++ "." ++ extension
    ⟨"/".intercalate (p.body.dropLast ++ [name])⟩

/-- The path without slashes at its end. -/
def withoutSlashes (p : Path) : Path :=
  ⟨String.ofList (p.text.toList.reverse.dropWhile (· == '/')).reverse⟩

/-- The folder of a file; a point for the working directory. -/
def folder (p : Path) : Path :=
  let parents := (p.body.dropLast.reverse.dropWhile isStay).reverse
  if parents.isEmpty then ⟨"."⟩ else ⟨"/".intercalate parents⟩

/-- A file in this folder. -/
def child (folder : Path) (name : String) : Path := ⟨folder.text ++ "/" ++ name⟩

end Path

end Shapefile
