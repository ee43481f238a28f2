import RowBatch.Store.Database

/-!
The folder that database files are in, with whatever else it holds.
-/

namespace RowBatch
namespace Store

/-- A place in the folder by the names on the way to it. -/
abbrev Place := List String

inductive Item where
  | directory
  | text (content : String)
  | database (content : Database)
deriving Inhabited

abbrev Folder := List (Place × Item)

namespace Folder

def item? (f : Folder) (place : Place) : Option Item :=
  if place = [] then some .directory else List.lookup place f

def put (f : Folder) (place : Place) (item : Item) : Folder :=
  (place, item) :: f.filter fun entry => entry.1 != place

/-- The names in a path, but for those that lead nowhere. -/
def parts (path : String) : List String :=
  (path.splitOn "/").filter fun part => part != "" && part != "."

def step (place : Place) (part : String) : Place :=
  if part = ".." then place.dropLast else place ++ [part]

def ensure (f : Folder) (place : Place) : Folder :=
  match f.item? place with
  | some _ => f
  | none => f.put place .directory

/-- Goes along names, creating directories that are missing. The way must not lead through anything
else than directories, but may end with something else. -/
def walk (f : Folder) (place : Place) : List String → Folder × Option Place
  | [] => (f, some place)
  | part :: rest =>
    match f.item? place with
    | some .directory => (f.ensure (step place part)).walk (step place part) rest
    | _ => (f, none)

def withDirectory (f : Folder) (path : String) : Folder := (f.walk [] (parts path)).1

def withText (f : Folder) (path content : String) : Folder :=
  (f.walk [] (parts path).dropLast).1.put (parts path) (.text content)

def pathOf (entry : Place × Item) : String :=
  String.intercalate "/" entry.1 ++
    match entry.2 with
    | .directory => "/"
    | .text _ | .database _ => ""

def paths (f : Folder) : List String := (f.map pathOf).mergeSort

end Folder
end Store
end RowBatch
