import RowBatch.Log.Record
import RowBatch.Store.Folder
import RowBatch.Store.Session

/-!
Opening a database by its path. The file and the directories that it is in are created when they
are missing.
-/

namespace RowBatch
namespace Store

inductive OpenFault where
  | noDirectory
  | notOpened (path : String)
  | noDatabase
deriving DecidableEq

namespace OpenFault

def message : OpenFault → String
  | .noDirectory | .notOpened _ | .noDatabase =>
    "Can not connect to the database please make sure your connection string is correct"

def report : OpenFault → Log.Record
  | .noDirectory =>
    ⟨.error, .store, "Failed to create parent directories for SQLite database: " ++
      "Not a directory (os error 20)"⟩
  | .notOpened path =>
    ⟨.error, .store, "Error connecting to SQLite database: unable to open database file: " ++ path⟩
  | .noDatabase => ⟨.error, .store, "Error setting SQLite pragmas: file is not a database"⟩

end OpenFault

inductive Location where
  | memory
  /-- A file of which nobody knows the name. -/
  | unnamed
  | file (place : Place)
deriving DecidableEq

structure Settings where
  journal : String
  synchronous : Nat
deriving DecidableEq

namespace Settings

def unopened : Settings := ⟨"memory", 2⟩

def ofLocation : Location → Settings
  | .memory => ⟨"memory", 1⟩
  | .unnamed => ⟨"delete", 1⟩
  | .file _ => ⟨"wal", 1⟩

end Settings

structure Opening where
  location : Location
  session : Session

namespace Opening

def memoryPath : String := ":memory:"

/-- Opens the database in a place. An empty file is a database without tables. -/
def openPlace (f : Folder) (path : String) (place : Place) : Folder × Except OpenFault Opening :=
  let opened (d : Database) : Folder × Except OpenFault Opening :=
    (f.put place (.database d), .ok ⟨.file place, .ofDatabase d⟩)
  match f.item? place with
  | none => opened []
  | some (.database d) => opened d
  | some (.text content) => if content.isEmpty then opened [] else (f, .error .noDatabase)
  | some .directory => (f, .error (.notOpened path))

def openFile (f : Folder) (path : String) : Folder × Except OpenFault Opening :=
  let parts := Folder.parts path
  let (f, parent?) := f.walk [] parts.dropLast
  match parent? with
  | none => (f, .error .noDirectory)
  | some parent =>
    match f.item? parent with
    | some .directory => openPlace f path (parts.getLast?.elim parent (Folder.step parent))
    | _ => (f, .error (.notOpened path))

def ofPath (f : Folder) (path : String) : Folder × Except OpenFault Opening :=
  if path = memoryPath then (f, .ok ⟨.memory, .ofDatabase []⟩)
  else if path = "" then (f, .ok ⟨.unnamed, .ofDatabase []⟩)
  else openFile f path

def reports (f : Folder) (path : String) : List Log.Record :=
  ⟨.info, .store, "Connecting to SQLite database at: " ++ path⟩ ::
    match (ofPath f path).2 with
    | .ok _ => []
    | .error fault => [fault.report]

def close (f : Folder) (location : Location) (s : Session) : Folder :=
  match location with
  | .memory | .unnamed => f
  | .file place => f.put place (.database s.database)

end Opening
end Store
end RowBatch
