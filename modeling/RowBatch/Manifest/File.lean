import RowBatch.Environment.File
import RowBatch.Environment.Reference
import RowBatch.Log.Record
import RowBatch.Manifest.Document

/-!
Manifests in files. References to variables are replaced before the text is read.
-/

namespace RowBatch

inductive FileError where
  | notFound
  | isDirectory
  | invalidText
deriving DecidableEq

namespace FileError

def message : FileError → String
  | .notFound => "No such file or directory (os error 2)"
  | .isDirectory => "Is a directory (os error 21)"
  | .invalidText => "stream did not contain valid UTF-8"

end FileError

namespace Manifest

inductive ReadError where
  | notOpened (cause : FileError)
  | undefinedVariable (name : String)
  | faulty (fault : Fault)
deriving DecidableEq

namespace ReadError

def message? : ReadError → Option String
  | .notOpened cause => some ("Could not open file: " ++ cause.message)
  | .undefinedVariable name => some ("Environment variable " ++ name ++ " not found")
  | .faulty fault => fault.message?

end ReadError

/-- Reads a manifest from a text, with the variables of an environment. -/
def parse (env : Environment) (text : String) : Except ReadError Manifest :=
  match env.missing text with
  | name :: _ => .error (.undefinedVariable name)
  | [] => (ofDocument (Markup.Document.ofText (env.expand text).toList)).mapError .faulty

/-- What reading a text reports: every reference that can not be replaced. -/
def reports (env : Environment) (text : String) : List Log.Record :=
  (env.missing text).map fun name =>
    ⟨.error, .manifest, "Environment variable " ++ name ++ " not found"⟩

def fileText (file : Option ByteArray) : Except FileError String :=
  match file with
  | none => .error .notFound
  | some bytes =>
    match String.fromUTF8? bytes with
    | some text => .ok text
    | none => .error .invalidText

def ofFile (env : Environment) (file : Option ByteArray) : Except ReadError Manifest :=
  match fileText file with
  | .error cause => .error (.notOpened cause)
  | .ok text => parse env text

/-- Reads a manifest from a file, once a file of settings is loaded. -/
def read (env : Environment) (settings file : Option ByteArray) :
    Except Environment.Panic (Except ReadError Manifest) :=
  (env.load settings).map fun env => ofFile env file

def fileReports (env : Environment) (file : Option ByteArray) : List Log.Record :=
  match fileText file with
  | .error _ => []
  | .ok text => reports env text

def readReports (env : Environment) (settings file : Option ByteArray) : List Log.Record :=
  match env.load settings with
  | .ok env => fileReports env file
  | .error _ => []

/-- What is found at the path of a file that is to be written. -/
inductive Destination where
  | file
  | missingDirectory
  | directory
deriving DecidableEq

inductive WriteError where
  | notCreated (cause : FileError)
deriving DecidableEq

namespace WriteError

def message : WriteError → String
  | .notCreated cause => "Could not create file: " ++ cause.message

end WriteError

/-- The text that a file holds after a manifest was written to it, whatever it held before. -/
def write (destination : Destination) (m : Manifest) : Except WriteError String :=
  match destination with
  | .file => .ok m.text
  | .missingDirectory => .error (.notCreated .notFound)
  | .directory => .error (.notCreated .isDirectory)

end Manifest
end RowBatch
