import WorldAccess.Json.Reader
import WorldAccess.Wire.World

/-!
# Texts and files

Saved forms as texts: what a text holds, how a configuration is read from a file, and how a world is
loaded from a text and saved as one.

## Main definitions

* `Wire.ofText?` — the value that a text holds
* `Wire.wholeText?` — the JSON value of a text that is read as a whole
* `FileContent`, `Config.load`
* `Store.loadText`, `Store.loadJson`, `Store.saveText`
-/

namespace WorldAccess

namespace Wire

/-- The value that a text holds, read at the moment `now`. -/
def ofText? {α : Type} (d : Decoder α) (now : Timestamp) (s : String) : Option α :=
  (Json.parse? s).bind (d { now })

/-- The JSON value of a text that is read as a whole, however little of it is asked for. -/
def wholeText? (s : String) : Option Json :=
  (Json.parse? s).bind fun j => (whole? {} j).map fun _ => j

end Wire

/-- What is found under the path of a file. -/
inductive FileContent where
  | absent
  | directory
  | text (content : String)
  | bytes

namespace FileContent

/-- The failure to read a file that is not there. -/
def notFound : Failure := .unreadable "No such file or directory (os error 2)"

/-- The failure to read a directory. -/
def isDirectory : Failure := .unreadable "Is a directory (os error 21)"

/-- The failure to read bytes that are no text. -/
def notText : Failure := .unreadable "stream did not contain valid UTF-8"

/-- The text of a file. -/
def read : FileContent → Except Failure String
  | absent => .error notFound
  | directory => .error isDirectory
  | text content => .ok content
  | bytes => .error notText

end FileContent

namespace Config

/-- A file that holds no configuration. -/
def unreadable : Failure :=
  ⟨.config, "config_parse", "the text does not have the expected form"⟩

/-- The configuration of a file; the default one where there is no file. -/
def load (file : FileContent) : Except Failure Config :=
  match file with
  | .absent => Config.validate {}
  | .directory => .error FileContent.isDirectory
  | .bytes => .error unreadable
  | .text s =>
    match Wire.ofText? Config.ofJson? .epoch s with
    | some c => c.validate
    | none => .error unreadable

end Config

namespace Store

/-- Loads the snapshot that a text holds. -/
def loadText (s : Store) (now : Timestamp) (text : String) : Outcome (Except Failure Nat) :=
  match Wire.ofText? Snapshot.ofJson? now text with
  | some snapshot => s.load snapshot
  | none => { store := s, result := .error .malformedJson }

/-- Loads the snapshot that a value holds, which is written out as a text and read back. -/
def loadJson (s : Store) (now : Timestamp) (j : Json) : Outcome (Except Failure Nat) :=
  match Snapshot.ofJson? { now } j.rewritten with
  | some snapshot => s.load snapshot
  | none => { store := s, result := .error .malformedJson }

/-- The store as a text. -/
def saveText (s : Store) : String := s.snapshot.toJson.pretty

end Store

end WorldAccess
