import Fidelity.Command.Failure
import Fidelity.Text.Words

/-! A folder held in memory: files and empty folders by name, and the reading of paths that start in it.
What lies outside it is taken for an empty world. -/
namespace Fidelity.Command

inductive Entry where
  | file (content : ByteArray)
  | folder

structure Folder where
  entries : List (String × Entry)

inductive Place where
  | here
  | inside
  | outside
  | file (content : ByteArray)

namespace Folder

def enter (f : Folder) (place : Place) (name : String) : Except ReadFault Place :=
  match place with
  | .file _ => .error .notDirectory
  | .here =>
    if name = "" ∨ name = "." then .ok .here
    else if name = ".." then .ok .outside
    else match f.entries.lookup name with
      | none => .error .notFound
      | some (.file content) => .ok (.file content)
      | some .folder => .ok .inside
  | .inside =>
    if name = "" ∨ name = "." then .ok .inside
    else if name = ".." then .ok .here
    else .error .notFound
  | .outside =>
    if name = "" ∨ name = "." ∨ name = ".." then .ok .outside
    else .error .notFound

/-- The text of the file at a path. A path that starts with a slash does not start here. -/
def read (f : Folder) (path : String) : Except ReadFault String :=
  if path.isEmpty then .error .notFound
  else
    let start := if path.toList.head? = some '/' then Place.outside else .here
    let names := (Text.splitAt '/' path.toList).map String.ofList
    match names.foldlM f.enter start with
    | .error e => .error e
    | .ok (.file content) =>
      match String.fromUTF8? content with
      | none => .error .notText
      | some text => .ok text
    | .ok _ => .error .isDirectory

end Folder
end Fidelity.Command
