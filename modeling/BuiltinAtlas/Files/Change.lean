import BuiltinAtlas.Files.System

/-!
# Changes to files

`FileSystem.changesTo` lists what has to be created and written to get from one file system to
another one, directories before what is in them. Links and what is gone are left out.
-/

namespace BuiltinAtlas

/-- A step from one file system to another one. -/
inductive Change where
  | createDirectory (path : RawText)
  | writeFile (path : RawText) (content : ByteArray)

/-- What is in an entry, if it is a directory. -/
def Entry.contents : Option Entry → List (RawText × Entry)
  | some (.directory es) => es
  | _ => []

mutual

/-- The changes from the entries of a directory at a path to new ones. -/
def changesOfEntries (path : RawText) (old : List (RawText × Entry)) :
    List (RawText × Entry) → List Change
  | [] => []
  | (name, e) :: es =>
    changesOfEntry (path ++ ("/" ++ name : RawText)) (Entries.find? old name) e ++
      changesOfEntries path old es

/-- The changes from the entry at a path, if there is one, to a new one. -/
def changesOfEntry (path : RawText) (old : Option Entry) : Entry → List Change
  | .link _ => []
  | .file content =>
    match old with
    | some (.file before) => if before = content then [] else [.writeFile path content]
    | _ => [.writeFile path content]
  | .directory es =>
    let first := match old with
      | some (.directory _) => []
      | _ => [.createDirectory path]
    first ++ changesOfEntries path (Entry.contents old) es

end

/-- The changes from one file system to another one. -/
def FileSystem.changesTo (fs new : FileSystem) : List Change :=
  changesOfEntries "" (Entry.contents (some fs.root)) (Entry.contents (some new.root))

end BuiltinAtlas
