import BuiltinAtlas.Files.System

/-!
# Finding C sources

`FileSystem.sources` lists the C sources below a directory. Entries are visited in the order of
their names, and what is in a directory comes at its place. Links are neither followed nor listed.
-/

namespace BuiltinAtlas

mutual

/-- The places of the C sources in a directory, from there. -/
def sourcesOfEntries : List (RawText × Entry) → List Place
  | [] => []
  | (name, e) :: es => sourcesOfEntry name e ++ sourcesOfEntries es

/-- The places of the C sources that an entry with a name is or has. -/
def sourcesOfEntry (name : RawText) : Entry → List Place
  | .file _ => if Path.isCSourceName name then [[name]] else []
  | .link _ => []
  | .directory es => (sourcesOfEntries es).map (name :: ·)

end

/-- The paths of the C sources below a path, or the path itself if it is that of one. -/
def FileSystem.sources (fs : FileSystem) (path : RawText) : List RawText :=
  match fs.find path with
  | .ok (_, .directory es) => (sourcesOfEntries es).map (·.foldl Path.append path)
  | .ok (_, .file _) => if Path.isCSource path then [path] else []
  | _ => []

end BuiltinAtlas
