import BuiltinAtlas.Files.Entry

/-!
# File systems

A `FileSystem` is a tree and a working directory. Paths are followed name by name; links on the way
are followed too, and at the end if that is wanted. The operations fail for the reasons of
`FileError`, and leave the file system alone when they do.
-/

namespace BuiltinAtlas

/-- Why an operation on files failed. -/
inductive FileError where
  | notFound
  | exists
  | notDirectory
  | isDirectory
  | tooManyLinks
  | nameTooLong
  /-- A name with a byte that no name can have. -/
  | invalidName
  /-- Bytes that should be text are not UTF-8. -/
  | notText
  deriving DecidableEq

/-- What the system says about a failure. -/
def FileError.message : FileError → String
  | .notFound => "No such file or directory (os error 2)"
  | .exists => "File exists (os error 17)"
  | .notDirectory => "Not a directory (os error 20)"
  | .isDirectory => "Is a directory (os error 21)"
  | .tooManyLinks => "Too many levels of symbolic links (os error 40)"
  | .nameTooLong => "File name too long (os error 36)"
  | .invalidName => "file name contained an unexpected NUL byte"
  | .notText => "stream did not contain valid UTF-8"

/-- A place whose names are valid. -/
abbrev ValidPlace := { place : Place // ∀ n ∈ place, Path.ValidName n }

/-- The root. -/
def ValidPlace.root : ValidPlace := ⟨[], by simp⟩

/-- A well-formed tree with a working directory. -/
structure FileSystem where
  root : Entry
  workingDirectory : ValidPlace
  wellFormed : root.WellFormed

namespace FileSystem

/-- The file system without files, whose working directory is the root. -/
def empty : FileSystem where
  root := .directory []
  workingDirectory := .root
  wellFormed := by simp [Entry.WellFormed, Entry.AllWellFormed, Entries.Sorted]

/-- Put a well-formed entry at a place. -/
def put (fs : FileSystem) (place : ValidPlace) (e : Entry) (he : e.WellFormed) : FileSystem where
  root := .put e fs.root place.1
  workingDirectory := fs.workingDirectory
  wellFormed := fs.wellFormed.put he place.2

/-- The number of links that may be followed on one path. -/
def linkLimit : Nat := 40

/-- Follow names from a place that is a directory. The last name need not exist. Behind a link, what
remains is left to `follow`. -/
def walkNames (root : Entry) (followLast : Bool)
    (follow : Place → List RawText → Except FileError Place) (place : Place) :
    List RawText → Except FileError Place
  | [] => .ok place
  | name :: rest =>
    if name = "." then walkNames root followLast follow place rest
    else if name = ".." then walkNames root followLast follow place.dropLast rest
    else if Path.nameLimit < name.size then .error .nameTooLong
    else match root.at? (place ++ [name]) with
    | none => if rest.isEmpty then .ok (place ++ [name]) else .error .notFound
    | some (.directory _) => walkNames root followLast follow (place ++ [name]) rest
    | some (.file _) => if rest.isEmpty then .ok (place ++ [name]) else .error .notDirectory
    | some (.link target) =>
      if rest.isEmpty ∧ !followLast then .ok (place ++ [name])
      else follow (if Path.isAbsolute target then [] else place) (Path.names target ++ rest)

/-- Follow names, and at most a number of links on the way. -/
def walk (root : Entry) (followLast : Bool) : Nat → Place → List RawText → Except FileError Place
  | 0 => walkNames root followLast fun _ _ ↦ .error .tooManyLinks
  | links + 1 => walkNames root followLast (walk root followLast links)

/-- The names on the way are those of the place, the path and what is behind a link. -/
theorem valid_of_walkNames_eq_ok {root : Entry} {followLast : Bool}
    {follow : Place → List RawText → Except FileError Place} {place : Place} {todo : List RawText}
    {result : Place} (h : walkNames root followLast follow place todo = .ok result)
    (hroot : root.WellFormed) (hplace : ∀ n ∈ place, Path.ValidName n)
    (htodo : ∀ n ∈ todo, Path.CleanName n)
    (hfollow : ∀ place todo, follow place todo = .ok result → (∀ n ∈ place, Path.ValidName n) →
      (∀ n ∈ todo, Path.CleanName n) → ∀ n ∈ result, Path.ValidName n) :
    ∀ n ∈ result, Path.ValidName n := by
  have hsnoc {place : Place} {name : RawText} {rest : List RawText}
      (hplace : ∀ n ∈ place, Path.ValidName n) (htodo : ∀ n ∈ name :: rest, Path.CleanName n)
      (dot : name ≠ ".") (dots : name ≠ "..") (short : ¬ Path.nameLimit < name.size) :
      ∀ n ∈ place ++ [name], Path.ValidName n := by
    intro n hn
    rcases List.mem_append.mp hn with hn | hn
    · exact hplace n hn
    · rw [List.mem_singleton.mp hn]
      exact ⟨htodo name List.mem_cons_self, dot, dots, Nat.le_of_not_lt short⟩
  fun_induction walkNames root followLast follow place todo with
  | case1 => cases h; exact hplace
  | case2 place rest ih => exact ih h hplace fun n hn ↦ htodo n (List.mem_cons_of_mem _ hn)
  | case3 place rest _ ih =>
    exact ih h (fun n hn ↦ hplace n (List.dropLast_subset _ hn))
      fun n hn ↦ htodo n (List.mem_cons_of_mem _ hn)
  | case4 => cases h
  | case5 place name rest h1 h2 h3 =>
    cases h
    exact hsnoc hplace htodo h1 h2 h3
  | case6 => cases h
  | case7 place name rest h1 h2 h3 _ _ ih =>
    exact ih h (hsnoc hplace htodo h1 h2 h3) fun n hn ↦ htodo n (List.mem_cons_of_mem _ hn)
  | case8 place name rest h1 h2 h3 =>
    cases h
    exact hsnoc hplace htodo h1 h2 h3
  | case9 => cases h
  | case10 place name rest h1 h2 h3 =>
    cases h
    exact hsnoc hplace htodo h1 h2 h3
  | case11 place name rest _ _ _ target found =>
    refine hfollow _ _ h (fun n hn ↦ ?_) fun n hn ↦ ?_
    · split at hn
      · cases hn
      · exact hplace n hn
    · rcases List.mem_append.mp hn with hn | hn
      · have clean : (Entry.link target).WellFormed := hroot.of_at? found
        rw [Entry.WellFormed] at clean
        exact Path.cleanName_of_mem_names clean hn
      · exact htodo n (List.mem_cons_of_mem _ hn)

/-- The names on the way are those of the place, the path and the links. -/
theorem valid_of_walk_eq_ok {root : Entry} {followLast : Bool} {links : Nat} {place : Place}
    {todo : List RawText} {result : Place} (h : walk root followLast links place todo = .ok result)
    (hroot : root.WellFormed) (hplace : ∀ n ∈ place, Path.ValidName n)
    (htodo : ∀ n ∈ todo, Path.CleanName n) : ∀ n ∈ result, Path.ValidName n := by
  induction links generalizing place todo with
  | zero => exact valid_of_walkNames_eq_ok h hroot hplace htodo nofun
  | succ links ih =>
    exact valid_of_walkNames_eq_ok h hroot hplace htodo fun _ _ h hplace htodo ↦ ih h hplace htodo

/-- Where the names of a path are followed from. -/
def start (fs : FileSystem) (path : RawText) : ValidPlace :=
  if Path.isAbsolute path then .root else fs.workingDirectory

/-- The place that a path leads to. What is around it exists. If the working directory is gone,
nothing can be reached from there. -/
def locate (fs : FileSystem) (path : RawText) (followLast : Bool) : Except FileError ValidPlace :=
  if clean : 0 ∈ path.toList then .error .invalidName
  else if path.isEmpty then .error .notFound
  else match fs.root.at? (fs.start path).1 with
  | some (.directory _) =>
    match h : walk fs.root followLast linkLimit (fs.start path).1 (Path.names path) with
    | .ok place => .ok ⟨place, valid_of_walk_eq_ok h fs.wellFormed (fs.start path).2 fun _ ↦
        Path.cleanName_of_mem_names clean⟩
    | .error e => .error e
  | _ => .error .notFound

/-- What a path leads to, and its place. -/
def find (fs : FileSystem) (path : RawText) : Except FileError (ValidPlace × Entry) := do
  let place ← fs.locate path true
  match fs.root.at? place.1 with
  | some e => .ok (place, e)
  | none => .error .notFound

/-- Whether a path leads to something. -/
def pathExists (fs : FileSystem) (path : RawText) : Bool := (fs.find path).toBool

/-- Whether a path leads to a file. -/
def isFile (fs : FileSystem) (path : RawText) : Bool :=
  match fs.find path with
  | .ok (_, .file _) => true
  | _ => false

/-- Whether a path leads to a directory. -/
def isDirectory (fs : FileSystem) (path : RawText) : Bool :=
  match fs.find path with
  | .ok (_, .directory _) => true
  | _ => false

/-- The path without links and detours to where a path leads. -/
def canonicalPath (fs : FileSystem) (path : RawText) : Except FileError RawText :=
  (fs.find path).map fun (place, _) ↦ Path.ofNames place.1

/-- The bytes of a file. -/
def read (fs : FileSystem) (path : RawText) : Except FileError ByteArray := do
  match ← fs.find path with
  | (_, .file content) => .ok content
  | (_, .directory _) => .error .isDirectory
  | (_, .link _) => .error .tooManyLinks

/-- The text of a file. -/
def readText (fs : FileSystem) (path : RawText) : Except FileError String := do
  match String.fromUTF8? (← fs.read path) with
  | some s => .ok s
  | none => .error .notText

/-- Write a file, whether or not it exists. A path that ends with a slash can only be that of a
directory. -/
def write (fs : FileSystem) (path : RawText) (content : ByteArray) :
    Except FileError FileSystem := do
  let slash := path.toList.getLast? == some RawText.slash
  let place ← fs.locate (if slash then Path.trimSlashes path else path) true
  match fs.root.at? place.1 with
  | some (.directory _) => .error .isDirectory
  | some (.link _) => .error .tooManyLinks
  | some (.file _) =>
    if slash then .error .notDirectory
    else .ok (fs.put place (.file content) (by simp [Entry.WellFormed]))
  | none =>
    if slash then .error .isDirectory
    else .ok (fs.put place (.file content) (by simp [Entry.WellFormed]))

/-- Create a directory in an existing one. -/
def createDirectory (fs : FileSystem) (path : RawText) : Except FileError FileSystem := do
  let place ← fs.locate (Path.trimSlashes path) false
  match fs.root.at? place.1 with
  | some _ => .error .exists
  | none => .ok (fs.put place (.directory []) empty.wellFormed)

/-- Create a directory unless it exists. -/
def ensureDirectory (fs : FileSystem) (path : RawText) : Except FileError FileSystem :=
  match fs.createDirectory path with
  | .ok fs => .ok fs
  | .error e => if fs.isDirectory path then .ok fs else .error e

/-- Create the first of some directories, each of which lies in the next one, and those around it
that are missing. What has been created stays even if that fails. -/
def createDirectories (fs : FileSystem) : List RawText → Except FileError Unit × FileSystem
  | [] => (.ok (), fs)
  | path :: around =>
    match fs.createDirectory path with
    | .ok fs => (.ok (), fs)
    | .error .notFound =>
      match createDirectories fs around with
      | (.ok (), fs) =>
        match fs.ensureDirectory path with
        | .ok fs => (.ok (), fs)
        | .error e => (.error e, fs)
      | failed => failed
    | .error e => if fs.isDirectory path then (.ok (), fs) else (.error e, fs)

/-- Create a directory and those around it that are missing. -/
def createDirectoryAll (fs : FileSystem) (path : RawText) : Except FileError Unit × FileSystem :=
  fs.createDirectories (Path.withParents (path.size + 1) path)

/-- Create a symbolic link. -/
def createLink (fs : FileSystem) (path target : RawText) : Except FileError FileSystem := do
  if clean : 0 ∈ target.toList then .error .invalidName
  else
    let place ← fs.locate path false
    match fs.root.at? place.1 with
    | some _ => .error .exists
    | none => .ok (fs.put place (.link target) (by simpa [Entry.WellFormed] using clean))

/-- Remove a file or link, or a directory with everything in it. -/
def remove (fs : FileSystem) (path : RawText) : Except FileError FileSystem := do
  let place ← fs.locate path false
  match fs.root.at? place.1 with
  | some _ => .ok {
      root := fs.root.remove place.1
      workingDirectory := fs.workingDirectory
      wellFormed := fs.wellFormed.remove place.2 }
  | none => .error .notFound

end FileSystem

end BuiltinAtlas
