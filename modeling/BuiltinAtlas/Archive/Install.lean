import BuiltinAtlas.Archive.Directory
import BuiltinAtlas.Job.Basic

/-!
# Installing indexes

`installIndexes` unpacks the members of an archive whose names end with `.json` into a directory,
whatever directories their names have. An existing file is only replaced with consent.
`downloadIndexes` fetches an archive into a directory of its own, installs it and removes the
directory.
-/

namespace BuiltinAtlas

/-- The answers to the questions whether a file may be replaced: `answers n` is that to the question
before which `n` have been asked. -/
abbrev Answers := Nat → Bool

/-- Whether existing files may be replaced. -/
inductive Consent where
  /-- They may, without a question. -/
  | always
  /-- The answers to questions tell. -/
  | asking (answers : Answers)

/-- How many questions have been asked. -/
def World.questions (w : World) : Nat :=
  (w.events.filter fun | .asked _ => true | _ => false).length

/-- Whether the file at a path may be replaced, which has to be asked unless all may. -/
def Consent.mayReplace (consent : Consent) (path : RawText) : Job Bool :=
  match consent with
  | always => return true
  | asking answers => do
    let answer := answers (← get).questions
    Job.note (.asked path)
    return answer

/-- Whether a member is an index. -/
def Archive.Member.isIndex (m : Archive.Member) : Bool := ".json".toList.isSuffixOf m.name.toList

/-- Unpack stored bytes of a member to a path. What could be unpacked is written even if the member
turns out to be damaged. -/
def unpackTo (path : RawText) (m : Archive.Member) (raw : ByteArray) : Job Unit := do
  let (content, intact) := m.unpack raw
  Job.change (·.write path content) fun _ ↦ .cannotCreateFile path
  if !intact then Job.fail (.cannotWriteFile path)

/-- Install a member, if it is an index. Returns the path where it was installed. -/
def installMember (bytes : ByteArray) (target : RawText) (consent : Consent) (m : Archive.Member) :
    Job (Option RawText) := do
  let raw ← Job.ofExcept (m.raw bytes) .member
  match Path.name? m.name with
  | none => return none
  | some name =>
    if !m.isIndex then return none
    let path := Path.append target name
    if (← Job.files).pathExists path then
      if !(← consent.mayReplace path) then
        Job.note (.kept path)
        return none
    unpackTo path m raw
    Job.note (.installed path)
    return some path

/-- Install the indexes of an archive into a directory. Returns the paths that were written. -/
def installIndexes (archive target : RawText) (consent : Consent) : Job (List RawText) := do
  let fs ← Job.files
  let bytes ← Job.ofExcept (fs.read archive) fun
    | .isDirectory => .cannotMapArchive archive
    | _ => .cannotOpenArchive archive
  match Archive.members? bytes with
  | none => Job.fail (.cannotReadArchive archive)
  | some members =>
    Job.createDirectoryAll target fun _ ↦ .cannotCreateDirectory target
    return (← members.mapM (installMember bytes target consent)).filterMap id

/-- What comes of an attempt to fetch something: what it leaves where the archive should be, and its
exit status, which is zero if it succeeded. -/
structure Fetched where
  left : Option ByteArray
  status : Nat

/-- A way to fetch what a URL names. -/
abbrev Fetcher := FileSystem → String → Fetched

/-- Fetches files by their `file:` URLs, and nothing else. -/
def fetchFile : Fetcher := fun fs url ↦
  if "file://".toList.isPrefixOf url.toList then
    match fs.read (String.ofList (url.toList.drop 7)) with
    | .ok bytes => ⟨some bytes, 0⟩
    | .error _ => ⟨none, 37⟩
  else ⟨none, 37⟩

/-- Fetch an archive to a path. Without a fetcher that fails. -/
def fetchArchive (fetcher : Option Fetcher) (url : String) (archive : RawText) : Job Unit :=
  match fetcher with
  | none => Job.fail .cannotFetch
  | some fetch => do
    let fetched := fetch (← Job.files) url
    if let some bytes := fetched.left then
      Job.change (·.write archive bytes) fun _ ↦ .notFetched url 23
    if fetched.status ≠ 0 then Job.fail (.notFetched url fetched.status)

/-- Do some work, and remove a directory whatever comes of the work. -/
def removingDirectory {α : Type} (path : RawText) (t : Job α) : Job α := fun w ↦
  let (result, w) := t.runOn w
  match w.files.remove path with
  | .ok fs => (result, { w with files := fs })
  | .error _ => (result, w)

/-- The path of the archive in a directory of its own. -/
def archiveIn (directory : RawText) : RawText := Path.append directory "master.zip"

/-- Fetch an archive of indexes by way of the directory `scratch`, and install it. -/
def downloadIndexes (fetcher : Option Fetcher) (scratch : RawText) (url : String) (target : RawText)
    (consent : Consent) : Job (List RawText) := do
  Job.createDirectoryAll scratch fun _ ↦ .cannotCreateDirectory scratch
  removingDirectory scratch do
    fetchArchive fetcher url (archiveIn scratch)
    installIndexes (archiveIn scratch) target consent

end BuiltinAtlas
