import BuiltinAtlas.Archive.Directory
import BuiltinAtlas.Files.System
import BuiltinAtlas.Json.Token

/-!
# Failures

A `Failure` is a cause for which a job ends early. Each constructor is one cause;
`Failure.message` is what is said about it. Paths are shown as their texts.
-/

namespace BuiltinAtlas

/-- Why a job failed. -/
inductive Failure where
  /-- What is to be indexed does not exist. -/
  | pathNotFound (path : RawText)
  /-- There is no index. -/
  | indexNotFound (path : RawText)
  /-- An object stands for no symbol. -/
  | unsupported (label : String)
  /-- Something about the files of the index or the sources. -/
  | files (path : RawText) (reason : FileError)
  /-- The index is not in its written form. -/
  | malformedIndex (path : RawText) (fault : Json.Fault)
  | unreadableInput
  | unreadableSnapshot (path : RawText)
  | malformedSnapshot (fault : Json.Fault)
  /-- There is no home directory. -/
  | noHome
  | cannotCreateDirectory (path : RawText)
  /-- There is no program to download with. -/
  | cannotFetch
  /-- The program to download with gave up, with an exit status. -/
  | notFetched (url : String) (status : Nat)
  | cannotOpenArchive (path : RawText)
  | cannotMapArchive (path : RawText)
  | cannotReadArchive (path : RawText)
  /-- A member of an archive cannot be opened. -/
  | member (fault : Archive.MemberFault)
  | cannotCreateFile (path : RawText)
  | cannotWriteFile (path : RawText)
  deriving DecidableEq

/-- What is said about a failure. -/
def Failure.message : Failure → String
  | pathNotFound path => s!"Path {path.text} does not exist"
  | indexNotFound path => s!"Index data not found at {path.text}"
  | unsupported label => s!"Unsupported object kind: {label}"
  | files path reason => s!"IO error on {path.text}: {reason.message}"
  | malformedIndex path _ => s!"Malformed index {path.text}"
  | unreadableInput => "Failed to read snapshot from stdin"
  | unreadableSnapshot path => s!"Failed to read snapshot: {path.text}"
  | malformedSnapshot _ => "Malformed reflection snapshot"
  | noHome => "Failed to resolve home directory"
  | cannotCreateDirectory path => s!"Failed to create directory: {path.text}"
  | cannotFetch => "Failed to execute curl (ensure curl is installed)"
  | notFetched url status =>
    s!"Failed to download index archive from {url} (exit status: exit status: {status})"
  | cannotOpenArchive path => s!"Failed to open archive: {path.text}"
  | cannotMapArchive path => s!"Failed to mmap archive: {path.text}"
  | cannotReadArchive path => s!"Failed to read zip archive: {path.text}"
  | member fault => fault.message
  | cannotCreateFile path => s!"Failed to create file: {path.text}"
  | cannotWriteFile path => s!"Failed to write file: {path.text}"

end BuiltinAtlas
