import BuiltinAtlas.Text.Raw

/-!
# Paths

Paths are raw text: names separated by slashes. These are the textual operations, which look at no
file system. A slash or a `.` at the end of a path, unless it is the whole path, does not count.
-/

namespace BuiltinAtlas.Path

open RawText (slash dot)

/-- Drop slashes and names `.` from the end of a reversed path, except the slash of the root. -/
def trimReversed : List UInt8 → List UInt8
  | [] => []
  | c :: rest =>
    if c = slash ∧ rest ≠ [] ∨ c = dot ∧ rest.head? = some slash then trimReversed rest
    else c :: rest

/-- The path without what does not count at its end. -/
def trim (path : RawText) : RawText :=
  RawText.ofList (trimReversed path.toList.reverse).reverse

/-- Drop slashes from the end of a reversed path, except that of the root. -/
def trimSlashesReversed : List UInt8 → List UInt8
  | [] => []
  | c :: rest => if c = slash ∧ rest ≠ [] then trimSlashesReversed rest else c :: rest

/-- The path without slashes at its end. -/
def trimSlashes (path : RawText) : RawText :=
  RawText.ofList (trimSlashesReversed path.toList.reverse).reverse

/-- The path of the directory around a path. The root and the empty path have none; it is empty if
the path is a mere name. -/
def parent? (path : RawText) : Option RawText :=
  let cs := trimReversed path.toList.reverse
  if cs = [] ∨ cs = [slash] then none
  else some (RawText.ofList (trimReversed (cs.dropWhile (· != slash))).reverse)

/-- The last name of a path, unless it is `.` or `..`. -/
def name? (path : RawText) : Option RawText :=
  let name := ((trimReversed path.toList.reverse).takeWhile (· != slash)).reverse
  if name = [] ∨ name = [dot] ∨ name = [dot, dot] then none else some (RawText.ofList name)

/-- What follows the last dot of a name, unless nothing stands before that dot. -/
def nameExtension? (name : RawText) : Option RawText :=
  let back := name.toList.reverse
  let front := back.dropWhile (· != dot)
  if front = [] ∨ front = [dot] then none
  else some (RawText.ofList (back.takeWhile (· != dot)).reverse)

/-- C sources have the extension `c`, in either case. -/
def isCSourceName (name : RawText) : Bool :=
  nameExtension? name == some (RawText.ofText "c") ||
    nameExtension? name == some (RawText.ofText "C")

/-- Whether the last name of a path is that of a C source. -/
def isCSource (path : RawText) : Bool := (name? path).any isCSourceName

/-- Whether a path starts at the root. -/
def isAbsolute (path : RawText) : Bool := path.toList.head? == some slash

/-- A path below another one, unless it starts at the root itself. -/
def append (base path : RawText) : RawText :=
  if isAbsolute path then path
  else if base.isEmpty ∨ base.toList.getLast? = some slash then base ++ path
  else base ++ ("/" ++ path : RawText)

/-- The stretches between slashes, the first of which goes on from `name`, which is reversed. -/
def splitNames (name : List UInt8) : List UInt8 → List (List UInt8)
  | [] => [name.reverse]
  | c :: rest =>
    if c = slash then name.reverse :: splitNames [] rest else splitNames (c :: name) rest

/-- The names on a path. A slash at the end counts as the name `.`. -/
def names (path : RawText) : List RawText :=
  let trailing := path.toList.getLast? == some slash
  ((splitNames [] path.toList).filter (· ≠ [])).map RawText.ofList ++
    if trailing then [RawText.ofText "."] else []

/-- The path with some names, from the root. -/
def ofNames : List RawText → RawText
  | [] => "/"
  | ns => ⟨ns.flatMap fun n ↦ slash :: n.toList⟩

/-- A path and the directories around it, as far as they may have to be created. -/
def withParents : Nat → RawText → List RawText
  | 0, _ => []
  | fuel + 1, path =>
    if path.isEmpty then [] else path :: ((parent? path).map (withParents fuel)).getD []

/-- The number of bytes that a name can have. -/
def nameLimit : Nat := 255

/-- A name that can stand on a path. -/
structure CleanName (name : RawText) : Prop where
  notEmpty : name ≠ ""
  noSlash : slash ∉ name.toList
  noNul : 0 ∉ name.toList

/-- A name that can stand in a directory. -/
structure ValidName (name : RawText) : Prop extends CleanName name where
  notDot : name ≠ "."
  notDots : name ≠ ".."
  short : name.size ≤ nameLimit

/-- Whether a name is valid can be decided. -/
instance (name : RawText) : Decidable (ValidName name) :=
  decidable_of_iff
    ((name ≠ "" ∧ slash ∉ name.toList ∧ 0 ∉ name.toList) ∧ name ≠ "." ∧ name ≠ ".." ∧
      name.size ≤ nameLimit)
    ⟨fun ⟨⟨notEmpty, noSlash, noNul⟩, notDot, notDots, short⟩ ↦
        ⟨⟨notEmpty, noSlash, noNul⟩, notDot, notDots, short⟩,
      fun h ↦ ⟨⟨h.notEmpty, h.noSlash, h.noNul⟩, h.notDot, h.notDots, h.short⟩⟩

/-- No stretch between slashes has a slash, or a character that is not there. -/
theorem not_mem_of_mem_splitNames {name cs n : List UInt8} {c : UInt8} (h : n ∈ splitNames name cs)
    (hc : c = slash ∨ c ∉ cs) (hn : c ∉ name) : c ∉ n := by
  induction cs generalizing name with
  | nil =>
    rw [splitNames, List.mem_singleton] at h
    rw [h]
    simpa using hn
  | cons d rest ih =>
    have later : c = slash ∨ c ∉ rest := hc.imp id fun h ↦ fun mem ↦ h (List.mem_cons_of_mem _ mem)
    rw [splitNames] at h
    split at h
    · rcases List.mem_cons.mp h with rfl | h
      · simpa using hn
      · exact ih h later List.not_mem_nil
    · next noSlash =>
      refine ih h later ?_
      rw [List.mem_cons, not_or]
      refine ⟨?_, hn⟩
      rintro rfl
      exact hc.elim noSlash fun h ↦ h List.mem_cons_self

/-- The names on a path are clean. -/
theorem cleanName_of_mem_names {path n : RawText} (clean : 0 ∉ path.toList)
    (h : n ∈ names path) : CleanName n := by
  rw [names, List.mem_append, List.mem_map] at h
  rcases h with ⟨cs, hcs, rfl⟩ | h
  · rw [List.mem_filter] at hcs
    refine ⟨fun h ↦ ?_, ?_, ?_⟩
    · have := congrArg RawText.toList h
      simp at this
      simp [this] at hcs
    · rw [RawText.toList_ofList]
      exact not_mem_of_mem_splitNames hcs.1 (.inl rfl) List.not_mem_nil
    · rw [RawText.toList_ofList]
      exact not_mem_of_mem_splitNames hcs.1 (.inr clean) List.not_mem_nil
  · split at h
    · rw [List.mem_singleton.mp h]
      exact ⟨by decide, by decide, by decide⟩
    · cases h

end BuiltinAtlas.Path
