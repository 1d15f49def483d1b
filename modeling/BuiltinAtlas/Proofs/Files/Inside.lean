import BuiltinAtlas.Proofs.Files.Canonical
import BuiltinAtlas.Proofs.Files.Kept

/-!
# Names in a directory

A name that is joined to the path of a directory leads to that name in the directory, and to nowhere
if no file can have it (`LeadsInto.locate_append`). What does not count at the end of a path makes
no difference for this, and neither does the empty path, which stands for the working directory.
`FileSystem.leadsInto_of_createDirectoryAll`: a directory that was created is the one that its path
leads into.
-/

namespace BuiltinAtlas

open RawText (slash dot)

namespace Path

/-- The names on a path, without one for a slash at its end. -/
def route (path : RawText) : List RawText := (segments path.toList).map RawText.ofList

/-- A name that leads from a directory to what has that name in it, if any file can have it. -/
structure PlainName (name : RawText) : Prop where
  notEmpty : name ≠ ""
  noSlash : slash ∉ name.toList
  notDot : name ≠ "."
  notDots : name ≠ ".."

/-- A file can have a plain name that is short enough and has no forbidden character. -/
theorem validName_iff {name : RawText} :
    ValidName name ↔
      PlainName name ∧ 0 ∉ name.toList ∧ name.size ≤ nameLimit :=
  ⟨fun h ↦ ⟨⟨h.notEmpty, h.noSlash, h.notDot, h.notDots⟩, h.noNul, h.short⟩,
    fun ⟨plain, noNul, short⟩ ↦
      ⟨⟨plain.notEmpty, plain.noSlash, noNul⟩, plain.notDot, plain.notDots, short⟩⟩

private theorem isAbsolute_of_not_mem {name : RawText} (noSlash : slash ∉ name.toList) :
    isAbsolute name = false := by
  rw [isAbsolute, beq_eq_false_iff_ne]
  exact fun first ↦ noSlash (List.mem_of_head? first)

private theorem exists_toList_append (base : RawText) {name : RawText}
    (noSlash : slash ∉ name.toList) :
    (base = "" ∧ append base name = name) ∨
      base ≠ "" ∧ ∃ cs, (append base name).toList = cs ++ slash :: name.toList ∧
        segments cs = segments base.toList ∧
        (base.toList = cs ++ [slash] ∨ base.toList = cs) := by
  rw [append, isAbsolute_of_not_mem noSlash, if_neg Bool.false_ne_true]
  by_cases empty : base = ""
  · subst empty
    exact .inl ⟨rfl, by simp⟩
  · refine .inr ⟨empty, ?_⟩
    by_cases last : base.toList.getLast? = some slash
    · obtain ⟨cs, same⟩ := List.getLast?_eq_some_iff.mp last
      rw [if_pos (.inr last)]
      refine ⟨cs, by simp [same], ?_, .inl same⟩
      rw [same, segments_append_slash]
      exact (List.append_nil _).symm
    · rw [if_neg (by simp [empty, last])]
      exact ⟨base.toList, by simp, rfl, .inr rfl⟩

/-- A name adds itself to the names on a path. -/
theorem names_append {base name : RawText} (notEmpty : name ≠ "") (noSlash : slash ∉ name.toList) :
    names (append base name) = route base ++ [name] := by
  have chars : name.toList ≠ [] := fun none ↦ notEmpty (RawText.toList_eq_nil_iff.mp none)
  have alone : segments name.toList = [name.toList] := segments_of_not_mem noSlash chars
  have noSlashAtEnd (cs : List UInt8) : (cs ++ name.toList).getLast? ≠ some slash := by
    intro atEnd
    obtain ⟨c, last⟩ := Option.isSome_iff_exists.mp (List.getLast?_isSome.mpr chars)
    rw [List.getLast?_append, last, Option.some_or] at atEnd
    exact noSlash (List.mem_of_getLast? (last.trans atEnd))
  obtain ⟨rfl, same⟩ | ⟨-, cs, same, before, -⟩ := exists_toList_append base noSlash
  · rw [same, names_eq, alone, endName, if_neg (by simpa using noSlashAtEnd [])]
    simp [route, segments, splitNames]
  · rw [names_eq, endName, same, segments_append_slash, alone, before,
      if_neg (by simpa using noSlashAtEnd (cs ++ [slash]))]
    simp [route]

private theorem mem_toList_append_iff {base name : RawText} (noSlash : slash ∉ name.toList)
    {c : UInt8} (other : c ≠ slash) :
    c ∈ (append base name).toList ↔ c ∈ base.toList ∨ c ∈ name.toList := by
  obtain ⟨rfl, same⟩ | ⟨-, cs, same, -, ends⟩ := exists_toList_append base noSlash
  · simp [same]
  · obtain ends | ends := ends <;> simp [same, ends, other]

/-- A path to which a name was joined is not empty. -/
theorem append_ne_empty {base name : RawText} (notEmpty : name ≠ "")
    (noSlash : slash ∉ name.toList) :
    append base name ≠ "" := by
  obtain ⟨-, same⟩ | ⟨-, cs, same, -⟩ := exists_toList_append base noSlash
  · rwa [same]
  · intro empty
    rw [empty] at same
    simp at same

private theorem exists_eq_trimSlashesReversed (cs : List UInt8) :
    ∃ n, cs = List.replicate n slash ++ trimSlashesReversed cs := by
  fun_induction trimSlashesReversed cs with
  | case1 => exact ⟨0, rfl⟩
  | case2 c rest dropped ih =>
    obtain ⟨n, ih⟩ := ih
    refine ⟨n + 1, ?_⟩
    rw [List.replicate_succ, List.cons_append, ← ih, dropped.1]
  | case3 => exact ⟨0, rfl⟩

private theorem exists_toList_trimSlashes (path : RawText) :
    ∃ n, path.toList = (trimSlashes path).toList ++ List.replicate n slash := by
  obtain ⟨n, same⟩ := exists_eq_trimSlashesReversed path.toList.reverse
  refine ⟨n, ?_⟩
  rw [trimSlashes, RawText.toList_ofList]
  have forwards := congrArg List.reverse same
  rwa [List.reverse_reverse, List.reverse_append, List.reverse_replicate] at forwards

private theorem route_trimSlashes (path : RawText) : route (trimSlashes path) = route path := by
  have slashes (cs : List UInt8) (n : Nat) :
      segments (cs ++ List.replicate n slash) = segments cs := by
    induction n with
    | zero => rw [List.replicate_zero, List.append_nil]
    | succ n ih =>
      rw [List.replicate_succ', ← List.append_assoc, segments_append_slash, ih]
      exact List.append_nil _
  obtain ⟨n, same⟩ := exists_toList_trimSlashes path
  rw [route, route, same, slashes]

private theorem trimSlashes_trimSlashes (path : RawText) :
    trimSlashes (trimSlashes path) = trimSlashes path := by
  have again (cs : List UInt8) :
      trimSlashesReversed (trimSlashesReversed cs) = trimSlashesReversed cs := by
    fun_induction trimSlashesReversed cs with
    | case1 => rfl
    | case2 _ _ _ ih => exact ih
    | case3 c rest kept => rw [trimSlashesReversed, if_neg kept]
  rw [trimSlashes, trimSlashes, RawText.toList_ofList, List.reverse_reverse, again]

private theorem trimSlashes_ne_empty {path : RawText} (h : path ≠ "") : trimSlashes path ≠ "" := by
  have some (cs : List UInt8) (h : cs ≠ []) : trimSlashesReversed cs ≠ [] := by
    fun_induction trimSlashesReversed cs with
    | case1 => exact h
    | case2 _ _ dropped ih => exact ih dropped.2
    | case3 => exact h
  intro empty
  have none := congrArg RawText.toList empty
  rw [trimSlashes, RawText.toList_ofList, RawText.toList_empty, List.reverse_eq_nil_iff] at none
  exact some _ (by simpa using h) none

end Path

namespace FileSystem

open Entry (DirectoryAt)

/-! ### Following one more name -/

section

variable {root : Entry} {followLast : Bool} {place around : Place} {front back : List RawText}
  {r : Except FileError Place}

private theorem walkNames_append {follow follow' : Place → List RawText → Except FileError Place}
    (walked : walkNames root true follow' place front = .ok around) (dir : root.DirectoryAt around)
    (more : back ≠ []) (behind : walkNames root followLast follow around back = r)
    (hfollow : ∀ place front, follow' place front = .ok around →
      follow place (front ++ back) = r) :
    walkNames root followLast follow place (front ++ back) = r := by
  have goesOn (rest : List RawText) : (rest ++ back).isEmpty = false := by
    rw [Bool.eq_false_iff, ne_eq, List.isEmpty_iff, List.append_eq_nil_iff]
    exact fun none ↦ more none.2
  fun_induction walkNames root true follow' place front with
  | case1 => cases walked; exact behind
  | case2 place rest ih =>
    rw [List.cons_append, walkNames, if_pos rfl]
    exact ih walked
  | case3 place rest h1 ih =>
    rw [List.cons_append, walkNames, if_neg h1, if_pos rfl]
    exact ih walked
  | case4 => cases walked
  | case5 place name rest _ _ _ missing =>
    cases walked
    obtain ⟨es, directory⟩ := dir
    cases missing.symm.trans directory
  | case6 => cases walked
  | case7 place name rest h1 h2 h3 es found ih =>
    rw [List.cons_append, walkNames_cons h1 h2 h3, found]
    exact ih walked
  | case8 place name rest _ _ _ _ file =>
    cases walked
    obtain ⟨es, directory⟩ := dir
    cases file.symm.trans directory
  | case9 => cases walked
  | case10 _ _ _ _ _ _ _ _ last => simp at last
  | case11 place name rest h1 h2 h3 target found =>
    rw [List.cons_append, walkNames_cons h1 h2 h3, found]
    simp only [goesOn, Bool.false_eq_true, false_and, if_false]
    rw [← List.append_assoc]
    exact hfollow _ _ walked

private theorem walk_append {links : Nat} (walked : walk root true links place front = .ok around)
    (dir : root.DirectoryAt around) (more : back ≠ [])
    (behind : ∀ links, walk root followLast links around back = r) :
    walk root followLast links place (front ++ back) = r := by
  induction links generalizing place front with
  | zero => exact walkNames_append walked dir more (behind 0) nofun
  | succ links ih => exact walkNames_append walked dir more (behind (links + 1)) fun _ _ h ↦ ih h

private theorem walk_dots (n links : Nat) :
    walk root true links around (List.replicate n (RawText.ofText ".")) = .ok around := by
  induction n with
  | zero => cases links <;> rw [List.replicate_zero, walk, walkNames]
  | succ n ih => rw [List.replicate_succ, walk_dot, ih]

private theorem walk_append_dots {links : Nat} (start : root.DirectoryAt place)
    (dir : root.DirectoryAt around) (n : Nat) :
    walk root true links place (front ++ List.replicate n (RawText.ofText ".")) = .ok around ↔
      walk root true links place front = .ok around := by
  cases n with
  | zero => rw [List.replicate_zero, List.append_nil]
  | succ n =>
    have more : List.replicate (n + 1) (RawText.ofText ".") ≠ [] := by simp
    constructor
    · intro walked
      obtain ⟨other, front, dir'⟩ := exists_directoryAt_of_walk_append walked more start
      have same := walk_append front dir' more (walk_dots (n + 1))
      cases walked.symm.trans same
      exact front
    · exact fun walked ↦ walk_append walked dir more (walk_dots (n + 1))

private theorem walk_plainName {name : RawText} (plain : Path.PlainName name)
    (noLink : followLast = true → ∀ target, root.at? (around ++ [name]) ≠ some (.link target))
    (links : Nat) :
    walk root followLast links around [name] =
      if Path.nameLimit < name.size then .error .nameTooLong
      else .ok (around ++ [name]) := by
  have step (follow : Place → List RawText → Except FileError Place) :
      walkNames root followLast follow around [name] =
        if Path.nameLimit < name.size then .error .nameTooLong
        else .ok (around ++ [name]) := by
    split
    · next long => rw [walkNames, if_neg plain.notDot, if_neg plain.notDots, if_pos long]
    · next short =>
      rw [walkNames_cons plain.notDot plain.notDots short]
      split
      · rfl
      · rw [walkNames]
      · rfl
      · next target found =>
        cases followLast with
        | false => rfl
        | true => exact absurd found (noLink rfl target)
  cases links <;> exact step _

end

/-! ### Directories and what is in them -/

/-- The names on a path lead to a directory. The empty path leads into the working directory. -/
structure LeadsInto (fs : FileSystem) (path : RawText) (place : Place) : Prop where
  clean : 0 ∉ path.toList
  start : fs.root.DirectoryAt (fs.start path).1
  walk : walk fs.root true linkLimit (fs.start path).1 (Path.route path) = .ok place
  directory : fs.root.DirectoryAt place

namespace LeadsInto

variable {fs fs' : FileSystem} {path name : RawText} {place : Place}

/-- A path that leads into a directory leads into it still where names lead as before. -/
theorem of_ways (h : fs.LeadsInto path place) (ways : fs.root.Ways fs'.root)
    (same : fs'.workingDirectory = fs.workingDirectory) : fs'.LeadsInto path place := by
  have start : fs'.start path = fs.start path := by rw [FileSystem.start, FileSystem.start, same]
  refine ⟨h.clean, ?_, ?_, ways.directory h.directory⟩
  · rw [start]
    exact ways.directory h.start
  · rw [start]
    exact walk_of_ways ways h.walk

/-- The names on the way to a directory are valid. -/
theorem valid (h : fs.LeadsInto path place) : ∀ n ∈ place, Path.ValidName n := by
  obtain ⟨es, directory⟩ := h.directory
  exact fs.wellFormed.validName_of_at? directory

/-- A path under which a directory is found leads into it. -/
theorem of_find {place : ValidPlace} {es : List (RawText × Entry)}
    (found : fs.find path = .ok (place, .directory es)) : fs.LeadsInto path place.1 := by
  obtain ⟨located, there⟩ := find_eq_ok_iff.mp found
  have leads := locate_eq_ok_iff.mp located
  have dir : fs.root.DirectoryAt place.1 := ⟨es, there⟩
  refine ⟨leads.clean, leads.start, ?_, dir⟩
  have ends : ∃ n, Path.endName path = List.replicate n (RawText.ofText ".") := by
    rw [Path.endName]
    split
    · exact ⟨1, rfl⟩
    · exact ⟨0, rfl⟩
  obtain ⟨n, ends⟩ := ends
  have walked := leads.walk
  rw [Path.names_eq, ends] at walked
  exact (walk_append_dots leads.start dir n).mp walked

private theorem trimSlashes_iff (notEmpty : path ≠ "") :
    fs.LeadsInto (Path.trimSlashes path) place ↔ fs.LeadsInto path place := by
  obtain ⟨n, same⟩ := Path.exists_toList_trimSlashes path
  have start := fs.start_of_isPrefix (Path.trimSlashes_ne_empty notEmpty)
    ⟨List.replicate n slash, same.symm⟩
  have clean : 0 ∉ (Path.trimSlashes path).toList ↔ 0 ∉ path.toList := by
    have other : 0 ≠ slash := by decide
    rw [same, List.mem_append, List.mem_replicate]
    simp [other]
  have route := Path.route_trimSlashes path
  constructor
  · rintro ⟨clean', start', walk, dir⟩
    rw [start] at start' walk
    exact ⟨clean.mp clean', start', route ▸ walk, dir⟩
  · rintro ⟨clean', start', walk, dir⟩
    refine ⟨clean.mpr clean', start ▸ start', ?_, dir⟩
    rw [start, route]
    exact walk

/-- A path that leads into a directory leads to it, unless it is empty. -/
theorem exists_find (h : fs.LeadsInto path place) (notEmpty : path ≠ "") :
    ∃ es, fs.find path = .ok (⟨place, h.valid⟩, .directory es) := by
  obtain ⟨es, there⟩ := h.directory
  refine ⟨es, find_eq_ok_iff.mpr ⟨locate_eq_ok_iff.mpr ⟨h.clean, notEmpty, h.start, ?_⟩, there⟩⟩
  rw [Path.names_eq, Path.endName]
  split
  · exact (walk_append_dots h.start h.directory 1).mpr h.walk
  · rw [List.append_nil]
    exact h.walk

private theorem start_append (fs : FileSystem) {name : RawText} (noSlash : slash ∉ name.toList)
    (path : RawText) :
    fs.start (Path.append path name) = fs.start path := by
  obtain ⟨rfl, same⟩ | ⟨other, cs, same, -, ends⟩ :=
    Path.exists_toList_append path noSlash
  · rw [same, FileSystem.start, FileSystem.start, Path.isAbsolute_of_not_mem noSlash]
    rfl
  · refine (fs.start_of_isPrefix other ?_).symm
    rw [same]
    obtain ends | ends := ends
    · exact ⟨name.toList, by simp [ends]⟩
    · exact ⟨slash :: name.toList, by rw [ends]⟩

/-- A plain name leads to what is there in a directory, if any file can have the name. -/
theorem locate_append (h : fs.LeadsInto path place) (plain : Path.PlainName name)
    {followLast : Bool}
    (noLink : followLast = true → ∀ target, fs.root.at? (place ++ [name]) ≠ some (.link target))
    {found : ValidPlace} :
    fs.locate (Path.append path name) followLast = .ok found ↔
      Path.ValidName name ∧ found.1 = place ++ [name] := by
  have start := start_append fs plain.noSlash path
  have nul : 0 ∈ (Path.append path name).toList ↔ 0 ∈ name.toList := by
    rw [Path.mem_toList_append_iff plain.noSlash (by decide)]
    exact ⟨fun mem ↦ mem.resolve_left h.clean, .inr⟩
  have walked := walk_append h.walk h.directory (List.cons_ne_nil name [])
    (walk_plainName plain noLink)
  rw [← Path.names_append plain.notEmpty plain.noSlash, ← start] at walked
  rw [locate_eq_ok_iff, Path.validName_iff]
  constructor
  · rintro ⟨clean, -, -, leads⟩
    rw [walked] at leads
    split at leads
    · cases leads
    · next short =>
      have same := (Except.ok.inj leads).symm
      exact ⟨⟨plain, fun mem ↦ clean (nul.mpr mem), Nat.not_lt.mp short⟩, same⟩
  · rintro ⟨⟨-, noNul, short⟩, same⟩
    refine ⟨fun mem ↦ noNul (nul.mp mem), Path.append_ne_empty plain.notEmpty plain.noSlash,
      start ▸ h.start, ?_⟩
    rw [walked, if_neg (Nat.not_lt.mpr short), same]

/-- Where a path leads into a directory, the name `.` behind it leads to that directory. -/
theorem find_append_dot (h : fs.LeadsInto path place) :
    ∃ es, fs.find (Path.append path ".") = .ok (⟨place, h.valid⟩, .directory es) := by
  have noSlash : slash ∉ (RawText.ofText ".").toList := by decide
  have start := start_append fs noSlash path
  obtain ⟨es, there⟩ := h.directory
  refine ⟨es, find_eq_ok_iff.mpr ⟨locate_eq_ok_iff.mpr ⟨?_, ?_, start ▸ h.start, ?_⟩, there⟩⟩
  · rw [Path.mem_toList_append_iff noSlash (by decide)]
    exact fun mem ↦ mem.elim h.clean (by decide)
  · exact Path.append_ne_empty (by decide) noSlash
  · rw [Path.names_append (by decide) noSlash, start]
    exact (walk_append_dots h.start h.directory 1).mpr h.walk

/-- Something is found under a plain name in a directory if it is there. -/
theorem pathExists_append (h : fs.LeadsInto path place) (plain : Path.PlainName name)
    (noLink : ∀ target, fs.root.at? (place ++ [name]) ≠ some (.link target)) :
    fs.pathExists (Path.append path name) = (fs.root.at? (place ++ [name])).isSome := by
  have locate {found : ValidPlace} :
      fs.locate (Path.append path name) true = .ok found ↔
        Path.ValidName name ∧ found.1 = place ++ [name] :=
    h.locate_append plain fun _ ↦ noLink
  rw [Bool.eq_iff_iff, pathExists]
  cases result : fs.find (Path.append path name) with
  | ok found =>
    obtain ⟨located, there⟩ := find_eq_ok_iff.mp result
    rw [← (locate.mp located).2, there]
    exact iff_of_true rfl rfl
  | error e =>
    refine iff_of_false Bool.false_ne_true fun isSome ↦ ?_
    obtain ⟨x, there⟩ := Option.isSome_iff_exists.mp isSome
    have valid := fs.wellFormed.validName_of_at? there
    have located := (@locate ⟨_, valid⟩).mpr ⟨valid name (by simp), rfl⟩
    cases result.symm.trans (find_eq_ok_iff.mpr ⟨located, there⟩)

/-- Writing a plain name in a directory puts a file there, where nothing or a file is. -/
theorem of_write_append (h : fs.LeadsInto path place) (plain : Path.PlainName name)
    (noLink : ∀ target, fs.root.at? (place ++ [name]) ≠ some (.link target))
    {content : ByteArray} (written : fs.write (Path.append path name) content = .ok fs') :
    Path.ValidName name ∧
      (fs.root.at? (place ++ [name]) = none ∨
        ∃ before, fs.root.at? (place ++ [name]) = some (.file before)) ∧
      fs'.root = Entry.put (.file content) fs.root (place ++ [name]) ∧
      fs'.workingDirectory = fs.workingDirectory := by
  obtain ⟨-, found, located, free, rfl⟩ := write_eq_ok_iff.mp written
  obtain ⟨valid, same⟩ := (h.locate_append plain fun _ ↦ noLink).mp located
  rw [same] at free
  refine ⟨valid, free, ?_, rfl⟩
  rw [← same]
  rfl

end LeadsInto

private theorem createDirectory_of_leadsInto {fs : FileSystem} {path : RawText} {place : Place}
    (h : fs.LeadsInto path place) (notEmpty : path ≠ "") :
    fs.createDirectory path = .error .exists := by
  obtain ⟨es, found⟩ := ((LeadsInto.trimSlashes_iff notEmpty).mpr h).exists_find
    (Path.trimSlashes_ne_empty notEmpty)
  have trimmed := createDirectory_of_isDirectory (isDirectory_iff.mpr ⟨_, es, found⟩)
    (Path.trimSlashes_trimSlashes path)
  rwa [createDirectory, Path.trimSlashes_trimSlashes] at trimmed

/-- Nothing is created for a directory that is there. -/
theorem createDirectoryAll_of_leadsInto {fs : FileSystem} {path : RawText} {place : Place}
    (h : fs.LeadsInto path place) : fs.createDirectoryAll path = (.ok (), fs) := by
  rw [createDirectoryAll, Path.withParents]
  by_cases empty : path = ""
  · rw [if_pos (by simpa using empty)]
    rfl
  · obtain ⟨es, found⟩ := h.exists_find empty
    rw [if_neg (by simpa using empty), createDirectories, createDirectory_of_leadsInto h empty]
    exact if_pos (isDirectory_iff.mpr ⟨_, es, found⟩)

private theorem leadsInto_of_createDirectory {fs fs' : FileSystem} {path : RawText}
    (notEmpty : path ≠ "") (created : fs.createDirectory path = .ok fs') :
    ∃ place, fs'.LeadsInto path place := by
  have kept := Kept.createDirectory [] created
  obtain ⟨place, located, free, rfl⟩ := createDirectory_eq_ok_iff.mp created
  obtain ⟨around, name, same, dir⟩ :=
    exists_around_of_locate located (Entry.not_directoryAt_of_free (.inl free))
  have there : (Entry.put (.directory []) fs.root place.1).at? place.1 = some (.directory []) := by
    rw [same]
    exact Entry.at?_put_self _ name dir
  have leads := locate_eq_ok_iff.mp (kept.locate located)
  have found := find_eq_ok_iff.mpr ⟨locate_eq_ok_iff.mpr ⟨leads.clean, leads.notEmpty, leads.start,
    walk_true leads.walk fun target link ↦ by cases there.symm.trans link⟩, there⟩
  exact ⟨place.1, (LeadsInto.trimSlashes_iff notEmpty).mp (.of_find found)⟩

private theorem leadsInto_of_ensureDirectory {fs fs' : FileSystem} {path : RawText}
    (notEmpty : path ≠ "") (ensured : fs.ensureDirectory path = .ok fs') :
    ∃ place, fs'.LeadsInto path place := by
  rw [ensureDirectory] at ensured
  split at ensured
  · next created =>
    cases ensured
    exact leadsInto_of_createDirectory notEmpty created
  · split at ensured
    · next there =>
      cases ensured
      obtain ⟨place, es, found⟩ := isDirectory_iff.mp there
      exact ⟨place.1, .of_find found⟩
    · cases ensured

/-- A path leads into the directory that is created under it with those around it. The empty path
leads into the working directory if that is there. -/
theorem leadsInto_of_createDirectoryAll {fs fs' : FileSystem} {path : RawText}
    (working : path = "" → fs.root.DirectoryAt fs.workingDirectory.1)
    (created : fs.createDirectoryAll path = (.ok (), fs')) : ∃ place, fs'.LeadsInto path place := by
  rw [createDirectoryAll, Path.withParents] at created
  split at created
  · next empty =>
    cases created
    obtain rfl : path = "" := by simpa using empty
    have dir := working rfl
    exact ⟨fs.workingDirectory.1, by decide, dir, walk_dots 0 linkLimit, dir⟩
  · next notEmpty =>
    have notEmpty : path ≠ "" := by simpa using notEmpty
    rw [createDirectories] at created
    split at created
    · next here =>
      cases created
      exact leadsInto_of_createDirectory notEmpty here
    · split at created
      · split at created
        · next ensured =>
          cases created
          exact leadsInto_of_ensureDirectory notEmpty ensured
        · cases created
      · next failed => exact absurd created (failed fs')
    · split at created
      · next there =>
        cases created
        obtain ⟨place, es, found⟩ := isDirectory_iff.mp there
        exact ⟨place.1, .of_find found⟩
      · cases created

end FileSystem

end BuiltinAtlas
