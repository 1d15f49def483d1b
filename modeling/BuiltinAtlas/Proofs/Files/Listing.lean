import BuiltinAtlas.Proofs.Files.Inside
import BuiltinAtlas.Proofs.Files.Scan

/-!
# Listing a directory

Below a directory, under whatever path it is given, exactly the files with names of C sources are
listed, and never what is behind a link. They come once each, in the order in which the bytes of
their paths are compared name by name (`FileSystem.sources_listing`).
-/

namespace BuiltinAtlas

open RawText (slash dot)

namespace Path

/-- The bytes of the names on a path. -/
def nameBytes (path : RawText) : List (List UInt8) := (route path).map RawText.toList

/-! ### Names of C sources -/

private theorem nameExtension?_eq_some_iff {name extension : RawText} :
    nameExtension? name = some extension ↔
      dot ∉ extension.toList ∧
        ∃ stem : RawText, stem ≠ "" ∧ name.toList = stem.toList ++ dot :: extension.toList := by
  rw [nameExtension?]
  constructor
  · intro found
    have other : dot ∉ name.toList.reverse.takeWhile (· != dot) := fun mem ↦ by
      simpa using List.all_eq_true.mp List.all_takeWhile dot mem
    have whole := List.takeWhile_append_dropWhile (p := (· != dot)) (l := name.toList.reverse)
    have first := List.head?_dropWhile_not (· != dot) name.toList.reverse
    split at found
    · cases found
    · next proper =>
      rw [not_or] at proper
      obtain ⟨some, notAlone⟩ := proper
      obtain rfl := Option.some.inj found
      obtain ⟨c, front, behind⟩ := List.exists_cons_of_ne_nil some
      rw [behind] at whole first notAlone
      obtain rfl : c = dot := by simpa using first
      refine ⟨by simpa using other, RawText.ofList front.reverse, ?_, ?_⟩
      · intro empty
        have none := congrArg RawText.toList empty
        simp at none
        exact notAlone (by rw [none])
      · have bytes := congrArg List.reverse whole
        rw [List.reverse_reverse] at bytes
        exact bytes.symm.trans (by simp)
  · rintro ⟨noDot, stem, notEmpty, bytes⟩
    have chars : name.toList.reverse =
        extension.toList.reverse ++ dot :: stem.toList.reverse := by simp [bytes]
    have other : ∀ c ∈ extension.toList.reverse, (c != dot) = true := by
      intro c mem
      refine bne_iff_ne.mpr ?_
      rintro rfl
      exact noDot (List.mem_reverse.mp mem)
    rw [chars, List.takeWhile_append_of_pos other, List.dropWhile_append_of_pos other]
    simp [notEmpty]

private theorem isCSourceName_iff {name : RawText} :
    isCSourceName name = true ↔
      ∃ stem : RawText, stem ≠ "" ∧ (name = stem ++ ".c" ∨ name = stem ++ ".C") := by
  have small (stem : RawText) : name.toList = stem.toList ++ dot :: (RawText.ofText "c").toList ↔
      name = stem ++ ".c" := RawText.toList_inj (b := stem ++ ".c")
  have big (stem : RawText) : name.toList = stem.toList ++ dot :: (RawText.ofText "C").toList ↔
      name = stem ++ ".C" := RawText.toList_inj (b := stem ++ ".C")
  simp only [isCSourceName, Bool.or_eq_true, beq_iff_eq, nameExtension?_eq_some_iff, small, big]
  constructor
  · rintro (⟨-, stem, notEmpty, same⟩ | ⟨-, stem, notEmpty, same⟩)
    · exact ⟨stem, notEmpty, .inl same⟩
    · exact ⟨stem, notEmpty, .inr same⟩
  · rintro ⟨stem, notEmpty, same | same⟩
    · exact .inl ⟨by decide, stem, notEmpty, same⟩
    · exact .inr ⟨by decide, stem, notEmpty, same⟩

/-! ### Paths below a directory -/

private theorem route_append {base name : RawText} (valid : ValidName name) :
    route (append base name) = route base ++ [name] := by
  have names : route (append base name) ++ endName (append base name) = route base ++ [name] :=
    names_append valid.notEmpty valid.noSlash
  rw [endName] at names
  split at names
  · have last := congrArg List.getLast? names
    rw [List.getLast?_concat, List.getLast?_concat] at last
    exact absurd (Option.some.inj last).symm valid.notDot
  · rwa [List.append_nil] at names

private theorem route_foldl_append {base : RawText} {below : List RawText}
    (valid : ∀ n ∈ below, ValidName n) :
    route (below.foldl append base) = route base ++ below := by
  induction below generalizing base with
  | nil => rw [List.foldl_nil, List.append_nil]
  | cons name below ih =>
    rw [List.foldl_cons, ih fun n mem ↦ valid n (List.mem_cons_of_mem _ mem),
      route_append (valid name List.mem_cons_self), List.append_assoc, List.singleton_append]

private theorem eq_of_foldl_append_eq {base : RawText} {below below' : List RawText}
    (valid : ∀ n ∈ below, ValidName n) (valid' : ∀ n ∈ below', ValidName n)
    (same : below.foldl append base = below'.foldl append base) : below = below' := by
  have routes := congrArg route same
  rw [route_foldl_append valid, route_foldl_append valid'] at routes
  exact List.append_cancel_left routes

private theorem nameBytes_foldl_append_lt {base : RawText} {below below' : List RawText}
    (valid : ∀ n ∈ below, ValidName n) (valid' : ∀ n ∈ below', ValidName n)
    (less : below < below') :
    nameBytes (below.foldl append base) < nameBytes (below'.foldl append base) := by
  rw [nameBytes, nameBytes, route_foldl_append valid, route_foldl_append valid', List.map_append,
    List.map_append]
  exact List.append_left_lt (List.map_lt (fun _ _ ↦ RawText.lt_iff.mp) less)

end Path

private theorem isSourcePlace_iff {place : Place} :
    isSourcePlace place = true ↔ ∃ stem : RawText, stem ≠ "" ∧
      (place.getLast? = some (stem ++ ".c") ∨ place.getLast? = some (stem ++ ".C")) := by
  rw [isSourcePlace]
  cases place.getLast? with
  | none => simp
  | some name => rw [Option.any_some, Path.isCSourceName_iff]; simp

namespace FileSystem

variable {fs : FileSystem} {base : RawText} {dir : ValidPlace} {es : List (RawText × Entry)}

/-- Below a directory, exactly the files are listed whose last name is a stem, a dot and the letter
c in either case. Links are neither followed nor listed, and the paths increase strictly when they
are compared name by name, and names byte by byte. -/
theorem sources_listing (found : fs.find base = .ok (dir, .directory es)) :
    (∀ path, path ∈ fs.sources base ↔ ∃ below : Place, path = below.foldl Path.append base ∧
      (∃ content, fs.root.at? (dir.1 ++ below) = some (.file content)) ∧
      ∃ stem : RawText, stem ≠ "" ∧
        (below.getLast? = some (stem ++ ".c") ∨ below.getLast? = some (stem ++ ".C"))) ∧
    (∀ (front : Place) (target : RawText), fs.root.at? (dir.1 ++ front) = some (.link target) →
      ∀ behind : ValidPlace, (front ++ behind.1).foldl Path.append base ∉ fs.sources base) ∧
    (fs.sources base).Nodup ∧
    (fs.sources base).Pairwise fun a b ↦ Path.nameBytes a < Path.nameBytes b := by
  have there := (find_eq_ok_iff.mp found).2
  have wellFormed : (Entry.directory es).WellFormed := fs.wellFormed.of_at? there
  have increasing : (fs.sources base).Pairwise fun a b ↦ Path.nameBytes a < Path.nameBytes b := by
    have valid {below : Place} (mem : below ∈ sourcesOfEntries es) :
        ∀ n ∈ below, Path.ValidName n := validName_of_mem_sourcesOfEntries wellFormed mem
    rw [Entry.WellFormed] at wellFormed
    rw [sources, found, List.pairwise_map]
    exact (pairwise_sourcesOfEntries es wellFormed.1 wellFormed.2).imp_of_mem fun mem mem' less ↦
      Path.nameBytes_foldl_append_lt (valid mem) (valid mem') less
  refine ⟨fun path ↦ ?_, fun front target link behind listed ↦ ?_, ?_, increasing⟩
  · rw [mem_sources_iff_foldl_append found]
    simp only [isSourcePlace_iff]
  · obtain ⟨below, same, ⟨content, file⟩, -⟩ := (mem_sources_iff_foldl_append found).mp listed
    have valid : ∀ n ∈ front ++ behind.1, Path.ValidName n := by
      intro n mem
      rcases List.mem_append.mp mem with mem | mem
      · exact fs.wellFormed.validName_below link n mem
      · exact behind.2 n mem
    have valid' : ∀ n ∈ below, Path.ValidName n := fs.wellFormed.validName_below file
    obtain rfl := Path.eq_of_foldl_append_eq valid valid' same
    rw [← List.append_assoc, Entry.at?_append, link, Option.bind_some] at file
    cases names : behind.1 with
    | nil => rw [names] at file; cases file
    | cons => rw [names] at file; cases file
  · apply increasing.imp
    rintro a _ less rfl
    exact List.lt_irrefl _ less

/-! A directory is listed under the path of a link to it. -/

namespace Linked

/-- The directory has hidden files, directories and links, some of which have names of C sources. -/
def files : FileSystem :=
  let directory (fs : FileSystem) (place : ValidPlace) :=
    fs.put place (.directory []) empty.wellFormed
  let file (fs : FileSystem) (place : ValidPlace) :=
    fs.put place (.file "".toUTF8) (wellFormed_file _)
  let fs := directory (directory (directory empty ⟨["p"], by decide⟩) ⟨["p", "a"], by decide⟩)
    ⟨["p", "b.c"], by decide⟩
  let fs := file (file (file fs ⟨["p", ".c"], by decide⟩) ⟨["p", ".hidden.c"], by decide⟩)
    ⟨["p", "a.C"], by decide⟩
  let fs := file (file fs ⟨["p", "a", "z.c"], by decide⟩) ⟨["p", "b.c", "x.c"], by decide⟩
  let fs := fs.put ⟨["p", "l.c"], by decide⟩ (.link "a.C") (by rw [Entry.WellFormed]; decide)
  let fs := fs.put ⟨["p", "m"], by decide⟩ (.link "a") (by rw [Entry.WellFormed]; decide)
  fs.put ⟨["q"], by decide⟩ (.link "p") (by rw [Entry.WellFormed]; decide)

/-- What is in the directory. -/
def entries : List (RawText × Entry) :=
  [(".c", .file "".toUTF8), (".hidden.c", .file "".toUTF8),
    ("a", .directory [("z.c", .file "".toUTF8)]), ("a.C", .file "".toUTF8),
    ("b.c", .directory [("x.c", .file "".toUTF8)]), ("l.c", .link "a.C"), ("m", .link "a")]

/-- A file in a directory that has the name of a C source is listed, and what is behind a link is
not. -/
theorem sources_listing_linked :
    files.find "/q" = .ok (⟨["p"], by decide⟩, .directory entries) ∧
      files.sources "/q" = [↑"/q/.hidden.c", ↑"/q/a/z.c", ↑"/q/a.C", ↑"/q/b.c/x.c"] ∧
      ↑"/q/b.c/x.c" ∈ files.sources "/q" ∧ ↑"/q/m/z.c" ∉ files.sources "/q" ∧
      (files.sources "/q").Nodup ∧
      (files.sources "/q").Pairwise fun a b ↦ Path.nameBytes a < Path.nameBytes b := by
  have found : files.find "/q" = .ok (⟨["p"], by decide⟩, .directory entries) := rfl
  obtain ⟨listed, behindLinks, once, increasing⟩ := sources_listing found
  have inside := (listed "/q/b.c/x.c").mpr
    ⟨["b.c", "x.c"], by decide, ⟨"".toUTF8, rfl⟩, "x", by decide, .inl rfl⟩
  have outside := behindLinks ["m"] "a" rfl ⟨["z.c"], by decide⟩
  exact ⟨found, rfl, inside, outside, once, increasing⟩

end Linked

end FileSystem

end BuiltinAtlas
