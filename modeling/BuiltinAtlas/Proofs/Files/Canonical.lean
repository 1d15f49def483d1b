import BuiltinAtlas.Proofs.Files.Location

/-!
# Canonical paths

A canonical path is `Path.ofNames` of valid names. It tells these names, joining one more name gives
the canonical path with that name, and it leads to the file or directory that is there
(`FileSystem.find_ofNames`).
-/

namespace BuiltinAtlas

open RawText (slash dot)

namespace Path

/-- The bytes of a canonical path, where that of the root is left out. -/
def spelled (ns : List RawText) : List UInt8 := ns.flatMap fun n ↦ slash :: n.toList

private theorem toList_ofNames {ns : List RawText} (h : ns ≠ []) :
    (ofNames ns).toList = spelled ns := by
  cases ns with
  | nil => exact absurd rfl h
  | cons n ns => rfl

private theorem segments_cons_slash (cs : List UInt8) : segments (slash :: cs) = segments cs :=
  segments_append_slash [] cs

private theorem segments_of_validName {n : RawText} (h : ValidName n) :
    segments n.toList = [n.toList] :=
  segments_of_not_mem h.noSlash fun same ↦ h.notEmpty (RawText.toList_eq_nil_iff.mp same)

private theorem segments_spelled {ns : List RawText} (h : ∀ n ∈ ns, ValidName n) :
    segments (spelled ns) = ns.map RawText.toList := by
  induction ns with
  | nil => rfl
  | cons n ns ih =>
    have here := segments_of_validName (h n List.mem_cons_self)
    have rest := ih fun m hm ↦ h m (List.mem_cons_of_mem _ hm)
    have spell : spelled (n :: ns) = slash :: (n.toList ++ spelled ns) := rfl
    rw [spell, segments_cons_slash, List.map_cons, ← rest]
    cases ns with
    | nil =>
      rw [spelled, List.flatMap_nil, List.append_nil, here]
      rfl
    | cons m ms =>
      have spell : spelled (m :: ms) = slash :: (m.toList ++ spelled ms) := rfl
      rw [spell, segments_append_slash, segments_cons_slash, here]
      rfl

private theorem segments_ofNames {ns : List RawText} (h : ∀ n ∈ ns, ValidName n) :
    segments (ofNames ns).toList = ns.map RawText.toList := by
  by_cases empty : ns = []
  · subst empty
    rfl
  · rw [toList_ofNames empty, segments_spelled h]

/-- Canonical paths are equal only if their names are. -/
theorem eq_of_ofNames_eq {ns ms : List RawText} (hns : ∀ n ∈ ns, ValidName n)
    (hms : ∀ n ∈ ms, ValidName n) (h : ofNames ns = ofNames ms) : ns = ms := by
  have same : ns.map RawText.toList = ms.map RawText.toList := by
    rw [← segments_ofNames hns, ← segments_ofNames hms, h]
  exact (List.map_inj_right fun _ _ ↦ RawText.toList_inj.mp).mp same

private theorem toList_ofNames_append (ns : List RawText) (n : RawText) :
    (ofNames (ns ++ [n])).toList = spelled ns ++ slash :: n.toList := by
  rw [toList_ofNames (by simp), spelled, List.flatMap_append, List.flatMap_singleton, spelled]

private theorem getLast?_ofNames (ns : List RawText) {n : RawText} (h : ValidName n) :
    (ofNames (ns ++ [n])).toList.getLast? ≠ some slash := by
  intro atEnd
  have nonempty : n.toList ≠ [] := fun same ↦ h.notEmpty (RawText.toList_eq_nil_iff.mp same)
  rw [toList_ofNames_append, List.append_cons, List.getLast?_append] at atEnd
  cases hlast : n.toList.getLast? with
  | none => exact nonempty (List.getLast?_eq_none_iff.mp hlast)
  | some c =>
    rw [hlast, Option.some_or] at atEnd
    exact h.noSlash (List.mem_of_getLast? (hlast.trans atEnd))

/-- A canonical path is not empty. -/
theorem ofNames_ne_empty (ns : List RawText) : ofNames ns ≠ "" := by
  rcases List.eq_nil_or_concat ns with rfl | ⟨front, last, rfl⟩
  · decide
  · intro same
    have chars := congrArg RawText.toList same
    rw [List.concat_eq_append, toList_ofNames_append] at chars
    simp at chars

/-- A canonical path has no byte that no name can have. -/
theorem noNul_ofNames {ns : List RawText} (h : ∀ n ∈ ns, ValidName n) :
    0 ∉ (ofNames ns).toList := by
  by_cases empty : ns = []
  · subst empty
    decide
  · rw [toList_ofNames empty, spelled, List.mem_flatMap]
    rintro ⟨n, hn, nul⟩
    rcases List.mem_cons.mp nul with zero | nul
    · exact absurd zero (by decide)
    · exact (h n hn).noNul nul

private theorem names_ofNames {ns : List RawText} {n : RawText} (h : ∀ m ∈ ns ++ [n], ValidName m) :
    names (ofNames (ns ++ [n])) = ns ++ [n] := by
  have noSlash := getLast?_ofNames ns (h n (by simp))
  rw [names_eq, segments_ofNames h, endName, if_neg (by simpa using noSlash), List.append_nil,
    List.map_map]
  simp

/-- A valid name stands at the end of a path as it is. -/
theorem trimReversed_of_validName {n : RawText} (h : ValidName n) (cs : List UInt8) :
    trimReversed (n.toList.reverse ++ slash :: cs) = n.toList.reverse ++ slash :: cs := by
  cases hback : n.toList.reverse with
  | nil => exact absurd (RawText.toList_eq_nil_iff.mp (List.reverse_eq_nil_iff.mp hback)) h.notEmpty
  | cons c back =>
    have chars : n.toList = back.reverse ++ [c] := by
      rw [← List.reverse_reverse n.toList, hback, List.reverse_cons]
    have hc : c ≠ slash := by
      rintro rfl
      exact h.noSlash (by simp [chars])
    rw [List.cons_append, trimReversed, if_neg]
    rintro (⟨rfl, -⟩ | ⟨rfl, behind⟩)
    · exact hc rfl
    · cases back with
      | nil => exact h.notDot (RawText.toList_inj.mp chars)
      | cons d back =>
        obtain rfl : d = slash := Option.some.inj behind
        exact h.noSlash (by simp [chars])

private theorem name?_ofNames (ns : List RawText) {n : RawText} (h : ValidName n) :
    name? (ofNames (ns ++ [n])) = some n := by
  have reversed : (ofNames (ns ++ [n])).toList.reverse =
      n.toList.reverse ++ slash :: (spelled ns).reverse := by
    rw [toList_ofNames_append]
    simp
  have taken : (n.toList.reverse ++ slash :: (spelled ns).reverse).takeWhile (· != slash) =
      n.toList.reverse := by
    rw [List.takeWhile_append_of_pos]
    · simp
    · intro c hc
      simp only [bne_iff_ne, ne_eq]
      rintro rfl
      exact h.noSlash (List.mem_reverse.mp hc)
  rw [name?, reversed, trimReversed_of_validName h, taken,
    List.reverse_reverse, RawText.ofList_toList]
  rw [if_neg]
  rintro (same | same | same)
  · exact h.notEmpty (RawText.toList_eq_nil_iff.mp same)
  · exact h.notDot (RawText.toList_inj.mp same)
  · exact h.notDots (RawText.toList_inj.mp same)

/-- Whether a canonical path is that of a C source depends on its last name. -/
theorem isCSource_ofNames (ns : List RawText) {n : RawText} (h : ValidName n) :
    isCSource (ofNames (ns ++ [n])) = isCSourceName n := by
  rw [isCSource, name?_ofNames ns h, Option.any_some]

private theorem append_ofNames {ns : List RawText} {n : RawText} (hns : ∀ m ∈ ns, ValidName m)
    (h : ValidName n) : append (ofNames ns) n = ofNames (ns ++ [n]) := by
  have relative : isAbsolute n = false := by
    rw [isAbsolute, beq_eq_false_iff_ne]
    intro slash
    exact h.noSlash (List.mem_of_head? slash)
  apply RawText.toList_inj.mp
  rw [toList_ofNames_append, append, relative]
  rcases List.eq_nil_or_concat ns with rfl | ⟨front, last, rfl⟩
  · simp [ofNames, spelled]
  · rw [List.concat_eq_append] at hns ⊢
    have noSlash := getLast?_ofNames front (hns last (by simp))
    rw [if_neg Bool.false_ne_true, if_neg (by simp [noSlash, ofNames_ne_empty]),
      RawText.toList_append, RawText.toList_append, toList_ofNames (by simp)]
    simp

/-- Names are joined to a canonical path one after the other. -/
theorem foldl_append_ofNames {ns ms : List RawText} (hns : ∀ n ∈ ns, ValidName n)
    (hms : ∀ m ∈ ms, ValidName m) : ms.foldl append (ofNames ns) = ofNames (ns ++ ms) := by
  induction ms generalizing ns with
  | nil => rw [List.foldl_nil, List.append_nil]
  | cons m ms ih =>
    have hm := hms m List.mem_cons_self
    have more : ∀ n ∈ ns ++ [m], ValidName n := by
      intro n hn
      rcases List.mem_append.mp hn with hn | hn
      · exact hns n hn
      · exact List.mem_singleton.mp hn ▸ hm
    rw [List.foldl_cons, append_ofNames hns hm,
      ih more fun x hx ↦ hms x (List.mem_cons_of_mem _ hx),
      List.append_assoc, List.singleton_append]

end Path

namespace FileSystem

open Entry (DirectoryAt)

private theorem walkNames_of_at? {root x : Entry} {followLast : Bool} {place : Place}
    {follow : Place → List RawText → Except FileError Place} {names : List RawText}
    (valid : ∀ n ∈ names, Path.ValidName n) (there : root.at? (place ++ names) = some x)
    (noLink : ∀ target, x ≠ .link target) :
    walkNames root followLast follow place names = .ok (place ++ names) := by
  induction names generalizing place with
  | nil => rw [walkNames, List.append_nil]
  | cons name rest ih =>
    have here := valid name List.mem_cons_self
    rw [walkNames_cons here.notDot here.notDots (Nat.not_lt.mpr here.short)]
    cases rest with
    | nil =>
      rw [there]
      cases x with
      | file => rfl
      | link target => exact absurd rfl (noLink target)
      | directory => simp only [walkNames]
    | cons next rest =>
      rw [List.append_cons] at there
      obtain ⟨es, directory⟩ := DirectoryAt.of_append there (List.cons_ne_nil _ _)
      have later := ih (fun n hn ↦ valid n (List.mem_cons_of_mem _ hn)) there
      rw [← List.append_cons] at later
      rw [directory]
      exact later

/-- A canonical path leads to the file or directory that is there. -/
theorem walk_ofNames {root x : Entry} {followLast : Bool} {links : Nat} {ns : Place}
    (valid : ∀ n ∈ ns, Path.ValidName n) (there : root.at? ns = some x)
    (noLink : ∀ target, x ≠ .link target) :
    walk root followLast links [] (Path.names (Path.ofNames ns)) = .ok ns := by
  have walked : walk root followLast links [] ns = .ok ns := by
    rw [← List.nil_append ns] at there
    cases links with
    | zero => exact walkNames_of_at? valid there noLink
    | succ => exact walkNames_of_at? valid there noLink
  rcases List.eq_nil_or_concat ns with rfl | ⟨front, last, rfl⟩
  · have names : Path.names (Path.ofNames []) = [RawText.ofText "."] := by decide
    rw [names, walk_dot]
    exact walked
  · rw [List.concat_eq_append] at valid walked ⊢
    rw [Path.names_ofNames valid]
    exact walked

/-- A canonical path starts at the root. -/
theorem start_ofNames (fs : FileSystem) (ns : List RawText) :
    fs.start (Path.ofNames ns) = .root := by
  have absolute : Path.isAbsolute (Path.ofNames ns) = true := by
    cases ns with
    | nil => rfl
    | cons n ns =>
      rw [Path.isAbsolute, Path.toList_ofNames (List.cons_ne_nil _ _)]
      rfl
  rw [start, if_pos absolute]

/-- A file or directory is found under its canonical path. -/
theorem find_ofNames {fs : FileSystem} {place : ValidPlace} {x : Entry}
    (root : fs.root.DirectoryAt []) (there : fs.root.at? place.1 = some x)
    (noLink : ∀ target, x ≠ .link target) :
    fs.find (Path.ofNames place.1) = .ok (place, x) := by
  refine find_eq_ok_iff.mpr ⟨locate_eq_ok_iff.mpr ⟨?_, ?_, ?_, ?_⟩, there⟩
  · exact Path.noNul_ofNames place.2
  · exact Path.ofNames_ne_empty place.1
  · rw [start_ofNames]
    exact root
  · rw [start_ofNames]
    exact walk_ofNames place.2 there noLink

/-- Where a path leads to something, the root is a directory. -/
theorem root_of_find {fs : FileSystem} {path : RawText} {place : ValidPlace} {x : Entry}
    (h : fs.find path = .ok (place, x)) : fs.root.DirectoryAt [] :=
  (locate_eq_ok_iff.mp (find_eq_ok_iff.mp h).1).start.root

/-- What is found is found under its canonical path. -/
theorem find_ofNames_of_find {fs : FileSystem} {path : RawText} {place : ValidPlace} {x : Entry}
    (h : fs.find path = .ok (place, x)) : fs.find (Path.ofNames place.1) = .ok (place, x) :=
  find_ofNames (root_of_find h) (find_eq_ok_iff.mp h).2 (ne_link_of_find h)

/-- A canonical path of a directory is that of its place, and leads to the directory. -/
theorem exists_find_of_canonicalPath {fs : FileSystem} {path root : RawText}
    (canonical : fs.canonicalPath path = .ok root) (directory : fs.isDirectory root = true) :
    ∃ (place : ValidPlace) (es : List (RawText × Entry)), root = Path.ofNames place.1 ∧
      fs.find path = .ok (place, .directory es) ∧
      fs.find (Path.ofNames place.1) = .ok (place, .directory es) := by
  obtain ⟨place, x, led, rfl⟩ := canonicalPath_eq_ok_iff.mp canonical
  have leads := find_ofNames_of_find led
  obtain ⟨place', es, leads'⟩ := isDirectory_iff.mp directory
  cases leads.symm.trans leads'
  exact ⟨place, es, rfl, led, leads⟩

/-- A canonical path leads to its place, if a file or directory is there and it leads anywhere. -/
theorem place_of_find_ofNames {fs : FileSystem} {place found : ValidPlace} {x y : Entry}
    (h : fs.find (Path.ofNames place.1) = .ok (found, y))
    (there : fs.root.at? place.1 = some x) (noLink : ∀ target, x ≠ .link target) :
    found = place ∧ y = x := by
  cases h.symm.trans (find_ofNames (root_of_find h) there noLink)
  exact ⟨rfl, rfl⟩

end FileSystem

end BuiltinAtlas
