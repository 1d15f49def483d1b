import BuiltinAtlas.Files.Path

/-!
# The directory around a path

`names_of_parent?`: the names on the way to the directory around a path are those on the way to the
path, up to where the last one stands. Empty names and names `.` may stand between; `segments` are
the names without the empty ones.
-/

namespace BuiltinAtlas.Path

open RawText (slash dot)

/-- The names between slashes. -/
def segments (cs : List UInt8) : List (List UInt8) := (splitNames [] cs).filter (· ≠ [])

/-- The name that a slash at the end of a path counts as. -/
def endName (path : RawText) : List RawText :=
  if path.toList.getLast? == some slash then ["."] else []

/-- The names of a path are its segments, and one more behind a slash. -/
theorem names_eq (path : RawText) :
    names path = (segments path.toList).map RawText.ofList ++ endName path := rfl

private theorem splitNames_append_slash (name cs ds : List UInt8) :
    splitNames name (cs ++ slash :: ds) = splitNames name cs ++ splitNames [] ds := by
  induction cs generalizing name with
  | nil => simp [splitNames]
  | cons c cs ih =>
    rw [List.cons_append, splitNames, splitNames]
    split
    · rw [ih, List.cons_append]
    · exact ih (c :: name)

/-- The names on both sides of a slash. -/
theorem segments_append_slash (cs ds : List UInt8) :
    segments (cs ++ slash :: ds) = segments cs ++ segments ds := by
  rw [segments, splitNames_append_slash, List.filter_append]
  rfl

private theorem splitNames_of_not_mem {name cs : List UInt8} (h : slash ∉ cs) :
    splitNames name cs = [name.reverse ++ cs] := by
  induction cs generalizing name with
  | nil => simp [splitNames]
  | cons c cs ih =>
    rw [List.mem_cons, not_or] at h
    rw [splitNames, if_neg (Ne.symm h.1), ih h.2]
    simp

/-- A name is its only name. -/
theorem segments_of_not_mem {cs : List UInt8} (h : slash ∉ cs) (hne : cs ≠ []) :
    segments cs = [cs] := by
  rw [segments, splitNames_of_not_mem h]
  simp [hne]

private theorem segments_trimReversed (cs : List UInt8) :
    ∃ n, segments cs.reverse =
      segments (trimReversed cs).reverse ++ List.replicate n [dot] := by
  have atSlash (rest : List UInt8) : segments (slash :: rest).reverse = segments rest.reverse := by
    rw [List.reverse_cons, segments_append_slash]
    exact List.append_nil _
  fun_induction trimReversed cs with
  | case1 => exact ⟨0, by simp⟩
  | case2 c rest trimmed ih =>
    obtain ⟨n, ih⟩ := ih
    rcases trimmed with ⟨rfl, -⟩ | ⟨rfl, first⟩
    · exact ⟨n, by rw [atSlash, ih]⟩
    · obtain ⟨rest, rfl⟩ := List.head?_eq_some_iff.mp first
      have atDot : segments (dot :: slash :: rest).reverse = segments rest.reverse ++ [[dot]] := by
        rw [List.reverse_cons, List.reverse_cons, List.append_assoc, List.singleton_append,
          segments_append_slash]
        rfl
      refine ⟨n + 1, ?_⟩
      rw [atDot, ← atSlash, ih, List.append_assoc, List.replicate_succ']
  | case3 => exact ⟨0, by simp⟩

private theorem trimReversed_eq_slash {cs rest : List UInt8} (h : trimReversed cs = slash :: rest) :
    rest = [] := by
  fun_induction trimReversed cs with
  | case1 => cases h
  | case2 _ _ _ ih => exact ih h
  | case3 c cs kept =>
    obtain ⟨rfl, rfl⟩ := List.cons.inj h
    exact Decidable.byContradiction fun notEmpty ↦ kept (.inl ⟨rfl, notEmpty⟩)

private theorem trimReversed_isSuffix (cs : List UInt8) : trimReversed cs <:+ cs := by
  fun_induction trimReversed cs with
  | case1 => exact List.suffix_rfl
  | case2 _ _ _ ih => exact ih.trans (List.suffix_cons _ _)
  | case3 => exact List.suffix_rfl

private theorem trimReversed_trimReversed (cs : List UInt8) :
    trimReversed (trimReversed cs) = trimReversed cs := by
  fun_induction trimReversed cs with
  | case1 => rfl
  | case2 _ _ _ ih => exact ih
  | case3 c rest kept => rw [trimReversed, if_neg kept]

/-- Where nothing is left that does not count, there are no slashes to drop. -/
theorem trimSlashesReversed_of_trimReversed {cs : List UInt8} (h : trimReversed cs = cs) :
    trimSlashesReversed cs = cs := by
  fun_cases trimSlashesReversed cs with
  | case1 => rfl
  | case2 c rest dropped =>
    rw [trimReversed, if_pos (.inl dropped)] at h
    have shorter := (trimReversed_isSuffix rest).length_le
    rw [h] at shorter
    exact absurd shorter (Nat.not_succ_le_self _)
  | case3 => rfl

private theorem exists_of_parent?_eq_some {path around : RawText} (h : parent? path = some around) :
    ∃ cs, trimReversed path.toList.reverse = cs ∧ cs ≠ [] ∧ cs ≠ [slash] ∧
      around = RawText.ofList (trimReversed (cs.dropWhile (· != slash))).reverse := by
  refine ⟨_, rfl, ?_⟩
  rw [parent?] at h
  split at h
  · cases h
  · next proper =>
    rw [not_or] at proper
    exact ⟨proper.1, proper.2, (Option.some.inj h).symm⟩

/-- What is around a path is the beginning of it. -/
theorem isPrefix_of_parent? {path around : RawText} (h : parent? path = some around) :
    around.toList <+: path.toList := by
  obtain ⟨cs, rfl, -, -, rfl⟩ := exists_of_parent?_eq_some h
  rw [RawText.toList_ofList, ← List.reverse_suffix, List.reverse_reverse]
  exact ((trimReversed_isSuffix _).trans (List.dropWhile_suffix _)).trans (trimReversed_isSuffix _)

/-- What is around a path does not end with slashes. -/
theorem trimSlashes_of_parent? {path around : RawText} (h : parent? path = some around) :
    trimSlashes around = around := by
  obtain ⟨cs, -, -, -, rfl⟩ := exists_of_parent?_eq_some h
  rw [trimSlashes, RawText.toList_ofList, List.reverse_reverse,
    trimSlashesReversed_of_trimReversed (trimReversed_trimReversed _)]

/-- The directories around a path do not end with slashes. -/
theorem trimSlashes_of_mem_withParents {path : RawText} (fuel : Nat)
    (trimmed : trimSlashes path = path) :
    ∀ around ∈ withParents fuel path, trimSlashes around = around := by
  induction fuel generalizing path with
  | zero => exact nofun
  | succ fuel ih =>
    intro around mem
    rw [withParents] at mem
    split at mem
    · cases mem
    · rcases List.mem_cons.mp mem with rfl | mem
      · exact trimmed
      · cases parent : parent? path with
        | none =>
          rw [parent] at mem
          cases mem
        | some outer =>
          rw [parent] at mem
          exact ih (trimSlashes_of_parent? parent) around mem

/-- What is around a path ends with a slash only if it is the root. -/
theorem eq_root_of_parent? {path around : RawText} (h : parent? path = some around)
    (last : around.toList.getLast? = some slash) : around = "/" := by
  obtain ⟨cs, -, -, -, rfl⟩ := exists_of_parent?_eq_some h
  rw [RawText.toList_ofList, List.getLast?_reverse] at last
  obtain ⟨rest, hrest⟩ := List.head?_eq_some_iff.mp last
  rw [hrest, trimReversed_eq_slash hrest]
  rfl

private theorem dropWhile_ne_slash (cs : List UInt8) :
    cs.dropWhile (· != slash) = [] ∨
      ∃ name rest, cs = name ++ slash :: rest ∧ slash ∉ name ∧
        cs.dropWhile (· != slash) = slash :: rest := by
  induction cs with
  | nil => exact .inl rfl
  | cons c cs ih =>
    by_cases atSlash : c = slash
    · subst atSlash
      exact .inr ⟨[], cs, rfl, List.not_mem_nil, rfl⟩
    · have skip : (c :: cs).dropWhile (· != slash) = cs.dropWhile (· != slash) := by
        simp [atSlash]
      rw [skip]
      rcases ih with none | ⟨name, rest, split, noSlash, back⟩
      · exact .inl none
      · refine .inr ⟨c :: name, rest, by rw [split, List.cons_append], ?_, back⟩
        rw [List.mem_cons, not_or]
        exact ⟨Ne.symm atSlash, noSlash⟩

/-- The names of a path are those of what is around it, and more. -/
theorem names_of_parent? {path around : RawText} (h : parent? path = some around)
    (hne : around ≠ "") :
    ∃ back, back ≠ [] ∧
      names path = (segments around.toList).map RawText.ofList ++ back := by
  obtain ⟨cs, hcs, -, notRoot, rfl⟩ := exists_of_parent?_eq_some h
  obtain ⟨n, atEnd⟩ := segments_trimReversed path.toList.reverse
  obtain ⟨m, between⟩ := segments_trimReversed (cs.dropWhile (· != slash))
  rcases dropWhile_ne_slash cs with none | ⟨name, rest, split, noSlash, back⟩
  · exact absurd (by rw [none]; rfl) hne
  · have hname : name ≠ [] := by
      rintro rfl
      rw [split] at hcs notRoot
      rw [trimReversed_eq_slash hcs] at notRoot
      exact notRoot rfl
    have last : segments name.reverse = [name.reverse] :=
      segments_of_not_mem (by simpa using noSlash) (by simpa using hname)
    have front : segments cs.reverse = segments (slash :: rest).reverse ++ [name.reverse] := by
      rw [split, List.reverse_append, List.reverse_cons, List.append_assoc, List.singleton_append,
        segments_append_slash, segments_append_slash, last]
      simp [segments, splitNames]
    rw [List.reverse_reverse, hcs, front, ← back, between] at atEnd
    rw [RawText.toList_ofList]
    refine ⟨(List.replicate m [dot] ++ name.reverse :: List.replicate n [dot]).map RawText.ofList ++
      endName path, by simp, ?_⟩
    rw [names_eq, atEnd]
    simp

end BuiltinAtlas.Path
