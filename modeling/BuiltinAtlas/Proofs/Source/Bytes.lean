/-!
# Bytes as lists

What the operations on byte arrays do to the list of the bytes, and how such a list is cut into
stretches and patched.
-/

namespace BuiltinAtlas.Source

private theorem toListLoop_eq (b : ByteArray) (i : Nat) (r : List UInt8) :
    ByteArray.toList.loop b i r = r.reverse ++ b.data.toList.drop i := by
  induction i, r using ByteArray.toList.loop.induct b with
  | case1 i r more ih =>
    have inside : i < b.data.toList.length := by simpa using more
    have byte : b.get! i = b.data.toList[i] := by
      rw [Array.getElem_toList]
      exact getElem!_pos b.data i more
    rw [ByteArray.toList.loop.eq_def, if_pos more, ih, List.drop_eq_getElem_cons inside, byte,
      List.reverse_cons, List.append_assoc, List.singleton_append]
  | case2 i r done =>
    have outside : b.data.toList.length ≤ i := by simpa using done
    rw [ByteArray.toList.loop.eq_def, if_neg done, List.drop_of_length_le outside, List.append_nil]

/-- The list of the bytes. -/
theorem toList_eq (b : ByteArray) : b.toList = b.data.toList := by
  rw [ByteArray.toList, toListLoop_eq, List.reverse_nil, List.nil_append, List.drop_zero]

/-- There are as many bytes in the list. -/
@[simp] theorem length_toList (b : ByteArray) : b.toList.length = b.size := by
  rw [toList_eq, Array.length_toList, ByteArray.size_data]

/-- Byte arrays with the same bytes are equal. -/
theorem toList_inj {a b : ByteArray} : a.toList = b.toList ↔ a = b := by
  rw [toList_eq, toList_eq, Array.toList_inj]
  exact ⟨ByteArray.ext, congrArg _⟩

/-- Byte arrays are compared by their bytes. -/
theorem beq_eq_true_iff {a b : ByteArray} : (a == b) = true ↔ a = b := by
  cases a
  cases b
  constructor
  · intro same
    exact congrArg ByteArray.mk (eq_of_beq (α := Array UInt8) same)
  · intro same
    cases same
    exact beq_self_eq_true (α := Array UInt8) _

/-- The bytes of one array behind those of another. -/
@[simp] theorem toList_append (a b : ByteArray) : (a ++ b).toList = a.toList ++ b.toList := by
  simp only [toList_eq, ByteArray.toList_data_append]

/-- A byte of the list. -/
theorem getElem?_toList (b : ByteArray) (i : Nat) : b.toList[i]? = b[i]? := by
  rw [toList_eq, Array.getElem?_toList]
  rfl

/-- The stretch between two offsets. -/
def stretch (s : List UInt8) (start stop : Nat) : List UInt8 := (s.drop start).take (stop - start)

/-- The bytes between two offsets. -/
@[simp] theorem toList_extract (b : ByteArray) (start stop : Nat) :
    (b.extract start stop).toList = stretch b.toList start stop := by
  rw [toList_eq, toList_eq, ByteArray.data_extract, Array.toList_extract,
    List.extract_eq_take_drop, stretch]

variable {s fresh : List UInt8} {start stop i : Nat}

/-- A stretch within the bytes is as long as its offsets say. -/
theorem length_stretch (h : stop ≤ s.length) : (stretch s start stop).length = stop - start := by
  rw [stretch, List.length_take, List.length_drop]
  omega

private theorem stretch_eq_drop_take (s : List UInt8) (start stop : Nat) :
    stretch s start stop = (s.take stop).drop start := List.drop_take.symm

/-- The stretch from the first byte on. -/
theorem stretch_zero (s : List UInt8) (stop : Nat) : stretch s 0 stop = s.take stop := by
  rw [stretch, List.drop_zero, Nat.sub_zero]

/-- The stretch up to the last byte. -/
theorem stretch_length (s : List UInt8) (start : Nat) :
    stretch s start s.length = s.drop start := by
  rw [stretch, ← List.length_drop, List.take_length]

/-- A byte of a stretch. -/
theorem getElem?_stretch (h : start + i < stop) : (stretch s start stop)[i]? = s[start + i]? := by
  rw [stretch, List.getElem?_take_of_lt (by omega), List.getElem?_drop]

/-- A stretch of one byte. -/
theorem stretch_succ (s : List UInt8) (start : Nat) :
    stretch s start (start + 1) = s[start]?.toList := by
  rw [stretch, Nat.add_sub_cancel_left, List.take_one, List.head?_drop]

/-- A stretch is cut in two. -/
theorem stretch_append (first : start ≤ i) (second : i ≤ stop) :
    stretch s start stop = stretch s start i ++ stretch s i stop := by
  obtain ⟨k, rfl⟩ := Nat.exists_eq_add_of_le first
  obtain ⟨n, rfl⟩ := Nat.exists_eq_add_of_le second
  rw [stretch, stretch, stretch, Nat.add_sub_cancel_left, Nat.add_sub_cancel_left, Nat.add_assoc,
    Nat.add_sub_cancel_left, List.take_add, List.drop_drop]

/-- Bytes with others written over them from an offset on. -/
def patch (s : List UInt8) (start : Nat) (fresh : List UInt8) : List UInt8 :=
  s.take start ++ fresh ++ s.drop (start + fresh.length)

/-- A patch with as many bytes of one value as it hides keeps their number. -/
theorem count_patch {b : UInt8}
    (same : fresh.count b = (stretch s start (start + fresh.length)).count b) :
    (patch s start fresh).count b = s.count b := by
  have whole : s.take start ++ stretch s start (start + fresh.length) ++
      s.drop (start + fresh.length) = s := by
    rw [stretch, Nat.add_sub_cancel_left, ← List.take_add, List.take_append_drop]
  have parts := congrArg (List.count b) whole
  rw [List.count_append, List.count_append] at parts
  rw [patch, List.count_append, List.count_append, same, parts]

section Patch

variable (inside : start + fresh.length ≤ s.length)

include inside

/-- A patch keeps the length. -/
theorem length_patch : (patch s start fresh).length = s.length := by
  simp only [patch, List.length_append, List.length_take, List.length_drop]
  omega

private theorem take_patch (h : stop ≤ start) : (patch s start fresh).take stop = s.take stop := by
  have short : stop ≤ (s.take start).length := by
    rw [List.length_take]
    omega
  rw [patch, List.append_assoc, List.take_append_of_le_length short, List.take_take,
    Nat.min_eq_left h]

private theorem drop_patch (h : start + fresh.length ≤ stop) :
    (patch s start fresh).drop stop = s.drop stop := by
  have length : (s.take start ++ fresh).length = start + fresh.length := by
    rw [List.length_append, List.length_take]
    omega
  obtain ⟨k, rfl⟩ := Nat.exists_eq_add_of_le h
  rw [patch, ← length, List.drop_length_add_append, List.drop_drop]

/-- A byte that is not under a patch. -/
theorem getElem?_patch (h : i < start ∨ start + fresh.length ≤ i) :
    (patch s start fresh)[i]? = s[i]? := by
  rcases h with before | behind
  · rw [← List.getElem?_take_of_lt before, take_patch inside (Nat.le_refl start),
      List.getElem?_take_of_lt before]
  · rw [← Nat.add_zero i, ← List.getElem?_drop, drop_patch inside behind, List.getElem?_drop]

/-- A stretch in front of a patch. -/
theorem stretch_patch_of_le (h : stop ≤ start) :
    stretch (patch s start fresh) i stop = stretch s i stop := by
  rw [stretch_eq_drop_take, take_patch inside h, stretch_eq_drop_take]

/-- A patch is the fresh bytes. -/
theorem stretch_patch_self :
    stretch (patch s start fresh) start (start + fresh.length) = fresh := by
  have length : (s.take start).length = start := by
    rw [List.length_take]
    omega
  rw [stretch, patch, List.append_assoc, List.drop_left' length, Nat.add_sub_cancel_left,
    List.take_left]

end Patch

end BuiltinAtlas.Source
