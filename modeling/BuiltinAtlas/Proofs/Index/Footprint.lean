import BuiltinAtlas.Proofs.Files.Touches
import BuiltinAtlas.Proofs.Index.Indexing

/-!
# What indexing touches

Whether it succeeds or not, an indexing run changes nothing but the index file, and directories
around its path that were missing.
-/

namespace BuiltinAtlas

variable {reader : FileReader} {index path : RawText} {w w' : World}

namespace FileSystem

/-- Nothing but the index file and missing directories around its path changes. -/
abbrev TouchesIndex (index : RawText) : FileSystem → FileSystem → Prop :=
  Touches (· = index) (Path.Encloses index)

private theorem touches_prepareAround (files : RawText → Prop) (fs : FileSystem) (index : RawText) :
    fs.Touches files (Path.Encloses index) (fs.prepareAround index).2 := by
  rw [prepareAround]
  split
  · exact .refl _ _ fs
  · next around parent =>
    split
    · exact .refl _ _ fs
    · have made : fs.Touches files (Path.Encloses index)
          (fs.createDirectories (Path.withParents (around.size + 1) around)).2 :=
        .createDirectories fs fun path mem ↦
          ⟨(Path.Encloses.parent parent).of_mem_withParents mem,
            Path.trimSlashes_of_mem_withParents _ (Path.trimSlashes_of_parent? parent) path mem⟩
      rw [createDirectoryAll]
      split
      · next created =>
        rw [created] at made
        exact made
      · next created =>
        rw [created] at made
        exact made

private theorem touches_save (fs : FileSystem) (index : RawText) (content : ByteArray) :
    fs.TouchesIndex index (fs.save index content).2 := by
  have prepared := touches_prepareAround (· = index) fs index
  rw [save]
  split
  · next made =>
    rw [made] at prepared
    exact prepared
  · next made =>
    rw [made] at prepared
    split
    · next written => exact prepared.trans (.write rfl written)
    · exact prepared

end FileSystem

private theorem touches_indexPath (reader : FileReader) (index path : RawText) (w : World) :
    w.files.TouchesIndex index ((indexPath reader index path).runOn w).2.files := by
  have same : w.files.TouchesIndex index w.files := .refl _ _ _
  rw [indexPath_runOn]
  split
  · split
    · exact same
    · next root _ =>
      split
      · exact same
      · next a _ =>
        have touched :=
          w.files.touches_save index (w.files.runOver reader root a).atlas.write.toUTF8
        simp only [saveAtlas_runOn_save]
        split
        · next saved =>
          obtain ⟨-, rfl⟩ := Prod.mk.inj saved
          exact touched
        · next saved =>
          obtain ⟨-, rfl⟩ := Prod.mk.inj saved
          exact touched
  · exact same

/-- So do several runs, of which the last one may fail. -/
theorem touches_indexPaths (reader : FileReader) (index : RawText) (paths : List RawText)
    (w : World) :
    w.files.TouchesIndex index ((indexPaths reader index paths).runOn w).2.files := by
  rw [indexPaths]
  induction paths generalizing w with
  | nil =>
    rw [Job.runOn_mapM_nil]
    exact .refl _ _ _
  | cons path paths ih =>
    have first := touches_indexPath reader index path w
    rw [Job.runOn_mapM_cons]
    split
    · next report w₁ done =>
      rw [done] at first
      have others := ih w₁
      split
      · next rest =>
        rw [rest] at others
        exact first.trans others
      · next rest =>
        rw [rest] at others
        exact first.trans others
    · next failed =>
      rw [failed] at first
      exact first

end BuiltinAtlas
