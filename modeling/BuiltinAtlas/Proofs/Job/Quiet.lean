import BuiltinAtlas.Proofs.Job.Run

/-!
# Jobs that leave the world alone

`Job.Quiet` says that a job changes no file and reports nothing, whether it succeeds or fails. A job
is quiet if it is put together from quiet ones.
-/

namespace BuiltinAtlas.Job

variable {α β : Type}

/-- A job leaves the world alone, whatever comes of it. -/
def Quiet (t : Job α) : Prop := ∀ w, (t.runOn w).2 = w

namespace Quiet

/-- A result needs no work. -/
theorem pure (a : α) : Quiet (Pure.pure a : Job α) := fun _ ↦ rfl

/-- A failure is quiet. -/
theorem fail (f : Failure) : Quiet (Job.fail f : Job α) := fun _ ↦ rfl

/-- Looking at the files is quiet. -/
theorem files : Quiet Job.files := fun _ ↦ rfl

/-- A result that is there already needs no work. -/
theorem ofExcept {ε : Type} (r : Except ε α) (failure : ε → Failure) :
    Quiet (Job.ofExcept r failure) :=
  fun w ↦ by rw [runOn_ofExcept]

/-- Quiet jobs may follow each other. -/
theorem bind {t : Job α} {next : α → Job β} (first : Quiet t) (rest : ∀ a, Quiet (next a)) :
    Quiet (t >>= next) := by
  intro w
  have same := first w
  rw [runOn_bind]
  rcases done : t.runOn w with ⟨f | a, w'⟩
  · rw [done] at same
    exact same
  · rw [done] at same
    cases same
    exact rest a w'

/-- What comes of a quiet job may be worked on. -/
theorem map {t : Job α} (first : Quiet t) (f : α → β) : Quiet (do return f (← t)) :=
  first.bind fun a ↦ .pure (f a)

end Quiet

end BuiltinAtlas.Job
