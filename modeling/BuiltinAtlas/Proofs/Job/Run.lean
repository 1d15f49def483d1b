import BuiltinAtlas.Job.Basic

/-!
# Running jobs

What each job does to a world, and the rule for one job after the other. When the first one fails,
the second one is not begun.
-/

namespace BuiltinAtlas.Job

variable {α β : Type}

/-- One job after the other. -/
theorem runOn_bind (t : Job α) (next : α → Job β) (w : World) :
    (t >>= next).runOn w =
      match t.runOn w with
      | (.ok a, w) => (next a).runOn w
      | (.error f, w) => (.error f, w) := by
  simp only [runOn, ExceptT.run_bind, StateT.run_bind]
  change (match t.run.run w with | (r, w) => _) = _
  generalize t.run.run w = done
  rcases done with ⟨_ | a, w⟩ <;> rfl

/-- A result without work. -/
theorem runOn_pure (a : α) (w : World) : (pure a : Job α).runOn w = (.ok a, w) := rfl

/-- A failure leaves the world alone. -/
theorem runOn_fail (f : Failure) (w : World) : (fail f : Job α).runOn w = (.error f, w) := rfl

/-- The files are those of the world. -/
theorem runOn_files (w : World) : files.runOn w = (.ok w.files, w) := rfl

/-- A report leaves the files alone. -/
theorem runOn_note (e : Event) (w : World) :
    (note e).runOn w = (.ok (), { w with events := w.events ++ [e] }) := rfl

/-- A result that is there already. -/
theorem runOn_ofExcept {ε : Type} (r : Except ε α) (failure : ε → Failure) (w : World) :
    (ofExcept r failure).runOn w = (r.mapError failure, w) := by
  cases r <;> rfl

/-- A failure is not reported of a value. -/
theorem mapError_ok {ε : Type} (failure : ε → Failure) (a : α) :
    (Except.ok a).mapError failure = .ok a := rfl

/-- A failed change leaves the world alone. -/
theorem runOn_change (operation : FileSystem → Except FileError FileSystem)
    (failure : FileError → Failure) (w : World) :
    (change operation failure).runOn w =
      match operation w.files with
      | .ok fs => (.ok (), { w with files := fs })
      | .error e => (.error (failure e), w) := by
  simp only [change, runOn_bind, runOn_files, runOn_ofExcept]
  cases operation w.files <;> rfl

/-- Directories that were created stay even if that fails. -/
theorem runOn_createDirectoryAll (path : RawText) (failure : FileError → Failure) (w : World) :
    (createDirectoryAll path failure).runOn w =
      match w.files.createDirectoryAll path with
      | (result, fs) => (result.mapError failure, { w with files := fs }) := by
  simp only [createDirectoryAll, runOn_bind, runOn_files]
  rcases w.files.createDirectoryAll path with ⟨_ | _, fs⟩ <;> rfl

/-- Several reports leave the files alone. -/
theorem runOn_forM_note (xs : List α) (event : α → Event) (w : World) :
    (xs.forM fun x ↦ note (event x)).runOn w =
      (.ok (), { w with events := w.events ++ xs.map event }) := by
  induction xs generalizing w with
  | nil => simp [List.forM, runOn_pure]
  | cons x xs ih =>
    rw [List.forM, runOn_bind, runOn_note]
    simp only [ih, List.append_assoc, List.singleton_append, List.map_cons]

/-- Nothing to do. -/
theorem runOn_mapM_nil (t : α → Job β) (w : World) :
    (([] : List α).mapM t).runOn w = (.ok [], w) := by
  rw [List.mapM_nil]
  rfl

/-- Jobs are done one after the other, until one fails. -/
theorem runOn_mapM_cons (t : α → Job β) (x : α) (xs : List α) (w : World) :
    ((x :: xs).mapM t).runOn w =
      match (t x).runOn w with
      | (.ok b, w) =>
        match (xs.mapM t).runOn w with
        | (.ok bs, w) => (.ok (b :: bs), w)
        | (.error f, w) => (.error f, w)
      | (.error f, w) => (.error f, w) := by
  rw [List.mapM_cons, runOn_bind]
  rcases (t x).runOn w with ⟨_ | b, w⟩
  · rfl
  · simp only [runOn_bind]
    rcases (xs.mapM t).runOn w with ⟨_ | bs, w⟩ <;> rfl

/-- Jobs fail at the first one that does, whatever would follow. -/
theorem runOn_mapM_eq_error_iff {t : α → Job β} {xs : List α} {w w' : World} {f : Failure} :
    (xs.mapM t).runOn w = (.error f, w') ↔
      ∃ before x after bs v, xs = before ++ x :: after ∧
        (before.mapM t).runOn w = (.ok bs, v) ∧ (t x).runOn v = (.error f, w') := by
  constructor
  · intro failed
    induction xs generalizing w with
    | nil =>
      rw [runOn_mapM_nil] at failed
      cases failed
    | cons x xs ih =>
      rw [runOn_mapM_cons] at failed
      split at failed
      · next b v first =>
        split at failed
        · cases failed
        · next f' later rest =>
          cases failed
          obtain ⟨before, y, after, bs, u, rfl, done, last⟩ := ih rest
          refine ⟨x :: before, y, after, b :: bs, u, rfl, ?_, last⟩
          rw [runOn_mapM_cons, first]
          simp only [done]
      · next f' v first =>
        cases failed
        exact ⟨[], x, xs, [], w, rfl, runOn_mapM_nil t w, first⟩
  · rintro ⟨before, x, after, bs, v, rfl, done, failed⟩
    induction before generalizing w bs with
    | nil =>
      rw [runOn_mapM_nil] at done
      cases done
      rw [List.nil_append, runOn_mapM_cons, failed]
    | cons y before ih =>
      rw [runOn_mapM_cons] at done
      rw [List.cons_append, runOn_mapM_cons]
      split at done
      · next b u first =>
        split at done
        · next cs v' rest =>
          cases done
          simp only [ih cs rest]
        · cases done
      · cases done

/-- A result is told by its value. -/
theorem ok_of_toOption {ε : Type} {result : Except ε α} {a : α} (h : result.toOption = some a) :
    result = .ok a := by
  cases result with
  | error => cases h
  | ok b => rw [Option.some.inj h]

/-- What comes of a job is told by its result, if there is one. -/
theorem eq_ok_of_toOption {ε : Type} {outcome : Except ε α × β} {a : α}
    (h : outcome.1.toOption = some a) : outcome = (.ok a, outcome.2) :=
  Prod.ext (ok_of_toOption h) rfl

end BuiltinAtlas.Job
