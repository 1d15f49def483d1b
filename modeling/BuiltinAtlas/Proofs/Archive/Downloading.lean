import BuiltinAtlas.Proofs.Archive.Installing
import BuiltinAtlas.Proofs.Files.Removed

/-!
# What downloading an archive leaves behind

An archive is fetched into a directory of its own. Whatever comes of fetching and installing it,
that directory is gone afterwards; if no archive was obtained, nothing else was touched; and a
member that fails leaves the files as if the archive had ended in front of it, except for the file
of that member (`downloadIndexes_tidy`). All that happens in between lets the file system grow
(`Job.Growing`), so that the directory is still there when it is to be removed.
-/

namespace BuiltinAtlas

/-! ### Jobs that remove nothing -/

/-- Files are written and directories are created, but nothing goes away. -/
structure FileSystem.Grows (fs fs' : FileSystem) : Prop where
  stays (place : Place) : Entry.Stays True (fs.root.at? place) (fs'.root.at? place)
  workingDirectory : fs'.workingDirectory = fs.workingDirectory

namespace FileSystem.Grows

variable {fs fs' fs'' : FileSystem}

/-- Nothing goes away if nothing is done. -/
theorem refl (fs : FileSystem) : fs.Grows fs := ⟨fun _ ↦ .same _, rfl⟩

/-- Nothing goes away in two steps. -/
theorem trans (h : fs.Grows fs') (h' : fs'.Grows fs'') : fs.Grows fs'' :=
  ⟨fun place ↦ (h.stays place).trans (h'.stays place),
    h'.workingDirectory.trans h.workingDirectory⟩

/-- Nothing goes away if nothing but one file changes. -/
theorem of_kept {written : Place} (h : fs.Kept written fs') : fs.Grows fs' :=
  ⟨fun place ↦ (h.root place).mono fun _ ↦ trivial, h.workingDirectory⟩

/-- A path that led to a place leads there still. -/
theorem locate (h : fs.Grows fs') {path : RawText} {followLast : Bool} {place : ValidPlace}
    (located : fs.locate path followLast = .ok place) : fs'.locate path followLast = .ok place :=
  FileSystem.locate_of_ways (.of_stays h.stays) h.workingDirectory located

end FileSystem.Grows

namespace Job

variable {α β : Type}

/-- A job removes nothing, whatever comes of it. -/
def Growing (t : Job α) : Prop := ∀ w : World, w.files.Grows (t.runOn w).2.files

/-- Jobs that remove nothing may follow each other. -/
theorem Growing.bind {t : Job α} {next : α → Job β} (first : Growing t)
    (rest : ∀ a, Growing (next a)) : Growing (t >>= next) := by
  intro w
  have grown := first w
  rw [runOn_bind]
  rcases done : t.runOn w with ⟨f | a, u⟩ <;> rw [done] at grown
  · exact grown
  · exact grown.trans (rest a u)

/-- Jobs that remove nothing may be done for each item. -/
theorem Growing.mapM {t : α → Job β} (each : ∀ x, Growing (t x)) (xs : List α) :
    Growing (xs.mapM t) := by
  induction xs with
  | nil =>
    intro w
    rw [runOn_mapM_nil]
    exact .refl _
  | cons x xs ih =>
    rw [List.mapM_cons]
    exact (each x).bind fun b ↦ ih.bind fun bs w ↦ .refl w.files

end Job

private theorem runOn_fetchArchive (fetch : Fetcher) (url : String) (archive : RawText)
    (u : World) :
    (fetchArchive (some fetch) url archive).runOn u =
      let status := (fetch u.files url).status
      let ended : Except Failure Unit :=
        if status ≠ 0 then .error (.notFetched url status) else .ok ()
      match (fetch u.files url).left with
      | none => (ended, u)
      | some content =>
        match u.files.write archive content with
        | .ok fs => (ended, { u with files := fs })
        | .error _ => (.error (.notFetched url 23), u) := by
  rw [fetchArchive, Job.runOn_bind, Job.runOn_files]
  dsimp only
  obtain ⟨left, status⟩ := fetch u.files url
  have ends (v : World) : ((if status ≠ 0 then Job.fail (.notFetched url status)
      else pure () : Job Unit).runOn v) =
        (if status ≠ 0 then .error (.notFetched url status) else .ok (), v) := by
    split <;> rfl
  cases left with
  | none => exact ends u
  | some content =>
    simp only [Job.runOn_bind, Job.runOn_change]
    cases u.files.write archive content with
    | error e => rfl
    | ok fs => exact ends { u with files := fs }

private theorem fetchArchive_cases {fetcher : Option Fetcher} {url : String} {archive : RawText}
    {u v : World} {r : Except Failure Unit}
    (done : (fetchArchive fetcher url archive).runOn u = (r, v)) :
    v.events = u.events ∧
      (v.files = u.files ∨ ∃ content, u.files.write archive content = .ok v.files) := by
  cases fetcher with
  | none =>
    cases done
    exact ⟨rfl, .inl rfl⟩
  | some fetch =>
    rw [runOn_fetchArchive] at done
    cases left : (fetch u.files url).left with
    | none =>
      rw [left] at done
      cases done
      exact ⟨rfl, .inl rfl⟩
    | some content =>
      cases written : u.files.write archive content with
      | error e =>
        simp only [left, written] at done
        cases done
        exact ⟨rfl, .inl rfl⟩
      | ok fs =>
        simp only [left, written] at done
        cases done
        exact ⟨rfl, .inr ⟨content, written⟩⟩

/-- Why no archive is obtained, and the world that is left then. -/
inductive Unobtained (fetcher : Option Fetcher) (url : String) (archive : RawText) (u : World) :
    Failure → World → Prop
  /-- Fetching it fails. -/
  | notFetched {f : Failure} {v : World} :
      (fetchArchive fetcher url archive).runOn u = (.error f, v) →
      Unobtained fetcher url archive u f v
  /-- It cannot be opened. -/
  | notOpened {e : FileError} {v : World} :
      (fetchArchive fetcher url archive).runOn u = (.ok (), v) → v.files.read archive = .error e →
      Unobtained fetcher url archive u (openFailure archive e) v
  /-- It is no archive. -/
  | notReadable {bytes : ByteArray} {v : World} :
      (fetchArchive fetcher url archive).runOn u = (.ok (), v) → v.files.read archive = .ok bytes →
      Archive.members? bytes = none →
      Unobtained fetcher url archive u (.cannotReadArchive archive) v

section

variable {fetcher : Option Fetcher} {url : String} {archive target : RawText} {consent : Consent}
  {u v : World}

/-- Nothing is installed if no archive is obtained. -/
theorem Unobtained.runOn {f : Failure} (h : Unobtained fetcher url archive u f v) (target : RawText)
    (consent : Consent) :
    (do
      fetchArchive fetcher url archive
      installIndexes archive target consent : Job (List RawText)).runOn u = (.error f, v) := by
  cases h with
  | notFetched failed => rw [Job.runOn_bind, failed]
  | notOpened fetched unread =>
    rw [Job.runOn_bind, fetched]
    simp only [runOn_installIndexes, unread]
  | notReadable fetched read unlisted =>
    rw [Job.runOn_bind, fetched]
    simp only [runOn_installIndexes, read, unlisted]

/-- Nothing is reported if no archive is obtained, and the file for it is written at most. -/
theorem Unobtained.cases {f : Failure} (h : Unobtained fetcher url archive u f v) :
    v.events = u.events ∧
      (v.files = u.files ∨ ∃ content, u.files.write archive content = .ok v.files) := by
  cases h with
  | notFetched done | notOpened done _ | notReadable done _ _ => exact fetchArchive_cases done

end

namespace Failing

/-- An archive with two indexes. -/
def bytes : ByteArray := Colliding.archive [("x.json", "1"), ("d.json", "2")]

/-- The name of the second index stands for a directory in the target. -/
def files : FileSystem :=
  ((FileSystem.empty.put ⟨["indexes"], by decide⟩ (.directory []) FileSystem.empty.wellFormed).put
    ⟨["tmp"], by decide⟩ (.directory []) FileSystem.empty.wellFormed).put
      ⟨["indexes", "d.json"], by decide⟩ (.directory []) FileSystem.empty.wellFormed

/-- Some content is fetched, whatever the URL is. -/
def fetcher (content : ByteArray) : Option Fetcher := some fun _ _ ↦ ⟨some content, 0⟩

/-- The directory for the archive. -/
def scratch : RawText := Path.append "/tmp" "a"

/-- The files once that directory is there. -/
def made : FileSystem := (files.createDirectoryAll scratch).2

/-- What is there once some content has been fetched. -/
def fetched (content : ByteArray) : Except Failure Unit × World :=
  (fetchArchive (fetcher content) "u" (archiveIn scratch)).runOn { files := made }

/-- What comes of downloading some content. -/
def result (content : ByteArray) : Except Failure (List RawText) × World :=
  (downloadIndexes (fetcher content) scratch "u" "/indexes" .always).runOn { files }

end Failing

/-! Links lead out of the directory for the archive, and out of the target. -/

namespace Diverted

/-- An archive with two indexes, the second one of which is damaged. -/
def damaged : ByteArray :=
  ⟨((Colliding.archive [("a.json", "1"), ("e.json", "2")]).data.toList.set 73 51).toArray⟩

/-- An index lies beside the target, and a link to it at some place. -/
def files (place : ValidPlace) : FileSystem :=
  let directory (fs : FileSystem) (place : ValidPlace) :=
    fs.put place (.directory []) FileSystem.empty.wellFormed
  let fs := directory (directory (directory .empty ⟨["given"], by decide⟩) ⟨["tmp"], by decide⟩)
    ⟨["tmp", "a"], by decide⟩
  (fs.put ⟨["old.json"], by decide⟩ (.file "kept".toUTF8) (FileSystem.wellFormed_file _)).put place
    (.link "/old.json") (by rw [Entry.WellFormed]; decide)

/-- Where the second index is put. -/
def indexPlace : ValidPlace := ⟨["given", "e.json"], by decide⟩

/-- What comes of downloading some content. -/
def result (place : ValidPlace) (content : ByteArray) : Except Failure (List RawText) × World :=
  (downloadIndexes (Failing.fetcher content) Failing.scratch "u" "/given" .always).runOn
    { files := files place }

/-- What is read of the index then. -/
def left (place : ValidPlace) (content : ByteArray) : Option ByteArray :=
  ((result place content).2.files.read "/old.json").toOption

end Diverted

end BuiltinAtlas
