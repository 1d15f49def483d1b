import BuiltinAtlas.Archive.Install
import BuiltinAtlas.Proofs.Files.Inside
import BuiltinAtlas.Proofs.Job.Run

/-!
# The turn of a member

Members of an archive have their turns one after the other. A member that is an index has a plain
name, which is the last one on its own path (`exists_plainName`). Its turn ends in one of four ways
(`Turn.Ends`), and the turn of any other member does nothing (`installMember_cases`).
-/

namespace BuiltinAtlas

/-! ### Consent -/

/-- The answers that there are to questions. -/
def Consent.answers : Consent → Answers
  | always => fun _ ↦ true
  | asking answers => answers

/-- The question about a path, if questions are asked. -/
def Consent.question (consent : Consent) (path : RawText) : List Event :=
  match consent with
  | always => []
  | asking _ => [.asked path]

private theorem Consent.runOn_mayReplace (consent : Consent) (path : RawText) (v : World) :
    (consent.mayReplace path).runOn v =
      (.ok (consent.answers v.questions),
        { v with events := v.events ++ consent.question path }) := by
  cases consent with
  | always => simp [mayReplace, Job.runOn_pure, answers, question]
  | asking => rfl

/-! ### The name of an index -/

/-- The end of the names of indexes. -/
def indexEnd : List UInt8 := (RawText.ofText ".json").toList

/-- An index has a plain name, which ends as that of an index does. -/
theorem exists_plainName {m : Archive.Member} (index : m.isIndex = true) :
    ∃ name, Path.name? m.name = some name ∧ Path.PlainName name ∧ indexEnd <:+ name.toList := by
  obtain ⟨front, chars⟩ : ".json".toList <:+ m.name.toList := by
    simpa [Archive.Member.isIndex] using index
  obtain ⟨front, bytes⟩ : ∃ front, front ++ indexEnd = (RawText.ofText m.name).toList := by
    refine ⟨(RawText.ofText (String.ofList front)).toList, ?_⟩
    have name : m.name = String.ofList front ++ ".json" := by
      rw [← String.toList_inj, String.toList_append, String.toList_ofList, chars]
    rw [name]
    simp [indexEnd, RawText.ofText, ByteArray.data_append]
  have reversed : (RawText.ofText m.name).toList.reverse = indexEnd.reverse ++ front.reverse := by
    rw [← bytes, List.reverse_append]
  have whole : Path.trimReversed (RawText.ofText m.name).toList.reverse =
      (RawText.ofText m.name).toList.reverse := by
    rw [reversed]
    rfl
  -- The last name begins behind the last slash, which stands in front of the end.
  let begin := front.reverse.takeWhile (· != RawText.slash)
  have name : ((RawText.ofText m.name).toList.reverse.takeWhile (· != RawText.slash)).reverse =
      begin.reverse ++ indexEnd := by
    have plain : ∀ b ∈ indexEnd.reverse, (b != RawText.slash) = true :=
      List.all_eq_true.mp rfl
    rw [reversed, List.takeWhile_append_of_pos plain, List.reverse_append, List.reverse_reverse]
  have noSlash : RawText.slash ∉ begin.reverse ++ indexEnd := by
    intro mem
    rcases List.mem_append.mp mem with mem | mem
    · have all := List.all_eq_true.mp (List.all_takeWhile (p := (· != RawText.slash))) _
        (List.mem_reverse.mp mem)
      simp at all
    · exact absurd mem (by decide)
  have long : 5 ≤ (begin.reverse ++ indexEnd).length := by
    have five : indexEnd.length = 5 := by decide
    simp [five]
  refine ⟨.ofList (begin.reverse ++ indexEnd), ?_, ?_, List.suffix_append _ _⟩
  · rw [Path.name?, whole]
    simp only [name]
    rw [if_neg]
    rintro (same | same | same) <;> rw [same] at long <;> simp at long
  · refine ⟨?_, noSlash, ?_, ?_⟩ <;>
    · intro same
      rw [← RawText.toList_inj, RawText.toList_ofList] at same
      rw [same] at long
      simp at long

/-! ### Turns -/

/-- What is there for an index whose turn it is, and what is decided about it. -/
structure Turn where
  /-- The name that it gets. -/
  name : RawText
  content : ByteArray
  /-- Whether all of the content could be unpacked. -/
  intact : Bool
  /-- Whether its name stands for something already. -/
  found : Bool
  /-- Whether it is to be placed under its name. -/
  placed : Bool

namespace Turn

variable (consent : Consent) (target : RawText) (t : Turn) (v : World)

/-- The path that an index gets. -/
def path : RawText := Path.append target t.name

/-- The question that is asked about an index. -/
def question : List Event := if t.found then consent.question (t.path target) else []

/-- What is reported about an index in a turn that does not fail. -/
def events : List Event :=
  t.question consent target ++
    [if t.placed then .installed (t.path target) else .kept (t.path target)]

/-- How the turn of an index ends. -/
inductive Ends : Except Failure (Option RawText) → World → Prop
  /-- What was found under its name is kept. -/
  | kept : t.placed = false →
      Ends (.ok none) { v with events := v.events ++ t.events consent target }
  /-- No file can be created under its name. -/
  | blocked {e : FileError} : t.placed = true → v.files.write (t.path target) t.content = .error e →
      Ends (.error (.cannotCreateFile (t.path target)))
        { v with events := v.events ++ t.question consent target }
  /-- The file is created, but could not be unpacked to its end. -/
  | damaged {fs : FileSystem} : t.placed = true →
      v.files.write (t.path target) t.content = .ok fs → t.intact = false →
      Ends (.error (.cannotWriteFile (t.path target)))
        ⟨fs, v.events ++ t.question consent target⟩
  | installed {fs : FileSystem} : t.placed = true →
      v.files.write (t.path target) t.content = .ok fs → t.intact = true →
      Ends (.ok (some (t.path target))) ⟨fs, v.events ++ t.events consent target⟩

end Turn

/-- The turn of an index: whether its name stands for something is seen when its turn comes, and the
question about it is asked then. -/
def Archive.Member.turn (m : Archive.Member) (consent : Consent) (target name : RawText)
    (raw : ByteArray) (v : World) : Turn :=
  let found := v.files.pathExists (Path.append target name)
  { name := name
    content := (m.unpack raw).1
    intact := (m.unpack raw).2
    found := found
    placed := !found || consent.answers v.questions }

private theorem runOn_unpackTo (path : RawText) (m : Archive.Member) (raw : ByteArray) (v : World) :
    (unpackTo path m raw).runOn v =
      match v.files.write path (m.unpack raw).1 with
      | .ok fs => (if (m.unpack raw).2 then .ok () else .error (.cannotWriteFile path),
          { v with files := fs })
      | .error _ => (.error (.cannotCreateFile path), v) := by
  rw [unpackTo]
  rcases m.unpack raw with ⟨content, intact⟩
  simp only [Job.runOn_bind, Job.runOn_change]
  cases v.files.write path content with
  | error e => rfl
  | ok fs => cases intact <;> rfl

private theorem ends_of_unpackTo {target name : RawText} {consent : Consent} {m : Archive.Member}
    {raw : ByteArray} {v v' : World} {r : Except Failure (Option RawText)} {asked : List Event}
    (question : (m.turn consent target name raw v).question consent target = asked)
    (placed : (m.turn consent target name raw v).placed = true)
    (done : (do
      unpackTo (Path.append target name) m raw
      Job.note (.installed (Path.append target name))
      return some (Path.append target name) : Job (Option RawText)).runOn
        ⟨v.files, v.events ++ asked⟩ = (r, v')) :
    (m.turn consent target name raw v).Ends consent target v r v' := by
  subst question
  simp only [Job.runOn_bind, runOn_unpackTo, Job.runOn_note, Job.runOn_pure] at done
  cases written : v.files.write (Path.append target name) (m.unpack raw).1 with
  | error e =>
    rw [written] at done
    cases done
    exact .blocked placed written
  | ok fs =>
    rw [written] at done
    cases intact : (m.unpack raw).2 with
    | false =>
      rw [intact] at done
      cases done
      exact .damaged placed written intact
    | true =>
      rw [intact] at done
      cases done
      have ends : (m.turn consent target name raw v).Ends consent target v _ _ :=
        .installed placed written intact
      rw [Turn.events, if_pos placed, ← List.append_assoc] at ends
      exact ends

/-- What can become of a member in its turn. -/
theorem installMember_cases {bytes : ByteArray} {target : RawText} {consent : Consent}
    {m : Archive.Member} {v v' : World} {r : Except Failure (Option RawText)}
    (done : (installMember bytes target consent m).runOn v = (r, v')) :
    (∃ fault, m.raw bytes = .error fault ∧ r = .error (.member fault) ∧ v' = v) ∨
      ∃ raw, m.raw bytes = .ok raw ∧
        (m.isIndex = false ∧ r = .ok none ∧ v' = v ∨
          m.isIndex = true ∧ ∃ name, Path.name? m.name = some name ∧
            (m.turn consent target name raw v).Ends consent target v r v') := by
  rw [installMember, Job.runOn_bind, Job.runOn_ofExcept] at done
  cases opened : m.raw bytes with
  | error fault =>
    rw [opened] at done
    cases done
    exact .inl ⟨fault, rfl, rfl, rfl⟩
  | ok raw =>
    rw [opened] at done
    refine .inr ⟨raw, rfl, ?_⟩
    cases index : m.isIndex with
    | false =>
      refine .inl ⟨rfl, ?_⟩
      cases named : Path.name? m.name <;> rw [named] at done <;>
        simp only [index, Job.mapError_ok, Bool.not_false, if_true, Job.runOn_pure] at done <;>
        cases done <;> exact ⟨rfl, rfl⟩
    | true =>
      obtain ⟨name, named, -, -⟩ := exists_plainName index
      refine .inr ⟨rfl, name, named, ?_⟩
      rw [named] at done
      simp only [index, Job.mapError_ok, Bool.not_true, Bool.false_eq_true, if_false,
        Job.runOn_bind, Job.runOn_files] at done
      cases found : v.files.pathExists (Path.append target name) with
      | false =>
        rw [found, if_neg Bool.false_ne_true] at done
        have question : (m.turn consent target name raw v).question consent target = [] := by
          simp [Turn.question, Archive.Member.turn, found]
        refine ends_of_unpackTo question ?_ ?_
        · simp [Archive.Member.turn, found]
        · rw [List.append_nil]
          exact done
      | true =>
        rw [found, if_pos rfl, Job.runOn_bind, Consent.runOn_mayReplace] at done
        have question : (m.turn consent target name raw v).question consent target =
            consent.question (Path.append target name) := by
          simp [Turn.question, Archive.Member.turn, found, Turn.path]
        cases answer : consent.answers v.questions with
        | false =>
          simp only [answer, Bool.not_false, if_true, Job.runOn_bind, Job.runOn_note,
            Job.runOn_pure] at done
          cases done
          have kept : (m.turn consent target name raw v).placed = false := by
            simp [Archive.Member.turn, found, answer]
          have ends : (m.turn consent target name raw v).Ends consent target v _ _ := .kept kept
          rw [Turn.events, kept, question, ← List.append_assoc] at ends
          exact ends
        | true =>
          refine ends_of_unpackTo question ?_ ?_
          · simp [Archive.Member.turn, found, answer]
          · simpa only [answer, Bool.not_true, Bool.false_eq_true, if_false] using done

/-! ### The turns of all members -/

/-- Install the indexes among some members, once the archive has been read. -/
def installMembers (bytes : ByteArray) (target : RawText) (consent : Consent)
    (members : List Archive.Member) : Job (List RawText) := do
  Job.createDirectoryAll target fun _ ↦ .cannotCreateDirectory target
  return (← members.mapM (installMember bytes target consent)).filterMap id

/-- Why an archive cannot be opened. -/
def openFailure (archive : RawText) : FileError → Failure
  | .isDirectory => .cannotMapArchive archive
  | _ => .cannotOpenArchive archive

/-- An archive is read before anything is installed. -/
theorem runOn_installIndexes (archive target : RawText) (consent : Consent) (w : World) :
    (installIndexes archive target consent).runOn w =
      match w.files.read archive with
      | .error e => (.error (openFailure archive e), w)
      | .ok bytes =>
        match Archive.members? bytes with
        | none => (.error (.cannotReadArchive archive), w)
        | some members => (installMembers bytes target consent members).runOn w := by
  rw [installIndexes, Job.runOn_bind, Job.runOn_files]
  simp only [Job.runOn_bind, Job.runOn_ofExcept]
  cases w.files.read archive with
  | error e => cases e <;> rfl
  | ok bytes =>
    simp only [Job.mapError_ok]
    cases Archive.members? bytes <;> rfl

/-- The target is created before the first member has its turn. -/
theorem runOn_installMembers (bytes : ByteArray) (target : RawText) (consent : Consent)
    (members : List Archive.Member) (w : World) :
    (installMembers bytes target consent members).runOn w =
      match w.files.createDirectoryAll target with
      | (.error _, fs) => (.error (.cannotCreateDirectory target), { w with files := fs })
      | (.ok (), fs) =>
        match (members.mapM (installMember bytes target consent)).runOn { w with files := fs } with
        | (.ok results, w) => (.ok (results.filterMap id), w)
        | (.error f, w) => (.error f, w) := by
  rw [installMembers, Job.runOn_bind, Job.runOn_createDirectoryAll]
  rcases w.files.createDirectoryAll target with ⟨_ | _, fs⟩
  · rfl
  · simp only [Job.mapError_ok, Job.runOn_bind]
    rcases (members.mapM (installMember bytes target consent)).runOn { w with files := fs } with
      ⟨_ | results, u⟩ <;> rfl

end BuiltinAtlas
