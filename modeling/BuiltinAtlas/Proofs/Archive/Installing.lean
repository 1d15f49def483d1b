import BuiltinAtlas.Proofs.Archive.Turn

/-!
# What installing an archive does

Installing changes only files directly in the target, under the names of indexes. `Installed` says
what has happened once some indexes have had their turns: every refusal is respected, and of the
indexes that were placed under one name the last one is there. It is kept by each turn
(`Installed.snoc`), so that it holds of the whole archive (`installIndexes_confined`).
-/

namespace BuiltinAtlas

open Entry (DirectoryAt)

/-! ### What is decided -/

/-- What an archive says about an index: its name in the target, its content as far as it can be
unpacked, and whether that is all of it. -/
def Archive.Member.index? (bytes : ByteArray) (m : Archive.Member) :
    Option (RawText × ByteArray × Bool) :=
  if m.isIndex then do
    let name ← Path.name? m.name
    let raw ← (m.raw bytes).toOption
    return (name, m.unpack raw)
  else none

/-- What the archive says about the index whose turn it is. -/
def Turn.index (t : Turn) : RawText × ByteArray × Bool := (t.name, t.content, t.intact)

/-- Each index finds something under its name if something was there from the beginning, or an
earlier one was placed there. It is placed if nothing is found or the next answer allows it. -/
def Decided (there : RawText → Prop) (answers : Answers) (asked : Nat) (turns : List Turn) : Prop :=
  ∀ before t after, turns = before ++ t :: after →
    (t.found = true ↔ there t.name ∨ ∃ s ∈ before, s.placed = true ∧ s.name = t.name) ∧
    (t.placed = true ↔ t.found = false ∨ answers (asked + before.countP (·.found)) = true)

/-- One more decision. -/
theorem Decided.snoc {there : RawText → Prop} {answers : Answers} {asked : Nat} {turns : List Turn}
    {t : Turn} (h : Decided there answers asked turns)
    (found : t.found = true ↔ there t.name ∨ ∃ s ∈ turns, s.placed = true ∧ s.name = t.name)
    (placed : t.placed = true ↔
      t.found = false ∨ answers (asked + turns.countP (·.found)) = true) :
    Decided there answers asked (turns ++ [t]) := by
  intro before s after same
  rcases List.eq_nil_or_concat after with rfl | ⟨after, last, rfl⟩
  · obtain ⟨rfl, last⟩ := List.append_inj' same rfl
    cases last
    exact ⟨found, placed⟩
  · rw [List.concat_eq_append, ← List.cons_append, ← List.append_assoc] at same
    obtain ⟨rfl, -⟩ := List.append_inj' same rfl
    exact h before s after rfl

/-- The content of the last index that was placed under a name. -/
def lastPlaced (turns : List Turn) (name : RawText) : Option ByteArray :=
  ((turns.filter fun t ↦ t.placed && t.name == name).getLast?).map (·.content)

private theorem isSome_lastPlaced {turns : List Turn} {name : RawText} :
    (lastPlaced turns name).isSome = true ↔ ∃ s ∈ turns, s.placed = true ∧ s.name = name := by
  rw [lastPlaced, Option.isSome_map, List.getLast?_isSome, ne_eq, List.filter_eq_nil_iff]
  simp

private theorem lastPlaced_concat (turns : List Turn) (t : Turn) (name : RawText) :
    lastPlaced (turns ++ [t]) name =
      if t.placed = true ∧ t.name = name then some t.content else lastPlaced turns name := by
  rw [lastPlaced, List.filter_append]
  by_cases here : t.placed = true ∧ t.name = name
  · simp [here]
  · have other : (t.placed && t.name == name) = false := by
      rw [Bool.eq_false_iff]
      simpa using here
    simp [here, other, lastPlaced]

/-! ### What is done -/

/-- What has happened to a world once some indexes have had their turns, where `place` is that of
the target. -/
structure Installed (consent : Consent) (target : RawText) (place : Place) (w : World)
    (turns : List Turn) (v : World) : Prop where
  /-- What is found is what is there, and every refusal is respected. -/
  decided : Decided (fun name ↦ (w.files.root.at? (place ++ [name])).isSome = true) consent.answers
    w.questions turns
  /-- Indexes get names of indexes. -/
  named : ∀ t ∈ turns, Path.ValidName t.name ∧ indexEnd <:+ t.name.toList
  /-- No index that was placed is damaged. -/
  intact : ∀ t ∈ turns, t.placed = true → t.intact = true
  /-- A question is asked about each index that found something, and nothing else is asked. -/
  events : v.events = w.events ++ turns.flatMap (·.events consent target)
  /-- Each name stands for the last index that was placed there, or else for what it stood for. -/
  content : ∀ name, v.files.root.at? (place ++ [name]) =
    ((lastPlaced turns name).map .file).or (w.files.root.at? (place ++ [name]))
  /-- No other file is created or changed. -/
  stays : ∀ p, Entry.Stays (∃ t ∈ turns, t.placed = true ∧ p = place ++ [t.name])
    (w.files.root.at? p) (v.files.root.at? p)
  /-- No directory is created. -/
  directories : ∀ p, v.files.root.DirectoryAt p → w.files.root.DirectoryAt p
  workingDirectory : v.files.workingDirectory = w.files.workingDirectory

/-- At the beginning nothing has happened. -/
theorem Installed.nil (consent : Consent) (target : RawText) (place : Place) (w : World) :
    Installed consent target place w [] w where
  decided before t after same := by simp at same
  named := nofun
  intact := nofun
  events := (List.append_nil _).symm
  content name := rfl
  stays p := .same _
  directories p := id
  workingDirectory := rfl

private theorem Turn.Ends.of_ok {consent : Consent} {target : RawText} {t : Turn} {v v' : World}
    {result : Option RawText} (h : t.Ends consent target v (.ok result) v') :
    result = (if t.placed then some (t.path target) else none) ∧
      v'.events = v.events ++ t.events consent target ∧
      (t.placed = false ∧ v'.files = v.files ∨
        t.placed = true ∧ t.intact = true ∧
          v.files.write (t.path target) t.content = .ok v'.files) := by
  cases h with
  | kept placed => exact ⟨by rw [placed]; rfl, rfl, .inl ⟨placed, rfl⟩⟩
  | installed placed written intact =>
    exact ⟨by rw [placed]; rfl, rfl, .inr ⟨placed, intact, written⟩⟩

private theorem questions_append (fs : FileSystem) (events : List Event) (answers : Answers)
    (target : RawText) (turns : List Turn) :
    World.questions ⟨fs, events ++ turns.flatMap (·.events (.asking answers) target)⟩ =
      World.questions ⟨fs, events⟩ + turns.countP (·.found) := by
  induction turns generalizing events with
  | nil => simp
  | cons t turns ih =>
    have here : World.questions ⟨fs, events ++ t.events (.asking answers) target⟩ =
        World.questions ⟨fs, events⟩ + if t.found then 1 else 0 := by
      cases found : t.found <;> cases placed : t.placed <;>
        simp [World.questions, Turn.events, Turn.question, Consent.question, found, placed]
    rw [List.flatMap_cons, ← List.append_assoc, ih, here, List.countP_cons, Nat.add_assoc,
      Nat.add_comm (turns.countP _)]

private theorem Consent.answers_eq (consent : Consent) {target : RawText} {w v : World}
    {turns : List Turn} (events : v.events = w.events ++ turns.flatMap (·.events consent target)) :
    consent.answers v.questions = consent.answers (w.questions + turns.countP (·.found)) := by
  cases consent with
  | always => rfl
  | asking answers =>
    have counted := questions_append v.files w.events answers target turns
    rw [← events] at counted
    exact congrArg answers counted

section

variable {consent : Consent} {target : RawText} {place : Place} {w v v' : World}
  {turns : List Turn} {t : Turn} {bytes : ByteArray}

/-- After one more turn, what has happened is what has to happen. -/
theorem Installed.snoc (h : Installed consent target place w turns v)
    (into : w.files.LeadsInto target place)
    (noLinks : ∀ name link, w.files.root.at? (place ++ [name]) ≠ some (.link link))
    (plain : Path.PlainName t.name) (ending : indexEnd <:+ t.name.toList)
    (found : t.found = v.files.pathExists (t.path target))
    (placed : t.placed = (!t.found || consent.answers v.questions)) {result : Option RawText}
    (ends : t.Ends consent target v (.ok result) v') :
    Installed consent target place w (turns ++ [t]) v' := by
  obtain ⟨-, reported, changed⟩ := ends.of_ok
  have ways : w.files.root.Ways v.files.root := .of_stays h.stays
  have into := into.of_ways ways h.workingDirectory
  have noLink : ∀ link, v.files.root.at? (place ++ [t.name]) ≠ some (.link link) :=
    fun link there ↦ noLinks t.name link (ways.link.mp there)
  have found : t.found = (v.files.root.at? (place ++ [t.name])).isSome :=
    found.trans (into.pathExists_append plain noLink)
  have decided : Decided (fun name ↦ (w.files.root.at? (place ++ [name])).isSome = true)
      consent.answers w.questions (turns ++ [t]) := by
    refine h.decided.snoc ?_ ?_
    · rw [found, h.content, ← isSome_lastPlaced]
      cases lastPlaced turns t.name <;> simp
    · rw [placed, consent.answers_eq h.events]
      simp
  have events : v'.events = w.events ++ (turns ++ [t]).flatMap (·.events consent target) := by
    rw [reported, h.events, List.flatMap_append, List.flatMap_singleton, List.append_assoc]
  obtain ⟨kept, same⟩ | ⟨isPlaced, intact, written⟩ := changed
  · -- What was found has a valid name, and stays.
    have valid : Path.ValidName t.name := by
      obtain ⟨isFound, -⟩ : t.found = true ∧ consent.answers v.questions = false := by
        simpa [kept] using placed.symm
      obtain ⟨x, there⟩ := Option.isSome_iff_exists.mp (found.symm.trans isFound)
      exact v.files.wellFormed.validName_of_at? there t.name (by simp)
    exact {
      decided, events
      named := List.forall_mem_append.mpr ⟨h.named, by simpa using ⟨valid, ending⟩⟩
      intact := List.forall_mem_append.mpr ⟨h.intact, by simp [kept]⟩
      content name := by
        rw [same, lastPlaced_concat, if_neg (by simp [kept])]
        exact h.content name
      stays p := by
        rw [same]
        exact (h.stays p).mono fun ⟨s, mem, rest⟩ ↦ ⟨s, List.mem_append_left _ mem, rest⟩
      directories p := by
        rw [same]
        exact h.directories p
      workingDirectory := by rw [same, h.workingDirectory] }
  · obtain ⟨valid, free, root, directory⟩ := into.of_write_append plain noLink written
    have put := Entry.Kept.put_file into.directory free t.content
    have there := Entry.at?_put_self (.file t.content) t.name into.directory
    have noDirectory := Entry.not_directoryAt_of_free free
    rw [← root] at put there
    exact {
      decided, events
      named := List.forall_mem_append.mpr ⟨h.named, by simpa using ⟨valid, ending⟩⟩
      intact := List.forall_mem_append.mpr ⟨h.intact, by simp [intact]⟩
      content name := by
        rw [lastPlaced_concat]
        by_cases here : t.name = name
        · subst here
          rw [there, if_pos ⟨isPlaced, rfl⟩]
          rfl
        · rw [if_neg fun both ↦ here both.2, ← h.content name, root]
          exact Entry.at?_put_of_apart _ _ (by simpa using here) (by simpa using Ne.symm here)
      stays p := by
        refine .trans ((h.stays p).mono ?_) ((put p).mono fun here ↦ ⟨t, by simp, isPlaced, here⟩)
        exact fun ⟨s, mem, rest⟩ ↦ ⟨s, List.mem_append_left _ mem, rest⟩
      directories p := by
        rintro ⟨es, now⟩
        refine h.directories p ?_
        by_cases here : p = place ++ [t.name]
        · rw [here, there] at now
          cases now
        · have leaf := Entry.at?_put_leaf into.directory noDirectory (Entry.at?_file t.content) here
          rw [← root] at leaf
          exact leaf.elim (fun same ↦ ⟨es, same ▸ now⟩) And.left
      workingDirectory := directory.trans h.workingDirectory }

/-- Members that all have their turns, without a failure, are installed. -/
theorem Installed.run (h : Installed consent target place w turns v)
    (into : w.files.LeadsInto target place)
    (noLinks : ∀ name link, w.files.root.at? (place ++ [name]) ≠ some (.link link))
    {members : List Archive.Member} {results : List (Option RawText)}
    (done : (members.mapM (installMember bytes target consent)).runOn v = (.ok results, v')) :
    ∃ more : List Turn, Installed consent target place w (turns ++ more) v' ∧
      more.map Turn.index = members.filterMap (·.index? bytes) ∧
      results.filterMap id = (more.filter (·.placed)).map (·.path target) ∧
      ∀ m ∈ members, ∃ raw, m.raw bytes = .ok raw := by
  induction members generalizing turns v results with
  | nil =>
    rw [Job.runOn_mapM_nil] at done
    cases done
    exact ⟨[], by rwa [List.append_nil], rfl, rfl, nofun⟩
  | cons m members ih =>
    rw [Job.runOn_mapM_cons] at done
    split at done
    · next result u first =>
      split at done
      · next others u' rest =>
        cases done
        obtain ⟨fault, -, no, -⟩ | ⟨raw, opened, other | ⟨index, name, named, ends⟩⟩ :=
          installMember_cases first
        · cases no
        · obtain ⟨noIndex, result, rfl⟩ := other
          cases result
          obtain ⟨more, installed, indexes, results, openedAll⟩ := ih h rest
          refine ⟨more, installed, ?_, results, List.forall_mem_cons.mpr ⟨⟨raw, opened⟩, openedAll⟩⟩
          rw [indexes, List.filterMap_cons, Archive.Member.index?, noIndex]
          rfl
        · obtain ⟨name', named', plain, ending⟩ := exists_plainName index
          cases named.symm.trans named'
          have next := h.snoc into noLinks plain ending rfl rfl ends
          obtain ⟨more, installed, indexes, results, openedAll⟩ := ih next rest
          refine ⟨m.turn consent target name raw v :: more, ?_, ?_, ?_,
            List.forall_mem_cons.mpr ⟨⟨raw, opened⟩, openedAll⟩⟩
          · rwa [List.append_cons]
          · have here : m.index? bytes = some (m.turn consent target name raw v).index := by
              rw [Archive.Member.index?, index, named, opened]
              rfl
            rw [List.map_cons, indexes, List.filterMap_cons, here]
          · rw [List.filterMap_cons, ends.of_ok.1, List.filter_cons]
            cases (m.turn consent target name raw v).placed <;> simpa using results
      · cases done
    · cases done

end

/-- Creating a directory with those around it changes no file. -/
theorem stays_createDirectoryAll (fs : FileSystem) (path : RawText) (p : Place) :
    Entry.Stays False (fs.root.at? p) ((fs.createDirectoryAll path).2.root.at? p) := by
  -- No file is written, so that another place may stand for that of the written file.
  have elsewhere : p ≠ ↑"" :: p := fun h ↦ by simpa using congrArg List.length h
  exact ((FileSystem.Kept.createDirectories (↑"" :: p) fs _).root p).mono fun here ↦
    elsewhere here

/-- An archive that is installed without a failure changes no file but those with names of indexes
directly in the target, if there are no links in the target: what happens to these is what the
answers say, index by index. The target is created before that, if it is not there. -/
theorem installIndexes_confined {archive target : RawText} {consent : Consent} {w w' : World}
    {written : List RawText}
    (working : target = "" → w.files.root.DirectoryAt w.files.workingDirectory.1)
    (done : (installIndexes archive target consent).runOn w = (.ok written, w')) :
    ∃ bytes members made place es,
      w.files.read archive = .ok bytes ∧ Archive.members? bytes = some members ∧
      w.files.createDirectoryAll target = (.ok (), made) ∧
      (∀ p, Entry.Stays False (w.files.root.at? p) (made.root.at? p)) ∧
      (w.files.isDirectory target = true → made = w.files) ∧
      made.find (Path.append target ".") = .ok (place, .directory es) ∧
      ((∀ name link, w.files.root.at? (place.1 ++ [name]) ≠ some (.link link)) →
        (∀ m ∈ members, ∃ raw, m.raw bytes = .ok raw) ∧ ∃ turns : List Turn,
          turns.map Turn.index = members.filterMap (·.index? bytes) ∧
          Installed consent target place.1 { w with files := made } turns w' ∧
          written = (turns.filter (·.placed)).map (·.path target)) := by
  rw [runOn_installIndexes] at done
  cases read : w.files.read archive with
  | error e =>
    rw [read] at done
    cases done
  | ok bytes =>
  cases listed : Archive.members? bytes with
  | none =>
    simp only [read, listed] at done
    cases done
  | some members =>
  simp only [read, listed, runOn_installMembers] at done
  rcases created : w.files.createDirectoryAll target with ⟨_ | _, made⟩
  · simp only [created] at done
    cases done
  · simp only [created] at done
    obtain ⟨place, into⟩ := FileSystem.leadsInto_of_createDirectoryAll working created
    obtain ⟨es, found⟩ := into.find_append_dot
    have stays (p : Place) : Entry.Stays False (w.files.root.at? p) (made.root.at? p) := by
      have stays := stays_createDirectoryAll w.files target p
      rwa [created] at stays
    refine ⟨bytes, members, made, ⟨place, into.valid⟩, es, rfl, listed, rfl, stays, ?_, found, ?_⟩
    · intro directory
      obtain ⟨there, es, found⟩ := FileSystem.isDirectory_iff.mp directory
      rw [FileSystem.createDirectoryAll_of_leadsInto (.of_find found)] at created
      exact (congrArg Prod.snd created).symm
    · intro noLinks
      have ways : w.files.root.Ways made.root := .of_stays stays
      split at done
      · next results u done' =>
        cases done
        obtain ⟨turns, installed, indexes, results, opened⟩ :=
          (Installed.nil consent target place { w with files := made }).run into
            (fun name link there ↦ noLinks name link (ways.link.mp there)) done'
        exact ⟨opened, turns, indexes, installed, results⟩
      · cases done

/-! Three indexes have two names, one of which is taken. The first one is refused, and the second
one is let in. -/

namespace Colliding

/-- A number as some bytes, the lowest one first. -/
def number (width n : Nat) : List UInt8 := (List.range width).map fun i ↦ .ofNat (n >>> (8 * i))

/-- What is said about a member, in front of it and in the directory. -/
def described (name content : String) : List UInt8 :=
  number 8 0 ++ number 4 (Archive.checksum content.toUTF8).toNat ++ number 4 content.utf8ByteSize ++
    number 4 content.utf8ByteSize ++ number 2 name.utf8ByteSize ++ number 2 0

/-- A member behind its header. -/
def member (name content : String) : List UInt8 :=
  number 4 0x04034b50 ++ number 2 0 ++ described name content ++ name.toUTF8.toList ++
    content.toUTF8.toList

/-- The entry of a member in the directory. -/
def entry (offset : Nat) (name content : String) : List UInt8 :=
  number 4 0x02014b50 ++ number 4 0 ++ described name content ++ number 10 0 ++ number 4 offset ++
    name.toUTF8.toList

/-- The members of an archive, and its directory. -/
def parts : List (String × String) → Nat → List UInt8 × List UInt8
  | [], _ => ([], [])
  | (name, content) :: rest, offset =>
    let here := member name content
    let (members, entries) := parts rest (offset + here.length)
    (here ++ members, entry offset name content ++ entries)

/-- An archive with some members. -/
def archive (members : List (String × String)) : ByteArray :=
  let (content, entries) := parts members 0
  ⟨(content ++ entries ++ number 4 0x06054b50 ++ number 4 0 ++ number 2 members.length ++
    number 2 members.length ++ number 4 entries.length ++ number 4 content.length ++
    number 2 0).toArray⟩

/-- Indexes that would lie outside of the target if their whole names counted. -/
def bytes : ByteArray :=
  archive [("../x.json", "1"), ("/etc/x.json", "2"), ("notes.txt", "n"), ("b/y.json", "3")]

/-- The archive lies beside the target, in which there is an index. -/
def files : FileSystem :=
  ((FileSystem.empty.put ⟨["a.zip"], by decide⟩ (.file bytes) (FileSystem.wellFormed_file _)).put
    ⟨["t"], by decide⟩ (.directory []) FileSystem.empty.wellFormed).put
      ⟨["t", "x.json"], by decide⟩ (.file "0".toUTF8) (FileSystem.wellFormed_file _)

/-- Only the second question is answered with yes. -/
def consent : Consent := .asking fun n ↦ n == 1

/-- What comes of installing the archive. -/
def result : Except Failure (List RawText) × World :=
  (installIndexes "/a.zip" "/t" consent).runOn { files }

private theorem noLinks (name link : RawText) :
    files.root.at? ([RawText.ofText "t"] ++ [name]) ≠ some (.link link) := by
  have there : files.root.at? [↑"t"] = some (.directory [("x.json", .file "0".toUTF8)]) := rfl
  rw [Entry.at?_append, there]
  by_cases here : name = "x.json" <;> simp [Entry.at?, Entries.find?, here]

/-- The archive is installed, and nothing but the two indexes in the target changes. -/
theorem installIndexes_confined_colliding :
    (installIndexes "/a.zip" "/t" consent).runOn { files } =
        (.ok [↑"/t/x.json", ↑"/t/y.json"], result.2) ∧
      ∃ turns : List Turn, Installed consent "/t" [↑"t"] { files } turns result.2 ∧
        [↑"/t/x.json", ↑"/t/y.json"] = (turns.filter (·.placed)).map (·.path "/t") := by
  have written : result.1.toOption = some [↑"/t/x.json", ↑"/t/y.json"] := by decide +kernel
  have done := Job.eq_ok_of_toOption written
  obtain ⟨bytes, members, made, place, es, -, -, -, -, same, found, rest⟩ :=
    installIndexes_confined (absurd · (by decide)) done
  obtain rfl : made = files := same rfl
  have here : ((files.find "/t/.").toOption.map fun found ↦ found.1.1) = some [↑"t"] := by
    rfl
  have target : place.1 = [↑"t"] := by
    rw [show Path.append "/t" "." = "/t/." from rfl] at found
    rw [found] at here
    exact Option.some.inj here
  rw [target] at rest
  obtain ⟨-, turns, -, confined, paths⟩ := rest noLinks
  exact ⟨done, turns, confined, paths⟩

end Colliding

end BuiltinAtlas
