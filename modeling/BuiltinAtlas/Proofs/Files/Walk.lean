import BuiltinAtlas.Files.System
import BuiltinAtlas.Proofs.Files.Stays

/-!
# Following paths

Where following names leads to, and that it leads there still in a tree with the same directories
and links (`Entry.Ways`).
Each law is first proved up to the first link, where what is behind the link is assumed to keep it,
by induction on the names; what is kept is that the walk stands in a directory. Then it is by
induction on the number of links.
-/

namespace BuiltinAtlas.FileSystem

open RawText (slash dot)

open Entry (DirectoryAt)

section

variable {root : Entry} {followLast : Bool} {place result : Place} {todo : List RawText}
  {follow : Place → List RawText → Except FileError Place}

/-- The name `.` leads nowhere else. -/
theorem walk_dot (links : Nat) :
    walk root followLast links place ("." :: todo) = walk root followLast links place todo := by
  cases links with
  | zero => rw [walk, walkNames, if_pos rfl]
  | succ => rw [walk, walkNames, if_pos rfl]

/-- A name that is looked up leads to what is there. -/
theorem walkNames_cons {name : RawText} {rest : List RawText} (dot : name ≠ ".")
    (dots : name ≠ "..") (short : ¬ Path.nameLimit < name.size) :
    walkNames root followLast follow place (name :: rest) =
      match root.at? (place ++ [name]) with
      | none => if rest.isEmpty then .ok (place ++ [name]) else .error .notFound
      | some (.directory _) => walkNames root followLast follow (place ++ [name]) rest
      | some (.file _) => if rest.isEmpty then .ok (place ++ [name]) else .error .notDirectory
      | some (.link target) =>
        if rest.isEmpty ∧ !followLast then .ok (place ++ [name])
        else follow (if Path.isAbsolute target then [] else place) (Path.names target ++ rest) := by
  rw [walkNames]
  exact (if_neg dot).trans ((if_neg dots).trans (if_neg short))

private theorem directoryAt_of_walkNames
    (h : walkNames root followLast follow place todo = .ok result) (hplace : root.DirectoryAt place)
    (hfollow : ∀ place todo, root.DirectoryAt place → follow place todo = .ok result →
      root.DirectoryAt result ∨ ∃ around name, result = around ++ [name] ∧
        root.DirectoryAt around) :
    root.DirectoryAt result ∨
      ∃ around name, result = around ++ [name] ∧ root.DirectoryAt around := by
  fun_induction walkNames root followLast follow place todo with
  | case1 => cases h; exact .inl hplace
  | case2 _ _ ih => exact ih h hplace
  | case3 _ _ _ ih => exact ih h hplace.dropLast
  | case4 => cases h
  | case5 place name => cases h; exact .inr ⟨place, name, rfl, hplace⟩
  | case6 => cases h
  | case7 _ _ _ _ _ _ es found ih => exact ih h ⟨es, found⟩
  | case8 place name => cases h; exact .inr ⟨place, name, rfl, hplace⟩
  | case9 => cases h
  | case10 place name => cases h; exact .inr ⟨place, name, rfl, hplace⟩
  | case11 place name rest _ _ _ target =>
    apply hfollow _ _ _ h
    split
    · exact hplace.root
    · exact hplace

/-- A walk ends in a directory or at a name in one. -/
theorem directoryAt_of_walk {links : Nat} (h : walk root followLast links place todo = .ok result)
    (hplace : root.DirectoryAt place) :
    root.DirectoryAt result ∨
      ∃ around name, result = around ++ [name] ∧ root.DirectoryAt around := by
  induction links generalizing place todo with
  | zero => exact directoryAt_of_walkNames h hplace nofun
  | succ links ih => exact directoryAt_of_walkNames h hplace fun _ _ dir h ↦ ih h dir

private theorem at?_ne_link_of_walkNames
    (h : walkNames root true follow place todo = .ok result) (hplace : root.DirectoryAt place)
    (hfollow : ∀ place todo, root.DirectoryAt place → follow place todo = .ok result →
      ∀ target, root.at? result ≠ some (.link target)) (target : RawText) :
    root.at? result ≠ some (.link target) := by
  fun_induction walkNames root true follow place todo with
  | case1 =>
    cases h
    obtain ⟨es, directory⟩ := hplace
    simp [directory]
  | case2 _ _ ih => exact ih h hplace
  | case3 _ _ _ ih => exact ih h hplace.dropLast
  | case4 => cases h
  | case5 _ _ _ _ _ _ none => cases h; simp [none]
  | case6 => cases h
  | case7 _ _ _ _ _ _ es found ih => exact ih h ⟨es, found⟩
  | case8 _ _ _ _ _ _ _ found => cases h; simp [found]
  | case9 => cases h
  | case10 _ _ _ _ _ _ _ _ last => simp at last
  | case11 place name rest _ _ _ target =>
    apply hfollow _ _ _ h
    split
    · exact hplace.root
    · exact hplace

/-- A walk that follows links at the end does not end at one. -/
theorem at?_ne_link_of_walk {links : Nat} (h : walk root true links place todo = .ok result)
    (hplace : root.DirectoryAt place) (target : RawText) :
    root.at? result ≠ some (.link target) := by
  induction links generalizing place todo target with
  | zero => exact at?_ne_link_of_walkNames h hplace nofun target
  | succ links ih =>
    exact at?_ne_link_of_walkNames h hplace (fun _ _ dir h target ↦ ih h dir target) target

private theorem directoryAt_of_walkNames_dot
    (h : walkNames root followLast follow place todo = .ok result) (hplace : root.DirectoryAt place)
    (hdot : todo = [] ∨ todo.getLast? = some (RawText.ofText "."))
    (hfollow : ∀ place (todo : List RawText), root.DirectoryAt place →
      todo = [] ∨ todo.getLast? = some (RawText.ofText ".") → follow place todo = .ok result →
      root.DirectoryAt result) :
    root.DirectoryAt result := by
  have later {name : RawText} {rest : List RawText}
      (h : name :: rest = [] ∨ (name :: rest).getLast? = some (RawText.ofText ".")) :
      rest = [] ∧ name = "." ∨ rest.getLast? = some (RawText.ofText ".") := by
    cases rest with
    | nil => simpa using h
    | cons => simpa [List.getLast?_cons_cons] using h
  fun_induction walkNames root followLast follow place todo with
  | case1 => cases h; exact hplace
  | case2 _ _ ih => exact ih h hplace ((later hdot).imp And.left id)
  | case3 _ _ _ ih => exact ih h hplace.dropLast ((later hdot).imp And.left id)
  | case4 => cases h
  | case5 _ _ _ h1 _ _ _ last
  | case8 _ _ _ h1 _ _ _ _ last =>
    rcases later hdot with here | there
    · exact absurd here.2 h1
    · simp [List.isEmpty_iff.mp last] at there
  | case6 => cases h
  | case7 _ _ _ _ _ _ es found ih => exact ih h ⟨es, found⟩ ((later hdot).imp And.left id)
  | case9 => cases h
  | case10 _ _ _ h1 _ _ _ _ last =>
    rcases later hdot with here | there
    · exact absurd here.2 h1
    · simp [List.isEmpty_iff.mp last.1] at there
  | case11 place name rest h1 _ _ target =>
    apply hfollow _ _ _ _ h
    · split
      · exact hplace.root
      · exact hplace
    · right
      rcases later hdot with here | there
      · exact absurd here.2 h1
      · rw [List.getLast?_append, there]
        rfl

/-- A walk whose last name is `.` ends in a directory. -/
theorem directoryAt_of_walk_dot {links : Nat}
    (h : walk root followLast links place todo = .ok result) (hplace : root.DirectoryAt place)
    (hdot : todo = [] ∨ todo.getLast? = some (RawText.ofText ".")) : root.DirectoryAt result := by
  induction links generalizing place todo with
  | zero => exact directoryAt_of_walkNames_dot h hplace hdot nofun
  | succ links ih =>
    exact directoryAt_of_walkNames_dot h hplace hdot fun _ _ dir hdot h ↦ ih h dir hdot

private theorem walkNames_of_ways {root' : Entry}
    {follow' : Place → List RawText → Except FileError Place} (ways : root.Ways root')
    (h : walkNames root followLast follow place todo = .ok result)
    (hfollow : ∀ place todo, follow place todo = .ok result → follow' place todo = .ok result) :
    walkNames root' followLast follow' place todo = .ok result := by
  fun_induction walkNames root followLast follow place todo with
  | case1 => cases h; rw [walkNames]
  | case2 place rest ih =>
    rw [walkNames, if_pos rfl]
    exact ih h
  | case3 place rest h1 ih =>
    rw [walkNames, if_neg h1, if_pos rfl]
    exact ih h
  | case4 => cases h
  | case5 place name rest h1 h2 h3 found last
  | case8 place name rest h1 h2 h3 _ found last =>
    cases h
    rw [walkNames_cons h1 h2 h3, List.isEmpty_iff.mp last]
    cases now : root'.at? (place ++ [name]) with
    | none => rfl
    | some x =>
      cases x with
      | file => rfl
      | directory => rw [walkNames]
      | link target =>
        rw [ways.link, found] at now
        cases now
  | case6 => cases h
  | case7 place name rest h1 h2 h3 es found ih =>
    obtain ⟨es', stays⟩ := ways.directory ⟨es, found⟩
    rw [walkNames_cons h1 h2 h3, stays]
    exact ih h
  | case9 => cases h
  | case10 place name rest h1 h2 h3 target found stop =>
    cases h
    rw [walkNames_cons h1 h2 h3, ways.link.mpr found]
    exact if_pos stop
  | case11 place name rest h1 h2 h3 target found goesOn =>
    rw [walkNames_cons h1 h2 h3, ways.link.mpr found]
    exact (if_neg goesOn).trans (hfollow _ _ h)

/-- A walk that led to a place leads there still in a tree with the same ways. -/
theorem walk_of_ways {root' : Entry} {links : Nat} (ways : root.Ways root')
    (h : walk root followLast links place todo = .ok result) :
    walk root' followLast links place todo = .ok result := by
  induction links generalizing place todo with
  | zero => exact walkNames_of_ways ways h nofun
  | succ links ih => exact walkNames_of_ways ways h fun _ _ h ↦ ih h

private theorem walkNames_notFound_of_ways {root' : Entry}
    {follow' : Place → List RawText → Except FileError Place} (ways : root.Ways root')
    (nothing : ∀ place, root.at? place = none → root'.at? place = none)
    (h : walkNames root followLast follow place todo = .error .notFound)
    (hfollow : ∀ place todo, follow place todo = .error .notFound →
      follow' place todo = .error .notFound) :
    walkNames root' followLast follow' place todo = .error .notFound := by
  fun_induction walkNames root followLast follow place todo with
  | case1 => cases h
  | case2 place rest ih =>
    rw [walkNames, if_pos rfl]
    exact ih h
  | case3 place rest h1 ih =>
    rw [walkNames, if_neg h1, if_pos rfl]
    exact ih h
  | case4 => cases h
  | case5 => cases h
  | case6 place name rest h1 h2 h3 missing goesOn =>
    rw [walkNames_cons h1 h2 h3, nothing _ missing]
    exact if_neg goesOn
  | case7 place name rest h1 h2 h3 es found ih =>
    obtain ⟨es', stays⟩ := ways.directory ⟨es, found⟩
    rw [walkNames_cons h1 h2 h3, stays]
    exact ih h
  | case8 => cases h
  | case9 => cases h
  | case10 => cases h
  | case11 place name rest h1 h2 h3 target found goesOn =>
    rw [walkNames_cons h1 h2 h3, ways.link.mpr found]
    exact (if_neg goesOn).trans (hfollow _ _ h)

/-- A walk for which a directory is missing misses it in a tree with the same ways, if nothing is
new there. -/
theorem walk_notFound_of_ways {root' : Entry} {links : Nat} (ways : root.Ways root')
    (nothing : ∀ place, root.at? place = none → root'.at? place = none)
    (h : walk root followLast links place todo = .error .notFound) :
    walk root' followLast links place todo = .error .notFound := by
  induction links generalizing place todo with
  | zero => exact walkNames_notFound_of_ways ways nothing h nofun
  | succ links ih => exact walkNames_notFound_of_ways ways nothing h fun _ _ h ↦ ih h

private theorem exists_directoryAt_of_walkNames_append
    {follow' : Place → List RawText → Except FileError Place} {front back : List RawText}
    (h : walkNames root followLast follow place (front ++ back) = .ok result) (hback : back ≠ [])
    (hplace : root.DirectoryAt place)
    (hfollow : ∀ place front, root.DirectoryAt place → follow place (front ++ back) = .ok result →
      ∃ around, follow' place front = .ok around ∧ root.DirectoryAt around) :
    ∃ around, walkNames root true follow' place front = .ok around ∧
      root.DirectoryAt around := by
  have more (rest : List RawText) : (rest ++ back).isEmpty = false := by
    cases rest with
    | nil => cases back with
      | nil => exact absurd rfl hback
      | cons => rfl
    | cons => rfl
  fun_induction walkNames root true follow' place front with
  | case1 place => exact ⟨place, rfl, hplace⟩
  | case2 place rest ih =>
    rw [List.cons_append, walkNames, if_pos rfl] at h
    exact ih h hplace
  | case3 place rest h1 ih =>
    rw [List.cons_append, walkNames, if_neg h1, if_pos rfl] at h
    exact ih h hplace.dropLast
  | case4 place name rest h1 h2 h3 =>
    rw [List.cons_append, walkNames, if_neg h1, if_neg h2, if_pos h3] at h
    cases h
  | case5 place name rest h1 h2 h3 found
  | case6 place name rest h1 h2 h3 found =>
    rw [List.cons_append, walkNames_cons h1 h2 h3, found] at h
    simp [more] at h
  | case7 place name rest h1 h2 h3 es found ih =>
    rw [List.cons_append, walkNames_cons h1 h2 h3, found] at h
    exact ih h ⟨es, found⟩
  | case8 place name rest h1 h2 h3 _ found
  | case9 place name rest h1 h2 h3 _ found =>
    rw [List.cons_append, walkNames_cons h1 h2 h3, found] at h
    simp [more] at h
  | case10 place name rest h1 h2 h3 target found last => simp at last
  | case11 place name rest h1 h2 h3 target found =>
    rw [List.cons_append, walkNames_cons h1 h2 h3, found] at h
    simp only [more, Bool.false_eq_true, false_and, if_false] at h
    apply hfollow
    · split
      · exact hplace.root
      · exact hplace
    · rw [List.append_assoc]
      exact h

/-- A walk that goes on behind some names has led to a directory by then. -/
theorem exists_directoryAt_of_walk_append {links : Nat} {front back : List RawText}
    (h : walk root followLast links place (front ++ back) = .ok result) (hback : back ≠ [])
    (hplace : root.DirectoryAt place) :
    ∃ around, walk root true links place front = .ok around ∧ root.DirectoryAt around := by
  induction links generalizing place front with
  | zero => exact exists_directoryAt_of_walkNames_append h hback hplace nofun
  | succ links ih =>
    exact exists_directoryAt_of_walkNames_append h hback hplace fun _ _ dir h ↦ ih h dir

private theorem exists_walkNames_false {x : Entry}
    {follow' : Place → List RawText → Except FileError Place}
    (h : walkNames root true follow place todo = .ok result) (hresult : root.at? result = some x)
    (hfollow : ∀ place todo, follow place todo = .ok result →
      ∃ other y, follow' place todo = .ok other ∧ root.at? other = some y) :
    ∃ other y, walkNames root false follow' place todo = .ok other ∧
      root.at? other = some y := by
  fun_induction walkNames root true follow place todo with
  | case1 => cases h; exact ⟨result, x, by rw [walkNames], hresult⟩
  | case2 place rest ih =>
    rw [walkNames, if_pos rfl]
    exact ih h
  | case3 place rest h1 ih =>
    rw [walkNames, if_neg h1, if_pos rfl]
    exact ih h
  | case4 => cases h
  | case5 place name rest h1 h2 h3 none =>
    cases h
    rw [hresult] at none
    cases none
  | case6 => cases h
  | case7 place name rest h1 h2 h3 es found ih =>
    rw [walkNames_cons h1 h2 h3, found]
    exact ih h
  | case8 place name rest h1 h2 h3 before found last =>
    rw [walkNames_cons h1 h2 h3, found]
    exact ⟨place ++ [name], _, by simp [last], found⟩
  | case9 => cases h
  | case10 place name rest _ _ _ _ _ last => simp at last
  | case11 place name rest h1 h2 h3 target found _ =>
    rw [walkNames_cons h1 h2 h3, found]
    cases rest with
    | nil => exact ⟨place ++ [name], _, by simp, found⟩
    | cons => simpa using hfollow _ _ h

/-- A walk that finds something finds something too if it does not follow a link at the end. -/
theorem exists_walk_false {links : Nat} {x : Entry}
    (h : walk root true links place todo = .ok result) (hresult : root.at? result = some x) :
    ∃ other y, walk root false links place todo = .ok other ∧ root.at? other = some y := by
  induction links generalizing place todo with
  | zero => exact exists_walkNames_false h hresult nofun
  | succ links ih => exact exists_walkNames_false h hresult fun _ _ h ↦ ih h

private theorem walkNames_true {follow' : Place → List RawText → Except FileError Place}
    (h : walkNames root false follow place todo = .ok result)
    (noLink : ∀ target, root.at? result ≠ some (.link target))
    (hfollow : ∀ place todo, follow place todo = .ok result → follow' place todo = .ok result) :
    walkNames root true follow' place todo = .ok result := by
  fun_induction walkNames root false follow place todo with
  | case1 => cases h; rw [walkNames]
  | case2 place rest ih =>
    rw [walkNames, if_pos rfl]
    exact ih h
  | case3 place rest h1 ih =>
    rw [walkNames, if_neg h1, if_pos rfl]
    exact ih h
  | case4 => cases h
  | case5 place name rest h1 h2 h3 found last
  | case8 place name rest h1 h2 h3 _ found last =>
    cases h
    rw [walkNames_cons h1 h2 h3, found]
    exact if_pos last
  | case6 => cases h
  | case7 place name rest h1 h2 h3 es found ih =>
    rw [walkNames_cons h1 h2 h3, found]
    exact ih h
  | case9 => cases h
  | case10 place name rest h1 h2 h3 target found =>
    cases h
    exact absurd found (noLink target)
  | case11 place name rest h1 h2 h3 target found =>
    rw [walkNames_cons h1 h2 h3, found]
    simpa using hfollow _ _ h

/-- A walk that does not end at a link ends there too if it would follow one. -/
theorem walk_true {links : Nat} (h : walk root false links place todo = .ok result)
    (noLink : ∀ target, root.at? result ≠ some (.link target)) :
    walk root true links place todo = .ok result := by
  induction links generalizing place todo with
  | zero => exact walkNames_true h noLink nofun
  | succ links ih => exact walkNames_true h noLink fun _ _ h ↦ ih h

end

end BuiltinAtlas.FileSystem
