import Mathlib.Data.List.Infix
import HiddenImports.Disk.FileTree
import HiddenImports.Proofs.Outcome

/-!
# Reading a file that was added

A file that is added where nothing lies yet is read under every path that leads down to it, if no other
file lies on the way (`read_insert`), and every file that could be read before is still read
(`read_insert_of_read`). Both follow from what lies at each place then (`node?_insert`).
-/

namespace HiddenImports.FileTree

variable {tree : FileTree} {path other : String} {node n : Node} {place : List String}
  {content : ByteArray}

/-! ## What lies at a place -/

/-- The directories on the way come with the entry. -/
theorem node?_insert (hfree : tree.node? (names path) = none) (place : List String) :
    (tree.insert path node).node? place = (tree.node? place).or
      (if place = names path then some node else if place <+: names path then some .directory
        else none) := by
  unfold node? insert
  rw [List.find?_append]
  rcases hfind : tree.entries.find? (·.1 == place) with _ | ⟨_, n⟩
  · by_cases hplace : place = names path
    · subst hplace
      rw [node?, hfind] at hfree
      simp [hfind, hfree]
    · have hne : [(names path, node)].find? (·.1 == place) = none := by simpa using Ne.symm hplace
      simp only [hfind, hne, hplace, List.any_append, List.any_cons, List.any_nil, Option.or_none,
        Bool.or_false, if_false, ← Bool.or_assoc]
      by_cases hbegins : place <+: names path <;>
        by_cases hbelow : (place.isEmpty || tree.entries.any (place.isPrefixOf ·.1)) = true <;>
        simp [hbegins, hbelow]
  · simp [hfind]

theorem node?_insert_of_some (hfree : tree.node? (names path) = none) (h : tree.node? place = some n) :
    (tree.insert path node).node? place = some n := by
  rw [node?_insert hfree, h, Option.some_or]

/-! ## Paths that could be followed before -/

theorem step_insert (hfree : tree.node? (names path) = none) {here next : Place} {part : String}
    (h : tree.step here part = .ok next) : (tree.insert path node).step here part = .ok next := by
  rcases here with ⟨place, _ | _⟩ | _
  · exact h
  · rcases hn : tree.node? (place ++ [part]) with _ | n
    · simp only [step, hn] at h ⊢
      split_ifs at h ⊢ <;> exact h
    · have hn' : (tree.insert path node).node? (place ++ [part]) = some n :=
        node?_insert_of_some hfree hn
      simpa only [step, hn, hn'] using h
  · exact h

theorem foldlM_step_insert (hfree : tree.node? (names path) = none) {next : Place} :
    ∀ {parts : List String} {here : Place}, parts.foldlM tree.step here = .ok next →
      parts.foldlM (tree.insert path node).step here = .ok next
  | [], _, h => h
  | part :: rest, here, h => by
    rw [List.foldlM_cons, bind_eq_ok_iff] at h ⊢
    obtain ⟨middle, hstep, hrest⟩ := h
    exact ⟨middle, step_insert hfree hstep, foldlM_step_insert hfree hrest⟩

/-- An entry where nothing lies yet hides nothing. -/
theorem read_insert_of_read (hfree : tree.node? (names path) = none)
    (h : tree.disk.read other = .ok content) :
    (tree.insert path node).disk.read other = .ok content := by
  simp only [disk, read] at h ⊢
  split_ifs at h ⊢
  rcases hwalk : (parts other).foldlM tree.step (start other) with cause | next
  · rw [hwalk] at h
    cases h
  · rw [hwalk] at h
    rw [foldlM_step_insert hfree hwalk]
    exact h

/-! ## Paths to the new file -/

/-- The path leads down from the working directory and ends in a name. -/
structure Descends (path : String) : Prop where
  noNull : '\x00' ∉ path.toList
  length_le : path.utf8ByteSize ≤ longestPath
  relative : path.toList.head? ≠ some '/'
  down : ∀ part ∈ parts path, part ≠ ".." ∧ part.utf8ByteSize ≤ longestName
  ends : ∃ before last, parts path = before ++ [last] ∧ isIdle last = false

/-- Parts of which every one leads to a directory are followed to the last one. -/
theorem foldlM_step_of_directories : ∀ {parts : List String} {place : List String},
    (∀ part ∈ parts, part ≠ ".." ∧ part.utf8ByteSize ≤ longestName) →
    (∀ q, q ≠ [] → q <+: parts.filter (!isIdle ·) → tree.node? (place ++ q) = some .directory) →
    parts.foldlM tree.step (.inside place .directory) =
      .ok (.inside (place ++ parts.filter (!isIdle ·)) .directory)
  | [], place, _, _ => by simp [pure, Except.pure]
  | part :: rest, place, hdown, hway => by
    obtain ⟨⟨hup, hlength⟩, hdown⟩ := List.forall_mem_cons.1 hdown
    rw [List.foldlM_cons, bind_eq_ok_iff]
    rcases hidle : isIdle part with _ | _
    · rw [List.filter_cons_of_pos (by simp [hidle])] at hway ⊢
      have hnode := hway [part] (by simp) ⟨_, rfl⟩
      refine ⟨.inside (place ++ [part]) .directory, ?_, ?_⟩
      · simp [step, hidle, hup, hnode, Nat.not_lt.2 hlength]
      · rw [foldlM_step_of_directories hdown, List.append_assoc, List.singleton_append]
        intro q hq hbegins
        rw [List.append_assoc, List.singleton_append]
        exact hway _ (by simp) (List.cons_prefix_cons.2 ⟨rfl, hbegins⟩)
    · rw [List.filter_cons_of_neg (by simp [hidle])] at hway ⊢
      exact ⟨.inside place .directory, by simp [step, hidle], foldlM_step_of_directories hdown hway⟩

theorem Descends.ne_empty (h : Descends path) : path ≠ "" := by
  rintro rfl
  obtain ⟨before, last, hparts, hidle⟩ := h.ends
  have hempty : parts "" = [""] := by decide
  rw [hempty] at hparts
  have hlast : "" = last := by simpa using congrArg List.getLast? hparts
  rw [← hlast] at hidle
  cases hidle

/-- A path is followed to the file at its end, if only directories are on the way. -/
theorem foldlM_step_of_descends (h : Descends path)
    (hway : ∀ q, q ≠ [] → q <+: names path → q ≠ names path → tree.node? q = some .directory)
    (hfile : tree.node? (names path) = some (.file content)) :
    (parts path).foldlM tree.step (start path) = .ok (.inside (names path) (.file content)) := by
  obtain ⟨before, last, hparts, hidle⟩ := h.ends
  have hnames : names path = before.filter (!isIdle ·) ++ [last] := by simp [names, hparts, hidle]
  have hdown := h.down
  rw [hparts] at hdown
  obtain ⟨hbefore, hlast⟩ := List.forall_mem_append.1 hdown
  obtain ⟨hup, hlength⟩ := hlast last (by simp)
  have hdirectories : before.foldlM tree.step (.inside [] .directory) =
      .ok (.inside (before.filter (!isIdle ·)) .directory) := by
    refine foldlM_step_of_directories hbefore fun q hq hbegins => hway q hq ?_ ?_
    · rw [hnames]
      exact hbegins.trans (List.prefix_append _ _)
    · rintro rfl
      have hle := hbegins.length_le
      rw [hnames, List.length_append, List.length_singleton] at hle
      omega
  have hstep : tree.step (.inside (before.filter (!isIdle ·)) .directory) last =
      .ok (.inside (names path) (.file content)) := by
    simp [step, hidle, hup, Nat.not_lt.2 hlength, ← hnames, hfile]
  rw [hparts, start, if_neg h.relative, List.foldlM_append, bind_eq_ok_iff]
  exact ⟨_, hdirectories, bind_eq_ok_iff.2 ⟨_, hstep, rfl⟩⟩

/-- A file that is added where nothing lies yet, with no file on the way, is read under every path with
the same names. -/
theorem read_insert (hfree : tree.node? (names path) = none)
    (hway : ∀ q, q <+: names path → ∀ bytes, tree.node? q ≠ some (.file bytes))
    (h : Descends other) (hnames : names other = names path) :
    (tree.insert path (.file content)).disk.read other = .ok content := by
  have hwalk : (parts other).foldlM (tree.insert path (.file content)).step (start other) =
      .ok (.inside (names other) (.file content)) := by
    refine foldlM_step_of_descends h (fun q _ hbegins hne => ?_) ?_
    · rw [hnames] at hbegins hne
      rw [node?_insert hfree, if_neg hne, if_pos hbegins]
      rcases hq : tree.node? q with _ | ⟨bytes⟩ | _
      · rfl
      · exact absurd hq (hway q hbegins bytes)
      · rfl
    · rw [hnames, node?_insert hfree, hfree, if_pos rfl, Option.none_or]
  simp only [disk, read]
  rw [if_neg (by simpa using h.noNull), if_neg h.ne_empty, if_neg (Nat.not_lt.2 h.length_le), hwalk]

example (bytes : ByteArray) :
    let tree := ({} : FileTree).insert "rules/low.json" (.file bytes)
    tree.disk.read "./rules//low.json" = .ok bytes ∧ tree.disk.read "rules" = .error .isDirectory :=
  ⟨rfl, rfl⟩

end HiddenImports.FileTree
