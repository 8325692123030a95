import Unreferenced.Project.Tree

/-! Files of a directory tree. A path opens for writing the file at the place that it resolves to. It is
opened only where the directory for it exists and no directory stands in its place, so whatever is
written to it, the files at all other places are what they were. -/

namespace Unreferenced.Project

namespace Tree

/-- The bytes of the file at a place, if one stands there. -/
def fileAt? (tree : Tree) (place : Place) : Option (List UInt8) :=
  match tree.at? place with
  | some (file content) => some content
  | _ => none

theorem fileAt?_directory_cons (entries : List (String × Tree)) (name : String) (rest : Place) :
    (directory entries).fileAt? (name :: rest) =
      (entries.lookup name).bind (·.fileAt? rest) := by
  rw [fileAt?, at?]
  cases entries.lookup name <;> rfl

theorem fileAt?_file (content : List UInt8) (place : Place) :
    (file content).fileAt? place = if place = [] then some content else none := by
  cases place <;> rfl

theorem isDirectoryAt_nil_iff {tree : Tree} :
    tree.isDirectoryAt [] = true ↔ ∃ entries, tree = directory entries := by
  cases tree <;> simp [isDirectoryAt, at?]

theorem isDirectoryAt_cons_iff {tree : Tree} {name : String} {rest : Place} :
    tree.isDirectoryAt (name :: rest) = true ↔ ∃ entries entry,
      tree = directory entries ∧ entries.lookup name = some entry ∧
        entry.isDirectoryAt rest = true := by
  cases tree with
  | file content => simp [isDirectoryAt, at?]
  | directory entries =>
      rw [isDirectoryAt, at?]
      cases h : entries.lookup name with
      | none => simp [h]
      | some entry => simp [h, isDirectoryAt]

theorem lookup_cons_eq_ite (name : String) (entry : Tree) (entries : List (String × Tree))
    (other : String) :
    ((name, entry) :: entries).lookup other =
      if other = name then some entry else entries.lookup other := by
  rw [List.lookup_cons]
  by_cases h : other = name
  · simp [h]
  · simp [h, beq_false_of_ne h]

theorem lookup_setEntry (name : String) (value : Tree) (entries : List (String × Tree))
    (other : String) :
    (setEntry name value entries).lookup other =
      if other = name then some value else entries.lookup other := by
  induction entries with
  | nil => exact lookup_cons_eq_ite name value [] other
  | cons first entries ih =>
      obtain ⟨key, entry⟩ := first
      rw [setEntry]
      by_cases hkey : key = name
      · subst hkey
        rw [if_pos rfl, lookup_cons_eq_ite, lookup_cons_eq_ite]
        by_cases h : other = key <;> simp [h]
      · rw [if_neg hkey, lookup_cons_eq_ite, lookup_cons_eq_ite, ih]
        by_cases h : other = key
        · simp [h, hkey]
        · simp [h]

/-- A file that is put into a directory, in place of none or of another file, changes no other file. -/
theorem fileAt?_put {tree : Tree} {parent : Place} {name : String} (content : List UInt8)
    (hparent : tree.isDirectoryAt parent = true)
    (hname : tree.isDirectoryAt (parent ++ [name]) = false) (place : Place) :
    (tree.put (parent ++ [name]) (file content)).fileAt? place =
      if place = parent ++ [name] then some content else tree.fileAt? place := by
  induction parent generalizing tree place with
  | nil =>
      obtain ⟨entries, rfl⟩ := isDirectoryAt_nil_iff.mp hparent
      rw [List.nil_append, put, put]
      cases place with
      | nil => rfl
      | cons first rest =>
          rw [fileAt?_directory_cons, fileAt?_directory_cons, lookup_setEntry]
          by_cases hfirst : first = name
          · subst hfirst
            rw [if_pos rfl, Option.bind_some, fileAt?_file]
            by_cases hrest : rest = []
            · simp [hrest]
            · -- Nothing is below a file, be it the old one or the new one.
              have hbelow : (entries.lookup first).bind (·.fileAt? rest) = none := by
                cases hentry : entries.lookup first with
                | none => rfl
                | some entry =>
                    cases entry with
                    | file old => rw [Option.bind_some, fileAt?_file, if_neg hrest]
                    | directory below =>
                        have hdirectory : (directory entries).isDirectoryAt [first] = true :=
                          isDirectoryAt_cons_iff.mpr ⟨_, _, rfl, hentry, rfl⟩
                        rw [List.nil_append, hdirectory] at hname
                        cases hname
              simp [hrest, hbelow]
          · simp [hfirst]
  | cons top parent ih =>
      obtain ⟨entries, entry, rfl, hentry, hbelow⟩ := isDirectoryAt_cons_iff.mp hparent
      have hname' : entry.isDirectoryAt (parent ++ [name]) = false := by
        rw [← hname, isDirectoryAt, isDirectoryAt, List.cons_append, at?, hentry]
      rw [List.cons_append, put, hentry, Option.getD_some]
      cases place with
      | nil => rfl
      | cons first rest =>
          rw [fileAt?_directory_cons, fileAt?_directory_cons, lookup_setEntry]
          by_cases hfirst : first = top
          · subst hfirst
            rw [if_pos rfl, hentry, Option.bind_some, Option.bind_some, ih hbelow hname']
            simp
          · simp [hfirst]

/-- Going along components leads to the place that they resolve to. -/
theorem eq_foldl_of_follow {tree : Tree} {text : String} {components : List String}
    {here place : Place} (h : tree.follow text here components = .ok place) :
    place = components.foldl Path.enter here := by
  induction components generalizing here with
  | nil => exact (Except.ok.inj h).symm
  | cons component rest ih =>
      rw [follow] at h
      rw [List.foldl_cons, Path.enter]
      split at h
      · split at h
        · rename_i hdots
          rw [if_pos hdots]
          exact ih h
        · rename_i hdots
          split at h
          · rw [if_neg hdots]
            exact ih h
          · cases h
      · cases h

section Opened

variable {tree : Tree} {current place : Place} {path : Path}

theorem exists_of_opened (h : tree.opened current path = .ok place) : ∃ parent name,
    place = parent ++ [name] ∧ path.components.getLast? = some name ∧
      tree.follow path.text (startOf current path) path.components.dropLast = .ok parent ∧
      tree.isDirectoryAt parent = true ∧ name ≠ ".." ∧
      tree.isDirectoryAt (parent ++ [name]) = false := by
  rw [opened] at h
  split at h
  · cases h
  split at h
  · cases h
  rename_i name hlast
  split at h
  · cases h
  rename_i parent hfollow
  split at h
  · cases h
  rename_i hparent
  split at h
  · cases h
  rename_i hfree
  rw [not_or, Bool.not_eq_true] at hfree
  exact ⟨parent, name, (Except.ok.inj h).symm, hlast, hfollow, by simpa using hparent, hfree⟩

/-- A path opens the file at the place that it resolves to. -/
theorem eq_resolve_of_opened (h : tree.opened current path = .ok place) :
    place = path.resolve current := by
  obtain ⟨parent, name, rfl, hlast, hfollow, -, hdots, -⟩ := exists_of_opened h
  obtain ⟨front, hcomponents⟩ := List.getLast?_eq_some_iff.mp hlast
  rw [hcomponents, List.dropLast_concat] at hfollow
  rw [Path.resolve, hcomponents, List.foldl_append, List.foldl_cons, List.foldl_nil, Path.enter,
    if_neg hdots, eq_foldl_of_follow hfollow]
  rfl

/-- Bytes that are written to the file that a path opens change the file at the place that the path
resolves to, and no other. -/
theorem fileAt?_put_opened (h : tree.opened current path = .ok place) (content : List UInt8)
    (other : Place) :
    (tree.put place (file content)).fileAt? other =
      if other = path.resolve current then some content else tree.fileAt? other := by
  rw [← eq_resolve_of_opened h]
  obtain ⟨parent, name, rfl, -, -, hparent, -, hname⟩ := exists_of_opened h
  exact fileAt?_put content hparent hname other

end Opened

end Tree

end Unreferenced.Project
