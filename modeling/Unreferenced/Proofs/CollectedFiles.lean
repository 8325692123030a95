import Mathlib.Data.List.Sort
import Mathlib.Data.List.TakeWhile
import Mathlib.Data.String.Basic
import Unreferenced.Project.Analysis
import Unreferenced.Proofs.FileOrder
import Unreferenced.Proofs.TreeFiles

/-! The search for files. On a disk the names in a directory are distinct, so a file below a directory is
one that stands at a place, and the search finds those at places to which no excluded directory is on the
way. No slash is in a name, so places are told apart by their paths, and a list of files in the order of
their paths is fixed by what is in it. -/

namespace Unreferenced.Project

/-! ### Trees -/

namespace Tree

/-- A tree as it is on a disk: the names in a directory are distinct, and no slash is in any of them. -/
inductive WellFormed : Tree → Prop where
  | file (content : List UInt8) : WellFormed (file content)
  | directory {entries : List (String × Tree)} (hnames : (entries.map Prod.fst).Nodup)
      (hslash : ∀ entry ∈ entries, '/' ∉ entry.1.toList)
      (hentries : ∀ entry ∈ entries, WellFormed entry.2) : WellFormed (directory entries)

theorem lookup_eq_some_iff_mem {entries : List (String × Tree)}
    (hnames : (entries.map Prod.fst).Nodup) {name : String} {entry : Tree} :
    entries.lookup name = some entry ↔ (name, entry) ∈ entries := by
  induction entries with
  | nil => simp
  | cons first entries ih =>
      obtain ⟨other, value⟩ := first
      rw [List.map_cons, List.nodup_cons] at hnames
      rw [lookup_cons_eq_ite, List.mem_cons, Prod.mk.injEq]
      by_cases h : name = other
      · subst h
        have hfresh : (name, entry) ∉ entries :=
          fun hmem => hnames.1 (List.mem_map.mpr ⟨_, hmem, rfl⟩)
        simp [hfresh, eq_comm]
      · simp [h, ih hnames.2]

theorem wellFormed_directory_iff {entries : List (String × Tree)} :
    (directory entries).WellFormed ↔ (entries.map Prod.fst).Nodup ∧
      (∀ entry ∈ entries, '/' ∉ entry.1.toList) ∧ ∀ entry ∈ entries, entry.2.WellFormed := by
  constructor
  · rintro ⟨⟩
    exact ⟨‹_›, ‹_›, ‹_›⟩
  · rintro ⟨hnames, hslash, hentries⟩
    exact .directory hnames hslash hentries

theorem WellFormed.of_lookup {entries : List (String × Tree)}
    (h : (Tree.directory entries).WellFormed) {name : String} {entry : Tree}
    (hentry : entries.lookup name = some entry) : '/' ∉ name.toList ∧ entry.WellFormed := by
  obtain ⟨hnames, hslash, hentries⟩ := wellFormed_directory_iff.mp h
  have hmem := (lookup_eq_some_iff_mem hnames).mp hentry
  exact ⟨hslash _ hmem, hentries _ hmem⟩

theorem at?_append (tree : Tree) (front back : Place) :
    tree.at? (front ++ back) = (tree.at? front).bind (·.at? back) := by
  induction front generalizing tree with
  | nil => rfl
  | cons name front ih =>
      cases tree with
      | file content => rfl
      | directory entries =>
          rw [List.cons_append, at?, at?]
          cases entries.lookup name with
          | none => rfl
          | some entry => exact ih entry

/-- On a disk, what stands at a place is a tree as on a disk, and no slash is in the names on the way. -/
theorem WellFormed.of_at? {tree entry : Tree} (h : tree.WellFormed) {place : Place}
    (hentry : tree.at? place = some entry) : (∀ name ∈ place, '/' ∉ name.toList) ∧ entry.WellFormed := by
  induction place generalizing tree with
  | nil =>
      rw [at?, Option.some.injEq] at hentry
      exact ⟨List.forall_mem_nil _, hentry ▸ h⟩
  | cons name rest ih =>
      cases tree with
      | file content => cases hentry
      | directory entries =>
          rw [at?] at hentry
          split at hentry
          · rename_i below hbelow
            obtain ⟨hslash, hwell⟩ := h.of_lookup hbelow
            obtain ⟨hrest, hresult⟩ := ih hwell hentry
            exact ⟨List.forall_mem_cons.mpr ⟨hslash, hrest⟩, hresult⟩
          · cases hentry

/-- The files of one entry of a directory. -/
def filesOfEntry (excluded : String → Bool) (name : String) : Tree → List (Place × List UInt8)
  | file content => [([name], content)]
  | directory entries =>
    if excluded name then []
    else (filesOf excluded entries).map fun (place, content) => (name :: place, content)

variable {excluded : String → Bool}

theorem filesOf_eq_flatMap (entries : List (String × Tree)) :
    filesOf excluded entries =
      entries.flatMap fun entry => filesOfEntry excluded entry.1 entry.2 := by
  induction entries with
  | nil => rw [filesOf, List.flatMap_nil]
  | cons first entries ih =>
      obtain ⟨name, entry⟩ := first
      rw [List.flatMap_cons, ← ih]
      cases entry with
      | file content => rw [filesOf, filesOfEntry, List.singleton_append]
      | directory below => rw [filesOf, filesOfEntry]

/-- The files of an entry have its name in front, and below it the places that they have there. -/
theorem mem_filesOfEntry_cons {name first : String} {entry : Tree} {place : Place}
    {content : List UInt8} :
    (first :: place, content) ∈ filesOfEntry excluded name entry ↔ first = name ∧
      ((place = [] ∧ entry = file content) ∨
        excluded name = false ∧ (place, content) ∈ entry.filesBelow excluded) := by
  cases entry with
  | file bytes =>
      rw [filesOfEntry, filesBelow, List.mem_singleton, Prod.mk.injEq, List.cons.injEq, file.injEq]
      simp only [List.not_mem_nil, and_false, or_false, and_assoc, eq_comm]
  | directory entries =>
      rw [filesOfEntry, filesBelow]
      cases excluded name with
      | true => simp
      | false => simp [eq_comm, and_comm]

theorem head?_of_mem_filesOfEntry {name : String} {entry : Tree} {place : Place}
    {content : List UInt8} (h : (place, content) ∈ filesOfEntry excluded name entry) :
    place.head? = some name := by
  cases place with
  | nil => cases entry <;> simp [filesOfEntry] at h
  | cons first place => rw [List.head?_cons, (mem_filesOfEntry_cons.mp h).1]

theorem ne_nil_of_mem_filesBelow {tree : Tree} {place : Place} {content : List UInt8}
    (h : (place, content) ∈ tree.filesBelow excluded) : place ≠ [] := by
  rintro rfl
  cases tree with
  | file bytes => cases h
  | directory entries =>
      rw [filesBelow, filesOf_eq_flatMap] at h
      obtain ⟨entry, -, hentry⟩ := List.mem_flatMap.mp h
      cases head?_of_mem_filesOfEntry hentry

theorem mem_filesBelow_cons {entries : List (String × Tree)} (hnames : (entries.map Prod.fst).Nodup)
    {name : String} {place : Place} {content : List UInt8} :
    (name :: place, content) ∈ (directory entries).filesBelow excluded ↔
      ∃ entry, entries.lookup name = some entry ∧ ((place = [] ∧ entry = file content) ∨
        excluded name = false ∧ (place, content) ∈ entry.filesBelow excluded) := by
  rw [filesBelow, filesOf_eq_flatMap, List.mem_flatMap]
  constructor
  · rintro ⟨⟨other, entry⟩, hmem, hfile⟩
    obtain ⟨rfl, hfile⟩ := mem_filesOfEntry_cons.mp hfile
    exact ⟨entry, (lookup_eq_some_iff_mem hnames).mpr hmem, hfile⟩
  · rintro ⟨entry, hentry, hfile⟩
    exact ⟨(name, entry), (lookup_eq_some_iff_mem hnames).mp hentry,
      mem_filesOfEntry_cons.mpr ⟨rfl, hfile⟩⟩

/-- The files below a directory are those at places to which no excluded directory is on the way. -/
theorem mem_filesBelow_iff {tree : Tree} (h : tree.WellFormed) {place : Place}
    {content : List UInt8} :
    (place, content) ∈ tree.filesBelow excluded ↔ place ≠ [] ∧ tree.fileAt? place = some content ∧
      ∀ directory ∈ place.dropLast, excluded directory = false := by
  induction place generalizing tree with
  | nil => exact iff_of_false (fun hmem => ne_nil_of_mem_filesBelow hmem rfl) fun hplace => hplace.1 rfl
  | cons name place ih =>
      cases tree with
      | file bytes => simp [filesBelow, fileAt?_file]
      | directory entries =>
          have hbelow : ∀ entry, entries.lookup name = some entry → entry.WellFormed :=
            fun entry hentry => (h.of_lookup hentry).2
          obtain ⟨hnames, -, -⟩ := wellFormed_directory_iff.mp h
          rw [mem_filesBelow_cons hnames, fileAt?_directory_cons]
          cases hentry : entries.lookup name with
          | none => simp
          | some entry =>
              have hih := ih (hbelow entry hentry)
              cases place with
              | nil =>
                  cases entry with
                  | file bytes => simp [filesBelow, fileAt?_file]
                  | directory below => simp [hih, fileAt?, at?]
              | cons next place => simp [hih, and_left_comm]

/-- On a disk, no two files are at one place. -/
theorem WellFormed.nodup_filesBelow {tree : Tree} (h : tree.WellFormed) :
    ((tree.filesBelow excluded).map Prod.fst).Nodup := by
  induction h with
  | file content => exact List.nodup_nil
  | @directory entries hnames hslash hentries ih =>
      rw [filesBelow, filesOf_eq_flatMap, List.map_flatMap, List.nodup_flatMap]
      constructor
      · rintro ⟨name, entry⟩ hmem
        specialize ih _ hmem
        cases entry with
        | file content => exact List.nodup_singleton _
        | directory below =>
            rw [filesOfEntry]
            split
            · exact List.nodup_nil
            · rw [List.map_map]
              rw [filesBelow] at ih
              have hcons := ih.map (f := (name :: ·)) List.cons_injective
              rw [List.map_map] at hcons
              exact hcons
      -- The files of different entries have different first names.
      · refine (List.pairwise_map.mp hnames).imp fun {first second} hne => ?_
        rintro place hfirst hsecond
        obtain ⟨file, hfile, rfl⟩ := List.mem_map.mp hfirst
        obtain ⟨other, hother, heq⟩ := List.mem_map.mp hsecond
        have hheads : other.1.head? = file.1.head? := congrArg List.head? heq
        rw [head?_of_mem_filesOfEntry hfile, head?_of_mem_filesOfEntry hother] at hheads
        exact hne (Option.some.inj hheads).symm

end Tree

/-! ### Paths -/

namespace Path

theorem join_inj {place place' : Place} (hplace : place ≠ []) (hplace' : place' ≠ [])
    (hslash : ∀ name ∈ place, '/' ∉ name.toList) (hslash' : ∀ name ∈ place', '/' ∉ name.toList)
    (h : join place = join place') : place = place' := by
  have hsplit : ∀ {names : Place}, names ≠ [] → (∀ name ∈ names, '/' ∉ name.toList) →
      (join names).toList.splitOn '/' = names.map String.toList := by
    intro names hne hnames
    rw [join, String.toList_intercalate]
    exact List.splitOn_intercalate '/' (by simpa using hnames) (by simpa using hne)
  have hnames : place.map String.toList = place'.map String.toList := by
    rw [← hsplit hplace hslash, ← hsplit hplace' hslash', h]
  exact List.map_injective_iff.mpr (fun _ _ => String.toList_inj.mp) hnames

end Path

/-- The suffix of a name: what stands from its last dot on, if something stands on both sides of that
dot, and nothing otherwise. -/
inductive SuffixOf (name : List Char) : List Char → Prop where
  | fromDot {stem ending : List Char} (hname : name = stem ++ '.' :: ending) (hdot : '.' ∉ ending)
      (hstem : stem ≠ []) (hending : ending ≠ []) : SuffixOf name ('.' :: ending)
  | empty (h : ∀ stem ending, name = stem ++ '.' :: ending → '.' ∉ ending →
      stem = [] ∨ ending = []) : SuffixOf name []

theorem suffix_append {stem ending : List Char} (hdot : '.' ∉ ending) :
    suffix (String.ofList (stem ++ '.' :: ending)) =
      if stem = [] ∨ ending = [] then "" else String.ofList ('.' :: ending) := by
  have hreverse : (stem ++ '.' :: ending).reverse = ending.reverse ++ '.' :: stem.reverse := by simp
  have hbefore : ∀ c ∈ ending.reverse, (c != '.') = true := by
    intro c hc
    simp only [bne_iff_ne]
    rintro rfl
    exact hdot (List.mem_reverse.mp hc)
  rw [suffix, String.toList_ofList, hreverse, List.takeWhile_append_of_pos hbefore,
    List.dropWhile_append_of_pos hbefore, List.takeWhile_cons_of_neg (by simp),
    List.dropWhile_cons_of_neg (by simp)]
  simp [or_comm]

theorem suffix_of_not_mem {name : List Char} (h : '.' ∉ name) : suffix (String.ofList name) = "" := by
  rw [suffix, String.toList_ofList, List.dropWhile_eq_nil_iff.mpr ?_]
  · simp
  · intro c hc
    simp only [bne_iff_ne]
    rintro rfl
    exact h (List.mem_reverse.mp hc)

theorem exists_last_dot {name : List Char} (h : '.' ∈ name) :
    ∃ stem ending, name = stem ++ '.' :: ending ∧ '.' ∉ ending := by
  obtain ⟨front, back, hreverse, hfront⟩ := List.eq_append_cons_of_mem (List.mem_reverse.mpr h)
  refine ⟨back.reverse, front.reverse, ?_, fun hmem => hfront (List.mem_reverse.mp hmem)⟩
  rw [← List.reverse_reverse name, hreverse]
  simp

theorem suffix_eq_of_suffixOf {name s : String} (h : SuffixOf name.toList s.toList) :
    suffix name = s := by
  rw [← String.ofList_toList (s := name), ← String.ofList_toList (s := s)]
  generalize name.toList = chars, s.toList = ending at h
  cases h with
  | fromDot hname hdot hstem hending =>
      rw [hname, suffix_append hdot, if_neg (not_or.mpr ⟨hstem, hending⟩)]
  | empty h =>
      by_cases hmem : '.' ∈ chars
      · obtain ⟨stem, ending, hname, hdot⟩ := exists_last_dot hmem
        rw [hname, suffix_append hdot, if_pos (h stem ending hname hdot)]
      · exact suffix_of_not_mem hmem

theorem suffixOf_suffix (name : String) : SuffixOf name.toList (suffix name).toList := by
  by_cases hempty : ∀ stem ending, name.toList = stem ++ '.' :: ending → '.' ∉ ending →
      stem = [] ∨ ending = []
  · have hsuffix : suffix name = "" := suffix_eq_of_suffixOf (.empty hempty)
    rw [hsuffix]
    exact .empty hempty
  · push Not at hempty
    obtain ⟨stem, ending, hname, hdot, hstem, hending⟩ := hempty
    have hfrom : SuffixOf name.toList (String.ofList ('.' :: ending)).toList := by
      rw [String.toList_ofList]
      exact .fromDot hname hdot hstem hending
    rw [suffix_eq_of_suffixOf hfrom]
    exact hfrom

theorem suffix_mem_iff {name : String} {suffixes : List String} :
    suffix name ∈ suffixes ↔ ∃ s ∈ suffixes, SuffixOf name.toList s.toList := by
  constructor
  · exact fun h => ⟨_, h, suffixOf_suffix name⟩
  · rintro ⟨s, hs, h⟩
    rw [suffix_eq_of_suffixOf h]
    exact hs

/-! ### Collecting -/

/-- Places at which files are collected: the name ends in one of the suffixes, and no directory on the
way is an excluded one. -/
structure IsCollected (suffixes : List String) (place : Place) : Prop where
  suffix : ∃ name, place.getLast? = some name ∧ ∃ s ∈ suffixes, SuffixOf name.toList s.toList
  included : ∀ directory ∈ place.dropLast, directory ∉ excludedDirectories

theorem isExcluded_eq_false_iff {name : String} :
    isExcluded name = false ↔ name ∉ excludedDirectories := by
  rw [isExcluded, ← Bool.not_eq_true, List.contains_iff_mem]

variable {suffixes : List String} {tree tree' : Tree}

theorem mem_collect_iff (h : tree.WellFormed) {place : Place} {content : List UInt8} :
    (place, content) ∈ collect suffixes tree ↔
      tree.fileAt? place = some content ∧ IsCollected suffixes place := by
  rw [collect, List.mem_mergeSort, List.mem_filter, Tree.mem_filesBelow_iff h]
  simp only [isExcluded_eq_false_iff, List.contains_iff_mem, placeSuffix]
  constructor
  · rintro ⟨⟨hne, hfile, hincluded⟩, hsuffix⟩
    obtain ⟨name, hname⟩ := Option.isSome_iff_exists.mp (List.getLast?_isSome.mpr hne)
    rw [hname, Option.map_some, Option.getD_some] at hsuffix
    exact ⟨hfile, ⟨name, hname, suffix_mem_iff.mp hsuffix⟩, hincluded⟩
  · rintro ⟨hfile, ⟨name, hname, hsuffix⟩, hincluded⟩
    rw [hname, Option.map_some, Option.getD_some]
    refine ⟨⟨?_, hfile, hincluded⟩, suffix_mem_iff.mpr hsuffix⟩
    rintro rfl
    cases hname

theorem eq_of_join_eq_of_mem_collect (h : tree.WellFormed) {file other : Place × List UInt8}
    (hfile : file ∈ collect suffixes tree) (hother : other ∈ collect suffixes tree)
    (hjoin : Path.join file.1 = Path.join other.1) : file.1 = other.1 := by
  have hplace : ∀ {file}, file ∈ collect suffixes tree →
      file.1 ≠ [] ∧ ∀ name ∈ file.1, '/' ∉ name.toList := by
    rintro ⟨place, content⟩ hfile
    obtain ⟨hcontent, hcollected⟩ := (mem_collect_iff h).mp hfile
    obtain ⟨name, hname, -⟩ := hcollected.suffix
    rw [Tree.fileAt?] at hcontent
    split at hcontent
    · rename_i hentry
      refine ⟨?_, (h.of_at? hentry).1⟩
      rintro rfl
      cases hname
    · cases hcontent
  obtain ⟨hne, hslash⟩ := hplace hfile
  obtain ⟨hne', hslash'⟩ := hplace hother
  exact Path.join_inj hne hne' hslash hslash' hjoin

/-- The collected files are in the order of their paths, each of them once. -/
theorem pairwise_collect (h : tree.WellFormed) :
    (collect suffixes tree).Pairwise fun a b => Path.join a.1 < Path.join b.1 := by
  have hdistinct : ((collect suffixes tree).map Prod.fst).Nodup := by
    rw [collect]
    refine ((List.mergeSort_perm _ _).map Prod.fst).nodup_iff.mpr ?_
    exact h.nodup_filesBelow.sublist (List.filter_sublist.map _)
  have hpaths : ((collect suffixes tree).map fun file => Path.join file.1).Nodup := by
    refine List.pairwise_map.mpr ((List.pairwise_map.mp hdistinct).imp_of_mem ?_)
    intro file other hfile hother hne hjoin
    exact hne (eq_of_join_eq_of_mem_collect h hfile hother hjoin)
  rw [collect] at hpaths ⊢
  apply pairwise_lt_mergeSort_of_key
  · intro a b
    exact not_lt_eq_true_iff
  · exact ((List.mergeSort_perm _ _).map _).nodup_iff.mp hpaths

/-- What is collected is fixed by the files at the places at which files are collected. -/
theorem collect_eq_of_fileAt?_eq (h : tree.WellFormed) (h' : tree'.WellFormed)
    (hfiles : ∀ place, IsCollected suffixes place → tree'.fileAt? place = tree.fileAt? place) :
    collect suffixes tree' = collect suffixes tree := by
  have hirrefl : Std.Irrefl fun a b : Place × List UInt8 => Path.join a.1 < Path.join b.1 :=
    ⟨fun _ => lt_irrefl _⟩
  have hantisymm : Std.Antisymm fun a b : Place × List UInt8 => Path.join a.1 < Path.join b.1 :=
    ⟨fun _ _ hab hba => absurd hba hab.asymm⟩
  apply (pairwise_collect h').eq_of_mem_iff (pairwise_collect h)
  rintro ⟨place, content⟩
  rw [mem_collect_iff h', mem_collect_iff h]
  exact and_congr_left fun hcollected => by rw [hfiles place hcollected]

end Unreferenced.Project
