import AxiomPinpointing.FileTree.Script
import AxiomPinpointing.Proofs.Outcome
import Mathlib.Tactic.SplitIfs

/-!
# What operations on files leave alone

Every operation on a tree changes regular files only.  So the directories stay as they are, and with
them every path keeps leading where it led (`SameDirectories.locate_eq_ok_iff`), and a place that
was free to put a file at stays free, even if there is a file by then
(`SameDirectories.vacancy_eq_ok_iff`).

What a script did to a tree is then said place by place: nothing has changed but files at certain
paths (`ChangesOnlyAt`).  Two paths lead to different places if their last names differ
(`head?_of_vacancy`).
-/

namespace AxiomPinpointing

/-! ## The last name of a path -/

namespace Path

/-- The last name of a path, if it has one. -/
def lastName? (path : String) : Option String :=
  (names path).getLast?

/-- What is added to a text without a slash is added to its last piece. -/
lemma exists_splitOn_append (chars : List Char) : ∃ (pieces : List (List Char)) (stem : List Char),
    ∀ ending, '/' ∉ ending → (chars ++ ending).splitOn '/' = pieces ++ [stem ++ ending] := by
  simp only [List.splitOn]
  induction chars with
  | nil =>
    refine ⟨[], [], fun ending plain => List.splitOnP_eq_singleton fun c mem => ?_⟩
    exact beq_false_of_ne fun same => plain (same ▸ mem)
  | cons c chars ih =>
    obtain ⟨pieces, stem, split⟩ := ih
    simp only [List.cons_append, List.splitOnP_cons_eq_if_modifyHead]
    split_ifs with slash
    · refine ⟨[] :: pieces, stem, fun ending plain => ?_⟩
      rw [split ending plain, List.cons_append]
    · cases pieces with
      | nil =>
        refine ⟨[], c :: stem, fun ending plain => ?_⟩
        rw [split ending plain]
        rfl
      | cons first pieces =>
        refine ⟨(c :: first) :: pieces, stem, fun ending plain => ?_⟩
        rw [split ending plain]
        rfl

/-- What is added to a path without a slash is added to its last name. -/
lemma exists_names_append (path : String) : ∃ (above : List String) (stem : String),
    ∀ ending : String, ending ≠ "" → '/' ∉ ending.toList →
      names (path ++ ending) = above ++ [stem ++ ending] := by
  obtain ⟨pieces, stem, split⟩ := exists_splitOn_append path.toList
  refine ⟨(pieces.filter (!·.isEmpty)).map String.ofList, String.ofList stem,
    fun ending nonempty plain => ?_⟩
  have filled : [stem ++ ending.toList].filter (!·.isEmpty) = [stem ++ ending.toList] := by
    simp [nonempty]
  rw [names, String.toList_append, split _ plain, List.filter_append, List.map_append, filled,
    List.map_singleton, String.ofList_append, String.ofList_toList]

lemma exists_lastName?_append (path : String) : ∃ stem : String, ∀ ending : String,
    ending ≠ "" → '/' ∉ ending.toList → lastName? (path ++ ending) = some (stem ++ ending) := by
  obtain ⟨above, stem, split⟩ := exists_names_append path
  refine ⟨stem, fun ending nonempty plain => ?_⟩
  rw [lastName?, split ending nonempty plain, List.getLast?_concat]

/-- What is added to a path does not make it absolute. -/
lemma isAbsolute_append (path ending : String) (relative : ending.toList.head? ≠ some '/') :
    isAbsolute (path ++ ending) = isAbsolute path := by
  rw [isAbsolute, isAbsolute, String.toList_append]
  cases path.toList with
  | nil => simp [relative]
  | cons c cs => rfl

/-- The second path may be extended before or after it is put below the first. -/
lemma join_append (directory name ending : String) (relative : ending.toList.head? ≠ some '/') :
    join directory (name ++ ending) = join directory name ++ ending := by
  rw [join, join, isAbsolute_append name ending relative]
  split_ifs
  · rfl
  · rw [String.append_assoc]
  · rw [String.append_assoc, String.append_assoc, String.append_assoc]

end Path

namespace FileTree

/-! ## Where files are -/

section Places

variable {tree : FileTree} {path : String} {place : Place}

lemma vacancy_eq_ok_iff : tree.vacancy path = .ok place ↔
    tree.locate path = .ok (.entry place false) ∧ isTooLong place = false ∧
      tree.node? place ≠ some .directory := by
  constructor
  · intro h
    obtain ⟨target, led, h⟩ := bind_eq_ok.mp h
    split at h
    next => contradiction
    next => contradiction
    next other =>
      split_ifs at h with long taken
      cases h
      exact ⟨led, by simpa using long, taken⟩
  · rintro ⟨led, short, free⟩
    rw [vacancy, led]
    refine bind_eq_ok.mpr ⟨_, rfl, ?_⟩
    simp [short, free]

lemma regularFile?_eq_some_iff {bytes : List UInt8} :
    tree.regularFile? path = some (place, bytes) ↔
    tree.locate path = .ok (.entry place false) ∧ tree.node? place = some (.file bytes) := by
  constructor
  · intro h
    rw [regularFile?] at h
    split at h
    next led =>
      split at h
      next there =>
        cases h
        exact ⟨led, there⟩
      next => contradiction
    next => contradiction
  · rintro ⟨led, there⟩
    rw [regularFile?, led]
    simp [there]

/-- At a place that is free to put a file at, one opens the file that is there, if there is one. -/
lemma openFile_of_vacancy (h : tree.vacancy path = .ok place) :
    tree.openFile path = match tree.node? place with
      | some (.file bytes) => .ok ⟨bytes, .complete⟩
      | _ => .error .notFound := by
  obtain ⟨located, short, free⟩ := vacancy_eq_ok_iff.mp h
  rw [openFile, located]
  simp only [bind, Except.bind, short]
  cases found : tree.node? place with
  | none => rfl
  | some node =>
    cases node with
    | directory => contradiction
    | file bytes => rfl

lemma create_eq_ok_iff {bytes : List UInt8} {tree' : FileTree} :
    tree.create path bytes = .ok tree' ↔
    ∃ place, tree.vacancy path = .ok place ∧ tree' = tree.put place (.file bytes) := by
  simp only [create, bind_eq_ok, Except.ok.injEq, eq_comm (a := tree')]

lemma move_eq_ok_iff {target : String} {tree' : FileTree} : tree.move path target = .ok tree' ↔
    ∃ place bytes vacant, tree.regularFile? path = some (place, bytes) ∧
      tree.vacancy target = .ok vacant ∧
      tree' = (tree.erase place).put vacant (.file bytes) := by
  constructor
  · intro h
    rw [move] at h
    split at h
    next => contradiction
    next place bytes found =>
      obtain ⟨vacant, free, h⟩ := bind_eq_ok.mp h
      exact ⟨place, bytes, vacant, found, free, (Except.ok.inj h).symm⟩
  · rintro ⟨place, bytes, vacant, found, free, rfl⟩
    rw [move, found]
    exact bind_eq_ok.mpr ⟨vacant, free, rfl⟩

lemma head?_of_locate {asDirectory : Bool} (h : tree.locate path = .ok (.entry place asDirectory)) :
    place.head? = Path.lastName? path := by
  rw [locate] at h
  split_ifs at h
  rw [Path.lastName?]
  split at h
  next => cases h
  next name last =>
    obtain ⟨above, -, h⟩ := bind_eq_ok.mp h
    split_ifs at h with dots
    · cases h
    · cases h
      exact last.symm

lemma head?_of_vacancy (h : tree.vacancy path = .ok place) : place.head? = Path.lastName? path :=
  head?_of_locate (vacancy_eq_ok_iff.mp h).1

lemma ne_nil_of_vacancy (h : tree.vacancy path = .ok place) : place ≠ [] := by
  rintro rfl
  exact (vacancy_eq_ok_iff.mp h).2.2 rfl

lemma ne_nil_of_regularFile? {bytes : List UInt8}
    (h : tree.regularFile? path = some (place, bytes)) : place ≠ [] := by
  rintro rfl
  cases (regularFile?_eq_some_iff.mp h).2

lemma node?_put (below : place ≠ []) (node : Node) (other : Place) :
    (tree.put place node).node? other = if place = other then some node else tree.node? other := by
  split_ifs with same
  · subst same
    obtain ⟨name, above, rfl⟩ := List.exists_cons_of_ne_nil below
    exact tree.node?_put_self name above node
  · exact tree.node?_put_of_ne same node

lemma node?_erase (below : place ≠ []) (other : Place) :
    (tree.erase place).node? other = if place = other then none else tree.node? other := by
  split_ifs with same
  · subst same
    obtain ⟨name, above, rfl⟩ := List.exists_cons_of_ne_nil below
    exact tree.node?_erase_self name above
  · exact tree.node?_erase_of_ne same

end Places

/-! ## The same directories -/

/-- Holds of trees that differ in files only. -/
structure SameDirectories (tree tree' : FileTree) : Prop where
  home : tree'.home = tree.home
  directories : ∀ place, tree'.node? place = some .directory ↔ tree.node? place = some .directory

namespace SameDirectories

variable {tree tree' tree'' : FileTree}

lemma refl (tree : FileTree) : SameDirectories tree tree :=
  ⟨rfl, fun _ => Iff.rfl⟩

lemma symm (h : SameDirectories tree tree') : SameDirectories tree' tree :=
  ⟨h.home.symm, fun place => (h.directories place).symm⟩

lemma trans (h : SameDirectories tree tree') (h' : SameDirectories tree' tree'') :
    SameDirectories tree tree'' :=
  ⟨h'.home.trans h.home, fun place => (h'.directories place).trans (h.directories place)⟩

lemma descend_eq_ok (h : SameDirectories tree tree') {names : List String} {place above : Place}
    (led : tree.descend place names = .ok above) : tree'.descend place names = .ok above := by
  induction names generalizing place with
  | nil => exact led
  | cons name rest ih =>
    rw [descend] at led ⊢
    split_ifs at led ⊢ with here up long
    · exact ih led
    · exact ih led
    · split at led
      next there =>
        rw [(h.directories _).mpr there]
        exact ih led
      next => contradiction
      next => contradiction

lemma locate_eq_ok (h : SameDirectories tree tree') {path : String} {target : Target}
    (led : tree.locate path = .ok target) : tree'.locate path = .ok target := by
  have start : tree'.start path = tree.start path := by rw [FileTree.start, FileTree.start, h.home]
  rw [locate] at led ⊢
  split_ifs at led ⊢ with nul empty long
  split at led
  next => exact led
  next name last =>
    rw [start]
    cases above : tree.descend (tree.start path) (Path.names path).dropLast with
    | error refusal =>
      rw [above] at led
      contradiction
    | ok place =>
      rw [above] at led
      rw [h.descend_eq_ok above]
      exact led

/-- **Paths lead where they led.** -/
lemma locate_eq_ok_iff (h : SameDirectories tree tree') {path : String} {target : Target} :
    tree'.locate path = .ok target ↔ tree.locate path = .ok target :=
  ⟨h.symm.locate_eq_ok, h.locate_eq_ok⟩

/-- **Places stay free** to put a file at. -/
lemma vacancy_eq_ok_iff (h : SameDirectories tree tree') {path : String} {place : Place} :
    tree'.vacancy path = .ok place ↔ tree.vacancy path = .ok place := by
  rw [FileTree.vacancy_eq_ok_iff, FileTree.vacancy_eq_ok_iff, h.locate_eq_ok_iff, ne_eq, ne_eq,
    h.directories]

end SameDirectories

/-! ## Changes -/

/-- Holds if nothing has changed but files at certain paths. -/
structure ChangesOnlyAt (paths : List String) (tree tree' : FileTree) : Prop
    extends SameDirectories tree tree' where
  others : ∀ place, (∀ path ∈ paths, tree.locate path ≠ .ok (.entry place false)) →
    tree'.node? place = tree.node? place

namespace ChangesOnlyAt

variable {paths : List String} {tree tree' tree'' : FileTree}

lemma refl (paths : List String) (tree : FileTree) : ChangesOnlyAt paths tree tree :=
  ⟨.refl tree, fun _ _ => rfl⟩

lemma trans (h : ChangesOnlyAt paths tree tree') (h' : ChangesOnlyAt paths tree' tree'') :
    ChangesOnlyAt paths tree tree'' := by
  refine ⟨h.toSameDirectories.trans h'.toSameDirectories, fun place elsewhere => ?_⟩
  have still : ∀ path ∈ paths, tree'.locate path ≠ .ok (.entry place false) :=
    fun path mem led => elsewhere path mem (h.locate_eq_ok_iff.mp led)
  rw [h'.others place still, h.others place elsewhere]

lemma mono {more : List String} (h : ChangesOnlyAt paths tree tree') (sub : paths ⊆ more) :
    ChangesOnlyAt more tree tree' :=
  ⟨h.toSameDirectories, fun place elsewhere =>
    h.others place fun path mem => elsewhere path (sub mem)⟩

section Operations

variable {path : String} {place : Place} {bytes : List UInt8}

/-- A change at a single place, where there is no directory before or after. -/
lemma of_locate (led : tree.locate path = .ok (.entry place false)) (home : tree'.home = tree.home)
    (before : tree.node? place ≠ some .directory) (after : tree'.node? place ≠ some .directory)
    (others : ∀ other, place ≠ other → tree'.node? other = tree.node? other) :
    ChangesOnlyAt [path] tree tree' where
  home := home
  directories other := by
    by_cases same : place = other
    · subst same
      exact iff_of_false after before
    · rw [others other same]
  others other elsewhere := by
    refine others other ?_
    rintro rfl
    exact elsewhere path List.mem_cons_self led

lemma put (vacant : tree.vacancy path = .ok place) :
    ChangesOnlyAt [path] tree (tree.put place (.file bytes)) := by
  obtain ⟨led, -, free⟩ := FileTree.vacancy_eq_ok_iff.mp vacant
  refine of_locate led rfl free ?_ fun other ne => tree.node?_put_of_ne ne _
  simp [node?_put (ne_nil_of_vacancy vacant)]

lemma erase (found : tree.regularFile? path = some (place, bytes)) :
    ChangesOnlyAt [path] tree (tree.erase place) := by
  obtain ⟨led, there⟩ := regularFile?_eq_some_iff.mp found
  refine of_locate led rfl ?_ ?_ fun other ne => tree.node?_erase_of_ne ne
  · simp [there]
  · simp [node?_erase (ne_nil_of_regularFile? found)]

lemma create (created : tree.create path bytes = .ok tree') : ChangesOnlyAt [path] tree tree' := by
  obtain ⟨place, vacant, rfl⟩ := create_eq_ok_iff.mp created
  exact put vacant

lemma move {target : String} (moved : tree.move path target = .ok tree') :
    ChangesOnlyAt [path, target] tree tree' := by
  obtain ⟨place, bytes, vacant, found, free, rfl⟩ := move_eq_ok_iff.mp moved
  have taken : ChangesOnlyAt [path] tree (tree.erase place) := erase found
  have still : (tree.erase place).vacancy target = .ok vacant :=
    taken.vacancy_eq_ok_iff.mpr free
  exact (taken.mono (by simp)).trans ((put still).mono (by simp))

lemma discard (tree : FileTree) (path : String) :
    ChangesOnlyAt [path] tree (tree.discard path) := by
  rw [FileTree.discard]
  split
  next place bytes found => exact erase found
  next => exact .refl _ tree

end Operations

end ChangesOnlyAt

/-- A file that was created is there. -/
lemma openFile_of_create {tree tree' : FileTree} {path : String} {bytes : List UInt8}
    (created : tree.create path bytes = .ok tree') :
    tree'.openFile path = .ok ⟨bytes, .complete⟩ := by
  obtain ⟨place, vacant, rfl⟩ := create_eq_ok_iff.mp created
  have still := (ChangesOnlyAt.create created).vacancy_eq_ok_iff.mpr vacant
  rw [openFile_of_vacancy still, node?_put (ne_nil_of_vacancy vacant), if_pos rfl]

/-! ## Removing files -/

section Discard

variable {tree : FileTree} {path other : String}

/-- Removing files makes no file. -/
lemma regularFile?_of_discard {found : Place × List UInt8}
    (h : (tree.discard other).regularFile? path = some found) :
    tree.regularFile? path = some found := by
  obtain ⟨place, bytes⟩ := found
  obtain ⟨led, there⟩ := regularFile?_eq_some_iff.mp h
  refine regularFile?_eq_some_iff.mpr
    ⟨(ChangesOnlyAt.discard tree other).locate_eq_ok_iff.mp led, ?_⟩
  rw [discard] at there
  split at there
  next gone _ found =>
    rw [node?_erase (ne_nil_of_regularFile? found)] at there
    split_ifs at there
    exact there
  next => exact there

lemma regularFile?_discard_self : (tree.discard path).regularFile? path = none := by
  refine Option.eq_none_iff_forall_ne_some.mpr fun found kept => ?_
  obtain ⟨place, bytes⟩ := found
  have before : tree.regularFile? path = some (place, bytes) := regularFile?_of_discard kept
  have there := (regularFile?_eq_some_iff.mp kept).2
  rw [discard, before, node?_erase (ne_nil_of_regularFile? before), if_pos rfl] at there
  contradiction

end Discard

/-- Holds if the files at certain paths are gone, and nothing else has changed. -/
structure OnlyRemovedAt (paths : List String) (tree tree' : FileTree) : Prop where
  home : tree'.home = tree.home
  removed : ∀ path ∈ paths, ∀ place bytes, tree.regularFile? path = some (place, bytes) →
    tree'.node? place = none
  kept : ∀ place, (∀ path ∈ paths, ∀ bytes, tree.regularFile? path ≠ some (place, bytes)) →
    tree'.node? place = tree.node? place

/-- Where there was no directory and is no file, there is nothing. -/
lemma SameDirectories.node?_eq_none {tree tree' : FileTree} (h : SameDirectories tree tree')
    {place : Place} (noDirectory : tree.node? place ≠ some .directory)
    (noFile : ∀ bytes, tree'.node? place ≠ some (.file bytes)) : tree'.node? place = none := by
  cases after : tree'.node? place with
  | none => rfl
  | some node =>
    cases node with
    | file bytes => exact absurd after (noFile bytes)
    | directory => exact absurd ((h.directories place).mp after) noDirectory

/-- If nothing has changed but files at certain paths, and there are none now, then they have been
removed, whatever else happened to them in between. -/
lemma ChangesOnlyAt.onlyRemovedAt {paths : List String} {tree tree' : FileTree}
    (h : ChangesOnlyAt paths tree tree') (gone : ∀ path ∈ paths, tree'.regularFile? path = none) :
    OnlyRemovedAt paths tree tree' := by
  have noFile : ∀ path ∈ paths, ∀ place, tree.locate path = .ok (.entry place false) →
      ∀ bytes, tree'.node? place ≠ some (.file bytes) := by
    intro path mem place led bytes there
    have found : tree'.regularFile? path = some (place, bytes) :=
      regularFile?_eq_some_iff.mpr ⟨h.locate_eq_ok_iff.mpr led, there⟩
    rw [gone path mem] at found
    contradiction
  refine ⟨h.home, fun path mem place bytes found => ?_, fun place unnamed => ?_⟩
  · obtain ⟨led, there⟩ := regularFile?_eq_some_iff.mp found
    exact h.node?_eq_none (by simp [there]) (noFile path mem place led)
  · by_cases elsewhere : ∀ path ∈ paths, tree.locate path ≠ .ok (.entry place false)
    · exact h.others place elsewhere
    · push Not at elsewhere
      obtain ⟨path, mem, led⟩ := elsewhere
      by_cases directory : tree.node? place = some .directory
      · rw [directory, h.directories, directory]
      · have before : tree.node? place = none := (SameDirectories.refl tree).node?_eq_none directory
          fun bytes there => unnamed path mem bytes (regularFile?_eq_some_iff.mpr ⟨led, there⟩)
        rw [before, h.node?_eq_none directory (noFile path mem place led)]

end FileTree

end AxiomPinpointing
