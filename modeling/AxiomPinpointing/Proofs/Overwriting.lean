import AxiomPinpointing.Proofs.SharedDirectory
import AxiomPinpointing.Proofs.Writing

/-!
# Writing over an extraction

An extraction may be written where another one was written before, or where that was tried.  Nothing
of the first attempt is left then: the second has the answer, and leaves the tree, that it would
have had without it.

**What is answered** depends on the four places only, and not on the extraction
(`Extraction.run_write`).  The first attempt does not change these places
(`ChangesOnlyAt.vacancies_eq`).  That takes an argument, since a refusal says whether a file is in
the way or nothing is there, and the first attempt puts files into the tree and takes files out.
But the four paths go through the same directories (`Path.Siblings`): if one of these is missing,
then no path leads anywhere, and nothing has been changed.

**What is left** is settled path by path.  Trees that come from a third by changes at certain paths
are equal if they have the same files there (`ChangesOnlyAt.eq_of_regularFile?`), and what a write
leaves at the four paths has nothing to do with what was there.
-/

namespace AxiomPinpointing

open FileTree (ChangesOnlyAt)

/-! ## Paths through the same directories -/

namespace Path

/-- Holds of paths that differ in their last names only. -/
def Siblings (paths : List String) : Prop :=
  ∃ absolute above, ∀ path ∈ paths, isAbsolute path = absolute ∧ (names path).dropLast = above

lemma siblings_append (path : String) {endings : List String}
    (plain : ∀ ending ∈ endings, ending ≠ "" ∧ '/' ∉ ending.toList) :
    Siblings (endings.map (path ++ ·)) := by
  obtain ⟨above, stem, split⟩ := exists_names_append path
  refine ⟨isAbsolute path, above, List.forall_mem_map.mpr fun ending mem => ?_⟩
  obtain ⟨nonempty, plain⟩ := plain ending mem
  refine ⟨isAbsolute_append path ending fun slash => plain (List.mem_of_head? slash), ?_⟩
  rw [split ending nonempty plain, List.dropLast_concat]

end Path

namespace FileTree

section Siblings

variable {tree tree' : FileTree} {paths : List String} {path : String}

lemma descend_congr (same : ∀ place, tree'.node? place = tree.node? place) (place : Place)
    (names : List String) : tree'.descend place names = tree.descend place names := by
  induction names generalizing place with
  | nil => rfl
  | cons name rest ih => simp only [descend, same, ih]

/-- A path that leads to an entry goes through directories that are there. -/
lemma exists_descend_of_locate {place : Place} {asDirectory : Bool}
    (led : tree.locate path = .ok (.entry place asDirectory)) :
    ∃ above, tree.descend (tree.start path) (Path.names path).dropLast = .ok above := by
  rw [locate] at led
  split_ifs at led
  split at led
  next => cases led
  next =>
    obtain ⟨above, through, -⟩ := bind_eq_ok.mp led
    exact ⟨above, through⟩

namespace ChangesOnlyAt

variable (h : ChangesOnlyAt paths tree tree') (siblings : Path.Siblings paths) (mem : path ∈ paths)
include h siblings mem

/-- **The way is the same**, and so is what is in the way: if something is, nothing has changed. -/
lemma descend_eq :
    tree'.descend (tree'.start path) (Path.names path).dropLast =
      tree.descend (tree.start path) (Path.names path).dropLast := by
  obtain ⟨absolute, above, alike⟩ := siblings
  have start : ∀ other ∈ paths, tree.start other = tree.start path := by
    intro other mem'
    rw [FileTree.start, FileTree.start, (alike other mem').1, (alike path mem).1]
  have start' : tree'.start path = tree.start path := by
    rw [FileTree.start, FileTree.start, h.home]
  rw [start']
  cases way : tree.descend (tree.start path) (Path.names path).dropLast with
  | ok there => exact h.descend_eq_ok way
  | error refusal =>
    have unchanged : ∀ place, tree'.node? place = tree.node? place := by
      intro place
      refine h.others place fun other mem' led => ?_
      obtain ⟨there, way'⟩ := exists_descend_of_locate led
      rw [start other mem', (alike other mem').2, ← (alike path mem).2, way] at way'
      contradiction
    rw [descend_congr unchanged, way]

lemma locate_eq : tree'.locate path = tree.locate path := by
  rw [locate, locate, h.descend_eq siblings mem]

/-- **A place stays free, or taken**, for the same reason. -/
lemma vacancy_eq : tree'.vacancy path = tree.vacancy path := by
  rw [vacancy, vacancy, h.locate_eq siblings mem]
  simp only [h.directories]

end ChangesOnlyAt

end Siblings

/-! ## The same files -/

section Files

variable {tree one other : FileTree} {paths : List String} {path : String}

/-- Where a file may be put, the file that can be opened is the file that is there. -/
lemma regularFile?_eq_some_iff_of_vacancy {place : Place} {found : Place × List UInt8}
    (free : one.vacancy path = .ok place) : one.regularFile? path = some found ↔
      place = found.1 ∧ one.openFile path = .ok ⟨found.2, .complete⟩ := by
  obtain ⟨led, -, noDirectory⟩ := vacancy_eq_ok_iff.mp free
  obtain ⟨at', bytes⟩ := found
  rw [regularFile?_eq_some_iff, openFile_of_vacancy free, led]
  cases there : one.node? place with
  | none =>
    simp only [Except.ok.injEq, Target.entry.injEq, and_true, reduceCtorEq, and_false, iff_false]
    rintro ⟨rfl, file⟩
    rw [there] at file
    contradiction
  | some node =>
    cases node with
    | directory => exact absurd there noDirectory
    | file bytes' =>
      simp only [Except.ok.injEq, Target.entry.injEq, and_true, Source.mk.injEq]
      refine and_congr_right ?_
      rintro rfl
      rw [there, Option.some.injEq, Node.file.injEq]

lemma regularFile?_eq_of_openFile {place : Place} (free : one.vacancy path = .ok place)
    (free' : other.vacancy path = .ok place) (same : one.openFile path = other.openFile path) :
    one.regularFile? path = other.regularFile? path := by
  refine Option.ext fun found => ?_
  rw [regularFile?_eq_some_iff_of_vacancy free, regularFile?_eq_some_iff_of_vacancy free', same]

/-- **Trees that have changed at certain paths only** are the same if they have the same files
there. -/
lemma ChangesOnlyAt.eq_of_regularFile? (h : ChangesOnlyAt paths tree one)
    (h' : ChangesOnlyAt paths tree other)
    (root : one.nodes[([] : Place)]? = other.nodes[([] : Place)]?)
    (same : ∀ path ∈ paths, one.regularFile? path = other.regularFile? path) : one = other := by
  have node : ∀ place, one.node? place = other.node? place := by
    intro place
    by_cases elsewhere : ∀ path ∈ paths, tree.locate path ≠ .ok (.entry place false)
    · rw [h.others place elsewhere, h'.others place elsewhere]
    · push Not at elsewhere
      obtain ⟨path, mem, led⟩ := elsewhere
      have file : ∀ bytes, one.node? place = some (.file bytes) ↔
          other.node? place = some (.file bytes) := by
        intro bytes
        have found := congrArg (· = some (place, bytes)) (same path mem)
        simpa only [regularFile?_eq_some_iff, h.locate_eq_ok_iff, h'.locate_eq_ok_iff, led,
          true_and, eq_iff_iff] using found
      refine Option.ext fun node => ?_
      cases node with
      | file bytes => exact file bytes
      | directory => exact (h.directories place).trans (h'.directories place).symm
  refine eq_of_nodes (h.home.trans h'.home.symm) fun place => ?_
  cases place with
  | nil => exact root
  | cons name above => exact node (name :: above)

end Files

end FileTree

/-- No script puts anything at the root. -/
lemma Script.getElem?_nil_run {α : Type} (script : Script α) (tree : FileTree) :
    (script.run tree).2.nodes[([] : Place)]? = tree.nodes[([] : Place)]? := by
  have put : ∀ {tree : FileTree} {path place node}, tree.vacancy path = .ok place →
      (tree.put place node).nodes[([] : Place)]? = tree.nodes[([] : Place)]? := by
    intro tree path place node vacant
    simp [FileTree.put, Std.ExtTreeMap.getElem?_insert, FileTree.ne_nil_of_vacancy vacant]
  have erase : ∀ {tree : FileTree} {path place bytes},
      tree.regularFile? path = some (place, bytes) →
      (tree.erase place).nodes[([] : Place)]? = tree.nodes[([] : Place)]? := by
    intro tree path place bytes found
    simp [FileTree.erase, Std.ExtTreeMap.getElem?_erase, FileTree.ne_nil_of_regularFile? found]
  induction script generalizing tree with
  | done result => rfl
  | openFile path next ih => exact ih _ _
  | create path text next ih =>
    rw [run, FileTree.attempt_create]
    cases vacant : tree.vacancy path with
    | error refusal => exact ih _ _
    | ok place => exact (ih _ _).trans (put vacant)
  | move source target next ih =>
    rw [run, FileTree.attempt_move]
    cases found : tree.regularFile? source with
    | none => exact ih _ _
    | some there =>
      cases vacant : tree.vacancy target with
      | error refusal => exact ih _ _
      | ok place =>
        have still := (FileTree.ChangesOnlyAt.erase found).vacancy_eq_ok_iff.mpr vacant
        exact (ih _ _).trans ((put still).trans (erase found))
  | discard path next ih =>
    refine (ih _).trans ?_
    rw [FileTree.discard]
    cases found : tree.regularFile? path with
    | none => rfl
    | some there => exact erase found

/-! ## What is answered

A step is refused for want of a place only: a part that is to be moved is there, as it was written
two steps before and has not been moved since.
-/

/-- The places for files at some paths; if one of them is not to be had, the first is blamed. -/
def FileTree.vacancies (tree : FileTree) (paths : List String) : Except Fault (List Place) :=
  paths.mapM fun path => (tree.vacancy path).mapError (.unwritable path)

namespace FileTree

variable {tree tree' : FileTree} {paths : List String}

lemma exists_vacancies_iff : (∃ places, tree.vacancies paths = .ok places) ↔
    ∀ path ∈ paths, ∃ place, tree.vacancy path = .ok place := by
  rw [vacancies, exists_mapM_eq_ok_iff]
  refine forall₂_congr fun path _ => exists_congr fun place => ?_
  cases tree.vacancy path <;> simp [Except.mapError]

lemma vacancies_eq_error {before later : List String} {path : String} {refusal : Refusal}
    (free : ∀ other ∈ before, ∃ place, tree.vacancy other = .ok place)
    (blocked : tree.vacancy path = .error refusal) :
    tree.vacancies (before ++ path :: later) = .error (.unwritable path refusal) := by
  refine mapM_eq_error_iff.mpr ⟨before.length, path, by simp, fun other mem => ?_, ?_⟩
  · rw [List.take_left] at mem
    obtain ⟨place, vacant⟩ := free other mem
    exact ⟨place, by rw [vacant]; rfl⟩
  · rw [blocked]
    rfl

lemma ChangesOnlyAt.vacancies_eq (h : ChangesOnlyAt paths tree tree')
    (siblings : Path.Siblings paths) : tree'.vacancies paths = tree.vacancies paths := by
  refine mapM_congr fun path mem => ?_
  rw [h.vacancy_eq siblings mem]

lemma exists_regularFile?_of_create {path : String} {bytes : List UInt8}
    (created : tree.create path bytes = .ok tree') :
    ∃ found, tree'.regularFile? path = some found := by
  have changes := ChangesOnlyAt.create created
  obtain ⟨place, vacant, rfl⟩ := create_eq_ok_iff.mp created
  refine ⟨(place, bytes), regularFile?_eq_some_iff.mpr
    ⟨changes.locate_eq_ok_iff.mpr (vacancy_eq_ok_iff.mp vacant).1, ?_⟩⟩
  rw [node?_put (ne_nil_of_vacancy vacant), if_pos rfl]

end FileTree

namespace WriteStep

variable {step : WriteStep} {tree tree' : FileTree}

/-- **A step takes no file away** but the part that it moves, which has another name. -/
lemma exists_regularFile?_of_effect {path : String} (taken : step.effect tree = .ok tree')
    (there : ∃ found, tree.regularFile? path = some found)
    (other : ∀ moved, step = .movePart moved →
      Path.lastName? (Artifacts.partOf moved) ≠ Path.lastName? path) :
    ∃ found, tree'.regularFile? path = some found := by
  have same := changesOnlyAt_effect taken
  obtain ⟨⟨place, bytes⟩, found⟩ := there
  obtain ⟨led, file⟩ := FileTree.regularFile?_eq_some_iff.mp found
  have kept : ∃ bytes, tree'.node? place = some (.file bytes) := by
    cases step with
    | writePart written text =>
      obtain ⟨vacant, free, rfl⟩ := FileTree.create_eq_ok_iff.mp taken
      rw [FileTree.node?_put (FileTree.ne_nil_of_vacancy free)]
      split_ifs
      · exact ⟨_, rfl⟩
      · exact ⟨bytes, file⟩
    | movePart moved =>
      obtain ⟨part, contents, vacant, isPart, free, rfl⟩ := FileTree.move_eq_ok_iff.mp taken
      rw [FileTree.node?_put (FileTree.ne_nil_of_vacancy free),
        FileTree.node?_erase (FileTree.ne_nil_of_regularFile? isPart)]
      split_ifs with onto gone
      · exact ⟨contents, rfl⟩
      · refine absurd ?_ (other moved rfl)
        rw [← FileTree.head?_of_locate (FileTree.regularFile?_eq_some_iff.mp isPart).1, gone,
          FileTree.head?_of_locate led]
      · exact ⟨bytes, file⟩
  obtain ⟨bytes', file'⟩ := kept
  exact ⟨(place, bytes'), FileTree.regularFile?_eq_some_iff.mpr
    ⟨same.locate_eq_ok_iff.mpr led, file'⟩⟩

/-- A step whose part is there, if it needs one, is refused for want of a place. -/
lemma vacancy_eq_error {refusal : Refusal} (refused : step.effect tree = .error refusal)
    (part : ∀ moved, step = .movePart moved →
      ∃ found, tree.regularFile? (Artifacts.partOf moved) = some found) :
    tree.vacancy step.blamed = .error refusal := by
  cases step with
  | writePart path text =>
    rcases bind_eq_error.mp refused with blocked | ⟨place, -, clash⟩
    · exact blocked
    · contradiction
  | movePart path =>
    obtain ⟨⟨place, bytes⟩, found⟩ := part path rfl
    rw [effect, FileTree.move, found] at refused
    rcases bind_eq_error.mp refused with blocked | ⟨place, -, clash⟩
    · exact blocked
    · contradiction

end WriteStep

namespace Artifacts

variable {artifacts : Artifacts} {extraction : Extraction} {tree stopped : FileTree}

lemma InPlace.openFile_eq {tree' : FileTree} (h : artifacts.InPlace extraction tree)
    (h' : artifacts.InPlace extraction tree') :
    ∀ path ∈ artifacts.paths, tree.openFile path = tree'.openFile path := by
  simp only [paths, List.forall_mem_cons]
  refine ⟨?_, ?_, ?_, ?_, by simp⟩
  · rw [h.fragmentPart, h'.fragmentPart]
  · rw [h.mapPart, h'.mapPart]
  · rw [h.fragment, h'.fragment]
  · rw [h.map, h'.map]

/-- **A part is there when it is moved.** -/
lemma exists_part {before later : List WriteStep} {moved : String}
    (lastNames : (artifacts.paths.map Path.lastName?).Nodup)
    (split : artifacts.steps extraction = before ++ .movePart moved :: later)
    (passed : before.foldlM WriteStep.effect tree = .ok stopped) :
    ∃ found, stopped.regularFile? (partOf moved) = some found := by
  simp only [steps, List.cons_eq_append_iff, List.cons.injEq, reduceCtorEq, false_and, and_false,
    false_or, WriteStep.movePart.injEq] at split
  obtain ⟨_, rfl, _, rfl, ⟨rfl, rfl, -⟩ | ⟨_, rfl, ⟨rfl, rfl, -⟩ | ⟨_, rfl, none⟩⟩⟩ := split
  · -- both parts have been written, the one in question first
    simp only [List.foldlM_cons, List.foldlM_nil, bind_eq_ok] at passed
    obtain ⟨tree₁, first, tree₂, second, ended⟩ := passed
    obtain rfl := Except.ok.inj ended
    exact WriteStep.exists_regularFile?_of_effect second
      (FileTree.exists_regularFile?_of_create first) (by simp)
  · -- and then the other one has been moved
    simp only [List.foldlM_cons, List.foldlM_nil, bind_eq_ok] at passed
    obtain ⟨tree₁, -, tree₂, second, tree₃, third, ended⟩ := passed
    obtain rfl := Except.ok.inj ended
    refine WriteStep.exists_regularFile?_of_effect third
      (FileTree.exists_regularFile?_of_create second) ?_
    rintro _ ⟨⟩
    simp only [paths, List.map_cons, List.nodup_cons, List.mem_cons, not_or] at lastNames
    exact lastNames.1.1
  · simp at none

/-- **The first step that is refused** is the first for which there is no place. -/
lemma vacancies_of_firstRefused {fault : Fault} (siblings : Path.Siblings artifacts.paths)
    (lastNames : (artifacts.paths.map Path.lastName?).Nodup)
    (h : FirstRefused (artifacts.steps extraction) tree fault stopped) :
    tree.vacancies artifacts.paths = .error fault := by
  obtain ⟨before, step, later, refusal, split, passed, refused, rfl⟩ := h
  have paths : artifacts.paths =
      before.map WriteStep.blamed ++ step.blamed :: later.map WriteStep.blamed := by
    rw [← artifacts.map_blamed_steps extraction, split, List.map_append, List.map_cons]
  have inside : ∀ earlier ∈ before, earlier.touched ⊆ artifacts.paths := fun earlier mem =>
    artifacts.touched_subset_paths extraction earlier (split ▸ List.mem_append_left _ mem)
  have changes := changesOnlyAt_of_foldlM inside passed
  have blocked : stopped.vacancy step.blamed = .error refusal := by
    refine WriteStep.vacancy_eq_error refused ?_
    rintro moved rfl
    exact exists_part lastNames split passed
  rw [changes.vacancy_eq siblings (by simp [paths])] at blocked
  rw [paths]
  refine FileTree.vacancies_eq_error (List.forall_mem_map.mpr ?_) blocked
  exact exists_vacancy_of_foldlM passed

lemma siblings_paths (directory name : String) :
    Path.Siblings (named directory name).paths := by
  rw [paths_eq_map]
  exact Path.siblings_append _ (by decide)

end Artifacts

/-! ## Writing again -/

namespace Extraction

section Write

variable (extraction : Extraction) (directory name : String) (tree : FileTree)

/-- **What a write comes to.**  The four places decide whether both artifacts are in place after it
or no file is left at all, and what is answered. -/
lemma run_write :
    let artifacts := Artifacts.named directory name
    let result := (extraction.write directory name).run tree
    ChangesOnlyAt artifacts.paths tree result.2 ∧
      match tree.vacancies artifacts.paths with
      | .ok _ => result.1 = artifacts.written ∧ artifacts.InPlace extraction result.2
      | .error fault => result.1 = logged (.error fault) ∧
          ∀ path ∈ artifacts.paths, result.2.regularFile? path = none := by
  intro artifacts result
  cases steps : (artifacts.steps extraction).foldlM WriteStep.effect tree with
  | ok tree' =>
    have run : result = (artifacts.written, tree') := run_write_of_ok steps
    obtain ⟨changes, free, placed⟩ := placed_of_steps steps
    obtain ⟨places, found⟩ := FileTree.exists_vacancies_iff.mpr free
    rw [run, found]
    exact ⟨changes, rfl, placed⟩
  | error refusal =>
    obtain ⟨fault, stopped, first, run⟩ := run_write_of_error steps
    obtain ⟨changes, gone⟩ := withdrawn_of_firstRefused first
    have blocked := Artifacts.vacancies_of_firstRefused (Artifacts.siblings_paths directory name)
      (Artifacts.nodup_lastNames directory name) first
    rw [show result = _ from run, blocked]
    exact ⟨changes, rfl, gone⟩

end Write

section Twice

variable {last : Extraction} {directory name : String} {tree before : FileTree}

/-- **A write forgets** what was at its four paths. -/
lemma run_write_eq (changes : ChangesOnlyAt (Artifacts.named directory name).paths tree before)
    (root : before.nodes[([] : Place)]? = tree.nodes[([] : Place)]?) :
    (last.write directory name).run before = (last.write directory name).run tree := by
  obtain ⟨changesAlone, alone⟩ := run_write last directory name tree
  obtain ⟨changesAfter, after⟩ := run_write last directory name before
  rw [changes.vacancies_eq (Artifacts.siblings_paths directory name)] at after
  have changesAfter := changes.trans changesAfter
  have alike : ((last.write directory name).run before).1 =
        ((last.write directory name).run tree).1 ∧
      ∀ path ∈ (Artifacts.named directory name).paths,
        ((last.write directory name).run before).2.regularFile? path =
          ((last.write directory name).run tree).2.regularFile? path := by
    cases vacant : tree.vacancies (Artifacts.named directory name).paths with
    | error fault =>
      rw [vacant] at alone after
      refine ⟨after.1.trans alone.1.symm, fun path mem => ?_⟩
      rw [alone.2 path mem, after.2 path mem]
    | ok places =>
      rw [vacant] at alone after
      refine ⟨after.1.trans alone.1.symm, fun path mem => ?_⟩
      obtain ⟨place, free⟩ := FileTree.exists_vacancies_iff.mp ⟨places, vacant⟩ path mem
      exact FileTree.regularFile?_eq_of_openFile (changesAfter.vacancy_eq_ok_iff.mpr free)
        (changesAlone.vacancy_eq_ok_iff.mpr free) (after.2.openFile_eq alone.2 path mem)
  refine Prod.ext alike.1 (changesAfter.eq_of_regularFile? changesAlone ?_ alike.2)
  rw [Script.getElem?_nil_run, Script.getElem?_nil_run, root]

lemma run_write_write (first last : Extraction) (directory name : String) (tree : FileTree) :
    (last.write directory name).run ((first.write directory name).run tree).2 =
      (last.write directory name).run tree :=
  run_write_eq (run_write first directory name tree).1
    ((first.write directory name).getElem?_nil_run tree)

end Twice

/-- **The last writer wins.**  An extraction that is written over another has the answer, and leaves
the tree, that it would have had without the other, whatever became of that one; and to write the
same extraction again, any number of times, changes neither. -/
theorem last_write_wins (last : Extraction) (directory name : String) (tree : FileTree) :
    (∀ first : Extraction,
      (last.write directory name).run ((first.write directory name).run tree).2 =
        (last.write directory name).run tree) ∧
    ∀ times : Nat,
      (last.write directory name).run
          ((fun tree => ((last.write directory name).run tree).2)^[times] tree) =
        (last.write directory name).run tree := by
  refine ⟨fun first => run_write_write first last directory name tree, fun times => ?_⟩
  induction times with
  | zero => rfl
  | succ times ih => rw [Function.iterate_succ_apply', run_write_write, ih]

end Extraction

end AxiomPinpointing
