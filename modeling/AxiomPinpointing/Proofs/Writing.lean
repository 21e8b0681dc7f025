import AxiomPinpointing.Artifacts
import AxiomPinpointing.Proofs.FileTree
import Mathlib.Data.List.Nodup

/-!
# Both artifacts or none

Writing an extraction takes four steps, and any of them can be refused.  Seen as a change of the
tree (`WriteStep.effect`), each step changes files only, and only at the paths that it names.  This
is kept by every run of steps (`changesOnlyAt_of_foldlM`), and from it follows all the rest.

* Whether a step is refused for want of a free place does not depend on the steps before it, so all
  four are taken exactly if all four paths are free at the start.
* If a step is refused, the tree is as the steps before it have left it (`FirstRefused`), which may
  be after the first move, and the fault has the path of that step (`Artifacts.HeldUp`).  No file
  outlives the removal that follows, wherever it came from.
* The four paths lead to four places (`Artifacts.nodup_lastNames`), so no step undoes another.
-/

namespace AxiomPinpointing

open FileTree (ChangesOnlyAt)

/-! ## Steps as changes of a tree -/

namespace WriteStep

/-- The tree after a step, if the step is not refused. -/
def effect (tree : FileTree) : WriteStep → Except Refusal FileTree
  | writePart path text => tree.create (Artifacts.partOf path) (Text.encodeUtf8 text)
  | movePart path => tree.move (Artifacts.partOf path) path

/-- The paths at which a step may change a file. -/
def touched : WriteStep → List String
  | writePart path _ => [Artifacts.partOf path]
  | movePart path => [Artifacts.partOf path, path]

variable {step : WriteStep} {tree tree' : FileTree}

lemma run_script (step : WriteStep) (tree : FileTree) :
    step.script.run tree = Script.attempt tree (step.effect tree) := by
  cases step <;> rfl

lemma changesOnlyAt_effect (h : step.effect tree = .ok tree') :
    ChangesOnlyAt step.touched tree tree' := by
  cases step with
  | writePart path text => exact .create h
  | movePart path => exact .move h

lemma exists_vacancy_of_effect (h : step.effect tree = .ok tree') :
    ∃ place, tree.vacancy step.blamed = .ok place := by
  cases step with
  | writePart path text =>
    obtain ⟨place, vacant, -⟩ := FileTree.create_eq_ok_iff.mp h
    exact ⟨place, vacant⟩
  | movePart path =>
    obtain ⟨-, -, place, -, vacant, -⟩ := FileTree.move_eq_ok_iff.mp h
    exact ⟨place, vacant⟩

/-- A part that has a free path is put there. -/
lemma exists_effect_writePart {path : String} {place : Place} (text : String)
    (vacant : tree.vacancy (Artifacts.partOf path) = .ok place) :
    ∃ tree', (writePart path text).effect tree = .ok tree' ∧ ∀ other, tree'.node? other =
      if place = other then some (.file (Text.encodeUtf8 text)) else tree.node? other := by
  refine ⟨_, FileTree.create_eq_ok_iff.mpr ⟨place, vacant, rfl⟩, fun other => ?_⟩
  exact FileTree.node?_put (FileTree.ne_nil_of_vacancy vacant) _ other

/-- A part that is there is moved to a path that is free. -/
lemma exists_effect_movePart {path : String} {place vacant : Place} {bytes : List UInt8}
    (part : tree.vacancy (Artifacts.partOf path) = .ok place)
    (there : tree.node? place = some (.file bytes)) (free : tree.vacancy path = .ok vacant) :
    ∃ tree', (movePart path).effect tree = .ok tree' ∧ ∀ other, tree'.node? other =
      if vacant = other then some (.file bytes)
      else if place = other then none else tree.node? other := by
  have found : tree.regularFile? (Artifacts.partOf path) = some (place, bytes) :=
    FileTree.regularFile?_eq_some_iff.mpr ⟨(FileTree.vacancy_eq_ok_iff.mp part).1, there⟩
  refine ⟨_, FileTree.move_eq_ok_iff.mpr ⟨place, bytes, vacant, found, free, rfl⟩, fun other => ?_⟩
  rw [FileTree.node?_put (FileTree.ne_nil_of_vacancy free),
    FileTree.node?_erase (FileTree.ne_nil_of_vacancy part)]

end WriteStep

section Runs

variable {steps : List WriteStep} {tree tree' : FileTree} {paths : List String}

lemma changesOnlyAt_of_foldlM (inside : ∀ step ∈ steps, step.touched ⊆ paths)
    (h : steps.foldlM WriteStep.effect tree = .ok tree') : ChangesOnlyAt paths tree tree' := by
  induction steps generalizing tree with
  | nil =>
    cases h
    exact .refl paths _
  | cons step rest ih =>
    rw [List.foldlM_cons] at h
    obtain ⟨next, taken, h⟩ := bind_eq_ok.mp h
    have one := WriteStep.changesOnlyAt_effect taken
    rw [List.forall_mem_cons] at inside
    exact (one.mono inside.1).trans (ih inside.2 h)

/-- Steps that are all taken find their places free, and would have done so at the start. -/
lemma exists_vacancy_of_foldlM (h : steps.foldlM WriteStep.effect tree = .ok tree') :
    ∀ step ∈ steps, ∃ place, tree.vacancy step.blamed = .ok place := by
  induction steps generalizing tree with
  | nil => simp
  | cons step rest ih =>
    rw [List.foldlM_cons] at h
    obtain ⟨next, taken, h⟩ := bind_eq_ok.mp h
    refine List.forall_mem_cons.mpr ⟨WriteStep.exists_vacancy_of_effect taken, ?_⟩
    intro later mem
    obtain ⟨place, vacant⟩ := ih h later mem
    exact ⟨place, (WriteStep.changesOnlyAt_effect taken).vacancy_eq_ok_iff.mp vacant⟩

/-- Holds if a fault blames the first step that is refused, and what the tree is by then. -/
def FirstRefused (steps : List WriteStep) (tree : FileTree) (fault : Fault) (stopped : FileTree) :
    Prop :=
  ∃ before step later refusal, steps = before ++ step :: later ∧
    before.foldlM WriteStep.effect tree = .ok stopped ∧
    step.effect stopped = .error refusal ∧ fault = .unwritable step.blamed refusal

lemma FirstRefused.cons {step : WriteStep} {next stopped : FileTree} {fault : Fault}
    (taken : step.effect tree = .ok next) (h : FirstRefused steps next fault stopped) :
    FirstRefused (step :: steps) tree fault stopped := by
  obtain ⟨before, last, later, refusal, rfl, passed, refused, blames⟩ := h
  refine ⟨step :: before, last, later, refusal, rfl, ?_, refused, blames⟩
  rw [List.foldlM_cons, taken]
  exact passed

lemma run_takeSteps_cons (step : WriteStep) (steps : List WriteStep) (tree : FileTree) :
    (takeSteps (step :: steps)).run tree = match step.effect tree with
      | .ok next => (takeSteps steps).run next
      | .error refusal => (.error (.unwritable step.blamed refusal), tree) := by
  rw [takeSteps, Script.run_bind, WriteStep.run_script]
  cases step.effect tree <;> rfl

lemma run_takeSteps_of_ok (h : steps.foldlM WriteStep.effect tree = .ok tree') :
    (takeSteps steps).run tree = (.ok (), tree') := by
  induction steps generalizing tree with
  | nil =>
    cases h
    rfl
  | cons step rest ih =>
    rw [List.foldlM_cons] at h
    obtain ⟨next, taken, h⟩ := bind_eq_ok.mp h
    rw [run_takeSteps_cons, taken]
    exact ih h

lemma run_takeSteps_of_error {refusal : Refusal}
    (h : steps.foldlM WriteStep.effect tree = .error refusal) :
    ∃ fault stopped, FirstRefused steps tree fault stopped ∧
      (takeSteps steps).run tree = (.error fault, stopped) := by
  induction steps generalizing tree with
  | nil => contradiction
  | cons step rest ih =>
    rw [run_takeSteps_cons]
    cases taken : step.effect tree with
    | error reason => exact ⟨_, tree, ⟨[], step, rest, reason, rfl, rfl, taken, rfl⟩, rfl⟩
    | ok next =>
      rw [List.foldlM_cons, taken] at h
      obtain ⟨fault, stopped, first, run⟩ := ih h
      exact ⟨fault, stopped, first.cons taken, run⟩

lemma FirstRefused.changesOnlyAt {fault : Fault} {stopped : FileTree}
    (h : FirstRefused steps tree fault stopped) (inside : ∀ step ∈ steps, step.touched ⊆ paths) :
    ChangesOnlyAt paths tree stopped := by
  obtain ⟨before, step, later, refusal, rfl, passed, -, -⟩ := h
  exact changesOnlyAt_of_foldlM (fun step mem => inside step (List.mem_append_left _ mem)) passed

end Runs

/-! ## Removing what is left -/

section Removal

variable {paths : List String}

lemma run_discardAll (paths : List String) (tree : FileTree) :
    (discardAll paths).run tree = ((), paths.foldl FileTree.discard tree) := by
  induction paths generalizing tree with
  | nil => rfl
  | cons path rest ih => exact ih (tree.discard path)

lemma changesOnlyAt_foldl_discard (paths : List String) (tree : FileTree) :
    ChangesOnlyAt paths tree (paths.foldl FileTree.discard tree) := by
  induction paths generalizing tree with
  | nil => exact .refl [] tree
  | cons path rest ih =>
    have one := ChangesOnlyAt.discard tree path
    exact (one.mono (by simp)).trans ((ih _).mono (List.subset_cons_self path rest))

lemma regularFile?_foldl_discard_of_none {tree : FileTree} {path : String} (paths : List String)
    (h : tree.regularFile? path = none) :
    (paths.foldl FileTree.discard tree).regularFile? path = none := by
  induction paths generalizing tree with
  | nil => exact h
  | cons other rest ih =>
    refine ih (Option.eq_none_iff_forall_ne_some.mpr fun found kept => ?_)
    rw [FileTree.regularFile?_of_discard kept] at h
    contradiction

/-- After the removal there is no file at any of the paths, whatever there was before. -/
lemma regularFile?_foldl_discard (tree : FileTree) :
    ∀ path ∈ paths, (paths.foldl FileTree.discard tree).regularFile? path = none := by
  induction paths generalizing tree with
  | nil => simp
  | cons path rest ih =>
    refine List.forall_mem_cons.mpr ⟨?_, ih (tree.discard path)⟩
    exact regularFile?_foldl_discard_of_none rest FileTree.regularFile?_discard_self

end Removal

/-! ## The four paths -/

namespace Artifacts

lemma touched_subset_paths (artifacts : Artifacts) (extraction : Extraction) :
    ∀ step ∈ artifacts.steps extraction, step.touched ⊆ artifacts.paths := by
  simp [steps, paths, WriteStep.touched]

/-- Each path is to blame for one step. -/
lemma map_blamed_steps (artifacts : Artifacts) (extraction : Extraction) :
    (artifacts.steps extraction).map WriteStep.blamed = artifacts.paths := rfl

/-- Holds if a fault is about the first of the four steps that is refused: the i-th step is, once
those before it have been taken, and the i-th of the four paths is to blame. -/
def HeldUp (artifacts : Artifacts) (extraction : Extraction) (tree : FileTree) (fault : Fault) :
    Prop :=
  ∃ i step path refusal stopped, (artifacts.steps extraction)[i]? = some step ∧
    artifacts.paths[i]? = some path ∧
    ((artifacts.steps extraction).take i).foldlM WriteStep.effect tree = .ok stopped ∧
    step.effect stopped = .error refusal ∧ fault = .unwritable path refusal

lemma heldUp_of_firstRefused {artifacts : Artifacts} {extraction : Extraction}
    {tree stopped : FileTree} {fault : Fault}
    (h : FirstRefused (artifacts.steps extraction) tree fault stopped) :
    artifacts.HeldUp extraction tree fault := by
  obtain ⟨before, step, later, refusal, split, passed, refused, blames⟩ := h
  have here : (artifacts.steps extraction)[before.length]? = some step := by simp [split]
  have path : artifacts.paths[before.length]? = some step.blamed := by
    rw [← artifacts.map_blamed_steps extraction, List.getElem?_map, here, Option.map_some]
  refine ⟨before.length, step, step.blamed, refusal, stopped, here, path, ?_, refused, blames⟩
  rwa [split, List.take_left]

lemma fragment_named (directory name : String) :
    (named directory name).fragment = Path.join directory name ++ ".krss" :=
  Path.join_append directory name ".krss" (by decide)

lemma map_named (directory name : String) :
    (named directory name).map = Path.join directory name ++ ".map" :=
  Path.join_append directory name ".map" (by decide)

/-- What is added to a name for the four files of an extraction. -/
def endings : List String :=
  [".krss.part", ".map.part", ".krss", ".map"]

lemma paths_eq_map (directory name : String) :
    (named directory name).paths = endings.map (Path.join directory name ++ ·) := by
  simp [paths, partOf, fragment_named, map_named, String.append_assoc, endings]

lemma nodup_lastNames (directory name : String) :
    ((named directory name).paths.map Path.lastName?).Nodup := by
  obtain ⟨stem, last⟩ := Path.exists_lastName?_append (Path.join directory name)
  have plain : ∀ ending ∈ endings, ending ≠ "" ∧ '/' ∉ ending.toList := by decide
  have four : (named directory name).paths.map Path.lastName? =
      endings.map fun ending => some (stem ++ ending) := by
    rw [paths_eq_map, List.map_map]
    exact List.map_congr_left fun ending known =>
      last ending (plain ending known).1 (plain ending known).2
  rw [four]
  refine List.Nodup.map ?_ (by decide)
  intro ending other same
  simpa using same

section Placed

variable {artifacts : Artifacts} {tree : FileTree} {part mapPart fragment map : Place}

/-- If the four paths are free, and lead to four places, then no step is refused. -/
lemma exists_foldlM_steps (extraction : Extraction)
    (freePart : tree.vacancy (partOf artifacts.fragment) = .ok part)
    (freeMapPart : tree.vacancy (partOf artifacts.map) = .ok mapPart)
    (freeFragment : tree.vacancy artifacts.fragment = .ok fragment)
    (freeMap : tree.vacancy artifacts.map = .ok map)
    (distinct : [part, mapPart, fragment, map].Nodup) :
    ∃ tree', (artifacts.steps extraction).foldlM WriteStep.effect tree = .ok tree' ∧
      tree'.node? fragment = some (.file (Text.encodeUtf8 extraction.fragment)) ∧
      tree'.node? map = some (.file (Text.encodeUtf8 extraction.renumbering.text)) ∧
      tree'.node? part = none ∧ tree'.node? mapPart = none := by
  simp only [List.nodup_cons, List.mem_cons, List.not_mem_nil, or_false, not_or] at distinct
  obtain ⟨⟨ne₁₂, ne₁₃, ne₁₄⟩, ⟨ne₂₃, ne₂₄⟩, ne₃₄, -⟩ := distinct
  obtain ⟨tree₁, taken₁, nodes₁⟩ :=
    WriteStep.exists_effect_writePart extraction.fragment freePart
  have same₁ := (WriteStep.changesOnlyAt_effect taken₁).toSameDirectories
  obtain ⟨tree₂, taken₂, nodes₂⟩ :=
    WriteStep.exists_effect_writePart extraction.renumbering.text
      (same₁.vacancy_eq_ok_iff.mpr freeMapPart)
  have same₂ := same₁.trans (WriteStep.changesOnlyAt_effect taken₂).toSameDirectories
  -- the second part did not overwrite the first
  have there₂ : tree₂.node? part = some (.file (Text.encodeUtf8 extraction.fragment)) := by
    simp [nodes₂, nodes₁, Ne.symm ne₁₂]
  obtain ⟨tree₃, taken₃, nodes₃⟩ := WriteStep.exists_effect_movePart
    (same₂.vacancy_eq_ok_iff.mpr freePart) there₂ (same₂.vacancy_eq_ok_iff.mpr freeFragment)
  have same₃ := same₂.trans (WriteStep.changesOnlyAt_effect taken₃).toSameDirectories
  -- nor did the first move touch the second part
  have there₃ : tree₃.node? mapPart =
      some (.file (Text.encodeUtf8 extraction.renumbering.text)) := by
    simp [nodes₃, nodes₂, ne₁₂, Ne.symm ne₂₃]
  obtain ⟨tree₄, taken₄, nodes₄⟩ := WriteStep.exists_effect_movePart
    (same₃.vacancy_eq_ok_iff.mpr freeMapPart) there₃ (same₃.vacancy_eq_ok_iff.mpr freeMap)
  refine ⟨tree₄, ?_, ?_, ?_, ?_, ?_⟩
  · simp only [steps, List.foldlM_cons, List.foldlM_nil, bind_eq_ok]
    exact ⟨tree₁, taken₁, tree₂, taken₂, tree₃, taken₃, tree₄, taken₄, rfl⟩
  · simp [nodes₄, nodes₃, ne₂₃, Ne.symm ne₃₄]
  · simp [nodes₄]
  · simp [nodes₄, nodes₃, Ne.symm ne₁₂, Ne.symm ne₁₃, Ne.symm ne₁₄]
  · simp [nodes₄, Ne.symm ne₂₄]

/-- Holds if both artifacts of an extraction are at their paths, and no part is left. -/
structure InPlace (artifacts : Artifacts) (extraction : Extraction) (tree : FileTree) : Prop where
  fragment : tree.openFile artifacts.fragment = .ok (.ofText extraction.fragment)
  map : tree.openFile artifacts.map = .ok (.ofText extraction.renumbering.text)
  fragmentPart : tree.openFile (partOf artifacts.fragment) = .error .notFound
  mapPart : tree.openFile (partOf artifacts.map) = .error .notFound

lemma exists_inPlace (extraction : Extraction)
    (lastNames : (artifacts.paths.map Path.lastName?).Nodup)
    (free : ∀ path ∈ artifacts.paths, ∃ place, tree.vacancy path = .ok place) :
    ∃ tree', (artifacts.steps extraction).foldlM WriteStep.effect tree = .ok tree' ∧
      artifacts.InPlace extraction tree' := by
  simp only [paths, List.forall_mem_cons] at free
  obtain ⟨⟨part, freePart⟩, ⟨mapPart, freeMapPart⟩, ⟨fragment, freeFragment⟩, ⟨map, freeMap⟩, -⟩ :=
    free
  have distinct : [part, mapPart, fragment, map].Nodup := by
    refine List.Nodup.of_map List.head? ?_
    simpa only [paths, List.map_cons, List.map_nil, FileTree.head?_of_vacancy freePart,
      FileTree.head?_of_vacancy freeMapPart, FileTree.head?_of_vacancy freeFragment,
      FileTree.head?_of_vacancy freeMap] using lastNames
  obtain ⟨tree', taken, atFragment, atMap, atPart, atMapPart⟩ :=
    exists_foldlM_steps extraction freePart freeMapPart freeFragment freeMap distinct
  have same : FileTree.SameDirectories tree tree' :=
    (changesOnlyAt_of_foldlM (artifacts.touched_subset_paths extraction) taken).toSameDirectories
  refine ⟨tree', taken, ?_, ?_, ?_, ?_⟩
  · rw [FileTree.openFile_of_vacancy (same.vacancy_eq_ok_iff.mpr freeFragment), atFragment]
    rfl
  · rw [FileTree.openFile_of_vacancy (same.vacancy_eq_ok_iff.mpr freeMap), atMap]
    rfl
  · rw [FileTree.openFile_of_vacancy (same.vacancy_eq_ok_iff.mpr freePart), atPart]
  · rw [FileTree.openFile_of_vacancy (same.vacancy_eq_ok_iff.mpr freeMapPart), atMapPart]

end Placed

end Artifacts

/-! ## Writing -/

namespace Extraction

section Write

variable {extraction : Extraction} {directory name : String} {tree tree' : FileTree}

lemma run_write_of_ok
    (h : ((Artifacts.named directory name).steps extraction).foldlM WriteStep.effect tree =
      .ok tree') :
    (extraction.write directory name).run tree =
      ((Artifacts.named directory name).written, tree') := by
  rw [write, Script.run_bind, run_takeSteps_of_ok h]
  rfl

lemma run_write_of_error {refusal : Refusal}
    (h : ((Artifacts.named directory name).steps extraction).foldlM WriteStep.effect tree =
      .error refusal) :
    ∃ fault stopped,
      FirstRefused ((Artifacts.named directory name).steps extraction) tree fault stopped ∧
      (extraction.write directory name).run tree = (logged (.error fault),
        (Artifacts.named directory name).paths.foldl FileTree.discard stopped) := by
  obtain ⟨fault, stopped, first, run⟩ := run_takeSteps_of_error h
  refine ⟨fault, stopped, first, ?_⟩
  rw [write, Script.run_bind, run]
  simp only [Script.run_bind, run_discardAll]
  rfl

/-- If no step is refused, all four paths were free, and the artifacts are in place. -/
lemma placed_of_steps
    (h : ((Artifacts.named directory name).steps extraction).foldlM WriteStep.effect tree =
      .ok tree') :
    ChangesOnlyAt (Artifacts.named directory name).paths tree tree' ∧
      (∀ path ∈ (Artifacts.named directory name).paths, ∃ place, tree.vacancy path = .ok place) ∧
      (Artifacts.named directory name).InPlace extraction tree' := by
  have free : ∀ path ∈ (Artifacts.named directory name).paths,
      ∃ place, tree.vacancy path = .ok place := by
    rw [← (Artifacts.named directory name).map_blamed_steps extraction, List.forall_mem_map]
    exact exists_vacancy_of_foldlM h
  obtain ⟨tree'', again, placed⟩ :=
    Artifacts.exists_inPlace extraction (Artifacts.nodup_lastNames directory name) free
  cases h.symm.trans again
  exact ⟨changesOnlyAt_of_foldlM (Artifacts.touched_subset_paths _ extraction) h, free, placed⟩

/-- If a step is refused, no file is left at the four paths. -/
lemma withdrawn_of_firstRefused {fault : Fault} {stopped : FileTree}
    (h : FirstRefused ((Artifacts.named directory name).steps extraction) tree fault stopped) :
    ChangesOnlyAt (Artifacts.named directory name).paths tree
        ((Artifacts.named directory name).paths.foldl FileTree.discard stopped) ∧
      ∀ path ∈ (Artifacts.named directory name).paths,
        ((Artifacts.named directory name).paths.foldl FileTree.discard stopped).regularFile? path =
          none :=
  ⟨(h.changesOnlyAt (Artifacts.touched_subset_paths _ extraction)).trans
    (changesOnlyAt_foldl_discard _ stopped), regularFile?_foldl_discard stopped⟩

end Write

/-- **All or nothing.**  An extraction can be written exactly if all four paths are free; then both
artifacts are in place, and no part is left.  Otherwise there is no file at any of the four paths,
whatever was there before, and the path of the first step that was refused is to blame.  In both
cases nothing else has changed, and no directory. -/
theorem write_all_or_nothing (extraction : Extraction) (directory name : String)
    (tree : FileTree) :
    let artifacts := Artifacts.named directory name
    let result := (extraction.write directory name).run tree
    ChangesOnlyAt artifacts.paths tree result.2 ∧
      ((∃ written, result.1.outcome = .ok written) ↔
        ∀ path ∈ artifacts.paths, ∃ place, tree.vacancy path = .ok place) ∧
      match result.1.outcome with
      | .ok written => written = artifacts ∧ artifacts.InPlace extraction result.2
      | .error fault =>
        (∀ path ∈ artifacts.paths, result.2.regularFile? path = none) ∧
          artifacts.HeldUp extraction tree fault := by
  intro artifacts result
  cases steps : (artifacts.steps extraction).foldlM WriteStep.effect tree with
  | ok tree' =>
    have run : result = (artifacts.written, tree') := run_write_of_ok steps
    obtain ⟨changes, free, placed⟩ := placed_of_steps steps
    rw [run]
    exact ⟨changes, iff_of_true ⟨artifacts, rfl⟩ free, rfl, placed⟩
  | error refusal =>
    obtain ⟨fault, stopped, first, run⟩ := run_write_of_error steps
    obtain ⟨changes, gone⟩ := withdrawn_of_firstRefused first
    rw [show result = _ from run]
    refine ⟨changes, iff_of_false (by simp [logged]) fun free => ?_, gone,
      Artifacts.heldUp_of_firstRefused first⟩
    obtain ⟨tree', again, -⟩ :=
      Artifacts.exists_inPlace extraction (Artifacts.nodup_lastNames directory name) free
    cases steps.symm.trans again

/-- An extraction that fits into an empty directory, and is held up at its last step if there is a
directory in the way: then the fragment that was moved over an older one is gone.  A directory at
any of the four paths is blamed under that path. -/
theorem write_into_empty_or_blocked :
    let extraction := empty.push "=" ⟨3⟩ (.directional ⟨⟨3⟩, "implies", ["A", "B"], .gci, 1⟩)
    let artifacts := Artifacts.named "" "q"
    let blocked := (FileTree.empty.put ["q.map"] .directory).put ["q.krss"] (.file [0])
    artifacts.InPlace extraction ((extraction.write "" "q").run .empty).2 ∧
      ((extraction.write "" "q").run blocked).1.outcome =
        .error (.unwritable "q.map" .isDirectory) ∧
      (∀ path ∈ artifacts.paths,
        ((extraction.write "" "q").run blocked).2.regularFile? path = none) ∧
      ((extraction.write "" "q").run blocked).2.node? ["q.map"] = some .directory ∧
      ∀ path ∈ ["q.krss.part", "q.map.part", "q.krss", "q.map"],
        ((extraction.write "" "q").run (FileTree.empty.put [path] .directory)).1.outcome =
          .error (.unwritable path .isDirectory) := by
  intro extraction artifacts blocked
  have refused : ((extraction.write "" "q").run blocked).1.outcome =
      .error (.unwritable "q.map" .isDirectory) := rfl
  obtain ⟨-, accepts, written⟩ := write_all_or_nothing extraction "" "q" .empty
  obtain ⟨changes, -, withdrawn⟩ := write_all_or_nothing extraction "" "q" blocked
  rw [refused] at withdrawn
  refine ⟨?_, refused, withdrawn.1, (changes.directories _).mpr rfl, ?_⟩
  · obtain ⟨paths, accepted⟩ := accepts.mpr fun path mem => by
      simp only [Artifacts.paths, List.mem_cons, List.not_mem_nil, or_false] at mem
      rcases mem with rfl | rfl | rfl | rfl <;> exact ⟨_, rfl⟩
    rw [accepted] at written
    exact written.2
  · simp only [List.forall_mem_cons]
    exact ⟨rfl, rfl, rfl, rfl, List.forall_mem_nil _⟩

end Extraction

end AxiomPinpointing
