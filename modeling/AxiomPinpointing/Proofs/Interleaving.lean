import AxiomPinpointing.Proofs.SharedDirectory
import AxiomPinpointing.Proofs.Writing

/-!
# Scripts that take turns

Two scripts may be carried out at the same time, so that the operations of one fall between those of
the other, in any order (`Script.TakeTurns`).  If they work in one directory and name different files
there (`Script.UsesOnly`), no order matters: each comes to the result that it has when it is run
alone, and the tree is as if one had been run after the other (`Script.takeTurns_iff`).

Extractions that are written to one directory under different names are such scripts.  Each names
four files, its own name with one of four endings, and no ending is the end of another; so whatever
the two names are, and even if one of them looks like a file of the other, the eight files differ
(`Artifacts.disjoint_files`).
-/

namespace AxiomPinpointing

open FileTree (ChangesOnlyIn Confined)

namespace Script

variable {α β : Type}

/-! ## Turns -/

/-- Carries out the next operation of a script, if it has not come to its result. -/
def advance? : Script α → FileTree → Option (Script α × FileTree)
  | done _, _ => none
  | openFile path next, tree => some (next (tree.openFile path), tree)
  | create path text next, tree =>
    let (answer, changed) := attempt tree (tree.create path (Text.encodeUtf8 text))
    some (next answer, changed)
  | move source target next, tree =>
    let (answer, changed) := attempt tree (tree.move source target)
    some (next answer, changed)
  | discard path next, tree => some (next, tree.discard path)

/-- **Two scripts take turns** on a tree: at every turn either of them carries out its next
operation, until both have come to their results. -/
inductive TakeTurns : Script α → Script β → FileTree → α → β → FileTree → Prop
  | done (a : α) (b : β) (tree : FileTree) : TakeTurns (.done a) (.done b) tree a b tree
  | first {first first' : Script α} {second : Script β} {tree tree' final : FileTree} {a : α} {b : β}
      (turn : first.advance? tree = some (first', tree'))
      (rest : TakeTurns first' second tree' a b final) : TakeTurns first second tree a b final
  | second {first : Script α} {second second' : Script β} {tree tree' final : FileTree} {a : α}
      {b : β} (turn : second.advance? tree = some (second', tree'))
      (rest : TakeTurns first second' tree' a b final) : TakeTurns first second tree a b final

/-- A script is run by carrying out one operation after the other. -/
lemma run_of_advance? {script script' : Script α} {tree tree' : FileTree}
    (turn : script.advance? tree = some (script', tree')) :
    script.run tree = script'.run tree' := by
  cases script with
  | done => contradiction
  | openFile | create | move | discard =>
    cases turn
    rfl

lemma takeTurns_run_second (a : α) (second : Script β) (tree : FileTree) :
    TakeTurns (.done a) second tree a (second.run tree).1 (second.run tree).2 := by
  induction second generalizing tree with
  | done b => exact .done a b tree
  | openFile path next ih => exact .second rfl (ih _ _)
  | create path text next ih => exact .second rfl (ih _ _)
  | move source target next ih => exact .second rfl (ih _ _)
  | discard path next ih => exact .second rfl (ih _)

/-- One way to take turns is that the second script waits for the first. -/
lemma takeTurns_run (first : Script α) (second : Script β) (tree : FileTree) :
    TakeTurns first second tree (first.run tree).1 (second.run (first.run tree).2).1
      (second.run (first.run tree).2).2 := by
  induction first generalizing tree with
  | done a => exact takeTurns_run_second a second tree
  | openFile path next ih => exact .first rfl (ih _ _)
  | create path text next ih => exact .first rfl (ih _ _)
  | move source target next ih => exact .first rfl (ih _ _)
  | discard path next ih => exact .first rfl (ih _)

/-! ## Scripts in one directory -/

/-- Holds of the scripts that name only certain files in a directory. -/
def UsesOnly (directory : String) (files : Set String) : Script α → Prop
  | done _ => True
  | openFile path next => (∃ file ∈ files, path = Path.join directory file) ∧
      ∀ answer, (next answer).UsesOnly directory files
  | create path _ next => (∃ file ∈ files, path = Path.join directory file) ∧
      ∀ answer, (next answer).UsesOnly directory files
  | move source target next => (∃ file ∈ files, source = Path.join directory file) ∧
      (∃ file ∈ files, target = Path.join directory file) ∧
      ∀ answer, (next answer).UsesOnly directory files
  | discard path next => (∃ file ∈ files, path = Path.join directory file) ∧
      next.UsesOnly directory files

variable {directory : String} {files others : Set String}

lemma UsesOnly.bind {script : Script α} {next : α → Script β}
    (h : script.UsesOnly directory files) (h' : ∀ a, (next a).UsesOnly directory files) :
    (script >>= next).UsesOnly directory files := by
  induction script with
  | done a => exact h' a
  | openFile path rest ih => exact ⟨h.1, fun answer => ih answer (h.2 answer)⟩
  | create path text rest ih => exact ⟨h.1, fun answer => ih answer (h.2 answer)⟩
  | move source target rest ih => exact ⟨h.1, h.2.1, fun answer => ih answer (h.2.2 answer)⟩
  | discard path rest ih => exact ⟨h.1, ih h.2⟩

section Turns

variable (names : ∀ file ∈ files, Path.IsFileName file)
include names

/-- **One turn** changes nothing but the files that the script names, now or later. -/
lemma UsesOnly.advance? {script script' : Script α} {tree tree' : FileTree}
    (h : script.UsesOnly directory files)
    (turn : script.advance? tree = some (script', tree')) :
    script'.UsesOnly directory files ∧ ChangesOnlyIn directory files tree tree' := by
  cases script with
  | done => contradiction
  | openFile path next =>
    cases turn
    exact ⟨h.2 _, .refl directory files tree⟩
  | create path text next =>
    cases turn
    obtain ⟨⟨file, mem, rfl⟩, rest⟩ := h
    exact ⟨rest _, (Confined.create (names file mem) mem _).changes tree⟩
  | move source target next =>
    cases turn
    obtain ⟨⟨file, mem, rfl⟩, ⟨file', mem', rfl⟩, rest⟩ := h
    exact ⟨rest _, (Confined.move (names file mem) mem (names file' mem') mem').changes tree⟩
  | discard path next =>
    cases turn
    obtain ⟨⟨file, mem, rfl⟩, rest⟩ := h
    exact ⟨rest, (Confined.discard (names file mem) mem).changes tree⟩

/-- **A whole run** is confined to the files that the script names. -/
lemma UsesOnly.confined_run {script : Script α} (h : script.UsesOnly directory files) :
    Confined directory files script.run := by
  induction script with
  | done a => exact .pure a
  | openFile path next ih =>
    obtain ⟨⟨file, mem, rfl⟩, rest⟩ := h
    exact (Confined.openFile (names file mem) mem).andThen fun answer => ih answer (rest answer)
  | create path text next ih =>
    obtain ⟨⟨file, mem, rfl⟩, rest⟩ := h
    exact (Confined.create (names file mem) mem _).andThen fun answer => ih answer (rest answer)
  | move source target next ih =>
    obtain ⟨⟨file, mem, rfl⟩, ⟨file', mem', rfl⟩, rest⟩ := h
    exact (Confined.move (names file mem) mem (names file' mem') mem').andThen fun answer =>
      ih answer (rest answer)
  | discard path next ih =>
    obtain ⟨⟨file, mem, rfl⟩, rest⟩ := h
    exact (Confined.discard (names file mem) mem).andThen fun _ => ih rest

end Turns

/-- **Whoever has which turn**, two scripts that name different files of a directory come to the
results that they have alone, and leave the tree that they leave one after the other. -/
lemma takeTurns_iff (names : ∀ file ∈ files, Path.IsFileName file)
    (names' : ∀ file ∈ others, Path.IsFileName file) (disjoint : Disjoint files others)
    {first : Script α} {second : Script β} (uses : first.UsesOnly directory files)
    (uses' : second.UsesOnly directory others) {tree final : FileTree} {a : α} {b : β} :
    TakeTurns first second tree a b final ↔
      a = (first.run tree).1 ∧ b = (second.run tree).1 ∧
        final = (second.run (first.run tree).2).2 := by
  constructor
  · intro h
    induction h with
    | done a b tree => exact ⟨rfl, rfl, rfl⟩
    | first turn rest ih =>
      obtain ⟨still, changes⟩ := uses.advance? names turn
      obtain ⟨hasA, hasB, leaves⟩ := ih still uses'
      rw [run_of_advance? turn]
      refine ⟨hasA, hasB.trans ?_, leaves⟩
      exact (uses'.confined_run names').answer (changes.sameFiles disjoint)
    | @second first second second' tree tree' final a b turn rest ih =>
      obtain ⟨still, changes⟩ := uses'.advance? names' turn
      obtain ⟨hasA, hasB, leaves⟩ := ih uses still
      have alone := uses.confined_run names
      refine ⟨hasA.trans (alone.answer (changes.sameFiles disjoint.symm)), ?_, ?_⟩
      · rw [run_of_advance? turn, hasB]
      -- the first script may as well wait until the second is done
      · calc final = (second'.run (first.run tree').2).2 := leaves
          _ = (first.run (second'.run tree').2).2 :=
            (alone.comm (still.confined_run names') disjoint tree').2
          _ = (first.run (second.run tree).2).2 := by rw [run_of_advance? turn]
          _ = (second.run (first.run tree).2).2 :=
            (alone.comm (uses'.confined_run names') disjoint tree).2.symm
  · rintro ⟨rfl, rfl, rfl⟩
    have alone : (second.run (first.run tree).2).1 = (second.run tree).1 :=
      ((uses'.confined_run names').comm (uses.confined_run names) disjoint.symm tree).1
    rw [← alone]
    exact takeTurns_run first second tree

end Script

/-! ## Writing under two names -/

namespace Artifacts

/-- The files that an extraction is written to. -/
def files (name : String) : Set String :=
  {file | ∃ ending ∈ endings, file = name ++ ending}

variable {name other : String}

lemma plain_of_mem_endings :
    ∀ ending ∈ endings, '/' ∉ ending.toList ∧ 2 < ending.toList.length := by
  decide

lemma isFileName_of_mem_files (plain : '/' ∉ name.toList) :
    ∀ file ∈ files name, Path.IsFileName file := by
  rintro _ ⟨ending, known, rfl⟩
  obtain ⟨plainEnding, long⟩ := plain_of_mem_endings ending known
  constructor
  · rw [String.toList_append, List.mem_append]
    exact not_or.mpr ⟨plain, plainEnding⟩
  · intro special
    have short : ∀ word ∈ ["", ".", ".."], word.toList.length ≤ 2 := by decide
    have bound := short _ special
    rw [String.toList_append, List.length_append] at bound
    omega

/-- No ending is the end of another. -/
lemma eq_of_suffix : ∀ ending ∈ endings, ∀ ending' ∈ endings,
    ending.toList <:+ ending'.toList → ending = ending' := by
  decide

/-- **Two extractions have no file in common**, unless they have the same name. -/
lemma disjoint_files (distinct : name ≠ other) : Disjoint (files name) (files other) := by
  rw [Set.disjoint_left]
  rintro _ ⟨ending, known, rfl⟩ ⟨ending', known', same⟩
  have split := congrArg String.toList same
  rw [String.toList_append, String.toList_append] at split
  have ends : ending.toList <:+ name.toList ++ ending.toList := List.suffix_append _ _
  have ends' : ending'.toList <:+ name.toList ++ ending.toList := split ▸ List.suffix_append _ _
  obtain rfl : ending = ending' := by
    rcases List.suffix_or_suffix_of_suffix ends ends' with inside | inside
    · exact eq_of_suffix ending known ending' known' inside
    · exact (eq_of_suffix ending' known' ending known inside).symm
  exact distinct (String.toList_inj.mp (List.append_cancel_right split))

/-- The four paths are those of the files. -/
lemma paths_named (directory name : String) :
    (named directory name).paths = endings.map fun ending => Path.join directory (name ++ ending) := by
  have relative : ∀ ending ∈ endings, ending.toList.head? ≠ some '/' := by decide
  have joined : ∀ ending ∈ endings,
      Path.join directory (name ++ ending) = Path.join directory name ++ ending :=
    fun ending known => Path.join_append directory name ending (relative ending known)
  rw [List.map_congr_left joined, paths_eq_map]

lemma exists_file_of_mem_paths {directory path : String}
    (h : path ∈ (named directory name).paths) :
    ∃ file ∈ files name, path = Path.join directory file := by
  rw [paths_named, List.mem_map] at h
  obtain ⟨ending, known, rfl⟩ := h
  exact ⟨name ++ ending, ⟨ending, known, rfl⟩, rfl⟩

end Artifacts

section Scripts

variable {directory : String} {files : Set String}

lemma WriteStep.usesOnly_script {step : WriteStep}
    (h : ∀ path ∈ step.touched, ∃ file ∈ files, path = Path.join directory file) :
    step.script.UsesOnly directory files := by
  cases step with
  | writePart path text => exact ⟨h _ List.mem_cons_self, fun _ => trivial⟩
  | movePart path =>
    exact ⟨h _ List.mem_cons_self, h _ (List.mem_cons_of_mem _ List.mem_cons_self),
      fun _ => trivial⟩

lemma usesOnly_takeSteps {steps : List WriteStep}
    (h : ∀ step ∈ steps, ∀ path ∈ step.touched, ∃ file ∈ files, path = Path.join directory file) :
    (takeSteps steps).UsesOnly directory files := by
  induction steps with
  | nil => trivial
  | cons step rest ih =>
    rw [List.forall_mem_cons] at h
    refine (WriteStep.usesOnly_script h.1).bind fun answer => ?_
    cases answer with
    | ok => exact ih h.2
    | error refusal => trivial

lemma usesOnly_discardAll {paths : List String}
    (h : ∀ path ∈ paths, ∃ file ∈ files, path = Path.join directory file) :
    (discardAll paths).UsesOnly directory files := by
  induction paths with
  | nil => trivial
  | cons path rest ih =>
    rw [List.forall_mem_cons] at h
    exact ⟨h.1, ih h.2⟩

end Scripts

namespace Extraction

/-- **An extraction is written to the files of its name**, and nothing else is looked at. -/
lemma usesOnly_write (extraction : Extraction) (directory name : String) :
    (extraction.write directory name).UsesOnly directory (Artifacts.files name) := by
  have inside := (Artifacts.named directory name).touched_subset_paths extraction
  refine (usesOnly_takeSteps fun step mem path touched =>
    Artifacts.exists_file_of_mem_paths (inside step mem touched)).bind fun taken => ?_
  cases taken with
  | ok => trivial
  | error fault =>
    exact (usesOnly_discardAll fun path mem =>
      Artifacts.exists_file_of_mem_paths mem).bind fun _ => trivial

/-- **Extractions with different names do not interfere.**  Two extractions are written to the same
directory, and the operations of one fall between those of the other in any order.  Then each comes
to the result that it has alone, and the tree is in the end as if they had been written one after
the other, whichever comes first. -/
theorem writes_do_not_interfere (extraction extraction' : Extraction) (directory : String)
    {name name' : String} (plain : '/' ∉ name.toList) (plain' : '/' ∉ name'.toList)
    (distinct : name ≠ name') (tree : FileTree) :
    let first := extraction.write directory name
    let second := extraction'.write directory name'
    (∀ a b final, Script.TakeTurns first second tree a b final ↔
      a = (first.run tree).1 ∧ b = (second.run tree).1 ∧
        final = (second.run (first.run tree).2).2) ∧
    (second.run (first.run tree).2).2 = (first.run (second.run tree).2).2 := by
  intro first second
  have names := Artifacts.isFileName_of_mem_files plain
  have names' := Artifacts.isFileName_of_mem_files plain'
  have disjoint := Artifacts.disjoint_files distinct
  have uses := extraction.usesOnly_write directory name
  have uses' := extraction'.usesOnly_write directory name'
  refine ⟨fun a b final => Script.takeTurns_iff names names' disjoint uses uses', ?_⟩
  exact ((uses.confined_run names).comm (uses'.confined_run names') disjoint tree).2

/-- The second name looks like a file of the first, and the first extraction is held up by a
directory at its last step: it is withdrawn, and the second one is written, whoever has which turn. -/
theorem writes_of_lookalike_names :
    let extraction := empty.push "=" ⟨3⟩ (.directional ⟨⟨3⟩, "implies", ["A", "B"], .gci, 1⟩)
    let first := extraction.write "" "q"
    let second := extraction.write "" "q.krss"
    let blocked := FileTree.empty.put ["q.map"] .directory
    (∃ a b final, Script.TakeTurns first second blocked a b final) ∧
    ∀ a b final, Script.TakeTurns first second blocked a b final →
      a.outcome = .error (.unwritable "q.map" .isDirectory) ∧
      b.outcome = .ok (Artifacts.named "" "q.krss") ∧
      final.node? ["q.krss"] = none ∧
      final.node? ["q.krss.krss"] = some (.file (Text.encodeUtf8 "implies A B\n")) := by
  intro extraction first second blocked
  have distinct : "q" ≠ "q.krss" := by decide
  obtain ⟨turns, -⟩ :=
    writes_do_not_interfere extraction extraction "" (by decide) (by decide) distinct blocked
  have refused : (first.run blocked).1.outcome = .error (.unwritable "q.map" .isDirectory) := rfl
  have written : (second.run blocked).1.outcome = .ok (Artifacts.named "" "q.krss") := rfl
  have found : (second.run (first.run blocked).2).2.node? ["q.krss"] = none ∧
      (second.run (first.run blocked).2).2.node? ["q.krss.krss"] =
        some (.file (Text.encodeUtf8 "implies A B\n")) := by
    decide +kernel
  refine ⟨⟨_, _, _, (turns _ _ _).mpr ⟨rfl, rfl, rfl⟩⟩, fun a b final taken => ?_⟩
  obtain ⟨hasA, hasB, leaves⟩ := (turns a b final).mp taken
  rw [hasA, hasB, leaves]
  exact ⟨refused, written, found⟩

end Extraction

end AxiomPinpointing
