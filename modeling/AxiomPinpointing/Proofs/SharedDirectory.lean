import AxiomPinpointing.Proofs.FileTree
import Mathlib.Data.Set.BooleanAlgebra
import Mathlib.Order.CompletePartialOrder

/-!
# Files of one directory

Programs that work in the same directory do not get in each other's way as long as they use files
with different names.  What a program can see there is little: where the directory is, and what is
under the names that it uses (`SameFiles`).  What it can do is as little: change what is under these
names (`ChangesOnlyIn`).  An operation is **confined** to some files of a directory if it sees and
does no more than that (`Confined`).

* `FileTree.locate_join` — where the path of a file in a directory leads.
* `Confined.create`, `Confined.move`, … — the operations on files are confined to the files they name.
* `Confined.comm` — operations that are confined to different files can change places.
-/

namespace AxiomPinpointing

/-! ## Names of files -/

namespace Path

/-- Names that a file can have: one name, and none of those with a meaning of their own. -/
structure IsFileName (name : String) : Prop where
  plain : '/' ∉ name.toList
  special : name ∉ ["", ".", ".."]

variable {directory file : String}

lemma IsFileName.ne_nil (h : IsFileName file) : file.toList ≠ [] := by
  have nonempty : file ≠ "" := fun empty => h.special (empty ▸ List.mem_cons_self)
  simpa using nonempty

lemma names_append_slash (path rest : String) :
    names (path ++ "/" ++ rest) = names path ++ names rest := by
  have cut : (path ++ "/" ++ rest).toList = path.toList ++ '/' :: rest.toList := by simp
  rw [names, cut, List.splitOn, @List.splitOnP_append_cons _ (· == '/') _ _ '/' rfl,
    List.filter_append, List.map_append]
  rfl

lemma names_of_isFileName (h : IsFileName file) : names file = [file] := by
  have whole : file.toList.splitOn '/' = [file.toList] :=
    List.splitOnP_eq_singleton fun c mem => beq_false_of_ne fun same => h.plain (same ▸ mem)
  rw [names, whole]
  simp [h.ne_nil]

lemma isAbsolute_of_isFileName (h : IsFileName file) : isAbsolute file = false :=
  decide_eq_false fun first => h.plain (List.mem_of_head? first)

/-- The file stands at the end of its path, after the directory or after a slash. -/
lemma join_of_isFileName (h : IsFileName file) (directory : String) :
    (directory = "" ∨ ∃ path, directory = path ++ "/") ∧ join directory file = directory ++ file ∨
      directory ≠ "" ∧ join directory file = directory ++ "/" ++ file := by
  rw [join, isAbsolute_of_isFileName h, if_neg Bool.false_ne_true]
  split_ifs with closed
  · refine .inl ⟨?_, rfl⟩
    rcases Bool.or_eq_true_iff.mp closed with empty | ended
    · exact .inl (String.isEmpty_iff.mp empty)
    · obtain ⟨front, split⟩ := List.getLast?_eq_some_iff.mp (of_decide_eq_true ended)
      refine .inr ⟨String.ofList front, ?_⟩
      rw [← String.toList_inj, split]
      simp
  · refine .inr ⟨?_, rfl⟩
    rintro rfl
    exact closed rfl

/-- **The file is the last name** of its path, and the directory is what comes before. -/
lemma names_join (h : IsFileName file) (directory : String) :
    names (join directory file) = names directory ++ [file] := by
  rw [← names_of_isFileName h]
  rcases join_of_isFileName h directory with ⟨rfl | ⟨path, rfl⟩, joined⟩ | ⟨-, joined⟩
  · rw [joined, String.empty_append]
    rfl
  · have closed : names (path ++ "/") = names path := by
      have split := names_append_slash path ""
      rwa [String.append_empty, show names "" = [] from rfl, List.append_nil] at split
    rw [joined, names_append_slash, closed]
  · rw [joined, names_append_slash]

lemma isAbsolute_join (h : IsFileName file) :
    isAbsolute (join directory file) = isAbsolute directory := by
  by_cases empty : directory = ""
  · subst empty
    have joined : join "" file = file := by
      rcases join_of_isFileName h "" with ⟨-, joined⟩ | ⟨nonempty, -⟩
      · simpa using joined
      · contradiction
    rw [joined, isAbsolute_of_isFileName h]
    rfl
  · have filled : directory.toList ≠ [] := by simpa using empty
    rw [isAbsolute, isAbsolute]
    rcases join_of_isFileName h directory with ⟨-, joined⟩ | ⟨-, joined⟩
    · rw [joined, String.toList_append, List.head?_append_of_ne_nil _ filled]
    · rw [joined, String.toList_append, String.toList_append, List.append_assoc,
        List.head?_append_of_ne_nil _ filled]

lemma endsWithSlash_join (h : IsFileName file) : endsWithSlash (join directory file) = false := by
  have last : (join directory file).toList.getLast? = file.toList.getLast? := by
    rcases join_of_isFileName h directory with ⟨-, joined⟩ | ⟨-, joined⟩ <;>
      rw [joined, String.toList_append, List.getLast?_append_of_ne_nil _ h.ne_nil]
  rw [endsWithSlash, last]
  exact decide_eq_false fun slash => h.plain (List.mem_of_getLast? slash)

end Path

namespace FileTree

/-! ## Where files are -/

/-- The place of a directory. -/
def directoryAt (tree : FileTree) (directory : String) : Except Refusal Place :=
  tree.descend (tree.start directory) (Path.names directory)

/-- Where the path of a file in a directory leads: for all but the place of the directory, the path
itself decides. -/
lemma locate_join (tree : FileTree) (directory : String) {file : String}
    (h : Path.IsFileName file) :
    tree.locate (Path.join directory file) =
      if Path.hasNul (Path.join directory file) then .error .nulInPath
      else if pathLimit < (Path.join directory file).utf8ByteSize then .error .nameTooLong
      else (tree.directoryAt directory).map fun above => .entry (file :: above) false := by
  have names := Path.names_join h directory
  have nonempty : (Path.join directory file).isEmpty = false := by
    refine Bool.eq_false_iff.mpr fun empty => ?_
    rw [String.isEmpty_iff.mp empty] at names
    exact List.append_ne_nil_of_right_ne_nil _ (List.cons_ne_nil file []) names.symm
  have undotted : ¬ (file = "." ∨ file = "..") := by
    rintro (rfl | rfl)
    · exact h.special (by decide)
    · exact h.special (by decide)
  have start : tree.start (Path.join directory file) = tree.start directory := by
    rw [FileTree.start, FileTree.start, Path.isAbsolute_join h]
  simp only [locate, nonempty, names, start, List.getLast?_concat, List.dropLast_concat,
    Path.endsWithSlash_join h, if_neg undotted, directoryAt]
  cases tree.descend (tree.start directory) (Path.names directory) <;> rfl

/-! ## What can be seen and done in a directory -/

/-- Holds of trees that look the same from a directory, as far as the files with certain names are
concerned. -/
structure SameFiles (directory : String) (files : Set String) (tree tree' : FileTree) : Prop where
  place : tree'.directoryAt directory = tree.directoryAt directory
  files : ∀ above, tree.directoryAt directory = .ok above → ∀ file ∈ files,
    tree'.node? (file :: above) = tree.node? (file :: above)

/-- Holds if nothing has changed but the files with certain names in a directory. -/
structure ChangesOnlyIn (directory : String) (files : Set String) (tree tree' : FileTree) :
    Prop where
  home : tree'.home = tree.home
  place : tree'.directoryAt directory = tree.directoryAt directory
  others : ∀ place : Place, (∀ above, tree.directoryAt directory = .ok above → ∀ file ∈ files,
    place ≠ file :: above) → tree'.nodes[place]? = tree.nodes[place]?

variable {directory : String} {files others : Set String} {tree tree' tree'' : FileTree}
  {file : String} {place above : Place} {bytes : List UInt8}

lemma SameDirectories.directoryAt_eq_ok (h : SameDirectories tree tree')
    (led : tree.directoryAt directory = .ok above) : tree'.directoryAt directory = .ok above := by
  have start : tree'.start directory = tree.start directory := by
    rw [FileTree.start, FileTree.start, h.home]
  rw [directoryAt, start]
  exact h.descend_eq_ok led

/-- The place of a file in a directory. -/
lemma eq_cons_of_locate (name : Path.IsFileName file) {asDirectory : Bool}
    (led : tree.locate (Path.join directory file) = .ok (.entry place asDirectory)) :
    ∃ above, tree.directoryAt directory = .ok above ∧ place = file :: above := by
  rw [locate_join tree directory name] at led
  split_ifs at led
  obtain ⟨above, found, same⟩ := map_eq_ok.mp led
  cases same
  exact ⟨above, found, rfl⟩

/-! ### Seeing -/

namespace SameFiles

lemma locate_eq (h : SameFiles directory files tree tree') (name : Path.IsFileName file) :
    tree'.locate (Path.join directory file) = tree.locate (Path.join directory file) := by
  rw [locate_join _ _ name, locate_join _ _ name, h.place]

lemma node?_eq (h : SameFiles directory files tree tree') (name : Path.IsFileName file)
    (mem : file ∈ files) {asDirectory : Bool}
    (led : tree.locate (Path.join directory file) = .ok (.entry place asDirectory)) :
    tree'.node? place = tree.node? place := by
  obtain ⟨above, found, rfl⟩ := eq_cons_of_locate name led
  exact h.files above found file mem

lemma vacancy_eq (h : SameFiles directory files tree tree') (name : Path.IsFileName file)
    (mem : file ∈ files) :
    tree'.vacancy (Path.join directory file) = tree.vacancy (Path.join directory file) := by
  rw [vacancy, vacancy, h.locate_eq name]
  cases led : tree.locate (Path.join directory file) with
  | error refusal => rfl
  | ok target =>
    cases target with
    | directory => rfl
    | entry place asDirectory =>
      cases asDirectory with
      | true => rfl
      | false => simp only [bind, Except.bind, h.node?_eq name mem led]

lemma regularFile?_eq (h : SameFiles directory files tree tree') (name : Path.IsFileName file)
    (mem : file ∈ files) :
    tree'.regularFile? (Path.join directory file) =
      tree.regularFile? (Path.join directory file) := by
  rw [regularFile?, regularFile?, h.locate_eq name]
  split
  next led => rw [h.node?_eq name mem led]
  next => rfl

lemma openFile_eq (h : SameFiles directory files tree tree') (name : Path.IsFileName file)
    (mem : file ∈ files) :
    tree'.openFile (Path.join directory file) = tree.openFile (Path.join directory file) := by
  rw [openFile, openFile, h.locate_eq name]
  cases led : tree.locate (Path.join directory file) with
  | error refusal => rfl
  | ok target =>
    cases target with
    | directory => rfl
    | entry place asDirectory =>
      simp only [bind, Except.bind, h.node?_eq name mem led]

end SameFiles

/-! ### Doing -/

namespace ChangesOnlyIn

lemma refl (directory : String) (files : Set String) (tree : FileTree) :
    ChangesOnlyIn directory files tree tree :=
  ⟨rfl, rfl, fun _ _ => rfl⟩

lemma trans (h : ChangesOnlyIn directory files tree tree')
    (h' : ChangesOnlyIn directory files tree' tree'') :
    ChangesOnlyIn directory files tree tree'' := by
  refine ⟨h'.home.trans h.home, h'.place.trans h.place, fun place elsewhere => ?_⟩
  rw [h'.others place (h.place ▸ elsewhere), h.others place elsewhere]

/-- What is changed under some names is not seen under others. -/
lemma sameFiles (h : ChangesOnlyIn directory files tree tree') (disjoint : Disjoint files others) :
    SameFiles directory others tree tree' where
  place := h.place
  files above found file mem := by
    refine h.others (file :: above) fun above' _ other changed same => ?_
    obtain ⟨rfl, -⟩ := List.cons.inj same
    exact Set.disjoint_left.mp disjoint changed mem

lemma of_locate (name : Path.IsFileName file) (mem : file ∈ files)
    (led : tree.locate (Path.join directory file) = .ok (.entry place false))
    (same : SameDirectories tree tree')
    (others : ∀ other, place ≠ other → tree'.nodes[other]? = tree.nodes[other]?) :
    ChangesOnlyIn directory files tree tree' := by
  obtain ⟨above, found, rfl⟩ := eq_cons_of_locate name led
  refine ⟨same.home, (same.directoryAt_eq_ok found).trans found.symm, fun other elsewhere => ?_⟩
  exact others other (elsewhere above found file mem).symm

lemma put (name : Path.IsFileName file) (mem : file ∈ files)
    (vacant : tree.vacancy (Path.join directory file) = .ok place) (bytes : List UInt8) :
    ChangesOnlyIn directory files tree (tree.put place (.file bytes)) := by
  refine of_locate name mem (vacancy_eq_ok_iff.mp vacant).1
    (ChangesOnlyAt.put vacant).toSameDirectories fun other ne => ?_
  simp [FileTree.put, Std.ExtTreeMap.getElem?_insert, ne]

lemma erase (name : Path.IsFileName file) (mem : file ∈ files)
    (there : tree.regularFile? (Path.join directory file) = some (place, bytes)) :
    ChangesOnlyIn directory files tree (tree.erase place) := by
  refine of_locate name mem (regularFile?_eq_some_iff.mp there).1
    (ChangesOnlyAt.erase there).toSameDirectories fun other ne => ?_
  simp [FileTree.erase, Std.ExtTreeMap.getElem?_erase, ne]

end ChangesOnlyIn

namespace SameFiles

lemma put (h : SameFiles directory files tree tree') (name : Path.IsFileName file)
    (mem : file ∈ files) (vacant : tree.vacancy (Path.join directory file) = .ok place) :
    SameFiles directory files (tree.put place (.file bytes)) (tree'.put place (.file bytes)) := by
  have vacant' := (h.vacancy_eq name mem).trans vacant
  have here := (ChangesOnlyIn.put name mem vacant bytes).place
  have there := (ChangesOnlyIn.put name mem vacant' bytes).place
  refine ⟨there.trans (h.place.trans here.symm), fun above found other seen => ?_⟩
  rw [node?_put (ne_nil_of_vacancy vacant), node?_put (ne_nil_of_vacancy vacant),
    h.files above (here ▸ found) other seen]

lemma erase (h : SameFiles directory files tree tree') (name : Path.IsFileName file)
    (mem : file ∈ files)
    (there : tree.regularFile? (Path.join directory file) = some (place, bytes)) :
    SameFiles directory files (tree.erase place) (tree'.erase place) := by
  have there' := (h.regularFile?_eq name mem).trans there
  have kept := (ChangesOnlyIn.erase name mem there).place
  have kept' := (ChangesOnlyIn.erase name mem there').place
  refine ⟨kept'.trans (h.place.trans kept.symm), fun above found other seen => ?_⟩
  rw [node?_erase (ne_nil_of_regularFile? there), node?_erase (ne_nil_of_regularFile? there),
    h.files above (kept ▸ found) other seen]

end SameFiles

/-! ## Confined operations -/

lemma eq_of_nodes (home : tree'.home = tree.home)
    (nodes : ∀ place : Place, tree'.nodes[place]? = tree.nodes[place]?) : tree' = tree := by
  obtain ⟨nodes₁, home₁⟩ := tree
  obtain ⟨nodes₂, home₂⟩ := tree'
  obtain rfl : home₂ = home₁ := home
  obtain rfl : nodes₂ = nodes₁ := Std.ExtTreeMap.ext_getElem? nodes
  rfl

lemma attempt_create (tree : FileTree) (path : String) (bytes : List UInt8) :
    Script.attempt tree (tree.create path bytes) = match tree.vacancy path with
      | .ok place => (.ok (), tree.put place (.file bytes))
      | .error refusal => (.error refusal, tree) := by
  rw [create]
  cases tree.vacancy path <;> rfl

lemma attempt_move (tree : FileTree) (source target : String) :
    Script.attempt tree (tree.move source target) = match tree.regularFile? source with
      | none => (.error .notFound, tree)
      | some (place, bytes) => match tree.vacancy target with
        | .ok vacant => (.ok (), (tree.erase place).put vacant (.file bytes))
        | .error refusal => (.error refusal, tree) := by
  rw [move]
  cases tree.regularFile? source with
  | none => rfl
  | some there => cases tree.vacancy target <;> rfl

variable {α β : Type}

/-- Holds of operations with an answer that see and change nothing but the files with certain names
in a directory. -/
structure Confined (directory : String) (files : Set String) (act : FileTree → α × FileTree) :
    Prop where
  answer : ∀ {tree tree'}, SameFiles directory files tree tree' → (act tree').1 = (act tree).1
  stays : ∀ {tree tree'}, SameFiles directory files tree tree' →
    SameFiles directory files (act tree).2 (act tree').2
  changes : ∀ tree, ChangesOnlyIn directory files tree (act tree).2

namespace Confined

lemma pure (a : α) : Confined directory files fun tree => (a, tree) :=
  ⟨fun _ => rfl, id, .refl directory files⟩

/-- What follows an operation may depend on its answer. -/
lemma andThen {act : FileTree → α × FileTree} {next : α → FileTree → β × FileTree}
    (first : Confined directory files act) (second : ∀ a, Confined directory files (next a)) :
    Confined directory files fun tree => next (act tree).1 (act tree).2 where
  answer same := by rw [first.answer same, (second _).answer (first.stays same)]
  stays same := by
    rw [first.answer same]
    exact (second _).stays (first.stays same)
  changes tree := (first.changes tree).trans ((second _).changes _)

/-! ### The operations on files -/

section Operations

variable (name : Path.IsFileName file) (mem : file ∈ files)
include name mem

lemma openFile :
    Confined directory files fun tree => (tree.openFile (Path.join directory file), tree) :=
  ⟨fun same => same.openFile_eq name mem, id, .refl directory files⟩

lemma create (bytes : List UInt8) : Confined directory files fun tree =>
    Script.attempt tree (tree.create (Path.join directory file) bytes) := by
  simp only [attempt_create]
  refine ⟨fun {tree tree'} same => ?_, fun {tree tree'} same => ?_, fun tree => ?_⟩
  · rw [same.vacancy_eq name mem]
    cases tree.vacancy (Path.join directory file) <;> rfl
  · rw [same.vacancy_eq name mem]
    cases vacant : tree.vacancy (Path.join directory file) with
    | error refusal => exact same
    | ok place => exact same.put name mem vacant
  · cases vacant : tree.vacancy (Path.join directory file) with
    | error refusal => exact .refl directory files tree
    | ok place => exact .put name mem vacant _

lemma discard : Confined directory files fun tree =>
    ((), tree.discard (Path.join directory file)) := by
  refine ⟨fun _ => rfl, fun {tree tree'} same => ?_, fun tree => ?_⟩
  · rw [FileTree.discard, FileTree.discard, same.regularFile?_eq name mem]
    cases found : tree.regularFile? (Path.join directory file) with
    | none => exact same
    | some there => exact same.erase name mem found
  · rw [FileTree.discard]
    cases found : tree.regularFile? (Path.join directory file) with
    | none => exact .refl directory files tree
    | some there => exact .erase name mem found

lemma move {target : String} (targetName : Path.IsFileName target) (targetMem : target ∈ files) :
    Confined directory files fun tree => Script.attempt tree
      (tree.move (Path.join directory file) (Path.join directory target)) := by
  simp only [attempt_move]
  refine ⟨fun {tree tree'} same => ?_, fun {tree tree'} same => ?_, fun tree => ?_⟩
  · rw [same.regularFile?_eq name mem, same.vacancy_eq targetName targetMem]
    cases tree.regularFile? (Path.join directory file) with
    | none => rfl
    | some there => cases tree.vacancy (Path.join directory target) <;> rfl
  · rw [same.regularFile?_eq name mem, same.vacancy_eq targetName targetMem]
    cases found : tree.regularFile? (Path.join directory file) with
    | none => exact same
    | some there =>
      cases vacant : tree.vacancy (Path.join directory target) with
      | error refusal => exact same
      | ok place =>
        have still := (ChangesOnlyAt.erase found).vacancy_eq_ok_iff.mpr vacant
        exact (same.erase name mem found).put targetName targetMem still
  · cases found : tree.regularFile? (Path.join directory file) with
    | none => exact .refl directory files tree
    | some there =>
      cases vacant : tree.vacancy (Path.join directory target) with
      | error refusal => exact .refl directory files tree
      | ok place =>
        have still := (ChangesOnlyAt.erase found).vacancy_eq_ok_iff.mpr vacant
        exact (ChangesOnlyIn.erase name mem found).trans (.put targetName targetMem still _)

end Operations

/-! ### Changing places -/

section Commuting

variable {act : FileTree → α × FileTree} {other : FileTree → β × FileTree}

/-- Where the first operation works, both orders leave what it leaves when it is alone. -/
lemma node?_comm (h : Confined directory files act) (h' : Confined directory others other)
    (disjoint : Disjoint files others) (tree : FileTree)
    (found : tree.directoryAt directory = .ok above) (mem : file ∈ files) :
    (other (act tree).2).2.node? (file :: above) = (act (other tree).2).2.node? (file :: above) := by
  have before := (h'.changes (act tree).2).sameFiles disjoint.symm
  have after := h.stays ((h'.changes tree).sameFiles disjoint.symm)
  have still : (act tree).2.directoryAt directory = .ok above := (h.changes tree).place.trans found
  rw [before.files above still file mem, after.files above still file mem]

/-- **Operations confined to different files can change places**: neither answer depends on the
other operation, and both orders leave the same tree. -/
lemma comm (h : Confined directory files act) (h' : Confined directory others other)
    (disjoint : Disjoint files others) (tree : FileTree) :
    (act (other tree).2).1 = (act tree).1 ∧ (other (act tree).2).2 = (act (other tree).2).2 := by
  refine ⟨h.answer ((h'.changes tree).sameFiles disjoint.symm), eq_of_nodes ?_ fun place => ?_⟩
  · rw [(h'.changes _).home, (h.changes _).home, (h.changes _).home, (h'.changes _).home]
  · have moved := (h.changes tree).place
    have moved' := (h'.changes tree).place
    by_cases own : ∃ above, tree.directoryAt directory = .ok above ∧
      ∃ file ∈ files, place = file :: above
    · obtain ⟨above, found, file, mem, rfl⟩ := own
      exact h.node?_comm h' disjoint tree found mem
    by_cases foreign : ∃ above, tree.directoryAt directory = .ok above ∧
      ∃ file ∈ others, place = file :: above
    · obtain ⟨above, found, file, mem, rfl⟩ := foreign
      exact (h'.node?_comm h disjoint.symm tree found mem).symm
    push Not at own foreign
    rw [(h'.changes _).others place (moved ▸ foreign), (h.changes _).others place own,
      (h.changes _).others place (moved' ▸ own), (h'.changes _).others place foreign]

end Commuting

end Confined

end FileTree

end AxiomPinpointing
