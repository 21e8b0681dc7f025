import AxiomPinpointing.Proofs.Commands
import AxiomPinpointing.Proofs.Fragment

/-!
# From extracting to looking up

What `extract` has written, `translate` can read: the index map of a module answers every place of
the module with the number there, and every number of the module with its first place.  Any other
value is a fault, and then none of the values is answered.

The command line has to be followed for this from end to end.  The path of an index map ends in
`.map`, so that it is never taken for a compressed file (`isCompressed_map`), and any list of values
can be asked for (`LookUpCommand.ofArguments_arguments`).
-/

namespace AxiomPinpointing

/-! ## The path of an index map -/

namespace Path

lemma nameExtension?_map_ne_xz (stem : List Char) :
    nameExtension? (stem ++ ['.', 'm', 'a', 'p']) ≠ some ['x', 'z'] := by
  have cut : (stem ++ ['.', 'm', 'a', 'p']).reverse.span (· ≠ '.') =
      (['p', 'a', 'm'], '.' :: stem.reverse) := by
    simp [List.span, List.span.loop]
  rw [nameExtension?, cut]
  cases stem.reverse <;> simp

lemma extension?_ne_xz_of_lastName? {path stem : String} (last : lastName? path = some (stem ++ ".map")) :
    extension? path ≠ some "xz" := by
  obtain ⟨front, split⟩ := List.getLast?_eq_some_iff.mp last
  have long : 4 ≤ (stem ++ ".map").length := by
    rw [String.length_append]
    exact Nat.le_add_left 4 _
  have one : stem ++ ".map" ≠ "." := fun same => absurd long (by rw [same]; decide)
  have two : stem ++ ".map" ≠ ".." := fun same => absurd long (by rw [same]; decide)
  have found : ((names path).filter (· ≠ ".")).getLast? = some (stem ++ ".map") := by
    simp [split, one]
  rw [extension?, found]
  split
  next => contradiction
  next same => exact absurd (Option.some.inj same) two
  next name _ same =>
    cases same
    intro xz
    obtain ⟨ending, made, spelled⟩ := Option.map_eq_some_iff.mp xz
    have letters : ending = ['x', 'z'] := by
      simpa using congrArg String.toList spelled
    rw [letters, String.toList_append] at made
    exact nameExtension?_map_ne_xz stem.toList made

end Path

lemma isCompressed_map (directory name : String) :
    isCompressed (Artifacts.named directory name).map = false := by
  obtain ⟨stem, last⟩ := Path.exists_lastName?_append (Path.join directory name)
  have ending := Path.extension?_ne_xz_of_lastName? (last ".map" (by decide) (by decide))
  rw [isCompressed, Artifacts.map_named]
  exact decide_eq_false ending

lemma map_ne_empty (directory name : String) : (Artifacts.named directory name).map ≠ "" := by
  simp [Artifacts.map_named]

/-! ## Asking for values -/

/-- **An argument that does not begin with a hyphen** is positional. -/
lemma Grammar.readArgument_of_plain {α : Type} (grammar : Grammar α) (draft : α) {argument : String}
    (plain : ∀ rest, argument.toList ≠ '-' :: rest) :
    grammar.readArgument { draft } argument = goOn (grammar.positional argument draft) := by
  have long : longForm? argument = none := by
    rw [longForm?]
    split
    next spelled => exact absurd spelled (plain _)
    next => rfl
  have short : grammar.shortForm? draft argument = none := by
    rw [shortForm?]
    split
    next spelled => exact absurd spelled (plain _)
    next => rfl
  have separator : argument ≠ "--" := by
    rintro rfl
    exact plain ['-'] rfl
  simp [readArgument, readFresh, separator, long, short]

/-- A printed number does not begin with a hyphen. -/
lemma toList_toString_ne_hyphen (n : Nat) (rest : List Char) :
    (toString n).toList ≠ '-' :: rest := by
  intro spelled
  have hyphen : '-' ∈ Nat.toDigits 10 n := by
    rw [← Text.toList_toString_nat, spelled]
    exact List.mem_cons_self
  exact absurd (Text.isDigit_of_mem_toDigits hyphen) (by decide)

namespace LookUpCommand

/-- The arguments that ask for some values, spelled in one way. -/
def arguments (command : LookUpCommand) : List String :=
  "translate" :: ("--map=" ++ command.map) ::
    ((if command.reverse then ["--reverse"] else []) ++
      command.values.map fun value => toString value.toNat)

lemma foldlM_values (values : List UInt64) (draft : LookUpDraft) :
    (values.map fun value => toString value.toNat).foldlM LookUpDraft.grammar.readArgument
        { draft } =
      .ok { draft := { draft with values := draft.values ++ values.toArray } } := by
  induction values generalizing draft with
  | nil => simp [pure, Except.pure]
  | cons value values ih =>
    have one : LookUpDraft.grammar.readArgument { draft } (toString value.toNat) =
        .ok { draft := { draft with values := draft.values.push value } } := by
      rw [Grammar.readArgument_of_plain _ _ (toList_toString_ne_hyphen value.toNat)]
      simp only [LookUpDraft.grammar, LookUpDraft.setNext, Text.unsigned64?_toString]
      rfl
    rw [List.map_cons, List.foldlM_cons, one]
    refine (ih _).trans ?_
    simp

lemma longForm?_map (path : String) : longForm? ("--map=" ++ path) = some ("map", some path) := by
  rw [longForm?, String.toList_append]
  simp [List.span, List.span.loop]

lemma readArgument_map {path : String} (named : path ≠ "") :
    LookUpDraft.grammar.readArgument { draft := {} } ("--map=" ++ path) =
      .ok { draft := { map := some path } } := by
  have separator : "--map=" ++ path ≠ "--" := by
    intro same
    have length := congrArg String.length same
    rw [String.length_append, show "--map=".length = 6 from rfl, show "--".length = 2 from rfl]
      at length
    omega
  have given : pathArgument? path = some path := by
    rw [pathArgument?, if_neg (by simpa using named)]
  have known : LookUpDraft.grammar.long "map" = some (.value false LookUpDraft.setMap) := rfl
  simp [Grammar.readArgument, Grammar.readFresh, separator, longForm?_map, Grammar.readLong, known,
    LookUpDraft.setMap, fill, given, Grammar.goOn]

/-- **Every look-up can be asked for.** -/
lemma ofArguments_arguments {command : LookUpCommand} (named : command.map ≠ "")
    (filled : command.values ≠ []) :
    Request.ofArguments command.arguments = .lookUp command := by
  obtain ⟨path, reverse, values⟩ := command
  have options : ∀ rest : List String, (("--map=" ++ path) ::
      ((if reverse then ["--reverse"] else []) ++ rest)).foldlM LookUpDraft.grammar.readArgument
        { draft := {} } =
      rest.foldlM LookUpDraft.grammar.readArgument { draft := { map := some path, reverse } } := by
    intro rest
    rw [List.foldlM_cons, readArgument_map named]
    cases reverse with
    | false => rfl
    | true => rfl
  have read : LookUpDraft.grammar.read {} (("--map=" ++ path) ::
      ((if reverse then ["--reverse"] else []) ++ values.map fun value => toString value.toNat)) =
      .ok { map := some path, reverse, values := values.toArray } := by
    rw [Grammar.read, options, foldlM_values]
    simp [bind, Except.bind]
  have complete : LookUpDraft.command? { map := some path, reverse, values := values.toArray } =
      some ⟨path, reverse, values⟩ := by
    simp [LookUpDraft.command?, filled]
  show Request.ofDraft _ _ _ _ _ = _
  rw [Request.ofDraft, read]
  exact congrArg (Option.elim · Request.misuse Request.lookUp) complete

/-! ## Answers about a module -/

/-- Holds if this is what a value stands for in a module: the number at a place, or the first place
of a number. -/
def StandsFor (command : LookUpCommand) (ids : List AxiomId) (value : UInt64) (found : String) :
    Prop :=
  if command.reverse then
    ∃ k, IsLeast {k | 1 ≤ k ∧ ids[k - 1]? = some ⟨value⟩} k ∧ toString k = found
  else 1 ≤ value.toNat ∧ ∃ id, ids[value.toNat - 1]? = some id ∧ toString id = found

/-- Holds of the values that stand for something: the places of a module, or its numbers. -/
def InRange (command : LookUpCommand) (ids : List AxiomId) (value : UInt64) : Prop :=
  if command.reverse then ⟨value⟩ ∈ ids else 1 ≤ value.toNat ∧ value.toNat ≤ ids.length

/-- Holds of the right answer about a module: one line for each value if all of them stand for
something, and otherwise a fault, and no line at all. -/
structure RightAbout (command : LookUpCommand) (ids : List AxiomId) (answer : Answer) : Prop where
  inside : (∀ value ∈ command.values, command.InRange ids value) →
    answer.exit = 0 ∧ ∃ lines, answer.output = String.join lines ∧
      List.Forall₂ (fun value line => ∃ found, command.StandsFor ids value found ∧
        s!"{value.toNat} {found}\n" = line) command.values lines
  outside : (∃ value ∈ command.values, ¬ command.InRange ids value) →
    answer.exit = 2 ∧ answer.output = ""

variable {command : LookUpCommand} {ids : List AxiomId}

lemma exists_standsFor_iff {value : UInt64} :
    (∃ found, command.StandsFor ids value found) ↔ command.InRange ids value := by
  simp only [StandsFor, InRange]
  split_ifs
  · rw [List.mem_iff_getElem?]
    constructor
    · rintro ⟨_, k, ⟨⟨-, here⟩, -⟩, -⟩
      exact ⟨k - 1, here⟩
    · rintro ⟨i, here⟩
      have listed : {k | 1 ≤ k ∧ ids[k - 1]? = some ⟨value⟩}.Nonempty :=
        ⟨i + 1, Nat.le_add_left 1 i, here⟩
      exact ⟨_, _, ⟨Nat.sInf_mem listed, fun _ => Nat.sInf_le⟩, rfl⟩
  · constructor
    · rintro ⟨_, one, id, here, -⟩
      obtain ⟨inside, -⟩ := List.getElem?_eq_some_iff.mp here
      omega
    · rintro ⟨one, inside⟩
      exact ⟨_, one, _, List.getElem?_eq_getElem (by omega), rfl⟩

section Lined

variable {extraction : Extraction} (h : extraction.Lined ids)
include h

/-- **A value is looked up in the module itself**, as if there were no index map. -/
lemma lookUp_eq_ok_iff {value : UInt64} {found : String} :
    command.lookUp extraction.renumbering value = .ok found ↔
      command.StandsFor ids value found := by
  have inStep : extraction.renumbering.InStep := h.pushed.inStep
  rw [lookUp, StandsFor]
  split_ifs
  · simp only [map_eq_ok, inStep.placeOf_eq_ok_iff, h.placesOf]
  · simp only [map_eq_ok, Renumbering.idAt_eq_ok_iff, h.placesOf, Set.mem_ofPred_eq]
    constructor
    · rintro ⟨id, ⟨one, here⟩, printed⟩
      exact ⟨one, id, here, printed⟩
    · rintro ⟨one, id, here, printed⟩
      exact ⟨id, ⟨one, here⟩, printed⟩

lemma rightAbout {decompress : Decompressor} {tree : FileTree} (few : ids.length < 2 ^ 64)
    (opened : tree.input decompress command.map = .ok (.ofText extraction.renumbering.text)) :
    command.RightAbout ids ((command.script decompress).run tree).1 := by
  have outcome : command.made decompress tree = .ok (command.lines extraction.renumbering) := by
    rw [made, opened]
    exact congrArg (fun outcome => Except.ok (outcome >>= command.lines)) (h.read_text few)
  obtain ⟨-, -, blames, faulty, delivered⟩ := command.carriedOut decompress tree
  constructor
  · intro inside
    obtain ⟨lines, found⟩ : ∃ lines, command.lines extraction.renumbering = .ok lines := by
      refine exists_mapM_eq_ok_iff.mpr fun value mem => ?_
      obtain ⟨found, stands⟩ := exists_standsFor_iff.mpr (inside value mem)
      exact ⟨_, map_eq_ok.mpr ⟨found, (lookUp_eq_ok_iff h).mpr stands, rfl⟩⟩
    rw [found] at outcome
    rw [delivered lines outcome]
    refine ⟨rfl, lines, rfl, ?_⟩
    have answered := command.lines_eq_ok_iff.mp found
    simpa only [Answered, lookUp_eq_ok_iff h] using answered
  · rintro ⟨value, mem, outside⟩
    obtain ⟨fault, found⟩ : ∃ fault, command.lines extraction.renumbering = .error fault := by
      refine command.exists_lines_eq_error_iff.mpr ⟨value, mem, exists_eq_error_iff.mpr ?_⟩
      rintro ⟨found, answer⟩
      exact outside (exists_standsFor_iff.mp ⟨found, (lookUp_eq_ok_iff h).mp answer⟩)
    rw [found] at outcome
    rw [faulty fault outcome]
    exact Answer.exit_faulty (blames _ outcome fault rfl)

end Lined

end LookUpCommand

/-! ## The pipeline -/

/-- What a successful `extract` leaves at the path of the index map. -/
lemma ExtractCommand.exists_input_map {command : ExtractCommand} {decompress : Decompressor}
    {tree : FileTree} (done : ((command.script decompress).run tree).1.exit = 0) :
    ∃ gci ri moduleSource extraction,
      tree.input decompress command.moduleFile = .ok moduleSource ∧
      (Extraction.ofSources command.settings gci ri moduleSource).outcome = .ok extraction ∧
      ((command.script decompress).run tree).2.input decompress command.artifacts.map =
        .ok (.ofText extraction.renumbering.text) := by
  obtain ⟨extraction, made, -, -, placed⟩ := (command.leavesNoTrace decompress tree).afterZero done
  obtain ⟨gci, -, made⟩ := bind_eq_ok.mp made
  obtain ⟨ri, -, made⟩ := bind_eq_ok.mp made
  obtain ⟨moduleSource, opened, made⟩ := bind_eq_ok.mp made
  refine ⟨gci, ri, moduleSource, extraction, opened, Except.ok.inj made, ?_⟩
  rw [FileTree.input, placed.map, artifacts, isCompressed_map]
  rfl

/-- **What has been extracted can be looked up.**  The index map of an extraction reads back as it
was, and its lines are the lines of the fragment, each with its place and its number in front.  So
once `extract` has succeeded, `translate` is right about the module, whatever values it is asked
for, and any values can be asked for. -/
theorem extracted_module_translates_back :
    (∀ (settings : Settings) (gci ri moduleSource : Source) (extraction : Extraction)
        (ids : List AxiomId), Renumbering.IsEntryText settings.marker →
      (Extraction.ofSources settings gci ri moduleSource).outcome = .ok extraction →
      (AxiomModule.read moduleSource).outcome = .ok ids → ids.length < 2 ^ 64 →
      Renumbering.read (.ofText extraction.renumbering.text) = .ok extraction.renumbering ∧
      ∃ texts : List String, texts.length = ids.length ∧
        (∀ k text, extraction.renumbering.textAt (k + 1) = .ok text ↔ texts[k]? = some text) ∧
        (Source.ofText extraction.fragment).lines =
          texts.map (fun text => .text (text ++ "\n")) ∧
        (Source.ofText extraction.renumbering.text).lines =
          (ids.zip texts).mapIdx fun k row => .text s!"{k + 1} {row.1} {row.2}\n") ∧
    ∀ (decompress : Decompressor) (arguments : List String) (command : ExtractCommand)
        (tree : FileTree), Request.ofArguments arguments = .extract command →
      Renumbering.IsEntryText command.settings.marker →
      (((Request.ofArguments arguments).script decompress).run tree).1.exit = 0 →
      ∃ moduleSource ids, tree.input decompress command.moduleFile = .ok moduleSource ∧
        (AxiomModule.read moduleSource).outcome = .ok ids ∧
        (ids.length < 2 ^ 64 → ∀ (asked : List String) (lookUp : LookUpCommand),
          Request.ofArguments asked = .lookUp lookUp → lookUp.map = command.artifacts.map →
          lookUp.RightAbout ids (((Request.ofArguments asked).script decompress).run
            (((Request.ofArguments arguments).script decompress).run tree).2).1) ∧
        ∀ (reverse : Bool) (values : List UInt64), values ≠ [] →
          ∃ asked, Request.ofArguments asked = .lookUp ⟨command.artifacts.map, reverse, values⟩ := by
  constructor
  · intro settings gci ri moduleSource extraction ids plain extracted listed few
    obtain ⟨ids', listed', lined⟩ := Extraction.lined_of_ofSources plain extracted
    obtain rfl : ids' = ids := Except.ok.inj (listed'.symm.trans listed)
    refine ⟨lined.read_text few, extraction.renumbering.entries.toList.map Entry.text, ?_, ?_,
      lined.lines_fragment, lined.lines_map⟩
    · rw [List.length_map, lined.length_entries]
    · exact fun k text => Renumbering.textAt_succ_eq_ok_iff
  · intro decompress arguments command tree requested plain done
    rw [requested] at done ⊢
    obtain ⟨gci, ri, moduleSource, extraction, opened, extracted, written⟩ :=
      ExtractCommand.exists_input_map done
    obtain ⟨ids, listed, lined⟩ := Extraction.lined_of_ofSources plain extracted
    refine ⟨moduleSource, ids, opened, listed, fun few asked lookUp question same => ?_,
      fun reverse values filled => ?_⟩
    · rw [question]
      exact LookUpCommand.rightAbout lined few (same ▸ written)
    · have named : command.artifacts.map ≠ "" := map_ne_empty command.directory command.name
      exact ⟨_, LookUpCommand.ofArguments_arguments named filled⟩

/-- Two inclusions about 3 make an equivalence.  The module lists 3 twice, and its place is the
first of the two. -/
theorem repeated_number_translates_back :
    let gci := "3 (implies A B)\n3 (implies B A)\n"
    let ri := "40 (implies r s)\n"
    let both := Axiom.equivalence ⟨⟨3⟩, "(implies", ["A", "B)"], .gci, 1⟩
    let extraction := ((Extraction.empty.push "(equivalent" ⟨3⟩ both).push "(equivalent" ⟨40⟩
      (.directional ⟨⟨40⟩, "(implies", ["r", "s)"], .ri, 1⟩)).push "(equivalent" ⟨3⟩ both
    let tree := ((FileTree.empty.put ["g"] (.file (Text.encodeUtf8 gci))).put ["r"]
      (.file (Text.encodeUtf8 ri))).put ["m"] (.file (Text.encodeUtf8 "3 40 3 0\n"))
    let extracted := (Request.ofArguments ["extract", "g", "r", "m", "q", "."]).script.run tree
    let asked := Request.ofArguments ["translate", "--map=./q.map", "--reverse", "3"]
    Renumbering.read (.ofText extraction.renumbering.text) = .ok extraction.renumbering ∧
      LookUpCommand.RightAbout ⟨"./q.map", true, [3]⟩ [⟨3⟩, ⟨40⟩, ⟨3⟩]
        (asked.script.run extracted.2).1 := by
  intro gci ri both extraction tree extracted asked
  have plain : Renumbering.IsEntryText "(equivalent" := by decide
  obtain ⟨library, pipeline⟩ := extracted_module_translates_back
  constructor
  · exact (library .default (.ofText gci) (.ofText ri) (.ofText "3 40 3 0\n") extraction
      [⟨3⟩, ⟨40⟩, ⟨3⟩] plain rfl rfl (by decide)).1
  · obtain ⟨moduleSource, ids, opened, listed, answers, -⟩ :=
      pipeline .unsupported ["extract", "g", "r", "m", "q", "."] _ tree rfl plain rfl
    obtain rfl : Source.ofText "3 40 3 0\n" = moduleSource := Except.ok.inj opened
    obtain rfl : [⟨3⟩, ⟨40⟩, ⟨3⟩] = ids := Except.ok.inj listed
    exact answers (by decide) ["translate", "--map=./q.map", "--reverse", "3"] _ rfl rfl

end AxiomPinpointing
