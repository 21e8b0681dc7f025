import AxiomPinpointing.Extraction
import AxiomPinpointing.Proofs.DefinitionStore
import AxiomPinpointing.Proofs.ModuleLine
import AxiomPinpointing.Proofs.ModuleLoop
import Mathlib.Tactic.Lemma
import Mathlib.Tactic.SplitIfs

/-!
# Extraction as a search for rows

What an extraction finds can be said without numbers and without a store.  For each word of the
module, search both sources for the rows that begin with the same word, inclusions between concepts
first.  One row is an axiom as it stands; two are an equivalence, if the strategy has it so, and the
marker replaces the relation of the first.  Everything else is a fault, and the first word with a
fault decides.

Extraction is that search.  The invariant of the loop over the module says that the axioms and the
entries so far are the words so far with their texts (`Extraction.Lists`).
-/

namespace AxiomPinpointing

/-! ## The search -/

/-- The rows that begin with a word. -/
def rowsAbout (gci ri : Source) (word : String) : List (List String) :=
  (gci.rows ++ ri.rows).filter (·.head? = some word)

/-- Two rows with the same relation, whose terms are in opposite order. -/
def IsConverse (first second : List String) : Prop :=
  ∃ relation operands others terms,
    first.tail = relation :: operands ∧ second.tail = relation :: others ∧
    terms? operands (relation.toList.head? = some '(') = some terms ∧
    terms? others (relation.toList.head? = some '(') = some terms.reverse

/-- Holds if some rows make one axiom. -/
def MakeAxiom (strategy : PairStrategy) : List (List String) → Prop
  | [_] => True
  | [first, second] => strategy = .converse → IsConverse first second
  | _ => False

/-- The axiom that some rows make: the first row without its number, and if there is another, with
the marker for the relation. -/
def axiomText (marker : String) : List (List String) → String
  | [] => ""
  | [row] => " ".intercalate row.tail
  | row :: _ => " ".intercalate (marker :: row.tail.tail)

/-- What is wrong if some rows do not make one axiom. -/
def axiomFault (id : AxiomId) (rows : List (List String)) : Fault :=
  if rows = [] then .undefinedAxiom id else .ambiguousAxiom id rows.length

/-! ## One axiom -/

lemma Definition.isReversedBy_iff (first second : Definition) :
    first.isReversedBy second = true ↔ IsConverse first.words second.words := by
  rw [isReversedBy, Bool.and_eq_true, decide_eq_true_eq]
  constructor
  · rintro ⟨same, reversed⟩
    split at reversed
    next terms others here there =>
      rw [← of_decide_eq_true reversed] at there
      rw [terms?, isOpened, ← same] at there
      exact ⟨first.relation, first.operands, second.operands, terms, rfl, same ▸ rfl, here, there⟩
    next => contradiction
  · rintro ⟨relation, operands, others, terms, left, right, here, there⟩
    injection left with leftRelation leftOperands
    injection right with rightRelation rightOperands
    refine ⟨leftRelation.trans rightRelation.symm, ?_⟩
    have first_terms : first.terms? = some terms := by
      rw [terms?, isOpened, leftRelation, leftOperands, here]
    have second_terms : second.terms? = some terms.reverse := by
      rw [terms?, isOpened, rightRelation, rightOperands, there]
    simp [first_terms, second_terms]

lemma PairStrategy.accepts_iff (strategy : PairStrategy) (first second : Definition) :
    strategy.accepts first second = true ↔
      (strategy = .converse → IsConverse first.words second.words) := by
  cases strategy with
  | count => simp [accepts]
  | converse => simp [accepts, Definition.isReversedBy_iff]

lemma Axiom.ofDefinitions_of_makeAxiom {strategy : PairStrategy} {definitions : List Definition}
    {id : AxiomId} (own : ∀ d ∈ definitions, d.id = id) (marker : String)
    (h : MakeAxiom strategy (definitions.map Definition.words)) :
    ∃ a, ofDefinitions strategy id definitions = .ok a ∧ a.id = id ∧
      a.text marker = axiomText marker (definitions.map Definition.words) := by
  match definitions with
  | [] => exact h.elim
  | [d] => exact ⟨.directional d, rfl, own d List.mem_cons_self, rfl⟩
  | [first, second] =>
    refine ⟨.equivalence first, ?_, own first List.mem_cons_self, rfl⟩
    rw [ofDefinitions, if_pos ((strategy.accepts_iff first second).mpr h)]
  | _ :: _ :: _ :: _ => exact h.elim

lemma Axiom.ofDefinitions_of_not_makeAxiom {strategy : PairStrategy}
    {definitions : List Definition} (id : AxiomId)
    (h : ¬ MakeAxiom strategy (definitions.map Definition.words)) :
    ofDefinitions strategy id definitions =
      .error (axiomFault id (definitions.map Definition.words)) := by
  match definitions with
  | [] => rfl
  | [d] => exact absurd trivial h
  | [first, second] =>
    rw [ofDefinitions, if_neg (mt (strategy.accepts_iff first second).mp h)]
    rfl
  | _ :: _ :: _ :: _ => simp [ofDefinitions, axiomFault]

namespace Extraction

/-! ## All axioms of a module -/

section

variable {settings : Settings} {gci ri : Source} {store : DefinitionStore}

/-- What is known about a store that was read from two sources. -/
def Files (store : DefinitionStore) (gci ri : Source) : Prop :=
  ∀ id, (store.get id).map Definition.words = rowsAbout gci ri (toString id)

lemma id_of_mem_get (files : Files store gci ri) {id : AxiomId} {d : Definition}
    (mem : d ∈ store.get id) : d.id = id := by
  have row : d.words ∈ rowsAbout gci ri (toString id) := files id ▸ List.mem_map_of_mem mem
  have begins := of_decide_eq_true (List.mem_filter.mp row).2
  exact AxiomId.toString_inj.mp (Option.some.inj begins)

/-- **The invariant of the loop**: axioms and entries are certain words with certain texts, and the
entries have the places from 1 on. -/
structure Lists (marker : String) (extraction : Extraction) (listed : List (String × String)) :
    Prop where
  axioms : (extraction.axioms.toList.map fun a => (toString a.id, a.text marker)) = listed
  entries : (extraction.renumbering.entries.toList.map fun entry =>
    ((toString entry.id, entry.text), entry.place)) = listed.zipIdx 1

section Lists

variable {marker : String} {extraction : Extraction} {listed : List (String × String)}

lemma Lists.size (h : extraction.Lists marker listed) :
    extraction.renumbering.size = listed.length := by
  rw [← List.length_zipIdx, ← h.entries, List.length_map, Array.length_toList]
  rfl

lemma Lists.push (h : extraction.Lists marker listed) {id : AxiomId} {a : Axiom}
    (own : a.id = id) :
    (extraction.push marker id a).Lists marker (listed ++ [(toString id, a.text marker)]) := by
  constructor
  · simp [Extraction.push, h.axioms, own]
  · simp [Extraction.push, h.entries, h.size, List.zipIdx_append, Nat.add_comm]

lemma Lists.entryAt? (h : extraction.Lists marker listed) (k : Nat) :
    (extraction.renumbering.entryAt? (k + 1)).map (fun entry =>
      (entry.place, toString entry.id, entry.text)) = listed[k]?.map fun row => (k + 1, row) := by
  have here := congrArg (fun rows => rows[k]?.map Prod.swap) h.entries
  simp only [List.getElem?_map, List.getElem?_zipIdx, Option.map_map, Nat.add_comm 1 k,
    Array.getElem?_toList] at here
  exact here

lemma Lists.fragment (h : extraction.Lists marker listed) :
    extraction.fragment = String.join (listed.map fun row => row.2 ++ "\n") := by
  rw [← List.zipIdx_map_fst 1 listed, ← h.entries, List.map_map, List.map_map]
  rfl

end Lists

lemma next_of_makeAxiom (files : Files store gci ri) {extraction : Extraction}
    {listed : List (String × String)} (h : extraction.Lists settings.marker listed) {id : AxiomId}
    (accepted : MakeAxiom settings.pairs.value (rowsAbout gci ri (toString id))) :
    ∃ extraction', (next settings store extraction id).outcome = .ok extraction' ∧
      extraction'.Lists settings.marker (listed ++
        [(toString id, axiomText settings.marker (rowsAbout gci ri (toString id)))]) := by
  obtain ⟨a, made, own, written⟩ := Axiom.ofDefinitions_of_makeAxiom
    (fun _ mem => id_of_mem_get files mem) settings.marker (files id ▸ accepted)
  rw [files id] at written
  refine ⟨extraction.push settings.marker id a, ?_, written ▸ h.push own⟩
  rw [next, made]
  rfl

lemma next_of_not_makeAxiom (files : Files store gci ri) (extraction : Extraction) {id : AxiomId}
    (refused : ¬ MakeAxiom settings.pairs.value (rowsAbout gci ri (toString id))) :
    (next settings store extraction id).outcome =
      .error (axiomFault id (rowsAbout gci ri (toString id))) := by
  rw [next, Axiom.ofDefinitions_of_not_makeAxiom id (files id ▸ refused), files id]
  rfl

/-- **The loop, up to some number of the module.** -/
lemma foldlM_next (files : Files store gci ri) (ids : List AxiomId)
    (accepted : ∀ id ∈ ids, MakeAxiom settings.pairs.value (rowsAbout gci ri (toString id)))
    {extraction : Extraction} {listed : List (String × String)}
    (h : extraction.Lists settings.marker listed) :
    ∃ extraction', extraction'.Lists settings.marker (listed ++ ids.map fun id =>
        (toString id, axiomText settings.marker (rowsAbout gci ri (toString id)))) ∧
      ∀ rest, ((ids ++ rest).foldlM (next settings store) extraction).outcome =
        (rest.foldlM (next settings store) extraction').outcome := by
  induction ids generalizing extraction listed with
  | nil => exact ⟨extraction, by simpa using h, fun _ => rfl⟩
  | cons id ids ih =>
    obtain ⟨first, made, lists⟩ := next_of_makeAxiom files h (accepted id List.mem_cons_self)
    obtain ⟨last, listsAll, looped⟩ :=
      ih (fun other mem => accepted other (List.mem_cons_of_mem id mem)) lists
    refine ⟨last, by simpa using listsAll, fun rest => ?_⟩
    rw [List.cons_append, List.foldlM_cons, Run.bind_outcome, made]
    exact looped rest

lemma lists_empty (marker : String) : empty.Lists marker [] :=
  ⟨rfl, rfl⟩

/-- If all numbers of a module have an axiom, they are extracted. -/
lemma ofModule_of_makeAxiom (files : Files store gci ri) {ids : List AxiomId}
    (accepted : ∀ id ∈ ids, MakeAxiom settings.pairs.value (rowsAbout gci ri (toString id))) :
    ∃ extraction, (ofModule settings store ids).outcome = .ok extraction ∧
      extraction.Lists settings.marker (ids.map fun id =>
        (toString id, axiomText settings.marker (rowsAbout gci ri (toString id)))) := by
  obtain ⟨extraction, lists, looped⟩ := foldlM_next files ids accepted (lists_empty settings.marker)
  have all := looped []
  rw [List.append_nil] at all
  exact ⟨extraction, (ofModule_outcome settings store ids).trans all, lists⟩

/-- If some number has none, the first of these is the fault. -/
lemma ofModule_of_not_makeAxiom (files : Files store gci ri) {before after : List AxiomId}
    {id : AxiomId}
    (accepted : ∀ id ∈ before, MakeAxiom settings.pairs.value (rowsAbout gci ri (toString id)))
    (refused : ¬ MakeAxiom settings.pairs.value (rowsAbout gci ri (toString id))) :
    (ofModule settings store (before ++ id :: after)).outcome =
      .error (axiomFault id (rowsAbout gci ri (toString id))) := by
  obtain ⟨extraction, -, looped⟩ := foldlM_next files before accepted (lists_empty settings.marker)
  rw [ofModule_outcome, looped (id :: after), List.foldlM_cons, Run.bind_outcome,
    next_of_not_makeAxiom files extraction refused]
  rfl

/-- Either all of a list is as wanted, or there is a first element that is not. -/
lemma forall_or_first {α : Type} (p : α → Prop) (l : List α) :
    (∀ a ∈ l, p a) ∨
      ∃ before a after, l = before ++ a :: after ∧ (∀ b ∈ before, p b) ∧ ¬ p a := by
  induction l with
  | nil => simp
  | cons a l ih =>
    by_cases first : p a
    · rcases ih with all | ⟨before, b, after, rfl, good, bad⟩
      · exact .inl (List.forall_mem_cons.mpr ⟨first, all⟩)
      · exact .inr ⟨a :: before, b, after, rfl, List.forall_mem_cons.mpr ⟨first, good⟩, bad⟩
    · exact .inr ⟨[], a, l, rfl, by simp, first⟩

lemma ofModule_ok_iff (files : Files store gci ri) (ids : List AxiomId) :
    (∃ extraction, (ofModule settings store ids).outcome = .ok extraction) ↔
      ∀ id ∈ ids, MakeAxiom settings.pairs.value (rowsAbout gci ri (toString id)) := by
  constructor
  · rintro ⟨extraction, extracted⟩
    rcases forall_or_first _ ids with all | ⟨before, id, after, rfl, accepted, refused⟩
    · exact all
    · rw [ofModule_of_not_makeAxiom files accepted refused] at extracted
      contradiction
  · intro all
    obtain ⟨extraction, extracted, -⟩ := ofModule_of_makeAxiom files all
    exact ⟨extraction, extracted⟩

end

/-! ## Extraction from sources -/

lemma ofSources_outcome {settings : Settings} {gci ri moduleSource : Source}
    {store : DefinitionStore} {ids : List AxiomId}
    (defined : (DefinitionStore.read gci ri).outcome = .ok store)
    (listed : (AxiomModule.read moduleSource).outcome = .ok ids) :
    (ofSources settings gci ri moduleSource).outcome = (ofModule settings store ids).outcome := by
  rw [ofSources, Run.bind_outcome, defined]
  exact (Run.bind_outcome _ _).trans (by rw [listed]; rfl)

/-- **Extraction is a search for rows.**  For sources that can be read, it succeeds exactly if for
every word of the module the rows that begin with it make one axiom.  Then the k-th entry and the
k-th axiom are the k-th word and its text, the entry with k as its place, and the fragment consists
of the texts.  Otherwise the
first word whose rows do not make one axiom is the fault. -/
theorem ofSources_refines_search (settings : Settings) (gci ri moduleSource : Source)
    (store : DefinitionStore) (ids : List AxiomId)
    (defined : (DefinitionStore.read gci ri).outcome = .ok store)
    (listed : (AxiomModule.read moduleSource).outcome = .ok ids) :
    ((∃ e, (ofSources settings gci ri moduleSource).outcome = .ok e) ↔
      ∀ word ∈ AxiomModule.wordsOf moduleSource,
        MakeAxiom settings.pairs.value (rowsAbout gci ri word)) ∧
    (∀ e, (ofSources settings gci ri moduleSource).outcome = .ok e →
      e.renumbering.size = (AxiomModule.wordsOf moduleSource).length ∧
      (∀ k, (e.renumbering.entryAt? (k + 1)).map (fun entry =>
          (entry.place, toString entry.id, entry.text)) =
        (AxiomModule.wordsOf moduleSource)[k]?.map fun word =>
          (k + 1, word, axiomText settings.marker (rowsAbout gci ri word))) ∧
      e.axioms.toList.map (fun a => (toString a.id, a.text settings.marker)) =
        (AxiomModule.wordsOf moduleSource).map (fun word =>
          (word, axiomText settings.marker (rowsAbout gci ri word))) ∧
      e.fragment = String.join ((AxiomModule.wordsOf moduleSource).map fun word =>
        axiomText settings.marker (rowsAbout gci ri word) ++ "\n")) ∧
    ∀ before word after, AxiomModule.wordsOf moduleSource = before ++ word :: after →
      (∀ earlier ∈ before, MakeAxiom settings.pairs.value (rowsAbout gci ri earlier)) →
      ¬ MakeAxiom settings.pairs.value (rowsAbout gci ri word) →
      ∃ id, toString id = word ∧ (ofSources settings gci ri moduleSource).outcome =
        .error (axiomFault id (rowsAbout gci ri word)) := by
  have files : Files store gci ri := DefinitionStore.words_get_of_read defined
  rw [ofSources_outcome defined listed, ← AxiomModule.words_of_read listed]
  refine ⟨?_, fun e extracted => ?_, ?_⟩
  · rw [List.forall_mem_map]
    exact ofModule_ok_iff files ids
  · have all := (ofModule_ok_iff files ids).mp ⟨e, extracted⟩
    obtain ⟨e', extracted', lists⟩ := ofModule_of_makeAxiom files all
    obtain rfl : e' = e := Except.ok.inj (extracted'.symm.trans extracted)
    have lists : e'.Lists settings.marker ((ids.map toString).map fun word =>
        (word, axiomText settings.marker (rowsAbout gci ri word))) := by
      rw [List.map_map]
      exact lists
    refine ⟨by simpa using lists.size, fun k => ?_, lists.axioms, ?_⟩
    · rw [lists.entryAt?, List.getElem?_map, Option.map_map]
      rfl
    · rw [lists.fragment, List.map_map]
      rfl
  · intro before word after split accepted refused
    obtain ⟨early, late, rfl, rfl, ending⟩ := List.map_eq_append_iff.mp split
    obtain ⟨id, rest, rfl, rfl, rfl⟩ := List.map_eq_cons_iff.mp ending
    exact ⟨id, rfl, ofModule_of_not_makeAxiom files
      (fun other mem => accepted (toString other) (List.mem_map_of_mem mem)) refused⟩

/-- The rows about 3 are converses of each other, and there is one row about 4, in the other source.
An axiom that is listed twice is extracted twice. -/
theorem fragment_of_converse_rows :
    ∃ e, (ofSources { pairs := ⟨"collapse", .converse, .count, .converse⟩ }
        (.ofText "7 (implies A B)\n\n3 (implies A (and B C))\n3  (implies (and B C) A)\n")
        (.ofText "4 (implies r s)") (.ofText "7 0\n3 4 3 0\n")).outcome = .ok e ∧
      e.fragment = "(equivalent A (and B C))\n(implies r s)\n(equivalent A (and B C))\n" := by
  have refined := ofSources_refines_search { pairs := ⟨"collapse", .converse, .count, .converse⟩ }
    (.ofText "7 (implies A B)\n\n3 (implies A (and B C))\n3  (implies (and B C) A)\n")
    (.ofText "4 (implies r s)") (.ofText "7 0\n3 4 3 0\n") _ _ rfl rfl
  have converse : IsConverse ["3", "(implies", "A", "(and", "B", "C))"]
      ["3", "(implies", "(and", "B", "C)", "A)"] :=
    ⟨"(implies", ["A", "(and", "B", "C))"], ["(and", "B", "C)", "A)"],
      ["A".toList, "(and B C)".toList], rfl, rfl, rfl, rfl⟩
  have words : AxiomModule.wordsOf (.ofText "7 0\n3 4 3 0\n") = ["3", "4", "3"] := rfl
  obtain ⟨e, extracted⟩ := refined.1.mpr (by
    rw [words]
    simp only [List.forall_mem_cons]
    exact ⟨fun _ => converse, trivial, fun _ => converse, by simp⟩)
  refine ⟨e, extracted, ?_⟩
  rw [(refined.2.1 e extracted).2.2.2, words]
  rfl

end Extraction

end AxiomPinpointing
