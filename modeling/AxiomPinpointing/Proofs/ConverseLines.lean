import AxiomPinpointing.Proofs.BlankRuns
import AxiomPinpointing.Proofs.DefinitionStore
import AxiomPinpointing.Proofs.PairStrategies
import AxiomPinpointing.Proofs.Terms

/-!
# Converse lines

A line defines an axiom by a number, a relation and some terms, with blanks between them.  If the
relation opens a parenthesis, the line closes it at the end, right behind the last term or as a word
of its own.  Blanks may be any, and any number of them, also for the single spaces inside of a term
(`Definition.LaidOut`).

However such a line is laid out, the terms of its definition are the terms on it
(`Definition.terms?_of_laidOut`).  The words of the line are not: a compound term is several of
them, and the last of them may carry the closing parenthesis.  What brings the terms back is that
the words, side by side, are the text that was laid out (`IsSpaced.intercalate_words`), and that a
term is never cut.  So two lines are converses exactly if the terms of the one are those of the
other in the opposite order.
-/

namespace AxiomPinpointing

open Text

/-! ## Plain terms -/

/-- A term in which all blanks are single spaces. -/
structure IsPlainTerm (t : String) : Prop where
  term : IsTerm t.toList
  single : SingleSpaced t.toList

instance (t : String) : Decidable (IsPlainTerm t) :=
  decidable_of_iff (_ ∧ _) ⟨fun h => ⟨h.1, h.2⟩, fun h => ⟨h.term, h.single⟩⟩

lemma IsTerm.startsFilled {cs : List Char} (h : IsTerm cs) : StartsFilled cs := by
  obtain ⟨c, rest, rfl⟩ := List.exists_cons_of_ne_nil h.nonempty
  rw [startsFilled_cons, ← Bool.not_eq_true]
  exact fun blank => Nat.lt_irrefl 0 (h.inside.depth_pos blank)

/-- All parentheses are closed where a term ends, so that it does not end with a blank. -/
lemma IsTerm.endsFilled {cs : List Char} (h : IsTerm cs) : EndsFilled cs := by
  obtain ⟨front, last, rfl⟩ := (List.eq_nil_or_concat' cs).resolve_left h.nonempty
  intro c ended
  obtain rfl : last = c := by simpa using ended
  rw [← Bool.not_eq_true]
  intro blank
  have noOpening : last ≠ '(' := by
    rintro rfl
    contradiction
  have noClosing : last ≠ ')' := by
    rintro rfl
    contradiction
  -- A blank does not close what is still open where it stands, and nothing comes behind it.
  have opened := h.inside front.length (by simp) (by simpa using blank)
  have total := h.closes.total
  simp [noOpening, noClosing] at opened total
  omega

lemma IsPlainTerm.isSpaced {t : String} (h : IsPlainTerm t) : IsSpaced t := by
  have spaced := isSpaced_of_singleSpaced h.term.nonempty h.term.startsFilled h.term.endsFilled
    h.single
  rwa [String.ofList_toList] at spaced

namespace Definition

/-! ## Lines of terms -/

/-- The ways to close what a relation opens. -/
def closings (relation : String) : List String :=
  if relation.toList.head? = some '(' then [")", " )"] else [""]

/-- Holds of the lines that define an axiom by a relation and terms, with any blanks. -/
def LaidOut (id : AxiomId) (relation : String) (ts : List String) (content : String) : Prop :=
  ∃ closing ∈ closings relation, ∃ before body after, IsRun before ∧ IsRun after ∧
    content = before ++ body ++ after ∧
    Stretches (" ".intercalate (toString id :: relation :: ts) ++ closing).toList body.toList

section Lines

variable {id : AxiomId} {relation content closing : String} {ts : List String}

lemma isSpaced_operands (filled : ts ≠ []) (plain : ∀ t ∈ ts, IsPlainTerm t)
    (closes : closing ∈ closings relation) : IsSpaced (" ".intercalate ts ++ closing) := by
  have spaced : IsSpaced (" ".intercalate ts) :=
    isSpaced_intercalate filled fun t mem => (plain t mem).isSpaced
  have word : IsWord ")" := isWord_iff.mpr rfl
  have choices : closing = "" ∨ closing = ")" ∨ closing = " )" := by
    rw [closings] at closes
    split_ifs at closes
    · exact .inr (by simpa using closes)
    · exact .inl (by simpa using closes)
  rcases choices with rfl | rfl | rfl
  · rwa [String.append_empty]
  · exact spaced.append_filled word.2
  · have apart : " )" = " " ++ ")" := rfl
    rw [apart, ← String.append_assoc]
    exact spaced.append word.isSpaced

/-- The words of a line are its number, its relation, and those of the terms with what closes
them. -/
lemma words_of_laidOut (isWord : IsWord relation) (filled : ts ≠ [])
    (h : LaidOut id relation ts content) : ∃ closing ∈ closings relation, Text.words content =
      toString id :: relation :: Text.words (" ".intercalate ts ++ closing) := by
  obtain ⟨closing, closes, before, body, after, runBefore, runAfter, rfl, stretches⟩ := h
  have same := stretches.words
  rw [String.ofList_toList, String.ofList_toList] at same
  have idWord : IsWord (toString id) := isWord_toString_nat id.value.toNat
  have parts : " ".intercalate (toString id :: relation :: ts) ++ closing =
      toString id ++ " " ++ (relation ++ " " ++ (" ".intercalate ts ++ closing)) := by
    simp only [String.intercalate_cons_cons, String.intercalate_cons_of_ne_nil filled,
      String.append_assoc]
  refine ⟨closing, closes, ?_⟩
  rw [words_append_run_end runAfter, words_run_append runBefore, same, parts, words_append_space,
    words_append_space, words_of_isWord idWord, words_of_isWord isWord]
  rfl

/-- Without what closes the relation, the operands are the terms, and a blank may be left over. -/
lemma operandText?_operands (filled : ts ≠ []) (plain : ∀ t ∈ ts, IsPlainTerm t)
    (closes : closing ∈ closings relation) :
    ∃ rest, (rest = [] ∨ rest = [' ']) ∧
      operandText? (Text.words (" ".intercalate ts ++ closing))
        (decide (relation.toList.head? = some '(')) =
        some ([' '].intercalate (ts.map String.toList) ++ rest) := by
  have text : (" ".intercalate ts).toList = [' '].intercalate (ts.map String.toList) :=
    String.toList_intercalate
  rw [operandText?, (isSpaced_operands filled plain closes).intercalate_words, ← text]
  rw [closings] at closes
  split_ifs at closes with opened
  · rw [decide_eq_true opened]
    obtain rfl | rfl : closing = ")" ∨ closing = " )" := by simpa using closes
    · exact ⟨[], .inl rfl, by simpa using dropClosing?_concat (" ".intercalate ts).toList⟩
    · -- Only the parenthesis is dropped, and the space in front of it stays.
      refine ⟨[' '], .inr rfl, ?_⟩
      have apart : (" ".intercalate ts ++ " )").toList =
          ((" ".intercalate ts).toList ++ [' ']) ++ [')'] := by simp
      rw [apart]
      exact dropClosing?_concat _
  · rw [decide_eq_false opened]
    obtain rfl : closing = "" := by simpa using closes
    exact ⟨[], .inl rfl, by simp⟩

/-- **The terms that were laid out** are the terms of the operands. -/
lemma terms?_operands (filled : ts ≠ []) (plain : ∀ t ∈ ts, IsPlainTerm t)
    (closes : closing ∈ closings relation) :
    AxiomPinpointing.terms? (Text.words (" ".intercalate ts ++ closing))
      (decide (relation.toList.head? = some '(')) = some (ts.map String.toList) := by
  obtain ⟨rest, ended, text⟩ := operandText?_operands filled plain closes
  have terms : ∀ t ∈ ts.map String.toList, IsTerm t := by
    intro t mem
    obtain ⟨t, known, rfl⟩ := List.mem_map.mp mem
    exact (plain t known).term
  rw [AxiomPinpointing.terms?, text]
  exact termsFrom_intercalate (by simpa using filled) terms ended

/-- **What is known of the definition on a line**: it has the relation and the terms of the line. -/
lemma terms?_of_laidOut (isWord : IsWord relation) (filled : ts ≠ [])
    (plain : ∀ t ∈ ts, IsPlainTerm t) (h : LaidOut id relation ts content) {d : Definition}
    (read : d.words = Text.words content) :
    d.relation = relation ∧ d.terms? = some (ts.map String.toList) := by
  obtain ⟨closing, closes, split⟩ := words_of_laidOut isWord filled h
  rw [split, words, List.cons.injEq, List.cons.injEq] at read
  obtain ⟨-, rfl, operands⟩ := read
  rw [terms?, isOpened, operands]
  exact ⟨rfl, terms?_operands filled plain closes⟩

lemma exists_ofWords_of_laidOut (isWord : IsWord relation) (filled : ts ≠ [])
    (h : LaidOut id relation ts content) (origin : Origin) (number : Nat) :
    ∃ d, ofWords origin number (Text.words content) = .ok d := by
  obtain ⟨closing, -, split⟩ := words_of_laidOut isWord filled h
  have read : AxiomId.ofWord? (toString id) = some id := AxiomId.ofWord?_eq_some_iff.mpr rfl
  rw [split, ofWords.eq_def]
  simp only [read]
  exact ⟨_, rfl⟩

end Lines

/-! ## Converses -/

lemma isReversedBy_iff_of_terms? {d d' : Definition} {ts us : List String}
    (same : d'.relation = d.relation) (terms : d.terms? = some (ts.map String.toList))
    (terms' : d'.terms? = some (us.map String.toList)) :
    d.isReversedBy d' = true ↔ us = ts.reverse := by
  have injective : Function.Injective String.toList := fun _ _ => String.toList_inj.mp
  rw [isReversedBy, same, terms, terms']
  simp only [decide_true, Bool.true_and, decide_eq_true_eq, ← List.map_reverse]
  rw [(List.map_injective_iff.mpr injective).eq_iff, eq_comm]

end Definition

/-- The rows that begin with some word are those of the lines that do. -/
lemma filter_rowsOf (word : String) (lines : List Line) :
    (rowsOf lines).filter (·.head? = some word) =
      (lines.filter (·.words.head? = some word)).map Line.words := by
  rw [rowsOf, List.filter_filter, List.filter_map]
  congr 2
  funext line
  rw [Function.comp_apply]
  cases line.words <;> simp

namespace Axiom

section Lines

variable {id : AxiomId} {relation content content' : String} {ts us : List String}

/-- **Two lines make an equivalence** if the terms of the one are those of the other, reversed. -/
lemma ofDefinitions_converse_of_laidOut (isWord : IsWord relation) (filled : ts ≠ [])
    (filled' : us ≠ []) (plain : ∀ t ∈ ts, IsPlainTerm t) (plain' : ∀ u ∈ us, IsPlainTerm u)
    (laidOut : Definition.LaidOut id relation ts content)
    (laidOut' : Definition.LaidOut id relation us content') {d d' : Definition}
    (read : d.words = words content) (read' : d'.words = words content') :
    ofDefinitions .converse id [d, d'] =
      if us = ts.reverse then .ok (.equivalence d) else .error (.ambiguousAxiom id 2) := by
  obtain ⟨isRelation, terms⟩ := Definition.terms?_of_laidOut isWord filled plain laidOut read
  obtain ⟨isRelation', terms'⟩ :=
    Definition.terms?_of_laidOut isWord filled' plain' laidOut' read'
  have same : d'.relation = d.relation := isRelation'.trans isRelation.symm
  simp only [ofDefinitions, PairStrategy.accepts,
    Definition.isReversedBy_iff_of_terms? same terms terms']

/-- Two lines in the sources make the definitions under a number. -/
lemma exists_get_eq_of_lines {gci ri : Source} {store : DefinitionStore}
    (read : (DefinitionStore.read gci ri).outcome = .ok store)
    (lines : (gci.lines ++ ri.lines).filter (·.words.head? = some (toString id)) =
      [.text content, .text content']) :
    ∃ d d', store.get id = [d, d'] ∧ d.words = words content ∧ d'.words = words content' := by
  have rows := DefinitionStore.words_get_of_read read id
  rw [Source.rows, Source.rows, List.filter_append, filter_rowsOf, filter_rowsOf,
    ← List.map_append, ← List.filter_append, lines] at rows
  obtain ⟨d, rest, two, first, rows⟩ := List.map_eq_cons_iff.mp rows
  obtain ⟨d', none, rfl, second, rows⟩ := List.map_eq_cons_iff.mp rows
  obtain rfl := List.map_eq_nil_iff.mp rows
  exact ⟨d, d', two, first, second⟩

end Lines

/-- If two definitions make an equivalence in one order, then they make one in the other. -/
lemma exists_ofDefinitions_converse_comm (id : AxiomId) (d d' : Definition) :
    (∃ a, ofDefinitions .converse id [d, d'] = .ok a) ↔
      ∃ a, ofDefinitions .converse id [d', d] = .ok a := by
  simp only [ofDefinitions, PairStrategy.accepts, d.isReversedBy_comm d']
  by_cases converse : d'.isReversedBy d = true <;> simp [converse]

lemma ofDefinitions_converse_of_relation_ne (id : AxiomId) {d d' : Definition}
    (other : d.relation ≠ d'.relation) :
    ofDefinitions .converse id [d, d'] = .error (.ambiguousAxiom id 2) := by
  refine if_neg ?_
  simp [PairStrategy.accepts, Definition.isReversedBy, other]

/-- **Converse lines.**  Two lines of a number and a relation, each with some terms, make an
equivalence if the terms of the second are those of the first in the opposite order, and are at
fault otherwise; it does not matter with which blanks they are laid out, nor whether they are read
alone or are the lines of the number in two sources.  Of any two definitions the order does not
matter to there being an equivalence, and with different relations there is none. -/
theorem converse_iff_terms_reversed :
    (∀ id relation ts us content content', IsWord relation → ts ≠ [] → us ≠ [] →
      (∀ t ∈ ts, IsPlainTerm t) → (∀ u ∈ us, IsPlainTerm u) →
      Definition.LaidOut id relation ts content → Definition.LaidOut id relation us content' →
      (∀ origin origin' number number', ∃ d d',
        Definition.ofWords origin number (words content) = .ok d ∧
        Definition.ofWords origin' number' (words content') = .ok d' ∧
        ofDefinitions .converse id [d, d'] =
          if us = ts.reverse then .ok (.equivalence d) else .error (.ambiguousAxiom id 2)) ∧
      ∀ gci ri store, (DefinitionStore.read gci ri).outcome = .ok store →
        (gci.lines ++ ri.lines).filter (·.words.head? = some (toString id)) =
          [.text content, .text content'] →
        ∃ d d', store.get id = [d, d'] ∧ store.axiomOf .converse id =
          if us = ts.reverse then .ok (.equivalence d) else .error (.ambiguousAxiom id 2)) ∧
    (∀ id d d', (∃ a, ofDefinitions .converse id [d, d'] = .ok a) ↔
      ∃ a, ofDefinitions .converse id [d', d] = .ok a) ∧
    ∀ id d d', d.relation ≠ d'.relation →
      ofDefinitions .converse id [d, d'] = .error (.ambiguousAxiom id 2) := by
  refine ⟨fun id relation ts us content content' isWord filled filled' plain plain' laidOut
    laidOut' => ⟨fun origin origin' number number' => ?_, fun gci ri store read lines => ?_⟩,
    exists_ofDefinitions_converse_comm, fun id _ _ => ofDefinitions_converse_of_relation_ne id⟩
  · obtain ⟨d, read⟩ := Definition.exists_ofWords_of_laidOut isWord filled laidOut origin number
    obtain ⟨d', read'⟩ :=
      Definition.exists_ofWords_of_laidOut isWord filled' laidOut' origin' number'
    exact ⟨d, d', read, read', ofDefinitions_converse_of_laidOut isWord filled filled' plain plain'
      laidOut laidOut' (Definition.words_of_ofWords read) (Definition.words_of_ofWords read')⟩
  · obtain ⟨d, d', two, first, second⟩ := exists_get_eq_of_lines read lines
    refine ⟨d, d', two, ?_⟩
    rw [DefinitionStore.axiomOf, two]
    exact ofDefinitions_converse_of_laidOut isWord filled filled' plain plain' laidOut laidOut'
      first second

/-- The second line has other blanks, also inside of a term, and its last parenthesis stands alone;
it is in another source than the first.  The first line twice is no equivalence, and neither are
lines of different relations. -/
theorem converse_iff_terms_reversed_on_two_lines :
    (∃ store d d', (DefinitionStore.read (.ofText "3 (implies A (some r B))\n1 a b\n")
        (.ofText " 3 (implies (some\t r B) A )\n")).outcome = .ok store ∧
      store.get ⟨3⟩ = [d, d'] ∧ store.axiomOf .converse ⟨3⟩ = .ok (.equivalence d)) ∧
    (∃ d d', Definition.ofWords .gci 1 (words "3 (implies A (some r B))\n") = .ok d ∧
      Definition.ofWords .ri 1 (words "3 (implies A (some r B))\n") = .ok d' ∧
      ofDefinitions .converse ⟨3⟩ [d, d'] = .error (.ambiguousAxiom ⟨3⟩ 2)) ∧
    ofDefinitions .converse ⟨3⟩ [⟨⟨3⟩, "r", ["A", "B"], .gci, 1⟩, ⟨⟨3⟩, "s", ["B", "A"], .gci, 2⟩] =
      .error (.ambiguousAxiom ⟨3⟩ 2) := by
  obtain ⟨reversed, -, differ⟩ := converse_iff_terms_reversed
  have isWord : IsWord "(implies" := isWord_iff.mpr rfl
  have plain : ∀ t ∈ ["A", "(some r B)"], IsPlainTerm t := by decide +kernel
  have plain' : ∀ t ∈ ["(some r B)", "A"], IsPlainTerm t := by decide +kernel
  have empty : IsRun "" := List.all_eq_true.mp rfl
  have space : IsRun " " := List.all_eq_true.mp rfl
  have newline : IsRun "\n" := List.all_eq_true.mp rfl
  have laidOut : Definition.LaidOut ⟨3⟩ "(implies" ["A", "(some r B)"]
      "3 (implies A (some r B))\n" := by
    refine ⟨")", by decide, "", "3 (implies A (some r B))", "\n", empty, newline, rfl, ?_⟩
    have whole : Stretches "3 (implies A (some r B))".toList "3 (implies A (some r B))".toList :=
      .self rfl
    exact whole
  have laidOut' : Definition.LaidOut ⟨3⟩ "(implies" ["(some r B)", "A"]
      " 3 (implies (some\t r B) A )\n" := by
    refine ⟨" )", by decide, " ", "3 (implies (some\t r B) A )", "\n", space, newline, rfl, ?_⟩
    have front : Stretches "3 (implies (some".toList "3 (implies (some".toList :=
      .self rfl
    have back : Stretches "r B) A )".toList "r B) A )".toList := .self rfl
    have gap : Stretches (' ' :: "r B) A )".toList) (['\t', ' '] ++ "r B) A )".toList) :=
      .gap (List.all_eq_true.mp rfl) (by simp) back
    exact front.append gap
  refine ⟨?_, ?_, differ ⟨3⟩ _ _ (by decide)⟩
  · obtain ⟨store, read⟩ : ∃ store,
        (DefinitionStore.read (.ofText "3 (implies A (some r B))\n1 a b\n")
          (.ofText " 3 (implies (some\t r B) A )\n")).outcome = .ok store := ⟨_, rfl⟩
    obtain ⟨-, inSources⟩ := reversed ⟨3⟩ "(implies" _ _ _ _ isWord (by decide) (by decide) plain
      plain' laidOut laidOut'
    obtain ⟨d, d', two, collapsed⟩ := inSources _ _ store read rfl
    exact ⟨store, d, d', read, two, collapsed⟩
  · obtain ⟨onLines, -⟩ := reversed ⟨3⟩ "(implies" _ _ _ _ isWord (by decide) (by decide) plain
      plain laidOut laidOut
    exact onLines .gci .ri 1 1

end Axiom

end AxiomPinpointing
