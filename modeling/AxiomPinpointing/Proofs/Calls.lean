import AxiomPinpointing.Formula
import AxiomPinpointing.Proofs.Stopping

/-!
# What a reader is called with

A reader is a function, and reading a source calls it with one line after the other.  To say with
which, one lets it write its calls down (`recording`), which changes nothing in what it does.

**What is passed.**  The lines that a reader is called with are numbered from 1, and put together
they are the bytes at the beginning of the source (`Source.Splits`): none is left out or comes
twice, and each ends with its only newline, but for a last one at the very end of the source.

**Where it ends.**  The last call is the one that asks to stop or to give up.  If there is none, the
line behind the calls cannot be read, or there is no further byte (`ReadsUpTo`).  So bytes behind
the line of the last call are never looked at, and may be others.
-/

namespace AxiomPinpointing

/-! ## Lines as they stand in a source -/

/-- Holds of a text that ends with its only newline. -/
def Text.IsEnded (line : String) : Prop :=
  ∃ body : String, '\n' ∉ body.toList ∧ line = body ++ "\n"

lemma Line.ofBytes_eq_unreadable_iff {bytes : List UInt8} :
    ofBytes bytes = .unreadable ↔ Text.decodeUtf8? bytes = none := by
  rw [ofBytes]
  cases Text.decodeUtf8? bytes <;> simp

namespace Source

/-- `source.Splits lines rest` holds if a source begins with some lines, and goes on with another
source behind them. -/
structure Splits (source : Source) (lines : List String) (rest : Source) : Prop where
  bytes : source.bytes = lines.flatMap Text.encodeUtf8 ++ rest.bytes
  ending : source.ending = rest.ending
  ended : ∀ line ∈ lines.dropLast, Text.IsEnded line
  /-- Without a newline there is nothing behind the last line. -/
  last : ∀ line ∈ lines.getLast?,
    Text.IsEnded line ∨ line ≠ "" ∧ '\n' ∉ line.toList ∧ rest = empty

/-- Holds if the first line of a source cannot be read. -/
inductive BeginsUnreadable : Source → Prop
  /-- The line is no text. -/
  | notText {body : List UInt8} {rest : Source} (single : newline ∉ body)
      (unread : Text.decodeUtf8? (body ++ [newline]) = none) : BeginsUnreadable (after body rest)
  /-- The line is the last one, and is no text. -/
  | lastNotText {body : List UInt8} (single : newline ∉ body)
      (unread : Text.decodeUtf8? body = none) : BeginsUnreadable ⟨body, .complete⟩
  /-- The source breaks off in the line, or where its end should be. -/
  | broken {body : List UInt8} (single : newline ∉ body) : BeginsUnreadable ⟨body, .broken⟩

/-! ## Cutting off the first line -/

variable {body : List UInt8}

lemma beq_newline_of_single (single : newline ∉ body) :
    ∀ byte ∈ body, (byte == newline) = false :=
  fun _ mem => beq_false_of_ne fun same => single (same ▸ mem)

lemma lines_of_single (single : newline ∉ body) (ending : Ending) :
    (⟨body, ending⟩ : Source).lines = lastLine ending body := by
  rw [lines, pieces, List.splitOnP_eq_singleton (beq_newline_of_single single)]
  rfl

lemma lines_after_single (single : newline ∉ body) (rest : Source) :
    (after body rest).lines = .ofBytes (body ++ [newline]) :: rest.lines := by
  have first : (after body empty).lines = [.ofBytes (body ++ [newline])] := by
    rw [lines, pieces, after,
      List.splitOnP_append_cons_of_forall_mem (beq_newline_of_single single) _ BEq.rfl]
    rfl
  rw [lines_after, first, List.singleton_append]

/-- Every source has a single line, or a first one. -/
lemma exists_single (source : Source) : ∃ body, newline ∉ body ∧
    (source = ⟨body, source.ending⟩ ∨ ∃ rest, source = after body rest) := by
  by_cases mem : newline ∈ source.bytes
  · obtain ⟨body, back, cut, single⟩ := List.eq_append_cons_of_mem mem
    refine ⟨body, single, .inr ⟨⟨back, source.ending⟩, ?_⟩⟩
    rw [after, ← cut]
  · exact ⟨source.bytes, mem, .inl rfl⟩

/-! ## Bytes and texts of a line -/

lemma newline_notMem_of_encodeUtf8 {text : String} (h : newline ∉ Text.encodeUtf8 text) :
    '\n' ∉ text.toList := by
  intro mem
  rw [Text.encodeUtf8_eq_flatMap] at h
  exact h (List.mem_flatMap.mpr ⟨'\n', mem, by decide⟩)

/-- A line that ends with the byte of a newline ends with the character. -/
lemma isEnded_of_encodeUtf8 {line : String} (h : Text.encodeUtf8 line = body ++ [newline])
    (single : newline ∉ body) : Text.IsEnded line := by
  rw [Text.encodeUtf8_eq_flatMap] at h
  obtain none | ⟨front, c, split⟩ := List.eq_nil_or_concat line.toList
  · simp [none] at h
  · rw [List.concat_eq_append] at split
    rw [split, List.flatMap_append, List.flatMap_singleton] at h
    have last : newline ∈ String.utf8EncodeChar c := by
      have same := congrArg List.getLast? h
      rw [List.getLast?_concat, List.getLast?_append_of_ne_nil _ String.utf8EncodeChar_ne_nil]
        at same
      exact List.mem_of_getLast? same
    obtain rfl : c = '\n' := by
      by_contra other
      exact Text.newline_notMem_utf8EncodeChar other last
    have before : Text.encodeUtf8 (String.ofList front) = body := by
      rw [Text.encodeUtf8_eq_flatMap, String.toList_ofList]
      exact List.append_cancel_right h
    refine ⟨String.ofList front, newline_notMem_of_encodeUtf8 (before ▸ single), ?_⟩
    rw [← String.toList_inj, split]
    simp

lemma Splits.cons {line : String} {lines : List String} {back rest : Source}
    (ended : Text.IsEnded line) (encoded : Text.encodeUtf8 line = body ++ [newline])
    (h : back.Splits lines rest) : (after body back).Splits (line :: lines) rest := by
  have bytes : (after body back).bytes =
      (line :: lines).flatMap Text.encodeUtf8 ++ rest.bytes := by
    rw [after, h.bytes, List.flatMap_cons, encoded]
    simp
  cases lines with
  | nil => exact ⟨bytes, h.ending, by simp, by simpa using .inl ended⟩
  | cons next lines =>
    refine ⟨bytes, h.ending, ?_, h.last⟩
    rw [List.dropLast_cons_cons, List.forall_mem_cons]
    exact ⟨ended, h.ended⟩

lemma Splits.whole {line : String} (single : newline ∉ Text.encodeUtf8 line) (filled : line ≠ "") :
    (⟨Text.encodeUtf8 line, .complete⟩ : Source).Splits [line] empty := by
  refine ⟨by simp [empty], rfl, by simp, ?_⟩
  rintro other ⟨⟩
  exact .inr ⟨filled, newline_notMem_of_encodeUtf8 single, rfl⟩

/-- **The lines at the beginning of a source** and what is behind them make up its bytes. -/
lemma exists_splits {source : Source} {lines : List String} {others : List Line}
    (h : source.lines = lines.map .text ++ others) :
    ∃ rest, source.Splits lines rest ∧ rest.lines = others := by
  induction lines generalizing source with
  | nil => exact ⟨source, ⟨rfl, rfl, nofun, nofun⟩, h⟩
  | cons line lines ih =>
    rw [List.map_cons, List.cons_append] at h
    obtain ⟨body, single, last | ⟨back, more⟩⟩ := source.exists_single
    · rw [last, lines_of_single single, lastLine.eq_def] at h
      split at h
      next => cases h
      next complete =>
        split_ifs at h with none
        obtain ⟨made, noMore⟩ := List.cons.inj h
        obtain ⟨noLines, rfl⟩ := List.append_eq_nil_iff.mp noMore.symm
        obtain rfl := List.map_eq_nil_iff.mp noLines
        obtain rfl := encodeUtf8_of_ofBytes made
        refine ⟨empty, ?_, rfl⟩
        rw [last, complete]
        refine .whole single fun empty => none ?_
        rw [empty]
        rfl
    · rw [more, lines_after_single single, List.cons.injEq] at h
      obtain ⟨rest, splits, found⟩ := ih h.2
      have encoded := encodeUtf8_of_ofBytes h.1
      rw [more]
      exact ⟨rest, splits.cons (isEnded_of_encodeUtf8 encoded single) encoded, found⟩

/-- The source that begins with some lines, and goes on with another. -/
def behind (lines : List String) (rest : Source) : Source :=
  ⟨lines.flatMap Text.encodeUtf8 ++ rest.bytes, rest.ending⟩

lemma Splits.eq_behind {source rest : Source} {lines : List String} (h : source.Splits lines rest) :
    source = behind lines rest := by
  rw [behind, ← h.bytes, ← h.ending]

/-- Lines that end themselves are lines in front of any source. -/
lemma lines_behind {lines : List String} (ended : ∀ line ∈ lines, Text.IsEnded line)
    (rest : Source) : (behind lines rest).lines = lines.map .text ++ rest.lines := by
  induction lines with
  | nil => rfl
  | cons line lines ih =>
    obtain ⟨⟨body, single, rfl⟩, others⟩ := List.forall_mem_cons.mp ended
    have first : behind ((body ++ "\n") :: lines) rest =
        after (Text.encodeUtf8 body) (behind lines rest) := by
      simp [behind, after, Text.encodeUtf8_append, Text.encodeUtf8_newline]
    have text : Line.ofBytes (Text.encodeUtf8 body ++ [newline]) = .text (body ++ "\n") := by
      rw [← Text.encodeUtf8_newline, ← Text.encodeUtf8_append, Line.ofBytes,
        Text.decodeUtf8?_encodeUtf8]
    rw [first, lines_after_single (Text.newline_notMem_encodeUtf8 single), text, ih others]
    rfl

/-- Only of the empty source there are no lines. -/
lemma eq_empty_of_lines {source : Source} (h : source.lines = []) : source = empty := by
  obtain ⟨body, single, last | ⟨back, more⟩⟩ := source.exists_single
  · rw [last, lines_of_single single, lastLine.eq_def] at h
    split at h
    next => cases h
    next complete =>
      split_ifs at h with none
      rw [last, complete, List.isEmpty_iff.mp none]
      rfl
  · rw [more, lines_after_single single] at h
    cases h

lemma beginsUnreadable_of_lines {source : Source} (h : source.lines.head? = some .unreadable) :
    source.BeginsUnreadable := by
  obtain ⟨body, single, last | ⟨back, more⟩⟩ := source.exists_single
  · rw [last, lines_of_single single, lastLine.eq_def] at h
    rw [last]
    split at h
    next broken =>
      rw [broken]
      exact .broken single
    next complete =>
      split_ifs at h with none
      · cases h
      · rw [complete]
        exact .lastNotText single (Line.ofBytes_eq_unreadable_iff.mp (Option.some.inj h))
  · rw [more, lines_after_single single] at h
    rw [more]
    exact .notText single (Line.ofBytes_eq_unreadable_iff.mp (Option.some.inj h))

end Source

/-! ## Writing the calls down -/

/-- The same decision, with another state. -/
def Step.map {σ τ : Type} (f : σ → τ) : Step σ → Step τ
  | .next state => .next (f state)
  | .stop state => .stop (f state)
  | .fail fault state => .fail fault (f state)

section Recording

variable {σ : Type} (visit : Nat → String → σ → Step σ)

/-- The reader that does what another does, and writes down the lines it is called with, each with
its number. -/
def recording (number : Nat) (line : String) (noted : σ × List (String × Nat)) :
    Step (σ × List (String × Nat)) :=
  (visit number line noted.1).map (·, noted.2 ++ [(line, number)])

/-- `ReadsUpTo visit start rest lines reading` holds if a reader that is called with some lines
comes to an end with the last of them, or as the rest of the source has no line for it. -/
inductive ReadsUpTo (start : σ) (rest : Source) : List String → Reading σ → Prop
  | complete {lines : List String} {state : σ}
      (passes : Passes visit 1 start (lines.map .text) state) (exhausted : rest = .empty) :
      ReadsUpTo start rest lines ⟨state, none⟩
  | unreadable {lines : List String} {state : σ}
      (passes : Passes visit 1 start (lines.map .text) state) (h : rest.BeginsUnreadable) :
      ReadsUpTo start rest lines ⟨state, some (.unreadableLine (lines.length + 1))⟩
  | stops {front : List String} {last : String} {state state' : σ}
      (passes : Passes visit 1 start (front.map .text) state)
      (h : visit (front.length + 1) last state = .stop state') :
      ReadsUpTo start rest (front ++ [last]) ⟨state', none⟩
  | fails {front : List String} {last : String} {fault : Fault} {state state' : σ}
      (passes : Passes visit 1 start (front.map .text) state)
      (h : visit (front.length + 1) last state = .fail fault state') :
      ReadsUpTo start rest (front ++ [last]) ⟨state', some fault⟩

variable {visit}

/-- Lines that are passed are texts. -/
lemma Passes.exists_texts {number : Nat} {state state' : σ} {lines : List Line}
    (h : Passes visit number state lines state') :
    ∃ texts : List String, lines = texts.map .text := by
  induction h with
  | nil => exact ⟨[], rfl⟩
  | cons _ _ ih =>
    obtain ⟨texts, rfl⟩ := ih
    exact ⟨_ :: texts, rfl⟩

lemma Passes.recording {number : Nat} {state state' : σ} {lines : List String}
    (h : Passes visit number state (lines.map .text) state') (calls : List (String × Nat)) :
    Passes (recording visit) number (state, calls) (lines.map .text)
      (state', calls ++ lines.zipIdx number) := by
  induction lines generalizing number state calls with
  | nil =>
    obtain rfl := passes_nil_iff.mp h
    simpa using Passes.nil _ _
  | cons line lines ih =>
    obtain ⟨after, goesOn, rest⟩ := passes_text_iff.mp h
    have noted : AxiomPinpointing.recording visit number line (state, calls) =
        .next (after, calls ++ [(line, number)]) := by
      rw [AxiomPinpointing.recording, goesOn]
      rfl
    have others := ih rest (calls ++ [(line, number)])
    rw [List.append_assoc, List.singleton_append] at others
    exact .cons noted others

lemma passes_of_recording {number : Nat} {noted noted' : σ × List (String × Nat)}
    {lines : List Line} (h : Passes (recording visit) number noted lines noted') :
    Passes visit number noted.1 lines noted'.1 := by
  induction h with
  | nil => exact .nil _ _
  | @cons number content noted after noted' lines goesOn _ ih =>
    cases visited : visit number content noted.1 with
    | next state =>
      rw [recording, visited] at goesOn
      cases goesOn
      exact .cons visited ih
    | stop state =>
      rw [recording, visited] at goesOn
      cases goesOn
    | fail fault state =>
      rw [recording, visited] at goesOn
      cases goesOn

/-- Behind lines that are passed, a recording reader goes on with these lines written down. -/
lemma Passes.visitLines_recording {start state : σ} {front : List String}
    (h : Passes visit 1 start (front.map .text) state) (others : List Line) :
    visitLines (AxiomPinpointing.recording visit) 1 (start, []) (front.map .text ++ others) =
      visitLines (AxiomPinpointing.recording visit) (front.length + 1) (state, front.zipIdx 1)
        others := by
  rw [(h.recording []).visitLines_append, List.length_map, Nat.add_comm, List.nil_append]

/-- **Every reading is called with lines at the beginning of the source**, and comes to an end
behind them; writing them down does not change it. -/
lemma exists_calls (visit : Nat → String → σ → Step σ) (start : σ) (source : Source) :
    ∃ lines rest, source.Splits lines rest ∧ lines.map .text <+: source.lines ∧
      ReadsUpTo visit start rest lines (source.read visit start) ∧
      source.read (recording visit) (start, []) =
        ⟨((source.read visit start).state, lines.zipIdx 1), (source.read visit start).fault⟩ := by
  obtain ⟨k, state, passes, ends⟩ := exists_passes visit 1 start source.lines
  obtain ⟨front, texts⟩ := passes.exists_texts
  rw [texts] at passes
  have cut : source.lines = front.map .text ++ source.lines.drop k := by
    rw [← texts, List.take_append_drop]
  have run : source.read (recording visit) (start, []) =
      visitLines (recording visit) (front.length + 1) (state, front.zipIdx 1)
        (source.lines.drop k) := by
    rw [← passes.visitLines_recording, ← cut, Source.read]
  rw [← Source.read] at ends
  generalize source.read visit start = reading at ends
  rw [run]
  cases here : source.lines[k]? with
  | none =>
    rw [here] at ends
    cases ends
    rw [List.drop_eq_nil_of_le (List.getElem?_eq_none_iff.mp here)] at cut ⊢
    obtain ⟨rest, splits, none⟩ := Source.exists_splits cut
    exact ⟨front, rest, splits, cut ▸ List.prefix_append _ _,
      .complete passes (Source.eq_empty_of_lines none), rfl⟩
  | some line =>
    obtain ⟨within, found⟩ := List.getElem?_eq_some_iff.mp here
    have count : front.length = k := by
      have lengths := congrArg List.length texts
      rw [List.length_take_of_le (Nat.le_of_lt within), List.length_map] at lengths
      exact lengths.symm
    rw [List.drop_eq_getElem_cons within, found] at cut ⊢
    rw [here, Nat.add_comm, ← count] at ends
    cases line with
    | unreadable =>
      cases ends
      obtain ⟨rest, splits, next⟩ := Source.exists_splits cut
      have unread : rest.lines.head? = some .unreadable := by rw [next, List.head?_cons]
      exact ⟨front, rest, splits, cut ▸ List.prefix_append _ _,
        .unreadable passes (Source.beginsUnreadable_of_lines unread), rfl⟩
    | text content =>
      have called : source.lines = (front ++ [content]).map .text ++ source.lines.drop (k + 1) := by
        rw [List.map_append, List.append_assoc]
        exact cut
      obtain ⟨rest, splits, -⟩ := Source.exists_splits called
      refine ⟨front ++ [content], rest, splits, called ▸ List.prefix_append _ _, ?_⟩
      rw [visitLines, recording, List.zipIdx_append, List.zipIdx_singleton, Nat.add_comm 1]
      cases ends with
      | stops stop =>
        rw [stop]
        exact ⟨.stops passes stop, rfl⟩
      | fails fail =>
        rw [fail]
        exact ⟨.fails passes fail, rfl⟩

/-- A reader that comes to its end with one of some lines does not look at what is behind them. -/
lemma read_behind {start : σ} {lines : List String} (ended : ∀ line ∈ lines, Text.IsEnded line)
    (h : ∀ state, ¬ Passes visit 1 start (lines.map .text) state) (rest : Source) :
    (Source.behind lines rest).read visit start = visitLines visit 1 start (lines.map .text) := by
  rw [Source.read, Source.lines_behind ended, visitLines_append_of_not_passes h]

/-- **Reading loses, repeats and runs ahead of nothing.**  A reader is called with the lines at the
beginning of a source, in order and numbered from 1, until it has enough, a line cannot be read or
there are no more.  If it has enough, then it does the same on every source that begins with the
lines it was called with. -/
theorem read_calls_lines_in_order (visit : Nat → String → σ → Step σ) (start : σ)
    (source : Source) :
    ∃ lines rest,
      source.read (recording visit) (start, []) =
        ⟨((source.read visit start).state, lines.zipIdx 1), (source.read visit start).fault⟩ ∧
      lines.map .text <+: source.lines ∧ source.Splits lines rest ∧
      ReadsUpTo visit start rest lines (source.read visit start) ∧
      ((∀ state, ¬ Passes visit 1 start (lines.map .text) state) →
        (∀ last ∈ lines.getLast?, Text.IsEnded last) →
        ∀ other : Source, lines.flatMap Text.encodeUtf8 <+: other.bytes →
          other.read visit start = source.read visit start ∧
          other.read (recording visit) (start, []) =
            source.read (recording visit) (start, [])) := by
  obtain ⟨lines, rest, splits, front, ends, run⟩ := exists_calls visit start source
  refine ⟨lines, rest, run, front, splits, ends, fun enough last other agrees => ?_⟩
  have ended : ∀ line ∈ lines, Text.IsEnded line := by
    intro line mem
    obtain rfl | ⟨front, final, rfl⟩ := List.eq_nil_or_concat lines
    · simp at mem
    · have before := splits.ended
      simp only [List.concat_eq_append, List.dropLast_concat, List.getLast?_concat]
        at before last mem
      rcases List.mem_append.mp mem with mem | mem
      · exact before line mem
      · obtain rfl := List.mem_singleton.mp mem
        exact last line rfl
  have enoughNoted : ∀ noted, ¬ Passes (recording visit) 1 (start, []) (lines.map .text) noted :=
    fun noted passes => enough _ (passes_of_recording passes)
  obtain ⟨back, agrees⟩ := agrees
  have same : other = Source.behind lines ⟨back, other.ending⟩ := by
    rw [Source.behind, agrees]
  rw [same, splits.eq_behind, read_behind ended enough, read_behind ended enough,
    read_behind ended enoughNoted, read_behind ended enoughNoted]
  exact ⟨rfl, rfl⟩

/-- The reader of formulas stops at the third line.  What follows is no text, and the source breaks
off in it; with two clauses there instead, nothing is different. -/
theorem read_calls_lines_up_to_ending :
    let source : Source := ⟨Text.encodeUtf8 "c\n1 0\n%\n" ++ [0xFF], .broken⟩
    let other : Source := .ofText "c\n1 0\n%\n2 0\n3"
    (source.read (recording Formula.visit) (.empty, [])).state.2 =
        [("c\n", 1), ("1 0\n", 2), ("%\n", 3)] ∧
      (source.read Formula.visit .empty).fault = none ∧
      other.read Formula.visit .empty = source.read Formula.visit .empty ∧
      other.read (recording Formula.visit) (.empty, []) =
        source.read (recording Formula.visit) (.empty, []) := by
  intro source other
  have calls : (source.read (recording Formula.visit) (.empty, [])).state.2 =
      [("c\n", 1), ("1 0\n", 2), ("%\n", 3)] := rfl
  obtain ⟨lines, rest, run, -, -, -, again⟩ :=
    read_calls_lines_in_order Formula.visit .empty source
  have isLines : lines = ["c\n", "1 0\n", "%\n"] := by
    have written : lines.zipIdx 1 = [("c\n", 1), ("1 0\n", 2), ("%\n", 3)] := by
      rw [run] at calls
      exact calls
    rw [← List.zipIdx_map_fst 1 lines, written]
    rfl
  subst isLines
  refine ⟨calls, rfl, again (fun state passes => ?_) ?_ other ?_⟩
  · obtain ⟨_, comment, passes⟩ := passes_text_iff.mp passes
    obtain ⟨_, clause, passes⟩ := passes_text_iff.mp passes
    obtain ⟨_, ending, -⟩ := passes_text_iff.mp passes
    have stop : Step.stop _ = Step.next _ := ending
    cases stop
  · rintro last ⟨⟩
    exact ⟨"%", by decide, rfl⟩
  · exact ⟨Text.encodeUtf8 "2 0\n3", rfl⟩

end Recording

end AxiomPinpointing
