import AxiomPinpointing.Proofs.DefinitionStore
import Mathlib.Logic.ExistsUnique

/-!
# How identifiers are spelled

Whoever looks for the definitions under a number may read the number, or may look for its word.  The
two agree because each number has one spelling, the printed one.

What has no spelling is told without printing (`IsMisspelt`): a word can be empty, have a character
in it that is no digit, begin with a zero too many, or stand for a number that is too large.  Every
other word is a printed number (`exists_eq_toString_or_isMisspelt`).
-/

namespace AxiomPinpointing

open Text

/-! ## Words that are no identifiers -/

/-- Holds of the words that are not the canonical spelling of a number of 64 bits. -/
inductive IsMisspelt : String → Prop
  | empty : IsMisspelt ""
  /-- Signs and blanks are foreign, and so are the digits of other scripts. -/
  | foreign {word : String} {c : Char} (mem : c ∈ word.toList) (isForeign : c.isDigit = false) :
      IsMisspelt word
  | leadingZero {word : String} {c : Char} {cs : List Char}
      (spelled : word.toList = '0' :: c :: cs) : IsMisspelt word
  | tooLarge {n : Nat} (large : 2 ^ 64 ≤ n) : IsMisspelt (toString n)

/-- **Every word** is a number as it is printed, or is misspelt. -/
lemma exists_eq_toString_or_isMisspelt (word : String) :
    (∃ id : AxiomId, word = toString id) ∨ IsMisspelt word := by
  cases spelled : word.toList with
  | nil =>
    rw [String.toList_eq_nil_iff.mp spelled]
    exact .inr .empty
  | cons c cs =>
    by_cases digits : ∀ d ∈ word.toList, d.isDigit = true
    · by_cases canonical : c = '0' → cs = []
      · have read : digits? (c :: cs) = some (Nat.ofDigitChars 10 (c :: cs) 0) :=
          digits?_eq_some_iff.mpr ⟨List.cons_ne_nil c cs, spelled ▸ digits, rfl⟩
        generalize Nat.ofDigitChars 10 (c :: cs) 0 = n at read
        have printed : word = toString n := by
          rw [← String.toList_inj, toList_toString_nat, spelled]
          exact eq_toDigits_of_digits? read canonical
        rcases Nat.lt_or_ge n (2 ^ 64) with fits | large
        · refine .inl ⟨⟨UInt64.ofNat n⟩, printed.trans (congrArg toString ?_)⟩
          exact (UInt64.toNat_ofNat_of_lt' fits).symm
        · exact .inr (printed ▸ .tooLarge large)
      · obtain ⟨rfl, more⟩ := Classical.not_imp.mp canonical
        obtain ⟨d, ds, rfl⟩ := List.exists_cons_of_ne_nil more
        exact .inr (.leadingZero spelled)
    · simp only [not_forall, Bool.not_eq_true] at digits
      obtain ⟨d, mem, isForeign⟩ := digits
      exact .inr (.foreign mem isForeign)

namespace AxiomId

/-- The digits of a printed identifier are those of its number. -/
lemma toList_toString (id : AxiomId) : (toString id).toList = Nat.toDigits 10 id.value.toNat :=
  toList_toString_nat id.value.toNat

/-- No printed identifier is misspelt. -/
lemma not_isMisspelt_toString (id : AxiomId) : ¬ IsMisspelt (toString id) := by
  generalize printed : toString id = word
  intro misspelt
  have digits := id.toList_toString
  rw [printed] at digits
  cases misspelt with
  | empty => exact Nat.toDigits_ne_nil digits.symm
  | foreign mem isForeign =>
    have isDigit := isDigit_of_mem_toDigits (digits ▸ mem)
    rw [isForeign] at isDigit
    contradiction
  | leadingZero spelled =>
    rw [spelled] at digits
    by_cases none : id.value.toNat = 0
    · rw [none, Nat.toDigits_zero] at digits
      injection digits
      contradiction
    · have first := head?_toDigits_ne_zero id.value.toNat (Nat.pos_of_ne_zero none)
      rw [← digits] at first
      exact first rfl
  | @tooLarge n large =>
    rw [toList_toString_nat] at digits
    have value := congrArg (fun cs => Nat.ofDigitChars 10 cs 0) digits
    simp only [Nat.ofDigitChars_ten_toDigits] at value
    have fits := id.value.toNat_lt
    omega

lemma ofWord?_eq_none_iff_isMisspelt {word : String} : ofWord? word = none ↔ IsMisspelt word := by
  rw [ofWord?_eq_none_iff]
  constructor
  · intro unprinted
    rcases exists_eq_toString_or_isMisspelt word with ⟨id, printed⟩ | misspelt
    · exact absurd printed.symm (unprinted id)
    · exact misspelt
  · rintro misspelt id rfl
    exact id.not_isMisspelt_toString misspelt

/-- The number that is read is the one its digits stand for. -/
lemma ofDigitChars_of_ofWord? {word : String} {id : AxiomId} (read : ofWord? word = some id) :
    Nat.ofDigitChars 10 word.toList 0 = id.value.toNat := by
  rw [ofWord?_eq_some_iff.mp read, toList_toString, Nat.ofDigitChars_ten_toDigits]

/-- **Identifiers are read in their canonical spelling only.**  A word is read as a number exactly if
it is that number printed.  So there is one spelling of each number of 64 bits, no two words are read
as the same number, and whoever compares identifiers could have compared their words.  All other
words are refused, and they are misspelt. -/
theorem read_iff_printed :
    (∀ word id, ofWord? word = some id ↔ word = toString id) ∧
    (∀ word id, ofWord? word = some id → Nat.ofDigitChars 10 word.toList 0 = id.value.toNat) ∧
    (∀ value : UInt64, ∃! word, ofWord? word = some ⟨value⟩) ∧
    (∀ word word' id id', ofWord? word = some id → ofWord? word' = some id' →
      (id = id' ↔ word = word')) ∧
    ∀ word, ofWord? word = none ↔ IsMisspelt word := by
  refine ⟨fun _ _ => ofWord?_eq_some_iff, fun _ _ => ofDigitChars_of_ofWord?, fun value => ?_,
    fun word word' id id' read read' => ?_, fun _ => ofWord?_eq_none_iff_isMisspelt⟩
  · exact ⟨toString (⟨value⟩ : AxiomId), ofWord?_eq_some_iff.mpr rfl, fun _ => ofWord?_eq_some_iff.mp⟩
  · rw [ofWord?_eq_some_iff.mp read, ofWord?_eq_some_iff.mp read', toString_inj]

/-- The largest identifier is read, and the number behind it is not; nor is any other spelling of
seven. -/
theorem read_iff_printed_at_limits :
    ofWord? "18446744073709551615" = some ⟨18446744073709551615⟩ ∧
      Nat.ofDigitChars 10 "18446744073709551615".toList 0 = 18446744073709551615 ∧
      ofWord? "18446744073709551616" = none ∧
      (∀ word ∈ ["", "+7", "-7", "07", " 7", "7 ", "\u0667"], ofWord? word = none) ∧
      ofWord? "7" ≠ ofWord? "0" := by
  obtain ⟨printed, valued, -, compared, refused⟩ := read_iff_printed
  have largest : ofWord? "18446744073709551615" = some ⟨18446744073709551615⟩ :=
    (printed _ _).mpr (by decide +kernel)
  have seven : ofWord? "7" = some ⟨7⟩ := (printed _ _).mpr (by decide +kernel)
  have zero : ofWord? "0" = some ⟨0⟩ := (printed _ _).mpr (by decide +kernel)
  refine ⟨largest, valued _ _ largest, ?_, fun word mem => (refused word).mpr ?_, fun same => ?_⟩
  · exact (refused _).mpr (.tooLarge (Nat.le_refl _))
  · simp only [List.mem_cons, List.not_mem_nil, or_false] at mem
    obtain rfl | rfl | rfl | rfl | rfl | rfl | rfl := mem
    · exact .empty
    · exact .foreign (c := '+') (by decide) rfl
    · exact .foreign (c := '-') (by decide) rfl
    · exact .leadingZero rfl
    · exact .foreign (c := ' ') (by decide) rfl
    · exact .foreign (c := ' ') (by decide) rfl
    · exact .foreign (c := '\u0667') (by decide) rfl
  · have equal : (⟨7⟩ : AxiomId) = ⟨0⟩ := Option.some.inj (seven.symm.trans (same.trans zero))
    exact absurd ((compared _ _ _ _ seven zero).mp equal) (by decide)

end AxiomId

end AxiomPinpointing
