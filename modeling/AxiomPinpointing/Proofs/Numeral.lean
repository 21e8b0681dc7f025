import AxiomPinpointing.Axiom
import AxiomPinpointing.Literal
import AxiomPinpointing.Text.Blank
import Mathlib.Algebra.Group.Nat.Defs
import Mathlib.Tactic.Lemma
import Mathlib.Tactic.SplitIfs

/-!
# Printing and reading numerals

A printed number reads back as itself, at the limits of 64 bits too.  The strict reader accepts
nothing else (`canonical64?_eq_some_iff`), and that is why identifiers may be compared by comparing
their words.  Printed numbers are words: they are not empty and have no blank in them.
-/

namespace AxiomPinpointing.Text

/-! ## Digits -/

lemma digits?_eq_some_iff {cs : List Char} {n : Nat} :
    digits? cs = some n ↔
      cs ≠ [] ∧ (∀ c ∈ cs, c.isDigit) ∧ Nat.ofDigitChars 10 cs 0 = n := by
  rw [digits?]
  split_ifs with h
  · obtain ⟨nonempty, digits⟩ := (Bool.and_eq_true _ _).mp h
    rw [Bool.not_eq_true', List.isEmpty_eq_false_iff] at nonempty
    rw [List.all_eq_true] at digits
    rw [Option.some.injEq]
    exact ⟨fun value => ⟨nonempty, digits, value⟩, fun ⟨_, _, value⟩ => value⟩
  · constructor
    · rintro ⟨⟩
    · rintro ⟨nonempty, digits, -⟩
      refine absurd ((Bool.and_eq_true _ _).mpr ⟨?_, List.all_eq_true.mpr digits⟩) h
      rwa [Bool.not_eq_true', List.isEmpty_eq_false_iff]

lemma isDigit_of_mem_toDigits {n : Nat} {c : Char} (h : c ∈ Nat.toDigits 10 n) : c.isDigit :=
  Nat.isDigit_of_mem_toDigits (by decide) (by decide) h

lemma digits?_toDigits (n : Nat) : digits? (Nat.toDigits 10 n) = some n :=
  digits?_eq_some_iff.mpr
    ⟨Nat.toDigits_ne_nil, fun _ => isDigit_of_mem_toDigits, Nat.ofDigitChars_ten_toDigits⟩

lemma digitChar_sub_of_isDigit {c : Char} (h : c.isDigit) :
    c.toNat - '0'.toNat < 10 ∧ Nat.digitChar (c.toNat - '0'.toNat) = c := by
  obtain ⟨lower, upper⟩ := Char.isDigit_iff_toNat.mp h
  have nine : '9'.toNat = '0'.toNat + 9 := rfl
  have zero : '0'.toNat = 48 := rfl
  have small : c.toNat - '0'.toNat < 10 := by omega
  refine ⟨small, Char.toNat_inj.mp ?_⟩
  rw [Nat.toNat_digitChar_of_lt_ten small]
  omega

/-- Only the number zero is printed with a zero in front. -/
lemma head?_toDigits_ne_zero (n : Nat) (pos : 0 < n) : (Nat.toDigits 10 n).head? ≠ some '0' := by
  induction n using Nat.strongRecOn with
  | ind n ih =>
    by_cases small : n < 10
    · rw [Nat.toDigits_of_lt_base small, List.head?_cons, ne_eq, Option.some.injEq,
        Nat.digitChar_eq_zero]
      omega
    · have first := ih (n / 10) (by omega) (by omega)
      rw [Nat.toDigits_of_base_le (by decide) (by omega)]
      cases front : Nat.toDigits 10 (n / 10) with
      | nil => exact absurd front Nat.toDigits_ne_nil
      | cons c cs => rwa [front] at first

/-- Further digits are appended to the digits of what has been read, unless that is zero. -/
lemma toDigits_ofDigitChars (cs : List Char) (digits : ∀ c ∈ cs, c.isDigit) (read : Nat)
    (pos : 0 < read) :
    Nat.toDigits 10 (Nat.ofDigitChars 10 cs read) = Nat.toDigits 10 read ++ cs := by
  induction cs generalizing read with
  | nil => rw [Nat.ofDigitChars_nil, List.append_nil]
  | cons c cs ih =>
    obtain ⟨small, same⟩ := digitChar_sub_of_isDigit (digits c List.mem_cons_self)
    rw [Nat.ofDigitChars_cons, ih (fun d hd => digits d (List.mem_cons_of_mem c hd)) _ (by omega),
      ← Nat.toDigits_append_toDigits (by decide) pos small, Nat.toDigits_of_lt_base small, same,
      List.append_assoc, List.singleton_append]

/-- Digits without a leading zero are the digits that printing gives. -/
lemma eq_toDigits_of_digits? {c : Char} {cs : List Char} {n : Nat}
    (h : digits? (c :: cs) = some n) (canonical : c = '0' → cs = []) :
    c :: cs = Nat.toDigits 10 n := by
  obtain ⟨-, digits, rfl⟩ := digits?_eq_some_iff.mp h
  obtain ⟨small, same⟩ := digitChar_sub_of_isDigit (digits c List.mem_cons_self)
  rw [Nat.ofDigitChars_cons, Nat.mul_zero, Nat.zero_add]
  by_cases zero : c = '0'
  · rw [canonical zero, zero]
    rfl
  · have pos : 0 < c.toNat - '0'.toNat := by
      refine Nat.pos_of_ne_zero fun none => zero ?_
      rw [← same, none]
      rfl
    rw [toDigits_ofDigitChars cs (fun d hd => digits d (List.mem_cons_of_mem c hd)) _ pos,
      Nat.toDigits_of_lt_base small, same, List.singleton_append]

/-! ## Unsigned numbers -/

lemma toList_toString_nat (n : Nat) : (toString n).toList = Nat.toDigits 10 n := by
  rw [Nat.toString_eq_ofList_toDigits, String.toList_ofList]

lemma fit64?_toNat (n : UInt64) : fit64? n.toNat = some n := by
  rw [fit64?, if_pos n.toNat_lt_size, UInt64.ofNat_toNat]

lemma fit64?_eq_some_iff {n : Nat} {word : UInt64} : fit64? n = some word ↔ n = word.toNat := by
  constructor
  · intro h
    rw [fit64?] at h
    split_ifs at h with fits
    rw [← Option.some.inj h, UInt64.toNat_ofNat_of_lt' fits]
  · rintro rfl
    exact fit64?_toNat word

lemma unsigned64?_of_digits {word : String} (digits : ∀ c ∈ word.toList, c.isDigit) :
    unsigned64? word = digits? word.toList >>= fit64? := by
  rw [unsigned64?]
  split
  next rest signed =>
    rw [signed] at digits
    exact absurd (digits '+' List.mem_cons_self) (by decide)
  next => rfl

/-- **A printed number reads back.** -/
lemma unsigned64?_toString (n : UInt64) : unsigned64? (toString n.toNat) = some n := by
  have digits := toList_toString_nat n.toNat
  rw [unsigned64?_of_digits fun c hc => isDigit_of_mem_toDigits (digits ▸ hc), digits,
    digits?_toDigits]
  exact fit64?_toNat n

lemma unsigned64?_toString_of_lt {n : Nat} (fits : n < 2 ^ 64) :
    unsigned64? (toString n) = some (UInt64.ofNat n) := by
  have exact := unsigned64?_toString (UInt64.ofNat n)
  rwa [UInt64.toNat_ofNat_of_lt' fits] at exact

/-- **The strict reader accepts what printing gives, and nothing else.** -/
lemma canonical64?_eq_some_iff {word : String} {n : UInt64} :
    canonical64? word = some n ↔ word = toString n.toNat := by
  constructor
  · intro h
    rw [canonical64?] at h
    split at h
    next => contradiction
    next cs noZero =>
      obtain ⟨value, read, fits⟩ := Option.bind_eq_some_iff.mp h
      obtain rfl := fit64?_eq_some_iff.mp fits
      refine String.toList_inj.mp ?_
      rw [toList_toString_nat]
      cases spelled : word.toList with
      | nil => rw [spelled] at read; contradiction
      | cons c cs =>
        rw [spelled] at read
        refine eq_toDigits_of_digits? read fun zero => ?_
        cases cs with
        | nil => rfl
        | cons d cs => exact absurd (zero ▸ spelled) (noZero d cs)
  · rintro rfl
    have digits := toList_toString_nat n.toNat
    have read : digits? (toString n.toNat).toList >>= fit64? = some n := by
      rw [digits, digits?_toDigits]
      exact fit64?_toNat n
    rw [canonical64?]
    split
    next c cs zero =>
      rw [digits] at zero
      by_cases none : n.toNat = 0
      · rw [none, Nat.toDigits_zero] at zero
        injection zero
        contradiction
      · have first := head?_toDigits_ne_zero n.toNat (Nat.pos_of_ne_zero none)
        rw [zero] at first
        exact absurd rfl first
    next => exact read

/-! ## Signed numbers -/

lemma fitSigned64?_toInt (n : Int64) : fitSigned64? n.toInt = some n := by
  rw [fitSigned64?, if_pos ⟨n.minValue_le_toInt, n.toInt_le⟩, Int64.ofInt_toInt]

lemma signed64?_of_digits {word : String} (digits : ∀ c ∈ word.toList, c.isDigit) :
    signed64? word = digits? word.toList >>= fun n => fitSigned64? n := by
  rw [signed64?]
  split
  next rest signed =>
    rw [signed] at digits
    exact absurd (digits '+' List.mem_cons_self) (by decide)
  next rest signed =>
    rw [signed] at digits
    exact absurd (digits '-' List.mem_cons_self) (by decide)
  next => rfl

lemma toString_of_nonneg {n : Int} (h : 0 ≤ n) : toString n = toString n.toNat := by
  rw [Int.toString_eq_repr, Int.repr_eq_if, if_pos h, Nat.toString_eq_repr]

lemma toList_toString_of_neg {n : Int} (h : n < 0) :
    (toString n).toList = '-' :: Nat.toDigits 10 (-n).toNat := by
  rw [Int.toString_eq_repr, Int.repr_eq_if, if_neg (Int.not_le.mpr h), String.toList_append,
    Nat.toList_repr]
  rfl

/-- **A printed signed number reads back**, the least one too. -/
lemma signed64?_toString (n : Int64) : signed64? (toString n.toInt) = some n := by
  by_cases sign : 0 ≤ n.toInt
  · have digits := toList_toString_nat n.toInt.toNat
    rw [toString_of_nonneg sign,
      signed64?_of_digits fun c hc => isDigit_of_mem_toDigits (digits ▸ hc), digits,
      digits?_toDigits, Option.bind_eq_bind, Option.bind_some, Int.toNat_of_nonneg sign]
    exact fitSigned64?_toInt n
  · have spelled := toList_toString_of_neg (Int.not_le.mp sign)
    rw [signed64?, spelled]
    simp only
    rw [digits?_toDigits, Option.bind_eq_bind, Option.bind_some, Int.toNat_of_nonneg (by omega),
      Int.neg_neg]
    exact fitSigned64?_toInt n

end AxiomPinpointing.Text
