import IntcodeMachine.Numeral.Reader
import Mathlib.Data.Nat.Digits.Defs
import Mathlib.Data.Nat.Digits.Lemmas

/-
  This file says what program tokens stand for, apart from
  how they are read, and which of them are written.

  A token is spelled by a sign, or none, and ASCII digits.
  It stands for the integer with these digits in positional
  notation, if they are not too many. Each integer has one
  canonical spelling, which is the one that is written.

  Main declarations:
    * `Numeral.Spells`
    * `Numeral.Denotes`
    * `Numeral.Defective`
    * `Numeral.Canonical`
    * `Numeral.readToken_eq_ok_iff`
    * `Numeral.readToken_eq_error_iff`
    * `Numeral.chars_of_canonical`
    * `Numeral.mem_of_mem_chars`
-/

------------------------------------------------------------
-- Spellings
------------------------------------------------------------

namespace IntcodeMachine

namespace Numeral

/- A nonempty text of ASCII digits. -/
def AllDigits (ds : List Char) : Prop :=
  ds ≠ [] ∧ ∀ c ∈ ds, c.isDigit = true

/- The number that a digit stands for. -/
def digitValue (c : Char) : Nat :=
  c.toNat - '0'.toNat

/- The number that digits stand for by their positions. -/
def value (ds : List Char) : Nat :=
  Nat.ofDigits 10 (ds.reverse.map digitValue)

/- A token is a sign, or none, and digits. -/
inductive Spells : List Char → Bool → List Char → Prop where
| unsigned
    {ds : List Char}
    (hDigits : AllDigits ds) :
    Spells ds false ds
| plus
    {ds : List Char}
    (hDigits : AllDigits ds) :
    Spells ('+' :: ds) false ds
| minus
    {ds : List Char}
    (hDigits : AllDigits ds) :
    Spells ('-' :: ds) true ds

/- The token stands for the integer. -/
def Denotes
    (token : List Char)
    (n : Int) : Prop :=
  ∃ negative ds,
    Spells token negative ds ∧ ds.length ≤ maxDigits ∧
      n = if negative then -(value ds : Int) else value ds

/- What is wrong with a token that stands for nothing. -/
inductive Defective : List Char → Misread → Prop where
| notANumeral
    {token : List Char}
    (hSpells : ∀ negative ds, ¬ Spells token negative ds) :
    Defective token .notANumeral
| tooLong
    {token : List Char}
    {negative : Bool}
    {ds : List Char}
    (hSpells : Spells token negative ds)
    (hLong : maxDigits < ds.length) :
    Defective token (.tooLong ds.length)

------------------------------------------------------------
-- Reading Tokens
------------------------------------------------------------

theorem isDigits_iff
    (ds : List Char) :
    isDigits ds = true ↔ AllDigits ds := by
  simp [isDigits, AllDigits]

/- Digits have no sign in front of them. -/
theorem AllDigits.splitSign
    {ds : List Char}
    (hDigits : AllDigits ds) :
    splitSign ds = (false, ds) := by
  rcases hDigits with ⟨hNonempty, hAll⟩
  cases ds with
  | nil => exact absurd rfl hNonempty
  | cons c rest =>
      have hDigit := hAll c List.mem_cons_self
      unfold Numeral.splitSign
      split
      · simp_all
      · simp_all
      · rfl

/- The sign that is split off is the one of the spelling. -/
theorem spells_iff
    {token : List Char}
    {negative : Bool}
    {ds : List Char} :
    Spells token negative ds ↔
      splitSign token = (negative, ds) ∧ AllDigits ds := by
  constructor
  · intro hSpells
    cases hSpells with
    | unsigned hDigits => exact ⟨hDigits.splitSign, hDigits⟩
    | plus hDigits => exact ⟨rfl, hDigits⟩
    | minus hDigits => exact ⟨rfl, hDigits⟩
  · rintro ⟨hSplit, hDigits⟩
    unfold splitSign at hSplit
    split at hSplit
    · simp only [Prod.mk.injEq] at hSplit
      rcases hSplit with ⟨rfl, rfl⟩
      exact Spells.minus hDigits
    · simp only [Prod.mk.injEq] at hSplit
      rcases hSplit with ⟨rfl, rfl⟩
      exact Spells.plus hDigits
    · simp only [Prod.mk.injEq] at hSplit
      rcases hSplit with ⟨rfl, rfl⟩
      exact Spells.unsigned hDigits

theorem value_append_singleton
    (ds : List Char)
    (c : Char) :
    value (ds ++ [c]) = 10 * value ds + digitValue c := by
  simp [value, Nat.ofDigits_cons]
  omega

/- Reading digit by digit gives their positional value. -/
theorem ofDigitChars_eq_value
    (ds : List Char) :
    Nat.ofDigitChars 10 ds 0 = value ds := by
  induction ds using List.reverseRecOn with
  | nil => rfl
  | append_singleton ds c ih =>
      rw [Nat.ofDigitChars_append, ih, value_append_singleton]
      rfl

/- A token is spelled in one way only. -/
theorem Spells.unique
    {token : List Char}
    {negative negative' : Bool}
    {ds ds' : List Char}
    (hFirst : Spells token negative ds)
    (hSecond : Spells token negative' ds') :
    negative = negative' ∧ ds = ds' := by
  have hSame := (spells_iff.mp hFirst).1
  rw [(spells_iff.mp hSecond).1] at hSame
  exact ⟨(Prod.mk.inj hSame).1.symm, (Prod.mk.inj hSame).2.symm⟩

/- What is read from a token that has a spelling. -/
theorem Spells.readToken_eq
    {token : List Char}
    {negative : Bool}
    {ds : List Char}
    (hSpells : Spells token negative ds) :
    readToken token =
      if ds.length ≤ maxDigits then
        .ok (signed negative (value ds))
      else .error (.tooLong ds.length) := by
  rcases spells_iff.mp hSpells with ⟨hSplit, hDigits⟩
  rw [readToken, hSplit]
  dsimp only
  rw [if_pos ((isDigits_iff ds).mpr hDigits),
    ofDigitChars_eq_value]

/- Nothing is read from a token that has no spelling. -/
theorem readToken_of_not_spells
    {token : List Char}
    (hSpells : ∀ negative ds, ¬ Spells token negative ds) :
    readToken token = .error .notANumeral := by
  rcases hSplit : splitSign token with ⟨negative, body⟩
  have hDigits : ¬ AllDigits body := fun h =>
    hSpells negative body (spells_iff.mpr ⟨hSplit, h⟩)
  rw [← isDigits_iff] at hDigits
  rw [readToken, hSplit]
  dsimp only
  rw [if_neg hDigits]

/- A token is read exactly if it stands for an integer. -/
theorem readToken_eq_ok_iff
    {token : List Char}
    {n : Int} :
    readToken token = .ok n ↔ Denotes token n := by
  by_cases hSpells : ∃ negative ds, Spells token negative ds
  · rcases hSpells with ⟨negative, ds, hSpells⟩
    rw [hSpells.readToken_eq]
    constructor
    · intro hRead
      split at hRead
      · rename_i hLength
        exact
          ⟨negative, ds, hSpells, hLength,
            (Except.ok.inj hRead).symm⟩
      · simp at hRead
    · rintro ⟨negative', ds', hOther, hLength, hValue⟩
      rcases hSpells.unique hOther with ⟨rfl, rfl⟩
      rw [if_pos hLength, hValue, signed]
  · simp only [not_exists] at hSpells
    rw [readToken_of_not_spells hSpells]
    refine iff_of_false (by simp) ?_
    rintro ⟨negative, ds, hOther, -⟩
    exact hSpells negative ds hOther

/- A token is refused exactly for its defect. -/
theorem readToken_eq_error_iff
    {token : List Char}
    {m : Misread} :
    readToken token = .error m ↔ Defective token m := by
  by_cases hSpells : ∃ negative ds, Spells token negative ds
  · rcases hSpells with ⟨negative, ds, hSpells⟩
    rw [hSpells.readToken_eq]
    constructor
    · intro hRead
      split at hRead
      · simp at hRead
      · rename_i hLength
        rw [← Except.error.inj hRead]
        exact
          Defective.tooLong hSpells (Nat.lt_of_not_le hLength)
    · intro hDefective
      cases hDefective with
      | notANumeral hNone =>
          exact absurd hSpells (hNone negative ds)
      | tooLong hOther hLong =>
          rcases hSpells.unique hOther with ⟨rfl, rfl⟩
          rw [if_neg (Nat.not_le_of_lt hLong)]
  · simp only [not_exists] at hSpells
    rw [readToken_of_not_spells hSpells]
    constructor
    · intro hRead
      rw [← Except.error.inj hRead]
      exact Defective.notANumeral hSpells
    · intro hDefective
      cases hDefective with
      | notANumeral hNone => rfl
      | tooLong hOther hLong =>
          exact absurd hOther (hSpells _ _)

------------------------------------------------------------
-- Digits That Are Written
------------------------------------------------------------

theorem digitValue_lt_ten
    {c : Char}
    (hDigit : c.isDigit = true) :
    digitValue c < 10 := by
  have hBounds := Char.isDigit_iff_toNat.mp hDigit
  have hZero : '0'.toNat = 48 := rfl
  have hNine : '9'.toNat = 57 := rfl
  unfold digitValue
  omega

/- The number of a digit is written as that digit. -/
theorem digits_digitValue
    {c : Char}
    (hDigit : c.isDigit = true) :
    digits (digitValue c) = [c] := by
  have hSmall := digitValue_lt_ten hDigit
  have hBounds := Char.isDigit_iff_toNat.mp hDigit
  rw [digits, Nat.toDigits_of_lt_base hSmall]
  congr 1
  apply Char.toNat_inj.mp
  rw [Nat.toNat_digitChar_of_lt_ten hSmall, digitValue]
  have hZero : '0'.toNat = 48 := rfl
  omega

theorem value_lt
    {ds : List Char}
    (hDigits : ∀ c ∈ ds, c.isDigit = true)
    {k : Nat}
    (hLength : ds.length ≤ k) :
    value ds < Nat.pow 10 k := by
  have hBound :
      Nat.ofDigits 10 (ds.reverse.map digitValue) <
        10 ^ (ds.reverse.map digitValue).length := by
    apply Nat.ofDigits_lt_base_pow_length (by decide)
    intro v hMember
    rcases List.mem_map.mp hMember with ⟨c, hc, rfl⟩
    exact digitValue_lt_ten (hDigits c (List.mem_reverse.mp hc))
  rw [List.length_map, List.length_reverse] at hBound
  exact
    Nat.lt_of_lt_of_le hBound
      (Nat.pow_le_pow_right (by decide) hLength)

theorem value_digits
    (n : Nat) :
    value (digits n) = n := by
  rw [← ofDigitChars_eq_value, digits,
    Nat.ofDigitChars_ten_toDigits]

theorem allDigits_digits
    (n : Nat) :
    AllDigits (digits n) :=
  ⟨Nat.toDigits_ne_nil, fun _ hMember =>
    Nat.isDigit_of_mem_toDigits (by decide) (by decide)
      hMember⟩

theorem length_digits_le_iff
    {n k : Nat}
    (hPositive : 0 < k) :
    (digits n).length ≤ k ↔ n < Nat.pow 10 k :=
  Nat.length_toDigits_le_iff (by decide) hPositive

/- An integer can be written if it has few enough digits. -/
theorem writable_iff
    (n : Int) :
    Writable n ↔ (digits n.natAbs).length ≤ maxDigits := by
  unfold Writable ceiling
  exact (length_digits_le_iff (by decide)).symm

/- A zero in front does not count. -/
theorem value_zero_cons
    (ds : List Char) :
    value ('0' :: ds) = value ds := by
  rw [← ofDigitChars_eq_value, Nat.ofDigitChars_cons,
    ← ofDigitChars_eq_value]
  rfl

------------------------------------------------------------
-- Canonical Spellings
------------------------------------------------------------

/- Digits without a zero in front. -/
structure Leading (ds : List Char) : Prop where
  digits : AllDigits ds
  head : ds.head? ≠ some '0'

/- Zero, or a sign for negative integers and digits. -/
inductive Canonical : List Char → Prop where
| zero : Canonical ['0']
| positive
    {ds : List Char}
    (hLeading : Leading ds) :
    Canonical ds
| negative
    {ds : List Char}
    (hLeading : Leading ds) :
    Canonical ('-' :: ds)

theorem Canonical.spells
    {token : List Char}
    (hCanonical : Canonical token) :
    ∃ negative ds, Spells token negative ds := by
  cases hCanonical with
  | zero => exact ⟨_, _, Spells.unsigned ⟨by simp, by simp⟩⟩
  | positive hLeading =>
      exact ⟨_, _, Spells.unsigned hLeading.digits⟩
  | negative hLeading =>
      exact ⟨_, _, Spells.minus hLeading.digits⟩

/- The digits of a number other than zero are leading ones. -/
theorem leading_digits
    {n : Nat}
    (hPositive : n ≠ 0) :
    Leading (digits n) := by
  refine ⟨allDigits_digits n, ?_⟩
  intro hHead
  rcases List.head?_eq_some_iff.mp hHead with ⟨rest, hEq⟩
  -- Without its zero, the numeral would be too short.
  have hValue : value rest = n := by
    rw [← value_zero_cons, ← hEq, value_digits]
  have hRest : ∀ c ∈ rest, c.isDigit = true := by
    intro c hMember
    apply (allDigits_digits n).2
    rw [hEq]
    exact List.mem_cons_of_mem _ hMember
  have hLength : 0 < rest.length := by
    rw [List.length_pos_iff]
    rintro rfl
    exact hPositive hValue.symm
  have hShort :=
    (length_digits_le_iff hLength).mpr
      (value_lt hRest (Nat.le_refl _))
  rw [hValue, hEq, List.length_cons] at hShort
  omega

/- Written as they are, such digits do not stand for zero. -/
theorem Leading.value_ne_zero
    {ds : List Char}
    (hLeading : Leading ds)
    (hWritten : Numeral.digits (value ds) = ds) :
    value ds ≠ 0 := by
  intro hZero
  rw [hZero] at hWritten
  exact hLeading.head (by rw [← hWritten]; rfl)

/- Digits without a zero in front are written as they are. -/
theorem Leading.digits_value
    {ds : List Char}
    (hLeading : Leading ds) :
    Numeral.digits (value ds) = ds := by
  induction ds using List.reverseRecOn with
  | nil => exact absurd rfl hLeading.digits.1
  | append_singleton ds c ih =>
      have hDigit : c.isDigit = true :=
        hLeading.digits.2 c (by simp)
      rw [value_append_singleton]
      rcases List.eq_nil_or_concat ds with rfl | ⟨_, _, hEq⟩
      · simpa [value] using digits_digitValue hDigit
      · have hNonempty : ds ≠ [] := by
          rw [hEq]
          simp
        have hInit : Leading ds := by
          refine ⟨⟨hNonempty, fun d hd => ?_⟩, ?_⟩
          · exact
              hLeading.digits.2 d (List.mem_append_left _ hd)
          · have hHead := hLeading.head
            rwa [List.head?_append_of_ne_nil _ hNonempty]
              at hHead
        have hPositive : 0 < value ds :=
          Nat.pos_of_ne_zero (hInit.value_ne_zero (ih hInit))
        rw [Numeral.digits,
          ← Nat.toDigits_append_toDigits (by decide) hPositive
            (digitValue_lt_ten hDigit),
          ← Numeral.digits, ← Numeral.digits, ih hInit,
          digits_digitValue hDigit]

/- Each digit of a number is one of those it was read from. -/
theorem mem_of_mem_digits_value
    {ds : List Char}
    (hDigits : AllDigits ds)
    {c : Char}
    (hMember : c ∈ digits (value ds)) :
    c ∈ ds := by
  induction ds with
  | nil => exact absurd rfl hDigits.1
  | cons d rest ih =>
      by_cases hZero : d = '0'
      · subst hZero
        rw [value_zero_cons] at hMember
        cases rest with
        | nil => exact hMember
        | cons d' rest' =>
            have hRest : AllDigits (d' :: rest') :=
              ⟨by simp, fun x hx =>
                hDigits.2 x (List.mem_cons_of_mem _ hx)⟩
            exact
              List.mem_cons_of_mem _ (ih hRest hMember)
      · have hLeading : Leading (d :: rest) :=
          ⟨hDigits, by simpa using hZero⟩
        rwa [hLeading.digits_value] at hMember

------------------------------------------------------------
-- Written Numerals
------------------------------------------------------------

theorem chars_of_nonneg
    (n : Nat) :
    chars n = digits n := by
  simp [chars]

theorem chars_of_neg
    {n : Nat}
    (hPositive : n ≠ 0) :
    chars (-(n : Int)) = '-' :: digits n := by
  have hNegative : -(n : Int) < 0 := by omega
  rw [chars, if_pos hNegative, Int.natAbs_neg,
    Int.natAbs_natCast]

/- What is written is canonical. -/
theorem canonical_chars
    (n : Int) :
    Canonical (chars n) := by
  rcases Int.natAbs_eq n with hEq | hEq
  · rw [hEq, chars_of_nonneg]
    by_cases hZero : n.natAbs = 0
    · rw [hZero]
      exact Canonical.zero
    · exact Canonical.positive (leading_digits hZero)
  · by_cases hZero : n.natAbs = 0
    · rw [Int.natAbs_eq_zero.mp hZero]
      exact Canonical.zero
    · rw [hEq, chars_of_neg hZero]
      exact Canonical.negative (leading_digits hZero)

/- What is written stands for what was written. -/
theorem denotes_chars
    {n : Int}
    (hWritable : Writable n) :
    Denotes (chars n) n := by
  have hLength := (writable_iff n).mp hWritable
  have hDigits := allDigits_digits n.natAbs
  by_cases hNegative : n < 0
  · refine
      ⟨true, digits n.natAbs, ?_, hLength, ?_⟩
    · rw [chars, if_pos hNegative]
      exact Spells.minus hDigits
    · rw [value_digits, if_pos rfl]
      omega
  · refine
      ⟨false, digits n.natAbs, ?_, hLength, ?_⟩
    · rw [chars, if_neg hNegative]
      exact Spells.unsigned hDigits
    · rw [value_digits, if_neg Bool.false_ne_true]
      omega

/- What is written is read again. -/
theorem readToken_chars
    {n : Int}
    (hWritable : Writable n) :
    readToken (chars n) = .ok n :=
  readToken_eq_ok_iff.mpr (denotes_chars hWritable)

/- What a token stands for can be written. -/
theorem Denotes.writable
    {token : List Char}
    {n : Int}
    (hDenotes : Denotes token n) :
    Writable n := by
  rcases hDenotes with ⟨negative, ds, hSpells, hLength, hEq⟩
  have hAbs : n.natAbs = value ds := by
    rw [hEq]
    split <;> omega
  unfold Writable ceiling
  rw [hAbs]
  exact value_lt (spells_iff.mp hSpells).2.2 hLength

/- A canonical token is what is written for its integer. -/
theorem chars_of_canonical
    {token : List Char}
    {n : Int}
    (hCanonical : Canonical token)
    (hDenotes : Denotes token n) :
    chars n = token := by
  rcases hDenotes with ⟨negative, ds, hSpells, -, rfl⟩
  cases hCanonical with
  | zero =>
      have hZero : Spells ['0'] false ['0'] :=
        Spells.unsigned ⟨by simp, by simp⟩
      rcases hSpells.unique hZero with ⟨rfl, rfl⟩
      rfl
  | positive hLeading =>
      rcases hSpells.unique (Spells.unsigned hLeading.digits)
        with ⟨rfl, rfl⟩
      rw [if_neg Bool.false_ne_true, chars_of_nonneg,
        hLeading.digits_value]
  | negative hLeading =>
      rcases hSpells.unique (Spells.minus hLeading.digits)
        with ⟨rfl, rfl⟩
      have hWritten := hLeading.digits_value
      rw [if_pos rfl,
        chars_of_neg (hLeading.value_ne_zero hWritten),
        hWritten]

/-
  Each character that is written for an integer is one of
  those it was read from.
-/
theorem mem_of_mem_chars
    {token : List Char}
    {n : Int}
    (hDenotes : Denotes token n)
    {c : Char}
    (hMember : c ∈ chars n) :
    c ∈ token := by
  rcases hDenotes with ⟨negative, ds, hSpells, -, rfl⟩
  have hDigits := (spells_iff.mp hSpells).2
  cases hSpells with
  | unsigned _ =>
      rw [if_neg Bool.false_ne_true, chars_of_nonneg]
        at hMember
      exact mem_of_mem_digits_value hDigits hMember
  | plus _ =>
      rw [if_neg Bool.false_ne_true, chars_of_nonneg]
        at hMember
      exact
        List.mem_cons_of_mem _
          (mem_of_mem_digits_value hDigits hMember)
  | minus _ =>
      by_cases hZero : value ds = 0
      · rw [if_pos rfl, hZero] at hMember
        refine
          List.mem_cons_of_mem _
            (mem_of_mem_digits_value hDigits ?_)
        rw [hZero]
        exact hMember
      · rw [if_pos rfl, chars_of_neg hZero,
          List.mem_cons] at hMember
        rcases hMember with rfl | hMember
        · exact List.mem_cons_self
        · exact
            List.mem_cons_of_mem _
              (mem_of_mem_digits_value hDigits hMember)

/- A numeral shows ASCII digits and minus signs alone. -/
theorem digit_or_minus_of_mem_chars
    {n : Int}
    {c : Char}
    (hMember : c ∈ chars n) :
    c.isDigit = true ∨ c = '-' := by
  have hDigits := (allDigits_digits n.natAbs).2
  unfold chars at hMember
  split at hMember
  · rcases List.mem_cons.mp hMember with rfl | hMember
    · exact Or.inr rfl
    · exact Or.inl (hDigits c hMember)
  · exact Or.inl (hDigits c hMember)

end Numeral

end IntcodeMachine
