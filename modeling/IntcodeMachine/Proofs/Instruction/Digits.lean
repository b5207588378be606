import IntcodeMachine.Proofs.Execution.Fetching
import Mathlib.Data.List.TakeDrop
import Mathlib.Data.Nat.Digits.Lemmas

/-
  This file relates the words of instructions to their
  decimal digits.

  A word is encoded by adding the digits of its modes to its
  opcode, each at its own place, from the third place on.
  What is encoded is decoded again, and what is decoded
  encodes to the digits that were looked at. Digits above
  those of the parameters do not matter. If a digit stands
  for no mode, the lowest such digit is blamed.

  Main declarations:
    * `decimalDigit`
    * `Instruction.encode`
    * `modesFrom_eq_ok_iff`
    * `modesFrom_of_bad`
    * `Instruction.decimalDigit_encode`
    * `Instruction.decode_eq_ok_iff`
    * `Instruction.decode_by_digits`
-/

------------------------------------------------------------
-- Digits Of Words
------------------------------------------------------------

namespace IntcodeMachine

/-
  The decimal digit of an integer at a place, from the
  lowest one on.
-/
def decimalDigit
    (n : Int)
    (place : Nat) : Nat :=
  (Nat.digits 10 n.natAbs).getD place 0

theorem decimalDigit_eq
    (n : Int)
    (place : Nat) :
    decimalDigit n place = n.natAbs / 10 ^ place % 10 :=
  Nat.getD_digits n.natAbs place (by decide)

/- The mode digits are the decimal digits above two others. -/
theorem modeDigit_eq_decimalDigit
    (word : Int)
    (position : Nat) :
    modeDigit word position =
      decimalDigit word (position + 2) := by
  have hPlace : ((position : Int) + 2).toNat = position + 2 :=
    by omega
  rw [modeDigit, hPlace, decimalDigit_eq]
  rfl

namespace Mode

theorem ofDigit?_eq_some_iff
    {d : Nat}
    {m : Mode} :
    ofDigit? d = some m ↔ m.digit = d := by
  rcases d with _ | _ | d
  · cases m <;> simp [ofDigit?, digit]
  · cases m <;> simp [ofDigit?, digit]
  · cases m <;> simp [ofDigit?, digit]

/- No other digit than 0 and 1 stands for a mode. -/
theorem ofDigit?_eq_none_iff
    {d : Nat} :
    ofDigit? d = none ↔ 1 < d := by
  rcases d with _ | _ | d
  · simp [ofDigit?]
  · simp [ofDigit?]
  · simp [ofDigit?]

/- Each of the two stands for one. -/
theorem exists_digit_eq
    {d : Nat}
    (hDigit : d ≤ 1) :
    ∃ m : Mode, m.digit = d := by
  rcases d with _ | _ | d
  · exact ⟨.position, rfl⟩
  · exact ⟨.immediate, rfl⟩
  · omega

/- So do digits that are no greater, all together. -/
theorem exists_map_digit_eq
    {ds : List Nat}
    (hDigits : ∀ d ∈ ds, d ≤ 1) :
    ∃ ms : List Mode, ms.map digit = ds := by
  induction ds with
  | nil => exact ⟨[], rfl⟩
  | cons d rest ih =>
      rcases List.forall_mem_cons.mp hDigits with
        ⟨hFirst, hRest⟩
      rcases exists_digit_eq hFirst with ⟨m, rfl⟩
      rcases ih hRest with ⟨ms, rfl⟩
      exact ⟨m :: ms, rfl⟩

theorem digit_le_one
    (m : Mode) :
    m.digit ≤ 1 := by
  cases m <;> decide

end Mode

------------------------------------------------------------
-- Modes Of Words
------------------------------------------------------------

section

variable {word address : Int} {position : Nat}

/- A mode is found exactly if the digit stands for it. -/
theorem parameterMode_eq_ok_iff
    {place : Option Int}
    {m : Mode} :
    parameterMode word position place = .ok m ↔
      m.digit = decimalDigit word (position + 2) := by
  rw [parameterMode, modeDigit_eq_decimalDigit,
    ← Mode.ofDigit?_eq_some_iff]
  cases Mode.ofDigit? (decimalDigit word (position + 2)) with
  | none => simp
  | some mode => simp

/- A digit without a mode is blamed. -/
theorem parameterMode_of_bad
    (place : Option Int)
    (hBad : 1 < decimalDigit word (position + 2)) :
    parameterMode word position place =
      .error
        (Fault.unknownMode
          (decimalDigit word (position + 2)) position
          place).raised := by
  rw [parameterMode, modeDigit_eq_decimalDigit,
    Mode.ofDigit?_eq_none_iff.mpr hBad]

/- The modes that are found are those of the digits. -/
theorem digits_of_modesFrom
    {count : Nat}
    {modes : List Mode}
    (hModes :
      modesFrom word address position count = .ok modes) :
    modes.map Mode.digit =
      (List.range' position count).map fun p =>
        decimalDigit word (p + 2) := by
  induction count generalizing position modes with
  | zero =>
      rw [modesFrom, Except.ok.injEq] at hModes
      rw [← hModes]
      rfl
  | succ count ih =>
      rw [modesFrom] at hModes
      rcases hFirst :
          parameterMode word position (some address) with
        e | mode
      · simp [hFirst] at hModes
      · rcases hRest :
            modesFrom word address (position + 1) count with
          e | rest
        · simp [hFirst, hRest] at hModes
        · simp only [hFirst, hRest, Except.ok.injEq]
            at hModes
          rw [← hModes, List.range'_succ, List.map_cons,
            List.map_cons, ih hRest,
            parameterMode_eq_ok_iff.mp hFirst]

/- Modes are found if they are those of the digits. -/
theorem modesFrom_of_digits
    {count : Nat}
    {modes : List Mode}
    (hDigits :
      modes.map Mode.digit =
        (List.range' position count).map fun p =>
          decimalDigit word (p + 2)) :
    modesFrom word address position count = .ok modes := by
  induction count generalizing position modes with
  | zero =>
      rw [List.map_eq_nil_iff.mp hDigits]
      rfl
  | succ count ih =>
      rw [List.range'_succ, List.map_cons] at hDigits
      cases modes with
      | nil => simp at hDigits
      | cons m rest =>
          rcases List.cons.inj hDigits with ⟨hMode, hOthers⟩
          rw [modesFrom, parameterMode_eq_ok_iff.mpr hMode,
            ih hOthers]

/- Otherwise the first digit without a mode is blamed. -/
theorem modesFrom_of_bad
    {count place : Nat}
    (hFrom : position ≤ place)
    (hBefore :
      ∀ p < place,
        position ≤ p → decimalDigit word (p + 2) ≤ 1)
    (hBad : 1 < decimalDigit word (place + 2))
    (hCount : place < position + count) :
    modesFrom word address position count =
      .error
        (Fault.unknownMode (decimalDigit word (place + 2))
          place (some address)).raised := by
  induction count generalizing position with
  | zero => omega
  | succ count ih =>
      rw [modesFrom]
      by_cases hHere : position = place
      · rw [hHere, parameterMode_of_bad _ hBad]
      · have hLater : position + 1 ≤ place := by omega
        rcases Mode.exists_digit_eq
            (hBefore position hLater (Nat.le_refl position))
          with ⟨m, hMode⟩
        rw [parameterMode_eq_ok_iff.mpr hMode,
          ih hLater
            (fun p hp hNext => hBefore p hp (by omega))
            (by omega)]

end

------------------------------------------------------------
-- Encoding
------------------------------------------------------------

namespace Instruction

/- The digits of modes, each at its place, from one on. -/
def modesSum
    (place : Nat)
    (ms : List Mode) : Nat :=
  (ms.mapIdx fun i m => m.digit * 10 ^ (i + place)).sum

/- The word of an opcode and modes. -/
def encode
    (k : Opcode)
    (ms : List Mode) : Nat :=
  k + modesSum 2 ms

theorem modesSum_cons
    (place : Nat)
    (m : Mode)
    (ms : List Mode) :
    modesSum place (m :: ms) =
      m.digit * 10 ^ place + modesSum (place + 1) ms := by
  simp [modesSum, List.mapIdx_cons, Nat.add_comm place,
    Nat.add_assoc]

/- One place up, the digits weigh ten times as much. -/
theorem modesSum_succ
    (place : Nat)
    (ms : List Mode) :
    modesSum (place + 1) ms = 10 * modesSum place ms := by
  induction ms generalizing place with
  | nil => rfl
  | cons m rest ih =>
      rw [modesSum_cons, modesSum_cons, ih (place + 1),
        Nat.pow_succ]
      ring

/- From the lowest place on, they are the digits of the sum. -/
theorem digit_modesSum
    (ms : List Mode)
    (p : Nat) :
    modesSum 0 ms / 10 ^ p % 10 =
      (ms.getD p .position).digit := by
  induction ms generalizing p with
  | nil => simp [modesSum, Mode.digit]
  | cons m rest ih =>
      have hDigit := m.digit_le_one
      rw [modesSum_cons, modesSum_succ, Nat.pow_zero,
        Nat.mul_one]
      cases p with
      | zero =>
          rw [Nat.pow_zero, Nat.div_one, List.getD_cons_zero]
          omega
      | succ p =>
          have hDrop :
              (m.digit + 10 * modesSum 0 rest) / 10 =
                modesSum 0 rest := by
            omega
          rw [Nat.pow_succ', ← Nat.div_div_eq_div_mul, hDrop,
            List.getD_cons_succ, ih]

/- A mode's digit is found where it was put. -/
theorem decimalDigit_encode
    (k : Opcode)
    (ms : List Mode)
    (p : Nat) :
    decimalDigit (encode k ms) (p + 2) =
      (ms.getD p .position).digit := by
  have hOpcode := k.isLt
  have hDrop :
      (k.val + 10 * (10 * modesSum 0 ms)) / 100 =
        modesSum 0 ms := by
    omega
  rw [decimalDigit_eq, Int.natAbs_natCast, encode,
    modesSum_succ, modesSum_succ, Nat.add_comm p, Nat.pow_add,
    ← Nat.div_div_eq_div_mul, hDrop, digit_modesSum]

theorem opcodeOf_encode
    (k : Opcode)
    (ms : List Mode)
    (address : Option Int) :
    opcodeOf (encode k ms) address = .ok k := by
  have hOpcode := k.isLt
  rw [opcodeOf_eq_ok_iff, encode, modesSum_succ,
    modesSum_succ]
  omega

/- A padded list has the default where the list has nothing. -/
theorem takeD_eq_map
    (ms : List Mode)
    (count : Nat)
    (m : Mode) :
    ms.takeD count m =
      (List.range count).map fun p => ms.getD p m := by
  induction count generalizing ms with
  | zero => rfl
  | succ count ih =>
      rw [List.range_succ_eq_map, List.map_cons, List.map_map,
        List.takeD, ih]
      cases ms <;> rfl

/- What is encoded is decoded again. -/
theorem decode_encode
    (k : Opcode)
    (ms : List Mode)
    (address : Int)
    (arity : Nat) :
    decode (encode k ms) address arity =
      .ok
        ⟨address, encode k ms, k,
          ms.takeD arity .position⟩ := by
  have hDigits :
      (ms.takeD arity .position).map Mode.digit =
        (List.range' 0 arity).map fun p =>
          decimalDigit (encode k ms) (p + 2) := by
    simp only [decimalDigit_encode]
    rw [takeD_eq_map, List.map_map, List.range_eq_range']
    rfl
  rw [decode, opcodeOf_encode]
  simp only [modesFrom_of_digits hDigits]

------------------------------------------------------------
-- Decoding
------------------------------------------------------------

/- Digits that were looked at add up to a remainder. -/
theorem mod_add_modesSum
    {word p count : Nat}
    {modes : List Mode}
    (hDigits :
      modes.map Mode.digit =
        (List.range' p count).map fun q =>
          decimalDigit word (q + 2)) :
    word % 10 ^ (p + 2) + modesSum (p + 2) modes =
      word % 10 ^ (p + count + 2) := by
  induction count generalizing p modes with
  | zero =>
      rw [List.map_eq_nil_iff.mp hDigits]
      rfl
  | succ count ih =>
      rw [List.range'_succ, List.map_cons] at hDigits
      cases modes with
      | nil => simp at hDigits
      | cons m rest =>
          rcases List.cons.inj hDigits with ⟨hMode, hOthers⟩
          have hRest := ih hOthers
          have hSplit :
              word % 10 ^ (p + 2 + 1) =
                word % 10 ^ (p + 2) +
                  10 ^ (p + 2) * (word / 10 ^ (p + 2) % 10) :=
            Nat.mod_pow_succ
          rw [decimalDigit_eq, Int.natAbs_natCast] at hMode
          rw [modesSum_cons, hMode, Nat.mul_comm,
            ← Nat.add_assoc, ← hSplit,
            show p + 2 + 1 = p + 1 + 2 by omega, hRest,
            show p + 1 + count + 2 = p + (count + 1) + 2 by
              omega]

section

variable {word address : Int} {arity : Nat} {i : Instruction}

/- A word is decoded to its opcode and its modes. -/
theorem decode_eq_ok_iff :
    decode word address arity = .ok i ↔
      i.address = address ∧ i.word = word ∧
        opcodeOf word (some address) = .ok i.opcode ∧
        modesFrom word address 0 arity = .ok i.modes := by
  unfold decode
  rcases opcodeOf word (some address) with e | k
  · simp
  · rcases modesFrom word address 0 arity with e | modes
    · simp
    · rcases i with ⟨a, w, k₁, modes₁⟩
      simp only [Except.ok.injEq, mk.injEq, eq_comm]

/- What is decoded encodes to the digits that were needed. -/
theorem encode_of_decode
    (hDecode : decode word address arity = .ok i) :
    i.modes.length = arity ∧
      (encode i.opcode i.modes : Int) =
        word % 10 ^ (arity + 2) := by
  rcases decode_eq_ok_iff.mp hDecode with
    ⟨-, -, hOpcode, hModes⟩
  refine ⟨length_modesFrom hModes, ?_⟩
  rcases opcodeOf_eq_ok_iff.mp hOpcode with ⟨hSign, hLow⟩
  lift word to Nat using hSign
  have hSum := mod_add_modesSum (digits_of_modesFrom hModes)
  have hNumber : word % 100 = i.opcode := by omega
  rw [Nat.zero_add, Nat.zero_add,
    show 10 ^ 2 = 100 from rfl, hNumber] at hSum
  rw [encode, hSum]
  push_cast
  rfl

/- A word that is not negative decodes by its mode digits. -/
theorem exists_decode_iff
    (hSign : 0 ≤ word) :
    (∃ i, decode word address arity = .ok i) ↔
      ∀ p < arity, decimalDigit word (p + 2) ≤ 1 := by
  have hDigits :
      (∀ d ∈
          (List.range' 0 arity).map fun p =>
            decimalDigit word (p + 2),
        d ≤ 1) ↔
        ∀ p < arity, decimalDigit word (p + 2) ≤ 1 := by
    simp
  rw [← hDigits]
  constructor
  · rintro ⟨i, hDecode⟩ d hMember
    rw [← digits_of_modesFrom
      (decode_eq_ok_iff.mp hDecode).2.2.2] at hMember
    rcases List.mem_map.mp hMember with ⟨m, -, rfl⟩
    exact m.digit_le_one
  · intro hSmall
    rcases Mode.exists_map_digit_eq hSmall with ⟨ms, hModes⟩
    have hOpcode :
        opcodeOf word (some address) =
          .ok ⟨(word % 100).toNat, by omega⟩ :=
      opcodeOf_eq_ok_iff.mpr
        ⟨hSign, (Int.toNat_of_nonneg (by omega)).symm⟩
    exact
      ⟨⟨address, word, _, ms⟩,
        decode_eq_ok_iff.mpr
          ⟨rfl, rfl, hOpcode, modesFrom_of_digits hModes⟩⟩

/- Otherwise the lowest digit without a mode is blamed. -/
theorem decode_of_bad
    {p : Nat}
    (hSign : 0 ≤ word)
    (hBefore : ∀ q < p, decimalDigit word (q + 2) ≤ 1)
    (hBad : 1 < decimalDigit word (p + 2))
    (hArity : p < arity) :
    decode word address arity =
      .error
        (Fault.unknownMode (decimalDigit word (p + 2)) p
          (some address)).raised := by
  rw [decode, opcodeOf, if_neg (Int.not_lt.mpr hSign)]
  dsimp only
  rw [modesFrom_of_bad p.zero_le (fun q hq _ => hBefore q hq)
    hBad (by omega)]

/- A word below zero has no opcode. -/
theorem decode_of_negative
    (hSign : word < 0) :
    decode word address arity =
      .error
        (Fault.unknownOpcode word (some address)).raised := by
  rw [decode, opcodeOf, if_pos hSign]

end

------------------------------------------------------------
-- Words And Instructions
------------------------------------------------------------

/-
  Decoding gives back what was encoded: the opcode, and as
  many modes as there are parameters, position modes where
  none were encoded. A word below zero is blamed itself. Any
  other word decodes exactly if the digits of its parameters
  are 0 or 1, and then encodes to its own digits as far as
  they were looked at. If it does not decode, the lowest
  digit without a mode is blamed, with its place and the
  address. A fault shows its integers, so they have to have
  few enough digits, as the place of a digit has in the word
  of any computer.
-/
theorem decode_by_digits
    (address : Int)
    (arity : Nat) :
    (∀ (k : Opcode) (ms : List Mode),
      decode (encode k ms) address arity =
        .ok
          ⟨address, encode k ms, k,
            ms.takeD arity .position⟩) ∧
    (∀ word : Int,
      word < 0 →
      Numeral.Writable word →
      Numeral.Writable address →
        decode word address arity =
          .error
            (.fault (.unknownOpcode word (some address)))) ∧
    (∀ word : Int,
      0 ≤ word →
      ((∃ i, decode word address arity = .ok i) ↔
        ∀ p < arity, decimalDigit word (p + 2) ≤ 1) ∧
      (∀ i,
        decode word address arity = .ok i →
          i.address = address ∧ i.word = word ∧
            i.modes.length = arity ∧
            (encode i.opcode i.modes : Int) =
              word % 10 ^ (arity + 2)) ∧
      ((∀ i, decode word address arity ≠ .ok i) →
        ∃ p < arity,
          1 < decimalDigit word (p + 2) ∧
          (∀ q < p, decimalDigit word (q + 2) ≤ 1) ∧
          (Numeral.Writable address →
            Numeral.Writable p →
              decode word address arity =
                .error
                  (.fault
                    (.unknownMode
                      (decimalDigit word (p + 2)) p
                      (some address)))))) := by
  refine ⟨?_, ?_, ?_⟩
  · exact fun k ms => decode_encode k ms address arity
  · intro word hSign hWord hAddress
    have hWritable :
        (Fault.unknownOpcode word (some address)).Writable :=
      List.forall_mem_cons.mpr
        ⟨hWord, List.forall_mem_singleton.mpr hAddress⟩
    rw [decode_of_negative hSign, Fault.raised,
      if_pos hWritable]
  · intro word hSign
    refine ⟨exists_decode_iff hSign, ?_, ?_⟩
    · intro i hDecode
      rcases decode_eq_ok_iff.mp hDecode with
        ⟨hAddress, hWord, -, -⟩
      exact ⟨hAddress, hWord, encode_of_decode hDecode⟩
    · intro hFails
      have hBad :
          ∃ p, p < arity ∧ 1 < decimalDigit word (p + 2) := by
        refine Classical.byContradiction fun hNone => ?_
        have hSmall :
            ∀ p < arity, decimalDigit word (p + 2) ≤ 1 :=
          fun p hp => Nat.not_lt.mp fun h => hNone ⟨p, hp, h⟩
        rcases (exists_decode_iff hSign).mpr hSmall with
          ⟨i, hDecode⟩
        exact hFails i hDecode
      -- The lowest of the bad places is the one to blame.
      have hLeast (q : Nat) (hq : q < Nat.find hBad) :
          decimalDigit word (q + 2) ≤ 1 := by
        have hArity := (Nat.find_spec hBad).1
        exact
          Nat.not_lt.mp fun h =>
            Nat.find_min hBad hq ⟨hq.trans hArity, h⟩
      refine
        ⟨Nat.find hBad, (Nat.find_spec hBad).1,
          (Nat.find_spec hBad).2, hLeast, ?_⟩
      intro hAddress hPlace
      have hWritable :
          (Fault.unknownMode
            (decimalDigit word (Nat.find hBad + 2))
            (Nat.find hBad) (some address)).Writable :=
        List.forall_mem_cons.mpr
          ⟨hPlace, List.forall_mem_singleton.mpr hAddress⟩
      rw [decode_of_bad hSign hLeast (Nat.find_spec hBad).2
        (Nat.find_spec hBad).1, Fault.raised, if_pos hWritable]

/-
  A multiplication with its second parameter immediate, one
  with a digit that is not looked at, and what is blamed for
  a minus and for a digit that is too great.
-/
theorem multiplication_by_digits :
    decode 1002 7 3 =
      .ok
        ⟨7, 1002, 2, [.position, .immediate, .position]⟩ ∧
    decode 11002 7 2 =
      .ok ⟨7, 11002, 2, [.position, .immediate]⟩ ∧
    decode (-1002) 7 3 =
      .error (.fault (.unknownOpcode (-1002) (some 7))) ∧
    decode 31002 7 3 =
      .error (.fault (.unknownMode 3 2 (some 7))) := by
  rcases decode_by_digits 7 3 with
    ⟨hEncoded, hNegative, hWord⟩
  have hAddress : Numeral.Writable 7 :=
    Numeral.lt_ceiling_of_lt_ten (by decide)
  refine ⟨?_, ?_, ?_, ?_⟩
  · exact hEncoded 2 [.position, .immediate]
  · exact
      (decode_by_digits 7 2).1 2
        [.position, .immediate, .immediate]
  · exact
      hNegative (-1002) (by decide)
        (Numeral.lt_ceiling_of_lt_pow (k := 4) (by decide)
          (by decide))
        hAddress
  · have hPlaces :
        decimalDigit 31002 2 = 0 ∧
          decimalDigit 31002 3 = 1 ∧
            decimalDigit 31002 4 = 3 := by
      simp [decimalDigit_eq]
    rcases hWord 31002 (by decide) with ⟨hDecodes, -, hBlame⟩
    have hFails (i : Instruction) :
        decode 31002 7 3 ≠ .ok i := by
      intro hDecode
      have hSmall := hDecodes.mp ⟨i, hDecode⟩ 2 (by decide)
      rw [hPlaces.2.2] at hSmall
      simp at hSmall
    rcases hBlame hFails with ⟨p, hArity, hBad, -, hRaised⟩
    have hPlace : p = 2 := by
      rcases p with _ | _ | _ | p
      · rw [hPlaces.1] at hBad
        simp at hBad
      · rw [hPlaces.2.1] at hBad
        simp at hBad
      · rfl
      · omega
    subst hPlace
    rw [hPlaces.2.2] at hRaised
    exact
      hRaised hAddress
        (Numeral.lt_ceiling_of_lt_ten (by decide))

end Instruction

end IntcodeMachine
