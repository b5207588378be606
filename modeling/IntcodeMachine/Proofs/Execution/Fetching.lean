import IntcodeMachine.Proofs.Execution.Attempt

/-
  This file says what a machine has read off its tape when
  it has fetched an instruction and its parameters.

  The instruction lies at the counter, and the operation is
  the entry of its opcode. The parameters are read only if
  the whole instruction lies on the tape; what is raised
  otherwise is the first address behind the tape.

  Main declarations:
    * `Machine.Fetched`
    * `Machine.fetch_eq_ok_iff`
    * `Machine.Fetched.operands_ok`
    * `Machine.Fetched.operands_truncated`
-/

------------------------------------------------------------
-- Raised Faults
------------------------------------------------------------

namespace IntcodeMachine

/- An integer with few enough digits can be written. -/
theorem Numeral.lt_ceiling_of_lt_pow
    {n k : Nat}
    (hDigits : n < Nat.pow 10 k)
    (hFew : k ≤ maxDigits) :
    n < ceiling := by
  have hPower (d : Nat) (hLe : k ≤ d) :
      n < Nat.pow 10 d :=
    Nat.lt_of_lt_of_le hDigits
      (Nat.pow_le_pow_right (by decide) hLe)
  unfold ceiling
  exact hPower maxDigits hFew

/- An integer of one digit can be written. -/
theorem Numeral.lt_ceiling_of_lt_ten
    {n : Nat}
    (hDigit : n < 10) :
    n < ceiling :=
  lt_ceiling_of_lt_pow (k := 1) hDigit (by decide)

/- A list of integers of four digits can be written. -/
theorem Numeral.allWritable_of_lt
    {ns : List Int}
    (hDigits : ∀ n ∈ ns, n.natAbs < 10000) :
    AllWritable ns := by
  intro n hMember
  exact
    lt_ceiling_of_lt_pow (k := 4) (hDigits n hMember)
      (by decide)

/- What is raised for a fault depends on its integers. -/
theorem Fault.eq_raised_iff
    (f : Fault)
    (e : Failure) :
    e = f.raised ↔
      (f.Writable ∧ e = .fault f) ∨
        (¬ f.Writable ∧ e = .unwritable) := by
  unfold Fault.raised
  split
  · rename_i hWritable
    simp [hWritable]
  · rename_i hWritable
    simp [hWritable]

/- An address outside the tape is shown if it can be. -/
theorem Tape.outOfBounds_eq
    (t : Tape)
    (address : Int) :
    t.outOfBounds address =
      if Numeral.Writable address then
        .fault (.outOfBounds address t.size)
      else .unwritable := by
  have hShown :
      (Fault.outOfBounds address t.size).Writable ↔
        Numeral.Writable address :=
    List.forall_mem_singleton
  rw [outOfBounds, Fault.raised]
  simp only [hShown]

/- A fault whose address can be written is raised. -/
theorem Tape.outOfBounds_of_writable
    {t : Tape}
    {address : Int}
    (hWritable : Numeral.Writable address) :
    t.outOfBounds address =
      .fault (.outOfBounds address t.size) := by
  rw [outOfBounds_eq, if_pos hWritable]

------------------------------------------------------------
-- Reading In A Row
------------------------------------------------------------

namespace Tape

variable {t : Tape} {address word : Int}

theorem read_eq_ok_iff :
    t.read address = .ok word ↔
      t.Contains address ∧
        t.cells.getD address.toNat 0 = word := by
  by_cases hInside : t.Contains address
  · simp [read, hInside]
  · simp [read, hInside]

/- An integer that is read is in a cell of the tape. -/
theorem mem_of_read
    (hRead : t.read address = .ok word) :
    word ∈ t.cells := by
  rcases read_eq_ok_iff.mp hRead with ⟨⟨hLow, hHigh⟩, hWord⟩
  have hIndex : address.toNat < t.cells.length := by
    have hSize : t.cells.length = t.size := rfl
    omega
  have hCell := List.getElem_mem hIndex
  rw [List.getElem_eq_getD 0, hWord] at hCell
  exact hCell

/- Cells of the tape are all read. -/
theorem readAll_of_contains
    {addresses : List Int}
    (hInside : ∀ a ∈ addresses, t.Contains a) :
    t.readAll addresses =
      .ok (addresses.map fun a => t.cells.getD a.toNat 0) := by
  induction addresses with
  | nil => rfl
  | cons a rest ih =>
      rcases List.forall_mem_cons.mp hInside with
        ⟨hFirst, hRest⟩
      rw [readAll, read, if_pos hFirst, ih hRest]
      rfl

/- If several cells are read, the tape has all of them. -/
theorem contains_of_readAll
    {addresses words : List Int}
    (hRead : t.readAll addresses = .ok words) :
    words.length = addresses.length ∧
      ∀ a ∈ addresses, t.Contains a := by
  induction addresses generalizing words with
  | nil =>
      rw [readAll, Except.ok.injEq] at hRead
      subst hRead
      exact ⟨rfl, by simp⟩
  | cons a rest ih =>
      rw [readAll] at hRead
      rcases hFirst : t.read a with e | n
      · simp [hFirst] at hRead
      · rcases hRest : t.readAll rest with e | ns
        · simp [hFirst, hRest] at hRead
        · simp only [hFirst, hRest, Except.ok.injEq] at hRead
          subst hRead
          rcases ih hRest with ⟨hLength, hInside⟩
          have hHead := (read_eq_ok_iff.mp hFirst).1
          exact
            ⟨by rw [List.length_cons, List.length_cons, hLength],
              List.forall_mem_cons.mpr ⟨hHead, hInside⟩⟩

/- The first address that the tape does not have is raised. -/
theorem readAll_of_not_contains
    {before after : List Int}
    (hBefore : ∀ a ∈ before, t.Contains a)
    (hOutside : ¬ t.Contains address) :
    t.readAll (before ++ address :: after) =
      .error (t.outOfBounds address) := by
  induction before with
  | nil => rw [List.nil_append, readAll, read, if_neg hOutside]
  | cons a rest ih =>
      rcases List.forall_mem_cons.mp hBefore with
        ⟨hHead, hRest⟩
      rw [List.cons_append, readAll, read, if_pos hHead,
        ih hRest]

/- A row of addresses that runs off the tape raises its size. -/
theorem readAll_of_truncated
    {start : Int}
    {count : Nat}
    (hStart : 0 ≤ start)
    (hLow : start ≤ t.size)
    (hHigh : t.size < start + count) :
    t.readAll
        ((List.range count).map fun (k : Nat) => start + k) =
      .error (t.outOfBounds t.size) := by
  have hCount :
      count =
        (t.size - start).toNat +
          (count - (t.size - start).toNat - 1 + 1) := by
    omega
  have hSize : start + ((t.size - start).toNat : Int) = t.size := by
    omega
  rw [hCount, List.range_add, List.map_append,
    List.range_succ_eq_map, List.map_cons, List.map_cons,
    Nat.add_zero, hSize]
  refine readAll_of_not_contains ?_ ?_
  · intro a hMember
    rcases List.mem_map.mp hMember with ⟨k, hRange, rfl⟩
    have hBound := List.mem_range.mp hRange
    exact ⟨by omega, by omega⟩
  · exact fun hInside => Int.lt_irrefl _ hInside.2

end Tape

------------------------------------------------------------
-- Fetched Instructions
------------------------------------------------------------

/- The opcode of a word is its last two digits. -/
theorem opcodeOf_eq_ok_iff
    {word : Int}
    {address : Option Int}
    {k : Opcode} :
    opcodeOf word address = .ok k ↔
      0 ≤ word ∧ word % 100 = k.val := by
  unfold opcodeOf
  by_cases hSign : word < 0
  · rw [if_pos hSign]
    simp only [reduceCtorEq, false_iff]
    omega
  · rw [if_neg hSign, Except.ok.injEq, Fin.ext_iff,
      show (Fin.ofNat 100 word.toNat).val = word.toNat % 100
        from rfl]
    omega

/- As many modes are found as were asked for. -/
theorem length_modesFrom
    {word address : Int}
    {position count : Nat}
    {modes : List Mode}
    (hModes :
      modesFrom word address position count = .ok modes) :
    modes.length = count := by
  induction count generalizing position modes with
  | zero =>
      rw [modesFrom, Except.ok.injEq] at hModes
      rw [← hModes]
      rfl
  | succ count ih =>
      rw [modesFrom] at hModes
      rcases hFirst :
          parameterMode word position (some address) with
        e | mode
      · simp [hFirst] at hModes
      · rcases hRest :
            modesFrom word address (position + 1) count with
          e | rest
        · simp [hFirst, hRest] at hModes
        · simp only [hFirst, hRest, Except.ok.injEq]
            at hModes
          rw [← hModes, List.length_cons, ih hRest]

/- As many parameters are bound as there are words and modes. -/
theorem Instruction.length_bindFrom
    (position : Nat)
    {raws : List Int}
    {modes : List Mode}
    (hLength : raws.length = modes.length) :
    (bindFrom position raws modes).length = modes.length := by
  induction modes generalizing position raws with
  | nil =>
      rw [List.length_eq_zero_iff.mp hLength]
      rfl
  | cons mode rest ih =>
      cases raws with
      | nil => simp at hLength
      | cons raw raws =>
          rw [bindFrom, List.length_cons, List.length_cons,
            ih (position + 1) (by simpa using hLength)]

/- A parameter has the place where it stands. -/
theorem Instruction.position_of_bindFrom
    {position k : Nat}
    {raws : List Int}
    {modes : List Mode}
    {p : Parameter}
    (hSlot : (bindFrom position raws modes)[k]? = some p) :
    p.position = position + k := by
  induction modes generalizing position raws k with
  | nil =>
      cases raws with
      | nil => simp [bindFrom] at hSlot
      | cons raw raws => simp [bindFrom] at hSlot
  | cons mode rest ih =>
      cases raws with
      | nil => simp [bindFrom] at hSlot
      | cons raw raws =>
          rw [bindFrom] at hSlot
          cases k with
          | zero =>
              rw [List.getElem?_cons_zero,
                Option.some.injEq] at hSlot
              rw [← hSlot]
              rfl
          | succ k =>
              rw [List.getElem?_cons_succ] at hSlot
              rw [ih hSlot]
              omega

/- An opcode is found under its own number. -/
theorem Table.find?_opcode
    (t : Table)
    (k : Opcode) :
    t.find? (k : Nat) = t.entry k := by
  have hBound :
      0 ≤ ((k : Nat) : Int) ∧ ((k : Nat) : Int) < 100 := by
    omega
  have hSame : Fin.ofNat 100 k = k :=
    Fin.ext (Nat.mod_eq_of_lt k.isLt)
  rw [find?, opcode?, if_pos hBound, Int.toNat_natCast, hSame]
  rfl

namespace Machine

variable {m : Machine} {o : Operation} {i : Instruction}

/- A parameter that was read off the tape has its place. -/
theorem position_of_operands
    {ps : List Parameter}
    {k : Nat}
    {p : Parameter}
    (hOperands : m.operands i = .ok ps)
    (hSlot : ps[k]? = some p) :
    p.position = k := by
  unfold operands at hOperands
  rcases hRead : m.tape.readAll i.operandAddresses with
    e | raws
  · simp [hRead] at hOperands
  · simp only [hRead, Except.ok.injEq] at hOperands
    rw [← hOperands, Instruction.bind] at hSlot
    rw [Instruction.position_of_bindFrom hSlot, Nat.zero_add]

/- The instruction at the counter, and its operation. -/
structure Fetched
    (m : Machine)
    (o : Operation)
    (i : Instruction) : Prop where
  address : i.address = m.pointer
  word : m.tape.read m.pointer = .ok i.word
  opcode : opcodeOf i.word (some m.pointer) = .ok i.opcode
  entry : m.table.entry i.opcode = some o
  modes :
    modesFrom i.word m.pointer 0 o.arity = .ok i.modes

theorem fetch_eq_ok_iff :
    m.fetch = .ok (o, i) ↔ m.Fetched o i := by
  constructor
  · intro hFetch
    unfold fetch at hFetch
    rcases hRead : m.tape.read m.pointer with e | word
    · simp [hRead] at hFetch
    · simp only [hRead] at hFetch
      rcases hOpcode : opcodeOf word (some m.pointer) with
        e | k
      · simp [hOpcode] at hFetch
      · simp only [hOpcode, Table.lookup,
          Table.find?_opcode] at hFetch
        cases hEntry : m.table.entry k with
        | none => simp [hEntry] at hFetch
        | some o₁ =>
            simp only [hEntry, Instruction.decode, hOpcode]
              at hFetch
            rcases hModes :
                modesFrom word m.pointer 0 o₁.arity with
              e | modes
            · simp [hModes] at hFetch
            · simp only [hModes, Except.ok.injEq,
                Prod.mk.injEq] at hFetch
              rcases hFetch with ⟨rfl, rfl⟩
              exact ⟨rfl, hRead, hOpcode, hEntry, hModes⟩
  · intro hFetched
    rcases i with ⟨address, word, k, modes⟩
    rcases hFetched with
      ⟨rfl, hRead, hOpcode, hEntry, hModes⟩
    dsimp only at hRead hOpcode hEntry hModes
    simp only [fetch, hRead, hOpcode, Table.lookup,
      Table.find?_opcode, hEntry, Instruction.decode, hModes]

/- What is decoded is what is fetched. -/
theorem decode_eq_ok_iff :
    m.decode = .ok i ↔ ∃ o, m.Fetched o i := by
  simp only [← fetch_eq_ok_iff]
  unfold decode
  rcases m.fetch with e | ⟨o, j⟩
  · simp
  · simp

namespace Fetched

variable (hFetched : m.Fetched o i)
include hFetched

theorem arity : i.arity = o.arity :=
  length_modesFrom hFetched.modes

theorem contains : m.tape.Contains m.pointer :=
  (Tape.read_eq_ok_iff.mp hFetched.word).1

theorem operandAddresses :
    i.operandAddresses =
      (List.range i.arity).map fun (k : Nat) =>
        m.pointer + 1 + k := by
  rw [Instruction.operandAddresses, hFetched.address]

/- Parameters are read if the whole instruction is there. -/
theorem operands_ok
    {ps : List Parameter}
    (hOperands : m.operands i = .ok ps) :
    ps.length = o.arity ∧
      m.pointer + i.length ≤ m.tape.size := by
  unfold operands at hOperands
  rcases hRead : m.tape.readAll i.operandAddresses with
    e | raws
  · simp [hRead] at hOperands
  · simp only [hRead, Except.ok.injEq] at hOperands
    rcases Tape.contains_of_readAll hRead with
      ⟨hLength, hInside⟩
    rw [hFetched.operandAddresses] at hLength hInside
    rw [List.length_map, List.length_range] at hLength
    constructor
    · rw [← hOperands, Instruction.bind,
        Instruction.length_bindFrom 0 hLength,
        length_modesFrom hFetched.modes]
    · have hCounter := hFetched.contains
      rcases hArity : i.arity with _ | k
      · rw [Instruction.length, hArity]
        exact hCounter.2
      · -- The last parameter is behind all other words.
        have hLast := hInside (m.pointer + 1 + k) (by
          rw [hArity]
          exact
            List.mem_map_of_mem (List.mem_range.mpr k.lt_succ_self))
        have hBound := hLast.2
        rw [Instruction.length, hArity]
        omega

/- An instruction that runs off the tape raises its size. -/
theorem operands_truncated
    (hLong : m.tape.size < m.pointer + i.length) :
    m.operands i = .error (m.tape.outOfBounds m.tape.size) := by
  have hCounter := hFetched.contains
  have hRead :
      m.tape.readAll i.operandAddresses =
        .error (m.tape.outOfBounds m.tape.size) := by
    rw [hFetched.operandAddresses]
    rw [Instruction.length] at hLong
    exact
      Tape.readAll_of_truncated (by have := hCounter.1; omega)
        (by have := hCounter.2; omega) (by omega)
  rw [operands, hRead]

end Fetched

end Machine

end IntcodeMachine
