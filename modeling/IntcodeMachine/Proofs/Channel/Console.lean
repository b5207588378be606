import IntcodeMachine.Host
import IntcodeMachine.Proofs.Tape.Grammar

/-
  This file proves that a console reads its lines as a
  stream, from which it leaves out the lines that hold no
  integer.

  A call reads lines up to the first one that holds an
  integer. The next call starts behind it. No line is
  skipped, read twice or moved, and a prompt is made for
  each line that is read or found missing. When no line
  holds an integer, all are rejected, and the call ends with
  the end of the input.

  Main declarations:
    * `Console.integer?`
    * `Console.read_cases`
    * `Host.Offers`
    * `Host.Serves`
    * `Host.receive_serves`
    * `Host.receives`
    * `Numeral.readTyped_of_long`
    * `Host.console_streams`
-/

------------------------------------------------------------
-- Lines That Hold Integers
------------------------------------------------------------

namespace IntcodeMachine

namespace Console

variable {lines : List String}

/- The integer that a line holds, once it is stripped. -/
def integer? (line : String) : Option Int :=
  (Numeral.readTyped (Text.strip line.toList)).toOption

/- A line as it is shown when it is rejected. -/
def stripped (line : String) : String :=
  String.ofList (Text.strip line.toList)

theorem integer?_eq_some_iff
    {line : String}
    {n : Int} :
    integer? line = some n ↔
      Numeral.readTyped (Text.strip line.toList) = .ok n := by
  unfold integer?
  cases Numeral.readTyped (Text.strip line.toList) with
  | error e => simp [Except.toOption]
  | ok m => simp [Except.toOption]

theorem integer?_eq_none_iff
    {line : String} :
    integer? line = none ↔
      ∃ e,
        Numeral.readTyped (Text.strip line.toList) =
          .error e := by
  unfold integer?
  cases Numeral.readTyped (Text.strip line.toList) with
  | error e => simp [Except.toOption]
  | ok m => simp [Except.toOption]

theorem read_cons_of_integer
    {line : String}
    {n : Int}
    (hLine : integer? line = some n)
    (rest : List String) :
    read (line :: rest) = ⟨some n, [], rest⟩ := by
  simp only [read, integer?_eq_some_iff.mp hLine]

theorem read_cons_of_rejected
    {line : String}
    (hLine : integer? line = none)
    (rest : List String) :
    read (line :: rest) =
      ⟨(read rest).value,
        stripped line :: (read rest).rejected,
        (read rest).rest⟩ := by
  rcases integer?_eq_none_iff.mp hLine with ⟨e, hRead⟩
  simp only [read, hRead]
  rfl

/-
  Either a line is the first to hold an integer, and what
  follows it is left, or all lines are rejected.
-/
theorem read_cases
    (lines : List String) :
    (∃ skipped line n rest,
      lines = skipped ++ line :: rest ∧
        (∀ l ∈ skipped, integer? l = none) ∧
        integer? line = some n ∧
        read lines = ⟨some n, skipped.map stripped, rest⟩) ∨
      ((∀ l ∈ lines, integer? l = none) ∧
        read lines = ⟨none, lines.map stripped, []⟩) := by
  induction lines with
  | nil => exact Or.inr ⟨by simp, rfl⟩
  | cons line rest ih =>
      cases hLine : integer? line with
      | some n =>
          exact
            Or.inl
              ⟨[], line, n, rest, rfl, by simp, hLine,
                read_cons_of_integer hLine rest⟩
      | none =>
          rw [read_cons_of_rejected hLine]
          rcases ih with
            ⟨skipped, other, n, left, rfl, hSkipped, hOther,
              hRead⟩ | ⟨hNone, hRead⟩
          · refine
              Or.inl
                ⟨line :: skipped, other, n, left, rfl, ?_,
                  hOther, by rw [hRead]; rfl⟩
            exact List.forall_mem_cons.mpr ⟨hLine, hSkipped⟩
          · refine Or.inr ⟨?_, by rw [hRead]; rfl⟩
            exact List.forall_mem_cons.mpr ⟨hLine, hNone⟩

end Console

------------------------------------------------------------
-- One Call
------------------------------------------------------------

/- What a console raises that finds no line left. -/
def Supply.ended : Supply → Failure
| .feed _ => .endOfInput .givenLines
| .keyboard => .endOfInput .standardInput

namespace Host

variable {h h' : Host} {lines : List String}
variable {prompt : String} {supply : Supply}

/- These are the lines that a console can read. -/
def Offers
    (h : Host)
    (lines : List String) : Supply → Prop
| .feed slot =>
    ∃ prompts, h.feeds[slot]? = some ⟨lines, prompts⟩
| .keyboard => h.keyboard = lines

/-
  The host when a console has prompted so often, has
  rejected some lines, and has left others.
-/
def served
    (h : Host)
    (prompt : String)
    (prompts : Nat)
    (rejected rest : List String)
    (supply : Supply) : Host :=
  let warnings : List Log.Record :=
    rejected.map fun line =>
      ⟨.warning, .channels,
        Console.warning (Console.stripped line)⟩
  match supply with
  | .feed slot =>
      { h with
        feeds :=
          h.feeds.set slot
            ⟨rest,
              (h.feed slot).prompts ++
                List.replicate prompts prompt⟩
        log := h.log ++ warnings }
  | .keyboard =>
      { h with
        keyboard := rest
        screen :=
          h.screen ++
            Text.joinStrings ""
              (List.replicate prompts prompt)
        log := h.log ++ warnings }

/- What is left of the lines is offered next. -/
theorem offers_served
    (hOffers : h.Offers lines supply)
    (prompts : Nat)
    (rejected rest : List String) :
    (h.served prompt prompts rejected rest supply).Offers rest
      supply := by
  cases supply with
  | keyboard => rfl
  | feed slot =>
      rcases hOffers with ⟨before, hSlot⟩
      rcases List.getElem?_eq_some_iff.mp hSlot with
        ⟨hIndex, -⟩
      exact ⟨_, List.getElem?_set_self hIndex⟩

/-
  A call of a console on the offered lines: its answer, and
  the host it leaves. It prompts once for each line that it
  reads, and once more if it finds no line left.
-/
inductive Serves
    (prompt : String)
    (supply : Supply)
    (h : Host) :
    List String → Except Failure Int → List String →
      Host → Prop where
| accepts
    {skipped rest : List String}
    {line : String}
    {n : Int}
    (hSkipped : ∀ l ∈ skipped, Console.integer? l = none)
    (hLine : Console.integer? line = some n) :
    Serves prompt supply h (skipped ++ line :: rest) (.ok n)
      rest
      (h.served prompt (skipped.length + 1) skipped rest
        supply)
| ends
    {lines : List String}
    (hRejected : ∀ l ∈ lines, Console.integer? l = none) :
    Serves prompt supply h lines (.error supply.ended) []
      (h.served prompt (lines.length + 1) lines [] supply)

/- A call answers and leaves what its reading says. -/
theorem receive_of_read
    {value : Option Int}
    {skipped rest : List String}
    (hOffers : h.Offers lines supply)
    (hRead :
      Console.read lines =
        ⟨value, skipped.map Console.stripped, rest⟩)
    (prompt : String) :
    h.receive (.console prompt supply) =
      (match value with
        | some n => .ok n
        | none => .error supply.ended,
        h.served prompt (skipped.length + 1) skipped rest
          supply) := by
  have hWarnings :
      rejections
          ⟨value, skipped.map Console.stripped, rest⟩ =
        skipped.map fun line =>
          ⟨.warning, .channels,
            Console.warning (Console.stripped line)⟩ := by
    rw [rejections, List.map_map]
    rfl
  have hPrompts :
      Console.Reading.prompts
          ⟨value, skipped.map Console.stripped, rest⟩ =
        skipped.length + 1 := by
    rw [Console.Reading.prompts, List.length_map]
  cases supply with
  | keyboard =>
      have hLines : h.keyboard = lines := hOffers
      simp only [receive, receiveTyped, hLines, hRead,
        hWarnings, hPrompts]
      cases value <;> rfl
  | feed slot =>
      rcases hOffers with ⟨before, hSlot⟩
      have hFeed : h.feed slot = ⟨lines, before⟩ := by
        rw [feed, List.getD_eq_getElem?_getD, hSlot]
        rfl
      simp only [receive, receiveFed, served, hFeed, hRead,
        hWarnings, hPrompts]
      cases value <;> rfl

/- Every call serves the lines that are offered. -/
theorem receive_serves
    (hOffers : h.Offers lines supply)
    (prompt : String) :
    ∃ x rest h',
      h.receive (.console prompt supply) = (x, h') ∧
        Serves prompt supply h lines x rest h' ∧
        h'.Offers rest supply := by
  rcases Console.read_cases lines with
    ⟨skipped, line, n, rest, rfl, hSkipped, hLine, hRead⟩ |
      ⟨hNone, hRead⟩
  · exact
      ⟨_, _, _, receive_of_read hOffers hRead prompt,
        .accepts hSkipped hLine, offers_served hOffers _ _ _⟩
  · exact
      ⟨_, _, _, receive_of_read hOffers hRead prompt,
        .ends hNone, offers_served hOffers _ _ _⟩

------------------------------------------------------------
-- Calls In A Row
------------------------------------------------------------

/- The answers of so many calls, and the host after them. -/
def receives
    (source : Source) :
    Nat → Host → List (Except Failure Int) × Host
| 0, h => ([], h)
| n + 1, h =>
    let first := h.receive source
    let others := receives source n first.2
    (first.1 :: others.1, others.2)

/- The answer is the first integer of the lines, if any. -/
theorem Serves.integers
    {x : Except Failure Int}
    {rest : List String}
    (hServes : Serves prompt supply h lines x rest h') :
    (∃ n,
      x = .ok n ∧
        lines.filterMap Console.integer? =
          n :: rest.filterMap Console.integer?) ∨
      (x = .error supply.ended ∧ rest = [] ∧
        lines.filterMap Console.integer? = []) := by
  cases hServes with
  | @accepts skipped rest line n hSkipped hLine =>
      have hNone : skipped.filterMap Console.integer? = [] :=
        List.filterMap_eq_nil_iff.mpr hSkipped
      refine Or.inl ⟨n, rfl, ?_⟩
      rw [List.filterMap_append, hNone, List.nil_append,
        List.filterMap_cons_some hLine]
  | ends hRejected =>
      exact
        Or.inr
          ⟨rfl, rfl, List.filterMap_eq_nil_iff.mpr hRejected⟩

/- Calls answer the integers in order, and then the end. -/
theorem receives_answers
    (hOffers : h.Offers lines supply)
    (prompt : String)
    (n : Nat) :
    (receives (.console prompt supply) n h).1 =
      ((lines.filterMap Console.integer?).map .ok).takeD n
        (.error supply.ended) := by
  induction n generalizing h lines with
  | zero => rfl
  | succ n ih =>
      rcases receive_serves hOffers prompt with
        ⟨x, rest, h', hReceive, hServes, hRest⟩
      rw [receives, hReceive]
      dsimp only
      rw [ih hRest]
      rcases hServes.integers with
        ⟨m, rfl, hIntegers⟩ | ⟨rfl, rfl, hIntegers⟩
      · rw [hIntegers]
        rfl
      · rw [hIntegers]
        rfl

/-
  Calls in a row: each one serves the lines that the one
  before it has left.
-/
inductive Streams
    (prompt : String)
    (supply : Supply) :
    Host → List String → List (Except Failure Int) →
      List String → Host → Prop where
| done (h : Host) (lines : List String) :
    Streams prompt supply h lines [] lines h
| call
    {h h₁ h' : Host}
    {lines rest left : List String}
    {x : Except Failure Int}
    {xs : List (Except Failure Int)}
    (hServes : Serves prompt supply h lines x rest h₁)
    (hRest : Streams prompt supply h₁ rest xs left h') :
    Streams prompt supply h lines (x :: xs) left h'

theorem receives_streams
    (hOffers : h.Offers lines supply)
    (prompt : String)
    (n : Nat) :
    ∃ left,
      Streams prompt supply h lines
          (receives (.console prompt supply) n h).1 left
          (receives (.console prompt supply) n h).2 ∧
        (receives (.console prompt supply) n h).2.Offers left
          supply := by
  induction n generalizing h lines with
  | zero => exact ⟨lines, .done h lines, hOffers⟩
  | succ n ih =>
      rcases receive_serves hOffers prompt with
        ⟨x, rest, h', hReceive, hServes, hRest⟩
      rcases ih hRest with ⟨left, hStreams, hLeft⟩
      rw [receives, hReceive]
      exact ⟨left, .call hServes hStreams, hLeft⟩

end Host

------------------------------------------------------------
-- Overlong Numerals
------------------------------------------------------------

namespace Numeral

/- An ASCII digit is a digit among those of all scripts. -/
theorem digitValue?_isSome
    {c : Char}
    (hDigit : c.isDigit = true) :
    (Text.digitValue? c).isSome = true := by
  have hBounds := Char.isDigit_iff_toNat.mp hDigit
  have hZero : '0'.toNat = 48 := rfl
  have hNine : '9'.toNat = 57 := rfl
  rw [Text.digitValue?, Option.isSome_map, List.find?_isSome]
  refine ⟨48, by decide, ?_⟩
  simp only [Bool.and_eq_true, decide_eq_true_iff]
  omega

theorem underscoresApart_of_digits
    {ds : List Char}
    (hNonempty : ds ≠ [])
    (hDigits : ∀ c ∈ ds, c ≠ '_') :
    underscoresApart ds = true := by
  fun_induction underscoresApart ds with
  | case1 => exact absurd rfl hNonempty
  | case2 => exact absurd rfl (hDigits '_' List.mem_cons_self)
  | case3 => rfl
  | case4 => exact absurd rfl (hDigits '_' List.mem_cons_self)
  | case5 =>
      exact
        absurd rfl
          (hDigits '_'
            (List.mem_cons_of_mem _ List.mem_cons_self))
  | case6 _ c rest _ _ ih =>
      exact
        ih (List.cons_ne_nil c rest)
          (List.forall_mem_cons.mp hDigits).2

/- A numeral of too many digits is refused. -/
theorem readTyped_of_long
    {token : List Char}
    {negative : Bool}
    {ds : List Char}
    (hSpells : Spells token negative ds)
    (hLong : maxDigits < ds.length) :
    readTyped token = .error (.tooLong ds.length) := by
  rcases spells_iff.mp hSpells with
    ⟨hSplit, hNonempty, hDigits⟩
  have hMargin : token.dropWhile isMargin = token := by
    refine List.dropWhile_eq_self_iff.mpr fun hFirst => ?_
    have hBlank := hSpells.not_blank _ (List.getElem_mem hFirst)
    simp [isMargin, hBlank]
  have hBody : ds.takeWhile isBodyChar = ds := by
    refine List.takeWhile_eq_self_iff.mpr fun c hMember => ?_
    rw [isBodyChar, digitValue?_isSome (hDigits c hMember),
      Bool.or_true]
  have hApart : underscoresApart ds = true := by
    refine underscoresApart_of_digits hNonempty ?_
    rintro c hMember rfl
    exact absurd (hDigits _ hMember) (by decide)
  have hLength :
      (ds.filterMap Text.digitValue?).length = ds.length :=
    List.filterMap_length_eq_length.mpr fun c hMember =>
      digitValue?_isSome (hDigits c hMember)
  unfold readTyped
  rw [hMargin, hSplit]
  dsimp only
  rw [hBody, hApart, hLength, if_neg (by simp), if_pos hLong]

end Numeral

------------------------------------------------------------
-- Any Number Of Calls
------------------------------------------------------------

namespace Host

variable {h : Host} {lines : List String} {supply : Supply}

/-
  However often a console is called, it answers the integers
  of its lines, in order, each once, and then the end of the
  input. Each call starts where the one before it stopped,
  reads up to the first line that holds an integer, prompts
  for each line, and warns of each rejected one. A numeral
  of too many digits is rejected.
-/
theorem console_streams
    (hOffers : h.Offers lines supply)
    (prompt : String)
    (n : Nat) :
    (receives (.console prompt supply) n h).1 =
        ((lines.filterMap Console.integer?).map .ok).takeD n
          (.error supply.ended) ∧
      (∃ left,
        Streams prompt supply h lines
            (receives (.console prompt supply) n h).1 left
            (receives (.console prompt supply) n h).2 ∧
          (receives (.console prompt supply) n h).2.Offers
            left supply) ∧
      ∀ line negative ds,
        Numeral.Spells (Text.strip line.toList) negative ds →
        Numeral.maxDigits < ds.length →
          Console.integer? line = none := by
  refine
    ⟨receives_answers hOffers prompt n,
      receives_streams hOffers prompt n, ?_⟩
  intro line negative ds hSpells hLong
  exact
    Console.integer?_eq_none_iff.mpr
      ⟨_, Numeral.readTyped_of_long hSpells hLong⟩

/- Two of four lines hold integers; a third call finds none. -/
theorem mixed_lines_stream :
    ∃ h left,
      h =
          ((fresh []).addFeed ["x", " 7 ", "", "-3"]).2 ∧
        h.Offers ["x", " 7 ", "", "-3"] (.feed 0) ∧
        (receives (.console "? " (.feed 0)) 3 h).1 =
          [.ok 7, .ok (-3),
            .error (.endOfInput .givenLines)] ∧
        Streams "? " (.feed 0) h ["x", " 7 ", "", "-3"]
          (receives (.console "? " (.feed 0)) 3 h).1 left
          (receives (.console "? " (.feed 0)) 3 h).2 := by
  have hOffers :
      ((fresh []).addFeed ["x", " 7 ", "", "-3"]).2.Offers
        ["x", " 7 ", "", "-3"] (.feed 0) :=
    ⟨[], rfl⟩
  have hIntegers :
      ["x", " 7 ", "", "-3"].filterMap Console.integer? =
        [7, -3] := by
    decide
  rcases console_streams hOffers "? " 3 with
    ⟨hAnswers, ⟨left, hStreams, -⟩, -⟩
  rw [hIntegers] at hAnswers
  exact ⟨_, left, rfl, hOffers, hAnswers, hStreams⟩

end Host

end IntcodeMachine
