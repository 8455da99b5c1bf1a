import CilTrace.Proofs.InstructionReads
import CilTrace.Proofs.OperandTexts

/-!
Runs of reads at one cursor.

Every read takes bytes off the front of what is left, also when it fails, and nothing else moves a
cursor. So a run stays inside its body and never goes back, and the bytes since the last opcode
began are those that were taken since. A single read that finds too few bytes takes none; the one
read that is made of two, that of an opcode, may have taken its first byte.
-/

namespace CilTrace

open Cursor

/-- A read at a cursor. -/
inductive CursorRead where
  /-- An unsigned number of so many bytes, or the pattern of a floating-point number. -/
  | unsigned (size : Nat)
  /-- A number of so many bytes in two's complement. -/
  | signed (size : Nat)
  /-- So many bytes as they are. -/
  | bytes (size : Int)
  | opcode
deriving DecidableEq

/-- What a read gives. -/
inductive CursorAnswer where
  | number (value : Int)
  | bytes (content : List UInt8)
  | opcode (opcode : Opcode)
  | text (text : String)
deriving DecidableEq

namespace CursorRead

def run : CursorRead → Decode CursorAnswer
  | unsigned size => return .number (← readUnsigned size)
  | signed size => return .number (← readSigned size)
  | bytes size => return .bytes (← takeBytes size)
  | opcode => return .opcode (← readOpcode)

end CursorRead

/-- A step of a run. -/
inductive CursorStep where
  | read (single : CursorRead)
  /-- Reads an operand and writes it with what a resolver says about its token. -/
  | operand (kind : OperandKind) (resolver : Option Resolver)

namespace CursorStep

def run : CursorStep → Decode CursorAnswer
  | read single => single.run
  | operand kind resolver => return .text (← Operand.read resolver kind).text

/-- Whether a step notes where an instruction begins. -/
def beginsInstruction : CursorStep → Bool
  | read .opcode => true
  | _ => false

end CursorStep

namespace Cursor

/-- The cursor after a run. A run goes on after a failure. -/
def after : Cursor → List CursorStep → Cursor
  | cursor, [] => cursor
  | cursor, step :: steps => after (step.run cursor).2 steps

/-- The bytes between the place of one cursor and that of a later one. -/
def passedBytes (cursor later : Cursor) : List UInt8 :=
  (cursor.data.toList.take later.position.toNat).drop cursor.position.toNat

/-- The steps of a run, each with the bytes that it moves over. -/
def trail : Cursor → List CursorStep → List (CursorStep × List UInt8)
  | _, [] => []
  | cursor, step :: steps =>
      (step, cursor.passedBytes (step.run cursor).2) :: trail (step.run cursor).2 steps

/-- What has been taken since an instruction began, after one more step. -/
def sinceStep (since : List UInt8) (taken : CursorStep × List UInt8) : List UInt8 :=
  if taken.1.beginsInstruction then taken.2 else since ++ taken.2

/-- The bytes taken from the last step on that begins an instruction, or from the first step. -/
def takenSinceOpcode (trail : List (CursorStep × List UInt8)) : List UInt8 :=
  trail.foldl sinceStep []

/-! ## What a step does to a cursor -/

/-- A step that takes bytes off the front of what is left and does nothing else to a cursor inside
its body, whether it succeeds or fails. -/
def OnlyTakes {α : Type} (step : Decode α) : Prop :=
  ∀ (before rest : List UInt8) (start : Int), ∃ result passed left, rest = passed ++ left ∧
    step (between before rest start) = (result, between (before ++ passed) left start)

section Steps

variable {α β : Type} {step : Decode α} {next : α → Decode β}

theorem takes_nothing {before rest : List UInt8} {start : Int} {result : Except DecodeError α}
    (run : step (between before rest start) = (result, between before rest start)) :
    ∃ result passed left, rest = passed ++ left ∧
      step (between before rest start) = (result, between (before ++ passed) left start) :=
  ⟨result, [], rest, rfl, by rw [run, List.append_nil]⟩

theorem onlyTakes_pure (value : α) : OnlyTakes (pure value : Decode α) :=
  fun _ _ _ => takes_nothing rfl

theorem onlyTakes_get : OnlyTakes (get : Decode Cursor) :=
  fun _ _ _ => takes_nothing rfl

theorem onlyTakes_throw (error : DecodeError) : OnlyTakes (throw error : Decode α) :=
  fun _ _ _ => takes_nothing rfl

theorem OnlyTakes.bind (first : OnlyTakes step) (second : ∀ value, OnlyTakes (next value)) :
    OnlyTakes (step >>= next) := by
  intro before rest start
  rcases first before rest start with ⟨result, passed, left, rfl, run⟩
  cases result with
  | error error => exact ⟨.error error, passed, left, rfl, bind_of_error run⟩
  | ok value =>
      rcases second value (before ++ passed) left start with ⟨result, more, left, rfl, later⟩
      refine ⟨result, passed ++ more, left, by simp, ?_⟩
      rw [bind_of_ok run, later, List.append_assoc]

end Steps

theorem onlyTakes_take (size : Nat) : OnlyTakes (take size) := by
  intro before rest start
  by_cases short : rest.length < size
  · exact takes_nothing (take_between_short before start short)
  · rcases exists_front (Nat.le_of_not_lt short) with ⟨bytes, left, rfl, rfl⟩
    exact ⟨_, bytes, left, rfl, take_between before bytes left start⟩

theorem onlyTakes_takeBytes (size : Int) : OnlyTakes (takeBytes size) := by
  intro before rest start
  by_cases refused : size < 0 ∨ (rest.length : Int) < size
  · exact takes_nothing (takeBytes_refused before start refused)
  · rcases exists_front (by omega : size.toNat ≤ rest.length) with ⟨bytes, left, rfl, filled⟩
    have same : size = bytes.length := by omega
    rw [same]
    exact ⟨_, bytes, left, rfl, takeBytes_between before bytes left start⟩

theorem onlyTakes_readUnsigned (size : Nat) : OnlyTakes (readUnsigned size) :=
  (onlyTakes_take size).bind fun _ => onlyTakes_pure _

theorem onlyTakes_readSigned (size : Nat) : OnlyTakes (readSigned size) :=
  (onlyTakes_take size).bind fun _ => onlyTakes_pure _

theorem onlyTakes_readSingle : OnlyTakes readSingle := by
  refine (onlyTakes_takeBytes 4).bind fun bytes => ?_
  split
  · exact onlyTakes_pure _
  · exact onlyTakes_throw _

end Cursor

namespace Operand

theorem onlyTakes_readDisplacements (count : Nat) (before : List Int) :
    OnlyTakes (readDisplacements count before) := by
  induction count generalizing before with
  | zero => exact onlyTakes_pure _
  | succ count induction =>
      exact (onlyTakes_readSigned 4).bind fun displacement => induction (displacement :: before)

theorem onlyTakes_readBranch (size : Nat) : OnlyTakes (readBranch size) :=
  (onlyTakes_readSigned size).bind fun _ => onlyTakes_get.bind fun _ => onlyTakes_pure _

theorem onlyTakes_readSwitch : OnlyTakes readSwitch :=
  (onlyTakes_readUnsigned 4).bind fun count =>
    (onlyTakes_readDisplacements count []).bind fun _ =>
      onlyTakes_get.bind fun _ => onlyTakes_pure _

/-- Asking for a name takes nothing, whatever comes of it. -/
theorem onlyTakes_readToken (resolver : Option Resolver) (kind : ReferenceKind) :
    OnlyTakes (readToken resolver kind) := by
  refine (onlyTakes_readUnsigned 4).bind fun number => ?_
  cases Resolution.ask resolver kind number with
  | error failure => exact onlyTakes_throw _
  | ok resolution => exact onlyTakes_pure _

/-- An operand of any kind is taken off the front, as far as it can be read. -/
theorem onlyTakes_read (resolver : Option Resolver) (kind : OperandKind) :
    OnlyTakes (read resolver kind) := by
  cases kind with
  | none => exact onlyTakes_pure _
  | int8 | int16 | int32 | int64 =>
      exact (onlyTakes_readSigned _).bind fun _ => onlyTakes_pure _
  | float32 => exact onlyTakes_readSingle.bind fun _ => onlyTakes_pure _
  | float64 | index8 | index16 => exact (onlyTakes_readUnsigned _).bind fun _ => onlyTakes_pure _
  | reference kind => exact onlyTakes_readToken resolver kind
  | branch8 | branch32 => exact onlyTakes_readBranch _
  | switch => exact onlyTakes_readSwitch

end Operand

namespace Cursor

/--
Reading an opcode fails without a byte, and behind the byte that opens the two-byte page if it is
the last. Otherwise it takes the bytes of a number and looks that number up.
-/
theorem readOpcode_cases (before rest : List UInt8) (start : Int) :
    rest = [] ∧ readOpcode (between before rest start) =
        (.error (.outOfBounds 1 before.length before.length),
          between before rest before.length) ∨
      rest = [Opcode.pageByte] ∧ readOpcode (between before rest start) =
        (.error (.outOfBounds 1 (before.length + 1 : Nat) (before.length + 1 : Nat)),
          between (before ++ [Opcode.pageByte]) [] before.length) ∨
      ∃ (number : Nat) (passed left : List UInt8), rest = passed ++ left ∧
        readOpcode (between before rest start) =
          (Opcode.lookup number (some (before.length : Int)),
            between (before ++ passed) left before.length) := by
  rw [readOpcode, bind_of_ok (beginInstruction_between ..)]
  rcases rest with _ | ⟨byte, rest⟩
  · have first : readOpcodeId (between before [] before.length) =
        (.error (.outOfBounds 1 before.length before.length), between before [] before.length) :=
      bind_of_error (readUnsigned_between_short before _ (by decide : ([] : List UInt8).length < 1))
    exact .inl ⟨rfl, bind_of_error first⟩
  by_cases page : byte = Opcode.pageByte
  · subst page
    rcases rest with _ | ⟨second, rest⟩
    · exact .inr (.inl ⟨rfl, bind_of_error (readOpcodeId_cutPage before _)⟩)
    · exact .inr (.inr ⟨0xFE00 + second.toNat, [Opcode.pageByte, second], rest, rfl,
        bind_of_ok (readOpcodeId_page before rest _ second)⟩)
  · exact .inr (.inr ⟨byte.toNat, [byte], rest, rfl,
      bind_of_ok (readOpcodeId_byte before rest _ page)⟩)

theorem lookup_ne_outOfBounds (number : Int) (position : Option Int) (needed place length : Int) :
    Opcode.lookup number position ≠ .error (.outOfBounds needed place length) := by
  unfold Opcode.lookup
  split
  · rintro ⟨⟩
  · rintro ⟨⟩

end Cursor

namespace CursorStep

/-- Where the instruction begins after a step. -/
def startAfter (step : CursorStep) (before : List UInt8) (start : Int) : Int :=
  if step.beginsInstruction then before.length else start

/-- Every step takes bytes off the front of what is left, and an opcode is noted to begin there. -/
theorem run_between (step : CursorStep) (before rest : List UInt8) (start : Int) :
    ∃ result passed left, rest = passed ++ left ∧
      step.run (between before rest start) =
        (result, between (before ++ passed) left (step.startAfter before start)) := by
  cases step with
  | operand kind resolver =>
      exact ((Operand.onlyTakes_read resolver kind).bind fun _ => onlyTakes_pure _) before rest start
  | read single =>
      cases single with
      | unsigned size =>
          exact ((onlyTakes_readUnsigned size).bind fun _ => onlyTakes_pure _) before rest start
      | signed size =>
          exact ((onlyTakes_readSigned size).bind fun _ => onlyTakes_pure _) before rest start
      | bytes size =>
          exact ((onlyTakes_takeBytes size).bind fun _ => onlyTakes_pure _) before rest start
      | opcode =>
          rcases readOpcode_cases before rest start with
            ⟨rfl, run⟩ | ⟨rfl, run⟩ | ⟨number, passed, left, rfl, run⟩
          · exact ⟨_, [], [], rfl, by rw [List.append_nil]; exact bind_of_error run⟩
          · exact ⟨_, [Opcode.pageByte], [], rfl, bind_of_error run⟩
          · rcases found : Opcode.lookup number (some (before.length : Int)) with error | opcode
            · rw [found] at run
              exact ⟨_, passed, left, rfl, bind_of_error run⟩
            · rw [found] at run
              exact ⟨_, passed, left, rfl, bind_of_ok run⟩

end CursorStep

/-! ## Numbers -/

namespace Cursor

/-- The number below the power of the byte base whose digits are the bytes, the first one lowest. -/
structure Spells (bytes : List UInt8) (value : Nat) : Prop where
  bound : value < Nat.pow 0x100 bytes.length
  digit : ∀ index byte, bytes[index]? = some byte →
    value / Nat.pow 0x100 index % 0x100 = byte.toNat

/-- The number that bytes stand for without a sign. -/
def SpellsUnsigned (bytes : List UInt8) (value : Int) : Prop :=
  ∃ number : Nat, Spells bytes number ∧ value = number

/-- The number that bytes stand for in two's complement: the upper half of the numbers of that size
stands for those below zero. -/
def SpellsSigned (bytes : List UInt8) (value : Int) : Prop :=
  ∃ number : Nat, Spells bytes number ∧
    value = if 2 * number < Nat.pow 0x100 bytes.length then (number : Int)
      else number - (Nat.pow 0x100 bytes.length : Nat)

theorem spells_littleEndian (bytes : List UInt8) : Spells bytes (littleEndian bytes) where
  bound := littleEndian_lt bytes
  digit := by
    induction bytes with
    | nil =>
        intro index byte here
        cases here
    | cons first bytes induction =>
        intro index byte here
        have value : littleEndian (first :: bytes) =
            first.toNat + 0x100 * littleEndian bytes := rfl
        have small := first.toNat_lt
        cases index with
        | zero =>
            cases here
            rw [value, Nat.pow_eq, Nat.pow_zero, Nat.div_one]
            omega
        | succ index =>
            have later := induction index byte here
            have lower : (first.toNat + 0x100 * littleEndian bytes) / 0x100 =
                littleEndian bytes := by
              omega
            rw [value, Nat.pow_eq, Nat.pow_succ', ← Nat.div_div_eq_div_mul, lower]
            exact later

theorem spellsSigned_signedValue (bytes : List UInt8) : SpellsSigned bytes (signedValue bytes) := by
  refine ⟨littleEndian bytes, spells_littleEndian bytes, ?_⟩
  have bound := littleEndian_lt bytes
  have reduced : (littleEndian bytes : Int) % (Nat.pow 0x100 bytes.length : Nat) =
      littleEndian bytes :=
    Int.emod_eq_of_lt (Int.natCast_nonneg _) (Int.ofNat_lt.mpr bound)
  rw [signedValue, Int.bmod, reduced]
  split
  · rw [if_pos (by omega)]
  · rw [if_neg (by omega)]

end Cursor

namespace CursorRead

/-- A read that gives the value of so many bytes, or else takes none. -/
structure TakesNumber (read : CursorRead) (size : Nat) (value : List UInt8 → Int) : Prop where
  whole : ∀ (before bytes rest : List UInt8) (start : Int), bytes.length = size →
    read.run (between before (bytes ++ rest) start) =
      (.ok (.number (value bytes)), between (before ++ bytes) rest start)
  short : ∀ (before rest : List UInt8) (start : Int), rest.length < size →
    read.run (between before rest start) =
      (.error (.outOfBounds size before.length (before.length + rest.length : Nat)),
        between before rest start)

theorem takesNumber_unsigned (size : Nat) :
    (unsigned size).TakesNumber size fun bytes => littleEndian bytes where
  whole := fun before _ rest start filled =>
    bind_of_ok (readUnsigned_between before rest start filled)
  short := fun before _ start short => bind_of_error (readUnsigned_between_short before start short)

theorem takesNumber_signed (size : Nat) : (signed size).TakesNumber size signedValue where
  whole := fun before _ rest start filled =>
    bind_of_ok (readSigned_between before rest start filled)
  short := fun before _ start short => bind_of_error (readSigned_between_short before start short)

end CursorRead

/-! ## Failed reads -/

namespace CursorRead

variable {read : CursorRead} {before rest : List UInt8} {start : Int} {error : DecodeError}
  {reached : Cursor}

theorem TakesNumber.stays_of_error {size : Nat} {value : List UInt8 → Int}
    (takes : read.TakesNumber size value)
    (failed : read.run (between before rest start) = (.error error, reached)) :
    reached = between before rest start := by
  by_cases short : rest.length < size
  · rw [takes.short before rest start short] at failed
    exact (congrArg Prod.snd failed).symm
  · rcases exists_front (Nat.le_of_not_lt short) with ⟨bytes, left, rfl, filled⟩
    rw [takes.whole before bytes left start filled] at failed
    cases congrArg Prod.fst failed

theorem bytes_stays_of_error {size : Int}
    (failed : (bytes size).run (between before rest start) = (.error error, reached)) :
    reached = between before rest start := by
  by_cases refused : size < 0 ∨ (rest.length : Int) < size
  · have run : (bytes size).run (between before rest start) = _ :=
      bind_of_error (takeBytes_refused before start refused)
    rw [run] at failed
    exact (congrArg Prod.snd failed).symm
  · rcases exists_front (by omega : size.toNat ≤ rest.length) with ⟨taken, left, rfl, filled⟩
    have same : size = taken.length := by omega
    subst same
    have run : (bytes taken.length).run (between before (taken ++ left) start) = _ :=
      bind_of_ok (takeBytes_between before taken left start)
    rw [run] at failed
    cases congrArg Prod.fst failed

/-- Reading an opcode runs out of bytes before its first one, or between its two. -/
theorem opcode_outOfBounds {needed place length : Int}
    (failed : opcode.run (between before rest start) =
      (.error (.outOfBounds needed place length), reached)) :
    rest = [] ∧ reached = between before rest before.length ∨
      rest = [Opcode.pageByte] ∧ reached = between (before ++ rest) [] before.length := by
  rcases readOpcode_cases before rest start with
    ⟨rfl, run⟩ | ⟨rfl, run⟩ | ⟨number, passed, left, rfl, run⟩
  · have same := (bind_of_error run).symm.trans failed
    exact .inl ⟨rfl, (congrArg Prod.snd same).symm⟩
  · have same := (bind_of_error run).symm.trans failed
    exact .inr ⟨rfl, (congrArg Prod.snd same).symm⟩
  · rcases found : Opcode.lookup number (some (before.length : Int)) with error | opcode
    · rw [found] at run
      have same := (bind_of_error run).symm.trans failed
      have told : error = .outOfBounds needed place length :=
        Except.error.inj (congrArg Prod.fst same)
      rw [told] at found
      exact absurd found (lookup_ne_outOfBounds _ _ _ _ _)
    · rw [found] at run
      have same := (bind_of_ok run).symm.trans failed
      cases congrArg Prod.fst same

end CursorRead

namespace Cursor

theorem slice_rest (before rest : List UInt8) (start : Int) :
    (between before rest start).slice (between before rest start).position
      (between before rest start).length = rest := by
  have sliced := slice_between before rest [] start
  rw [List.append_nil] at sliced
  rw [position_between, length_between]
  exact sliced

end Cursor

namespace CursorRead

/--
A read that runs out of bytes leaves the cursor where it is, but for one case: an opcode of which
only the byte that opens the two-byte page is left. That byte has then been read.
-/
theorem failed_read_moves_iff_page_is_cut (cursor : Cursor)
    (inside : 0 ≤ cursor.position ∧ cursor.position ≤ cursor.length) (read : CursorRead)
    {needed place length : Int} {reached : Cursor}
    (failed : read.run cursor = (.error (.outOfBounds needed place length), reached)) :
    reached.data = cursor.data ∧
      (reached.position ≠ cursor.position ↔
        read = .opcode ∧ cursor.slice cursor.position cursor.length = [Opcode.pageByte]) ∧
      (reached.position ≠ cursor.position → reached.position = cursor.position + 1) := by
  rcases exists_between_of_inside inside.1 inside.2 with ⟨before, rest, same⟩
  generalize cursor.instructionStart = start at same
  subst same
  have stayed (other : read ≠ .opcode) (stays : reached = between before rest start) :
      reached.data = (between before rest start).data ∧
        (reached.position ≠ before.length ↔ read = .opcode ∧ rest = [Opcode.pageByte]) ∧
        (reached.position ≠ before.length → reached.position = before.length + 1) := by
    subst stays
    refine ⟨rfl, ⟨fun moved => absurd rfl moved, fun page => absurd page.1 other⟩, ?_⟩
    exact fun moved => absurd rfl moved
  rw [slice_rest, position_between]
  cases read with
  | unsigned size =>
      exact stayed (by rintro ⟨⟩) ((takesNumber_unsigned size).stays_of_error failed)
  | signed size =>
      exact stayed (by rintro ⟨⟩) ((takesNumber_signed size).stays_of_error failed)
  | bytes size => exact stayed (by rintro ⟨⟩) (bytes_stays_of_error failed)
  | opcode =>
      rcases opcode_outOfBounds failed with ⟨rfl, rfl⟩ | ⟨rfl, rfl⟩
      · refine ⟨rfl, ⟨fun moved => absurd rfl moved, fun page => by cases page.2⟩, ?_⟩
        exact fun moved => absurd rfl moved
      · have next : (between (before ++ [Opcode.pageByte]) [] before.length).position =
            before.length + 1 := by
          simp
        rw [next]
        exact ⟨by simp [between], ⟨fun _ => ⟨rfl, rfl⟩, fun _ => by omega⟩, fun _ => rfl⟩

/-- At the last byte of a body a cut number leaves the cursor there, and a cut opcode does not. -/
theorem failed_read_moves_iff_page_is_cut_at_end :
    let cursor : Cursor := ⟨#[0x2A, 0xFE], 1, 0⟩
    let moved : Cursor := ⟨#[0x2A, 0xFE], 2, 1⟩
    (0 ≤ cursor.position ∧ cursor.position ≤ cursor.length) ∧
      (signed 4).run cursor = (.error (.outOfBounds 4 1 2), cursor) ∧
      (cursor.position ≠ cursor.position ↔ signed 4 = .opcode ∧
        cursor.slice cursor.position cursor.length = [Opcode.pageByte]) ∧
      opcode.run cursor = (.error (.outOfBounds 1 2 2), moved) ∧
      (moved.position ≠ cursor.position ↔ opcode = .opcode ∧
        cursor.slice cursor.position cursor.length = [Opcode.pageByte]) ∧
      moved.position = cursor.position + 1 := by
  intro cursor moved
  have inside : 0 ≤ cursor.position ∧ cursor.position ≤ cursor.length := by decide
  have number : (signed 4).run cursor = (.error (.outOfBounds 4 1 2), cursor) := rfl
  have page : opcode.run cursor = (.error (.outOfBounds 1 2 2), moved) := rfl
  have numberCut := failed_read_moves_iff_page_is_cut cursor inside _ number
  have pageCut := failed_read_moves_iff_page_is_cut cursor inside _ page
  exact ⟨inside, number, numberCut.2.1, page, pageCut.2.1, pageCut.2.2 (by decide)⟩

/-- Reading an opcode at a lone byte of the two-byte page fails and leaves the cursor behind it. -/
theorem cut_page_moves_cursor :
    let cursor : Cursor := ⟨#[0xFE], 0, 0⟩
    (0 ≤ cursor.position ∧ cursor.position ≤ cursor.length) ∧
      (opcode.run cursor).1 = .error (.outOfBounds 1 1 1) ∧
      (opcode.run cursor).2.position = 1 ∧ cursor.position = 0 :=
  ⟨by decide, rfl, rfl, rfl⟩

end CursorRead

/-! ## Runs -/

namespace Cursor

theorem passedBytes_between (before passed left : List UInt8) (start other : Int) :
    (between before (passed ++ left) start).passedBytes (between (before ++ passed) left other) =
      passed := by
  have place : (between (before ++ passed) left other).position.toNat =
      (before ++ passed).length := rfl
  rw [passedBytes, place]
  simp [between, ← List.append_assoc]

/-- A step inside a body whose last instruction began behind `earlier`. -/
theorem run_step (step : CursorStep) (earlier since rest : List UInt8) :
    ∃ earlier' passed left,
      let taken := sinceStep since (step, passed)
      rest = passed ++ left ∧ earlier' ++ taken = earlier ++ since ++ passed ∧
      (between (earlier ++ since) rest earlier.length).passedBytes
        (step.run (between (earlier ++ since) rest earlier.length)).2 = passed ∧
      (step.run (between (earlier ++ since) rest earlier.length)).2 =
        between (earlier' ++ taken) left earlier'.length := by
  rcases step.run_between (earlier ++ since) rest earlier.length with
    ⟨result, passed, left, rfl, run⟩
  rw [run]
  have crossed := passedBytes_between (earlier ++ since) passed left earlier.length
    (step.startAfter (earlier ++ since) earlier.length)
  cases begins : step.beginsInstruction with
  | true =>
      refine ⟨earlier ++ since, passed, left, rfl, ?_, crossed, ?_⟩
      · simp [sinceStep, begins]
      · simp [sinceStep, begins, CursorStep.startAfter]
  | false =>
      refine ⟨earlier, passed, left, rfl, ?_, crossed, ?_⟩
      · simp [sinceStep, begins]
      · simp [sinceStep, begins, CursorStep.startAfter]

/-- A run moves over bytes in front of the cursor, and tells those that were taken last from those
before an instruction began. -/
theorem after_between (steps : List CursorStep) (earlier since rest : List UInt8) :
    ∃ earlier' left,
      let cursor := between (earlier ++ since) rest earlier.length
      let taken := (trail cursor steps).foldl sinceStep since
      earlier' ++ taken ++ left = earlier ++ since ++ rest ∧
        after cursor steps = between (earlier' ++ taken) left earlier'.length := by
  -- A step that begins an instruction puts `since` behind `earlier`, so both are general here.
  induction steps generalizing earlier since rest with
  | nil => exact ⟨earlier, rest, rfl, rfl⟩
  | cons step steps induction =>
      rcases run_step step earlier since rest with ⟨earlier', passed, left, rfl, same, crossed, run⟩
      rw [run] at crossed
      rcases induction earlier' (sinceStep since (step, passed)) left with
        ⟨final, ahead, whole, reached⟩
      refine ⟨final, ahead, ?_, ?_⟩
      · simp only [trail, List.foldl_cons, run, crossed]
        rw [whole, same]
        simp
      · simp only [after, trail, List.foldl_cons, run, crossed]
        exact reached

/--
A read of a number of `size` bytes at a cursor: it succeeds exactly where that many are left, moves
over that many, and gives the number that they stand for.
-/
structure ReadsNumber (cursor : Cursor) (read : CursorRead) (size : Nat)
    (stands : List UInt8 → Int → Prop) : Prop where
  succeeds_iff : (∃ answer next, read.run cursor = (.ok answer, next)) ↔
    cursor.position + size ≤ cursor.length
  moves : ∀ answer next, read.run cursor = (.ok answer, next) →
    next.position = cursor.position + size ∧
      ∃ value, answer = .number value ∧ stands (cursor.passedBytes next) value

theorem readsNumber_between {read : CursorRead} {size : Nat} {value : List UInt8 → Int}
    (takes : read.TakesNumber size value) {stands : List UInt8 → Int → Prop}
    (meaning : ∀ bytes, stands bytes (value bytes)) (before rest : List UInt8) (start : Int) :
    (between before rest start).ReadsNumber read size stands := by
  by_cases short : rest.length < size
  · have run := takes.short before rest start short
    constructor
    · rw [run, position_between, length_between]
      constructor
      · rintro ⟨answer, next, same⟩
        cases congrArg Prod.fst same
      · intro enough
        omega
    · intro answer next same
      rw [run] at same
      cases congrArg Prod.fst same
  · rcases exists_front (Nat.le_of_not_lt short) with ⟨bytes, left, rfl, rfl⟩
    have run := takes.whole before bytes left start rfl
    constructor
    · rw [run, position_between, length_between, List.length_append]
      exact ⟨fun _ => by omega, fun _ => ⟨_, _, rfl⟩⟩
    · intro answer next same
      rw [run] at same
      cases same
      refine ⟨by simp, value bytes, rfl, ?_⟩
      rw [passedBytes_between]
      exact meaning bytes

/--
At every moment of a run that begins inside a body, the body is what it was, the last instruction
begins at or before the cursor and the cursor is inside; the bytes since that instruction began are
those that were taken since. No further step goes back, and a number is read off exactly the bytes
that are moved over.
-/
theorem run_keeps_cursor_inside {body : Option (Array UInt8)} {offset : Int} {cursor : Cursor}
    (opened : openAt body offset = .ok cursor) (steps : List CursorStep) :
    let reached := cursor.after steps
    body = some reached.data ∧
      (0 ≤ reached.instructionStart ∧ reached.instructionStart ≤ reached.position ∧
        reached.position ≤ reached.length) ∧
      reached.instructionBytes = takenSinceOpcode (cursor.trail steps) ∧
      (∀ step : CursorStep, reached.position ≤ (step.run reached).2.position) ∧
      ∀ size, reached.ReadsNumber (.unsigned size) size SpellsUnsigned ∧
        reached.ReadsNumber (.signed size) size SpellsSigned := by
  intro reached
  rcases exists_between_of_openAt opened with ⟨before, rest, rfl, rfl⟩
  have moved := after_between steps before [] rest
  rw [List.append_nil] at moved
  rcases moved with ⟨earlier, left, whole, run⟩
  rw [← takenSinceOpcode] at whole run
  generalize takenSinceOpcode ((between before rest before.length).trail steps) = taken at whole run
  have same : reached = between (earlier ++ taken) left earlier.length := run
  rw [same]
  refine ⟨?_, ⟨?_, ?_, ?_⟩, instructionBytes_between earlier taken left, ?_, ?_⟩
  · rw [between, whole]
  · exact Int.natCast_nonneg earlier.length
  · have shorter : earlier.length ≤ (earlier ++ taken).length := by simp
    exact Int.ofNat_le.mpr shorter
  · rw [position_between, length_between]
    omega
  · intro step
    rcases step.run_between (earlier ++ taken) left earlier.length with ⟨_, passed, _, _, run⟩
    have longer : (earlier ++ taken).length ≤ (earlier ++ taken ++ passed).length := by simp
    rw [run]
    exact Int.ofNat_le.mpr longer
  · intro size
    exact ⟨readsNumber_between (CursorRead.takesNumber_unsigned size)
        (fun bytes => ⟨_, spells_littleEndian bytes, rfl⟩) ..,
      readsNumber_between (CursorRead.takesNumber_signed size) spellsSigned_signedValue ..⟩

/-- A run that goes on behind the whole part of a jump table that is cut, and past a size below zero
and a number that is cut. -/
theorem run_keeps_cursor_inside_after_failures :
    let data : Array UInt8 := #[0x2A, 0x45, 0x02, 0x00, 0x00, 0x00, 0x01, 0x80, 0xFE]
    let cursor : Cursor := ⟨data, 1, 1⟩
    let steps : List CursorStep :=
      [.read .opcode, .operand .switch none, .read (.bytes (-1)), .read (.signed 8),
        .read (.unsigned 2)]
    let reached : Cursor := ⟨data, 8, 1⟩
    openAt (some data) 1 = .ok cursor ∧ cursor.after steps = reached ∧
      reached.instructionBytes = takenSinceOpcode (cursor.trail steps) ∧
      reached.instructionBytes = [0x45, 0x02, 0x00, 0x00, 0x00, 0x01, 0x80] ∧
      reached.position ≤ ((CursorStep.read .opcode).run reached).2.position ∧
      reached.ReadsNumber (.signed 1) 1 SpellsSigned := by
  intro data cursor steps reached
  have opened : openAt (some data) 1 = .ok cursor := rfl
  have run : cursor.after steps = reached := by decide +kernel
  have kept := run_keeps_cursor_inside opened steps
  rw [run] at kept
  rcases kept with ⟨_, _, taken, forward, numbers⟩
  exact ⟨opened, run, taken, by decide, forward _, (numbers 1).2⟩

end Cursor

end CilTrace
