import CilTrace.Proofs.InstructionGrammar

/-!
Reading one instruction follows the grammar.

Where an instruction begins that can be read, reading gives it and moves behind its bytes; elsewhere
reading fails with the error that the grammar gives, or with the failure to tell why a token has no
name. As reading has one result, no bytes begin with two instructions, and reading ends in one way.
-/

namespace CilTrace

open Cursor

/-! ## Opcodes -/

namespace Opcode

theorem lookup_of_find?_some {number : Nat} {opcode : Opcode} (position : Option Int)
    (found : find? number = some opcode) : lookup number position = .ok opcode := by
  simp [lookup, found]

theorem lookup_of_find?_none {number : Nat} (position : Option Int)
    (unknown : find? number = none) :
    lookup number position = .error (.unknownOpcode number position) := by
  simp [lookup, unknown]

end Opcode

namespace Cursor

theorem readOpcodeId_byte (before rest : List UInt8) (start : Int) {byte : UInt8}
    (single : byte ≠ Opcode.pageByte) :
    readOpcodeId (between before (byte :: rest) start) =
      (.ok byte.toNat, between (before ++ [byte]) rest start) := by
  have different : byte.toNat ≠ Opcode.pageByte.toNat := fun same =>
    single (UInt8.toNat_inj.mp same)
  rw [readOpcodeId, bind_of_ok (readUnsigned_byte before rest start byte), if_neg different]
  rfl

theorem readOpcodeId_page (before rest : List UInt8) (start : Int) (byte : UInt8) :
    readOpcodeId (between before (Opcode.pageByte :: byte :: rest) start) =
      (.ok (0xFE00 + byte.toNat), between (before ++ [Opcode.pageByte, byte]) rest start) := by
  rw [readOpcodeId, bind_of_ok (readUnsigned_byte before (byte :: rest) start Opcode.pageByte),
    if_pos rfl, bind_of_ok (readUnsigned_byte (before ++ [Opcode.pageByte]) rest start byte),
    List.append_assoc]
  rfl

theorem readOpcodeId_cutPage (before : List UInt8) (start : Int) :
    readOpcodeId (between before [Opcode.pageByte] start) =
      (.error (.outOfBounds 1 (before.length + 1 : Nat) (before.length + 1 : Nat)),
        between (before ++ [Opcode.pageByte]) [] start) := by
  have second := readUnsigned_between_short (before ++ [Opcode.pageByte]) start
    (by decide : ([] : List UInt8).length < 1)
  rw [readOpcodeId, bind_of_ok (readUnsigned_byte before [] start Opcode.pageByte), if_pos rfl,
    bind_of_error second]
  simp

theorem beginInstruction_between (before rest : List UInt8) (start : Int) :
    beginInstruction (between before rest start) =
      (.ok (before.length : Int), between before rest before.length) := rfl

theorem readOpcode_encoding {opcode : Opcode} (listed : opcode ∈ Opcode.instructionSet)
    (before rest : List UInt8) (start : Int) :
    readOpcode (between before (opcode.encoding ++ rest) start) =
      (.ok opcode, between (before ++ opcode.encoding) rest before.length) := by
  have found := Opcode.find?_eq_some_iff.mpr ⟨listed, rfl⟩
  have looked := Opcode.lookup_of_find?_some (some (before.length : Int)) found
  rw [readOpcode, bind_of_ok (beginInstruction_between ..)]
  rcases Opcode.encoding_cases listed with ⟨byte, single, same, encoded⟩ | ⟨byte, same, encoded⟩
  · rw [encoded, List.singleton_append, bind_of_ok (readOpcodeId_byte before rest _ single), ← same,
      looked]
    rfl
  · rw [encoded, List.cons_append, List.singleton_append,
      bind_of_ok (readOpcodeId_page before rest _ byte), ← same, looked]
    rfl

theorem readOpcode_stops {rest : List UInt8} {error : DecodeError} (before : List UInt8)
    (start : Int) (stops : Stops before.length (before.length + rest.length) rest none error) :
    ∃ cursor, readOpcode (between before rest start) = (.error error, cursor) := by
  rw [readOpcode, bind_of_ok (beginInstruction_between ..)]
  cases stops with
  | unknownByte byte rest single unknown =>
      rw [bind_of_ok (readOpcodeId_byte before rest _ single),
        Opcode.lookup_of_find?_none _ unknown]
      exact ⟨_, rfl⟩
  | cutPage =>
      rw [bind_of_error (readOpcodeId_cutPage before _)]
      exact ⟨_, rfl⟩
  | unknownOnPage byte rest unknown =>
      rw [bind_of_ok (readOpcodeId_page before rest _ byte),
        Opcode.lookup_of_find?_none _ unknown]
      exact ⟨_, rfl⟩

end Cursor

/-! ## Operands -/

theorem exists_front {size : Nat} {bytes : List UInt8} (enough : size ≤ bytes.length) :
    ∃ front rest, bytes = front ++ rest ∧ front.length = size :=
  ⟨bytes.take size, bytes.drop size, (List.take_append_drop size bytes).symm,
    List.length_take_of_le enough⟩

namespace Operand

theorem displacements_append {entry : List UInt8} (whole : entry.length = 4)
    (entries : List UInt8) :
    displacements (entry ++ entries) = signedValue entry :: displacements entries := by
  match entry, whole with
  | [_, _, _, _], _ => rfl

theorem readDisplacements_between (count : Nat) (read : List Int) {entries : List UInt8}
    (filled : entries.length = 4 * count) (before rest : List UInt8) (start : Int) :
    readDisplacements count read (between before (entries ++ rest) start) =
      (.ok (read.reverse ++ displacements entries), between (before ++ entries) rest start) := by
  induction count generalizing read entries before with
  | zero =>
      have none : entries = [] := List.length_eq_zero_iff.mp (by omega)
      subst none
      simp [readDisplacements, displacements]
  | succ count induction =>
      rcases exists_front (by omega : 4 ≤ entries.length) with ⟨entry, others, rfl, whole⟩
      have othersFilled : others.length = 4 * count := by
        rw [List.length_append] at filled
        omega
      rw [readDisplacements, List.append_assoc,
        bind_of_ok (readSigned_between before (others ++ rest) start whole),
        induction (signedValue entry :: read) othersFilled, displacements_append whole]
      simp

theorem readDisplacements_short {count : Nat} (read : List Int) {entries : List UInt8}
    (short : entries.length / 4 < count) (before : List UInt8) (start : Int) :
    ∃ cursor, readDisplacements count read (between before entries start) =
      (.error (.outOfBounds 4 (before.length + 4 * (entries.length / 4) : Nat)
        (before.length + entries.length : Nat)), cursor) := by
  induction count generalizing read entries before with
  | zero => exact absurd short (Nat.not_lt_zero _)
  | succ count induction =>
      rw [readDisplacements]
      by_cases cut : entries.length < 4
      · have noEntry : entries.length / 4 = 0 := Nat.div_eq_of_lt cut
        rw [bind_of_error (readSigned_between_short before start cut), noEntry]
        exact ⟨_, rfl⟩
      · rcases exists_front (Nat.le_of_not_lt cut) with ⟨entry, others, rfl, whole⟩
        rw [List.length_append, whole] at short ⊢
        rcases induction (signedValue entry :: read)
          (by omega : others.length / 4 < count) (before ++ entry) with
          ⟨cursor, stopped⟩
        have place : (before ++ entry).length + 4 * (others.length / 4) =
            before.length + 4 * ((4 + others.length) / 4) := by
          rw [List.length_append, whole]
          omega
        have size : (before ++ entry).length + others.length =
            before.length + (4 + others.length) := by
          rw [List.length_append, whole]
          omega
        rw [place, size] at stopped
        exact ⟨cursor, by rw [bind_of_ok (readSigned_between before others start whole), stopped]⟩

theorem readBranch_between {size : Nat} {bytes : List UInt8} (filled : bytes.length = size)
    (before rest : List UInt8) (start : Int) :
    readBranch size (between before (bytes ++ rest) start) =
      (.ok (.target (wrap (signedValue bytes + (before.length + bytes.length : Nat)))),
        between (before ++ bytes) rest start) := by
  rw [readBranch, bind_of_ok (readSigned_between before rest start filled), get_bind,
    position_between, List.length_append, pure_apply]

theorem readSwitch_between {bytes : List UInt8} (fits : OperandKind.switch.Fits bytes)
    (before rest : List UInt8) (start : Int) :
    readSwitch (between before (bytes ++ rest) start) =
      (.ok (ofBytes (before.length + bytes.length : Nat) bytes .unasked .switch),
        between (before ++ bytes) rest start) := by
  rw [OperandKind.fits_switch] at fits
  rcases exists_front (by omega : 4 ≤ bytes.length) with ⟨count, entries, rfl, counted⟩
  have filled : entries.length = 4 * littleEndian count := by
    rw [List.take_left' counted, List.length_append] at fits
    omega
  rw [readSwitch, List.append_assoc,
    bind_of_ok (readUnsigned_between before (entries ++ rest) start counted),
    bind_of_ok (readDisplacements_between _ [] filled (before ++ count) rest start), get_bind,
    position_between]
  simp [ofBytes, List.drop_left' counted]

theorem readToken_between (resolver : Option Resolver) (kind : ReferenceKind) {bytes : List UInt8}
    (filled : bytes.length = 4) (before rest : List UInt8) (start : Int) :
    readToken resolver kind (between before (bytes ++ rest) start) =
      (((Resolution.ask resolver kind (littleEndian bytes)).map
        (token kind (littleEndian bytes))).mapError DecodeError.host,
        between (before ++ bytes) rest start) := by
  rw [readToken, bind_of_ok (readUnsigned_between before rest start filled)]
  cases Resolution.ask resolver kind (littleEndian bytes) <;> rfl

/-- Reading an operand where one of its kind stands: all its bytes are taken, also when asking for
the name of a token fails. -/
theorem read_between (resolver : Option Resolver) {kind : OperandKind} {bytes : List UInt8}
    (fits : kind.Fits bytes) (before rest : List UInt8) (start : Int) :
    read resolver kind (between before (bytes ++ rest) start) =
      (((naming resolver bytes kind).map fun resolution =>
        ofBytes (before.length + bytes.length : Nat) bytes resolution kind).mapError
          DecodeError.host,
        between (before ++ bytes) rest start) := by
  cases kind with
  | none =>
      have empty : bytes = [] := List.length_eq_zero_iff.mp fits
      subst empty
      simp [read, ofBytes, naming, Except.map]
  | switch => exact readSwitch_between fits before rest start
  | branch8 | branch32 => exact readBranch_between fits before rest start
  | int8 | int16 | int32 | int64 => exact bind_of_ok (readSigned_between before rest start fits)
  | float32 => exact bind_of_ok (readSingle_between before rest start fits)
  | float64 | index8 | index16 => exact bind_of_ok (readUnsigned_between before rest start fits)
  | reference kind => exact readToken_between resolver kind fits before rest start

theorem read_short (resolver : Option Resolver) {kind : OperandKind} {width : Nat}
    (fixed : kind.width? = some width) {bytes : List UInt8} (short : bytes.length < width)
    (before : List UInt8) (start : Int) :
    read resolver kind (between before bytes start) =
      (.error (.outOfBounds width before.length (before.length + bytes.length : Nat)),
        between before bytes start) := by
  cases kind with
  | none =>
      cases fixed
      exact absurd short (Nat.not_lt_zero _)
  | switch => cases fixed
  | branch8 | branch32 | int8 | int16 | int32 | int64 =>
      cases fixed
      exact bind_of_error (readSigned_between_short before start short)
  | float32 =>
      cases fixed
      exact bind_of_error (readSingle_between_short before start short)
  | float64 | index8 | index16 | reference kind =>
      cases fixed
      exact bind_of_error (readUnsigned_between_short before start short)

/-- Reading an operand where the grammar says that it stops behind the opcode. -/
theorem read_stops (resolver : Option Resolver) {rest : List UInt8} {opcode : Opcode}
    {error : DecodeError} (before : List UInt8) (start : Int)
    (stops : Stops before.length (before.length + rest.length) rest (some opcode) error) :
    ∃ left cursor, opcode ∈ Opcode.instructionSet ∧ rest = opcode.encoding ++ left ∧
      read resolver opcode.operand (between (before ++ opcode.encoding) left start) =
        (.error error, cursor) := by
  cases stops with
  | cutOperand _ width left listed fixed short =>
      refine ⟨left, between (before ++ opcode.encoding) left start, listed, rfl, ?_⟩
      rw [read_short resolver fixed short]
      simp [Nat.add_assoc]
  | cutCount _ left listed table short =>
      refine ⟨left, between (before ++ opcode.encoding) left start, listed, rfl, ?_⟩
      rw [table, read, readSwitch, bind_of_error (readUnsigned_between_short _ start short)]
      simp [Opcode.size_of_switch opcode listed table, Nat.add_assoc]
  | cutTable _ count entries listed table counted short =>
      rcases readDisplacements_short [] short (before ++ opcode.encoding ++ count) start with
        ⟨cursor, stopped⟩
      refine ⟨count ++ entries, cursor, listed, rfl, ?_⟩
      rw [table, read, readSwitch, bind_of_ok (readUnsigned_between _ entries start counted),
        bind_of_error stopped]
      have single := Opcode.size_of_switch opcode listed table
      have place : before.length + 5 + 4 * ((before.length +
          (opcode.encoding ++ (count ++ entries)).length - before.length - 5) / 4) =
          (before ++ opcode.encoding ++ count).length + 4 * (entries.length / 4) := by
        simp only [List.length_append, Opcode.length_encoding, single, counted]
        omega
      rw [place]
      simp [Nat.add_assoc]

/-- Reading an operand where reading ends behind the opcode. -/
theorem read_halts {resolver : Option Resolver} {rest : List UInt8} {opcode : Opcode}
    {error : DecodeError} (before : List UInt8) (start : Int)
    (halts : Halts resolver before.length (before.length + rest.length) rest (some opcode) error) :
    ∃ left cursor, opcode ∈ Opcode.instructionSet ∧ rest = opcode.encoding ++ left ∧
      read resolver opcode.operand (between (before ++ opcode.encoding) left start) =
        (.error error, cursor) := by
  cases halts with
  | stops stops => exact read_stops resolver before start stops
  | untold code behind failure asked =>
      have failed : naming resolver code.operand code.opcode.operand = .error failure := asked
      refine ⟨code.operand ++ behind, between (before ++ code.opcode.encoding ++ code.operand) behind
        start, code.listed, List.append_assoc _ _ _, ?_⟩
      rw [read_between resolver code.fits, failed]
      rfl

end Operand

/-! ## Instructions -/

namespace Code

theorem readOpcode_bytes (code : Code) (before rest : List UInt8) (start : Int) :
    readOpcode (between before (code.bytes ++ rest) start) =
      (.ok code.opcode,
        between (before ++ code.opcode.encoding) (code.operand ++ rest) before.length) := by
  rw [bytes, List.append_assoc]
  exact readOpcode_encoding code.listed before (code.operand ++ rest) start

theorem readOperand_bytes {resolver : Option Resolver} {code : Code}
    (readable : code.IsReadable resolver) (before rest : List UInt8) (start : Int) :
    Operand.read resolver code.opcode.operand
        (between (before ++ code.opcode.encoding) (code.operand ++ rest) start) =
      (.ok (code.instructionAt resolver before.length).operand,
        between (before ++ code.bytes) rest start) := by
  have asked : Operand.naming resolver code.operand code.opcode.operand = _ := readable.naming_eq
  rw [Operand.read_between resolver code.fits, asked]
  simp [instructionAt, bytes, Nat.add_assoc, Except.map]

theorem atEnd_bytes (code : Code) (before rest : List UInt8) (start : Int) :
    ¬ (between before (code.bytes ++ rest) start).atEnd = true := by
  have left : code.bytes ++ rest ≠ [] := by simp [code.bytes_ne_nil]
  rw [atEnd_between_of_ne_nil before start left]
  decide

end Code

namespace Halts

theorem atEnd_rest {resolver : Option Resolver} {offset length : Nat} {rest : List UInt8}
    {known : Option Opcode} {error : DecodeError}
    (halts : Halts resolver offset length rest known error) (before : List UInt8) (start : Int) :
    ¬ (between before rest start).atEnd = true := by
  rw [atEnd_between_of_ne_nil before start halts.ne_nil]
  decide

theorem stops_of_none {resolver : Option Resolver} {offset length : Nat} {rest : List UInt8}
    {error : DecodeError} (halts : Halts resolver offset length rest none error) :
    Stops offset length rest none error := by
  cases halts with
  | stops stops => exact stops

end Halts

namespace Instruction

theorem read_end (resolver : Option Resolver) (before : List UInt8) (start : Int) :
    read resolver (between before [] start) = (.ok none, between before [] start) := by
  rw [read, get_bind, if_pos (atEnd_between_nil before start), pure_apply]

/-- Reading where an instruction begins gives it, and leaves what stands behind it. -/
theorem read_code {resolver : Option Resolver} {code : Code} (readable : code.IsReadable resolver)
    (before rest : List UInt8) (start : Int) :
    read resolver (between before (code.bytes ++ rest) start) =
      (.ok (some (code.instructionAt resolver before.length)),
        between (before ++ code.bytes) rest before.length) := by
  rw [read, get_bind, if_neg (code.atEnd_bytes before rest start), get_bind, position_between,
    bind_of_ok (code.readOpcode_bytes before rest start),
    bind_of_ok (Code.readOperand_bytes readable before rest _), get_bind, pure_apply,
    instructionBytes_between]
  rfl

/-- Reading where it ends early. -/
theorem read_halts {resolver : Option Resolver} {rest : List UInt8} {known : Option Opcode}
    {error : DecodeError} (before : List UInt8) (start : Int)
    (halts : Halts resolver before.length (before.length + rest.length) rest known error) :
    ∃ cursor, read resolver (between before rest start) = (.error error, cursor) := by
  rw [read, get_bind, if_neg (halts.atEnd_rest before start), get_bind]
  cases known with
  | none =>
      rcases readOpcode_stops before start halts.stops_of_none with ⟨cursor, stopped⟩
      exact ⟨cursor, bind_of_error stopped⟩
  | some opcode =>
      rcases Operand.read_halts before before.length halts with ⟨left, cursor, listed, rfl, stopped⟩
      refine ⟨cursor, ?_⟩
      rw [bind_of_ok (readOpcode_encoding listed before left start), bind_of_error stopped]

end Instruction

/-! ## One result only -/

namespace Code

end Code

namespace Halts

variable {resolver : Option Resolver}

theorem unique {before rest : List UInt8} {known other : Option Opcode}
    {error otherError : DecodeError}
    (halts : Halts resolver before.length (before.length + rest.length) rest known error)
    (others : Halts resolver before.length (before.length + rest.length) rest other otherError) :
    otherError = error := by
  rcases Instruction.read_halts before 0 halts with ⟨cursor, stopped⟩
  rcases Instruction.read_halts before 0 others with ⟨otherCursor, otherStopped⟩
  rw [stopped] at otherStopped
  cases otherStopped
  rfl

end Halts

theorem Stops.unique {before rest : List UInt8} {known other : Option Opcode}
    {error otherError : DecodeError}
    (stops : Stops before.length (before.length + rest.length) rest known error)
    (others : Stops before.length (before.length + rest.length) rest other otherError) :
    otherError = error :=
  (Halts.stops stops : Halts none _ _ _ _ _).unique (.stops others)

end CilTrace
