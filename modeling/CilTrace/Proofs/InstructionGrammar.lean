import CilTrace.Instruction
import CilTrace.Proofs.ToldFailures

/-!
The grammar of method bodies.

An instruction in its bytes is an opcode of the instruction set followed by an operand of the
length that its kind asks for. `Code` holds one, `Stops` says how reading fails where none begins,
and every byte sequence that is not empty does one or the other.

Reading an instruction also asks what its token names. `Code.IsReadable` says that this ends well:
the token is named, or the failure to name it has a text. `Halts` says how reading ends otherwise.
-/

namespace CilTrace

/-! ## Operand bytes -/

namespace OperandKind

/-- The number of bytes of an operand, where the kind alone decides it. -/
def width? : OperandKind → Option Nat
  | none => some 0
  | int8 | index8 | branch8 => some 1
  | int16 | index16 => some 2
  | int32 | float32 | branch32 | reference _ => some 4
  | int64 | float64 => some 8
  | switch => .none

/-- Whether bytes have the length that an operand asks for. A jump table says in its first four
bytes how many entries of four bytes follow. -/
def Fits (kind : OperandKind) (bytes : List UInt8) : Prop :=
  bytes.length = kind.width?.getD (4 + 4 * Cursor.littleEndian (bytes.take 4))

instance (kind : OperandKind) (bytes : List UInt8) : Decidable (kind.Fits bytes) :=
  inferInstanceAs (Decidable (_ = _))

theorem fits_of_width {kind : OperandKind} {width : Nat} (fixed : kind.width? = some width)
    (bytes : List UInt8) : kind.Fits bytes ↔ bytes.length = width := by
  simp [Fits, fixed]

theorem fits_switch (bytes : List UInt8) :
    switch.Fits bytes ↔ bytes.length = 4 + 4 * Cursor.littleEndian (bytes.take 4) := by
  simp [Fits, width?]

/-- A jump table at the front of bytes that hold as many whole entries as its count says. -/
theorem fits_switch_take {bytes : List UInt8} (counted : 4 ≤ bytes.length)
    (enough : Cursor.littleEndian (bytes.take 4) ≤ (bytes.drop 4).length / 4) :
    switch.Fits (bytes.take (4 + 4 * Cursor.littleEndian (bytes.take 4))) := by
  have sameCount : (bytes.take (4 + 4 * Cursor.littleEndian (bytes.take 4))).take 4 =
      bytes.take 4 := by
    rw [List.take_take, Nat.min_eq_left (Nat.le_add_right 4 _)]
  rw [List.length_drop] at enough
  rw [fits_switch, sameCount, List.length_take]
  omega

theorem width?_eq_none {kind : OperandKind} : kind.width? = .none ↔ kind = switch := by
  cases kind <;> simp [width?]

end OperandKind

namespace Operand

/-- The displacements in the entries of a jump table. -/
def displacements : List UInt8 → List Int
  | first :: second :: third :: fourth :: entries =>
      Cursor.signedValue [first, second, third, fourth] :: displacements entries
  | _ => []

/-- What comes of asking for the name of the token, if the operand is one. -/
def naming (resolver : Option Resolver) (bytes : List UInt8) :
    OperandKind → Except HostFailure Resolution
  | .reference kind => Resolution.ask resolver kind (Cursor.littleEndian bytes)
  | _ => .ok .unasked

/-- What the bytes of an operand say, if the operand ends at `stop` and asking for the name of a
token came to `resolution`. -/
def ofBytes (stop : Int) (bytes : List UInt8) (resolution : Resolution) : OperandKind → Operand
  | .none => .none
  | .int8 | .int16 | .int32 | .int64 => .int (Cursor.signedValue bytes)
  | .float32 => .single (Cursor.littleEndian bytes)
  | .float64 => .double (Cursor.littleEndian bytes)
  | .index8 => .index8 (Cursor.littleEndian bytes)
  | .index16 => .index16 (Cursor.littleEndian bytes)
  | .branch8 | .branch32 => .target (wrap (Cursor.signedValue bytes + stop))
  | .switch => .targets ((displacements (bytes.drop 4)).map fun displacement =>
      wrap (displacement + stop))
  | .reference kind => .token kind (Cursor.littleEndian bytes) resolution

end Operand

/-! ## The instruction set -/

namespace Opcode

theorem findIn_of_mem {opcodes : List Opcode} (distinct : (opcodes.map id).Nodup) {opcode : Opcode}
    (member : opcode ∈ opcodes) : findIn opcodes opcode.id = some opcode := by
  induction opcodes with
  | nil => cases member
  | cons head tail induction =>
      have parts := List.nodup_cons.mp distinct
      rcases List.mem_cons.mp member with rfl | member
      · simp [findIn]
      · have different : head.id ≠ opcode.id := fun equal =>
          parts.1 (equal ▸ List.mem_map_of_mem member)
        have found := induction parts.2 member
        simpa [findIn, different] using found

theorem find?_eq_some_iff {number : Nat} {opcode : Opcode} :
    find? number = some opcode ↔ opcode ∈ instructionSet ∧ opcode.id = number := by
  constructor
  · intro found
    unfold find? findIn at found
    exact ⟨List.mem_of_find?_eq_some found, by simpa using List.find?_some found⟩
  · rintro ⟨member, rfl⟩
    exact findIn_of_mem instructionSet_ids_nodup member

/-- Opcodes of one byte keep clear of the page byte, and all others stand on its page. -/
theorem instructionSet_pages : ∀ opcode ∈ instructionSet,
    opcode.id ≤ 0xFF ∧ opcode.id ≠ pageByte.toNat ∨
      0xFE00 ≤ opcode.id ∧ opcode.id ≤ 0xFEFF := by
  decide +kernel

theorem encoding_of_id_eq_byte {opcode : Opcode} {byte : UInt8} (same : opcode.id = byte.toNat) :
    opcode.encoding = [byte] := by
  have small : ¬ 0xFF < opcode.id := by
    have below := byte.toNat_lt
    omega
  rw [encoding, if_neg small, same, UInt8.ofNat_toNat]

theorem encoding_of_id_on_page {opcode : Opcode} {byte : UInt8}
    (same : opcode.id = 0xFE00 + byte.toNat) : opcode.encoding = [pageByte, byte] := by
  have bound := byte.toNat_lt
  have large : 0xFF < opcode.id := by omega
  have high : opcode.id / 0x100 = 0xFE := by omega
  have low : opcode.id % 0x100 = byte.toNat := by omega
  rw [encoding, if_pos large, high, low, UInt8.ofNat_toNat]
  rfl

/-- The two forms of an encoded opcode. -/
theorem encoding_cases {opcode : Opcode} (member : opcode ∈ instructionSet) :
    (∃ byte, byte ≠ pageByte ∧ opcode.id = byte.toNat ∧ opcode.encoding = [byte]) ∨
      ∃ byte : UInt8, opcode.id = 0xFE00 + byte.toNat ∧ opcode.encoding = [pageByte, byte] := by
  rcases instructionSet_pages opcode member with ⟨small, clear⟩ | ⟨low, high⟩
  · have same : opcode.id = (UInt8.ofNat opcode.id).toNat := by
      rw [UInt8.toNat_ofNat']
      omega
    refine .inl ⟨UInt8.ofNat opcode.id, ?_, same, encoding_of_id_eq_byte same⟩
    intro equal
    exact clear (equal ▸ same)
  · have same : opcode.id = 0xFE00 + (UInt8.ofNat opcode.id).toNat := by
      rw [UInt8.toNat_ofNat']
      omega
    exact .inr ⟨UInt8.ofNat opcode.id, same, encoding_of_id_on_page same⟩

theorem size_of_switch : ∀ opcode ∈ instructionSet, opcode.operand = .switch → opcode.size = 1 := by
  decide +kernel

@[simp] theorem length_encoding (opcode : Opcode) : opcode.encoding.length = opcode.size := by
  unfold encoding size
  split <;> rfl

theorem encoding_ne_nil (opcode : Opcode) : opcode.encoding ≠ [] := by
  unfold encoding
  split <;> simp

end Opcode

/-! ## Instructions in their bytes -/

/-- An opcode of the instruction set and operand bytes of the length that it asks for. -/
structure Code where
  opcode : Opcode
  operand : List UInt8
  listed : opcode ∈ Opcode.instructionSet
  fits : opcode.operand.Fits operand

namespace Code

def bytes (code : Code) : List UInt8 :=
  code.opcode.encoding ++ code.operand

theorem bytes_ne_nil (code : Code) : code.bytes ≠ [] := by
  simp [bytes, code.opcode.encoding_ne_nil]

theorem length_bytes_pos (code : Code) : 0 < code.bytes.length :=
  List.length_pos_iff.mpr code.bytes_ne_nil

/-- The bytes of consecutive instructions. -/
def joined (codes : List Code) : List UInt8 :=
  codes.flatMap bytes

@[simp] theorem joined_nil : joined [] = [] := rfl

@[simp] theorem joined_cons (code : Code) (codes : List Code) :
    joined (code :: codes) = code.bytes ++ joined codes := rfl

theorem joined_append (codes others : List Code) :
    joined (codes ++ others) = joined codes ++ joined others :=
  List.flatMap_append

theorem length_le_length_joined (codes : List Code) : codes.length ≤ (joined codes).length := by
  induction codes with
  | nil => simp
  | cons code codes induction =>
      have positive := code.length_bytes_pos
      simp only [joined_cons, List.length_cons, List.length_append]
      omega

theorem length_lt_length_joined_append (codes : List Code) {rest : List UInt8}
    (left : rest ≠ []) : codes.length < (joined codes ++ rest).length := by
  have codesLength := length_le_length_joined codes
  have restLength := List.length_pos_iff.mpr left
  rw [List.length_append]
  omega

/-! ### Names of tokens -/

section Naming

variable (resolver : Option Resolver)

/-- What comes of asking for the name of the token of an instruction. -/
def naming (code : Code) : Except HostFailure Resolution :=
  Operand.naming resolver code.operand code.opcode.operand

/-- Whether the token of an instruction is named, or the failure to name it has a text. -/
def IsReadable (code : Code) : Prop :=
  ∃ resolution, code.naming resolver = .ok resolution

/-- What the name of the token came to, for an instruction that can be read. -/
def resolution (code : Code) : Resolution :=
  (code.naming resolver).toOption.getD .unasked

variable {resolver}

theorem IsReadable.naming_eq {code : Code} (readable : code.IsReadable resolver) :
    code.naming resolver = .ok (code.resolution resolver) := by
  rcases readable with ⟨resolution, asked⟩
  rw [Code.resolution, asked]
  rfl

theorem isReadable_or_error (resolver : Option Resolver) (code : Code) :
    code.IsReadable resolver ∨ ∃ failure, code.naming resolver = .error failure := by
  cases asked : code.naming resolver with
  | ok resolution => exact .inl ⟨resolution, asked⟩
  | error failure => exact .inr ⟨failure, rfl⟩

theorem isReadable_of_told (told : FailuresAreTold resolver) (code : Code) :
    code.IsReadable resolver := by
  unfold IsReadable naming Operand.naming
  split
  · exact Resolution.exists_ask told _ _
  · exact ⟨.unasked, rfl⟩

/-- Without a resolver every instruction can be read. -/
theorem isReadable_none (code : Code) : code.IsReadable none :=
  isReadable_of_told failuresAreTold_none code

variable (resolver)

/-- The instruction that the bytes stand for at an offset. -/
def instructionAt (offset : Nat) (code : Code) : Instruction :=
  ⟨offset, code.opcode,
    Operand.ofBytes (offset + code.bytes.length : Nat) code.operand (code.resolution resolver)
      code.opcode.operand, code.bytes⟩

@[simp] theorem offset_instructionAt (offset : Nat) (code : Code) :
    (code.instructionAt resolver offset).offset = offset := rfl

@[simp] theorem opcode_instructionAt (offset : Nat) (code : Code) :
    (code.instructionAt resolver offset).opcode = code.opcode := rfl

@[simp] theorem bytes_instructionAt (offset : Nat) (code : Code) :
    (code.instructionAt resolver offset).bytes = code.bytes := rfl

/-- The instructions that consecutive bytes stand for, the first one at an offset. -/
def instructionsFrom : Nat → List Code → List Instruction
  | _, [] => []
  | offset, code :: codes =>
      code.instructionAt resolver offset :: instructionsFrom (offset + code.bytes.length) codes

theorem instructionsFrom_append (offset : Nat) (codes others : List Code) :
    instructionsFrom resolver offset (codes ++ others) =
      instructionsFrom resolver offset codes ++
        instructionsFrom resolver (offset + (joined codes).length) others := by
  induction codes generalizing offset with
  | nil => rfl
  | cons code codes induction =>
      simp [instructionsFrom, induction, Nat.add_assoc]

end Naming

end Code

/-! ## Where no instruction begins -/

/--
How reading stops at bytes that are left at `offset` of a body of `length` bytes: the opcode, if it
could still be read, and the error.
-/
inductive Stops (offset length : Nat) : List UInt8 → Option Opcode → DecodeError → Prop where
  /-- One byte that is no opcode. -/
  | unknownByte (byte : UInt8) (rest : List UInt8) (single : byte ≠ Opcode.pageByte)
      (unknown : Opcode.find? byte.toNat = none) :
      Stops offset length (byte :: rest) none (.unknownOpcode byte.toNat (some offset))
  /-- The page byte at the end of the body. -/
  | cutPage : Stops offset length [Opcode.pageByte] none (.outOfBounds 1 length length)
  /-- A byte that is no opcode of the page. -/
  | unknownOnPage (byte : UInt8) (rest : List UInt8)
      (unknown : Opcode.find? (0xFE00 + byte.toNat) = none) :
      Stops offset length (Opcode.pageByte :: byte :: rest) none
        (.unknownOpcode (0xFE00 + byte.toNat : Nat) (some offset))
  /-- Fewer bytes than an operand of fixed width takes. -/
  | cutOperand (opcode : Opcode) (width : Nat) (rest : List UInt8)
      (listed : opcode ∈ Opcode.instructionSet) (fixed : opcode.operand.width? = some width)
      (short : rest.length < width) :
      Stops offset length (opcode.encoding ++ rest) (some opcode)
        (.outOfBounds width (offset + opcode.size : Nat) length)
  /-- Fewer bytes than the count of a jump table takes. -/
  | cutCount (opcode : Opcode) (rest : List UInt8) (listed : opcode ∈ Opcode.instructionSet)
      (table : opcode.operand = .switch) (short : rest.length < 4) :
      Stops offset length (opcode.encoding ++ rest) (some opcode)
        (.outOfBounds 4 (offset + 1 : Nat) length)
  /-- Fewer whole entries than the count of a jump table says. -/
  | cutTable (opcode : Opcode) (count entries : List UInt8)
      (listed : opcode ∈ Opcode.instructionSet) (table : opcode.operand = .switch)
      (counted : count.length = 4) (short : entries.length / 4 < Cursor.littleEndian count) :
      Stops offset length (opcode.encoding ++ (count ++ entries)) (some opcode)
        (.outOfBounds 4 (offset + 5 + 4 * ((length - offset - 5) / 4) : Nat) length)

namespace Stops

variable {offset length : Nat} {rest : List UInt8} {known : Option Opcode} {error : DecodeError}

theorem ne_nil (stops : Stops offset length rest known error) : rest ≠ [] := by
  cases stops <;> simp [Opcode.encoding_ne_nil]

theorem error_cases (stops : Stops offset length rest known error) :
    (∃ number, error = .unknownOpcode number (some offset)) ∨
      ∃ needed position, error = .outOfBounds needed position length := by
  cases stops with
  | unknownByte | unknownOnPage => exact .inl ⟨_, rfl⟩
  | cutPage | cutOperand | cutCount | cutTable => exact .inr ⟨_, _, rfl⟩

theorem exists_message (stops : Stops offset length rest known error) :
    ∃ reason, error.message = .ok reason := by
  rcases stops.error_cases with ⟨number, rfl⟩ | ⟨needed, position, rfl⟩
  · exact ⟨_, rfl⟩
  · exact ⟨_, rfl⟩

/-- Whether reading stops at some bytes does not hang on where they are. -/
theorem moved (stops : Stops offset length rest known error) (newOffset newLength : Nat) :
    ∃ newError, Stops newOffset newLength rest known newError := by
  cases stops with
  | unknownByte byte rest single unknown => exact ⟨_, .unknownByte byte rest single unknown⟩
  | cutPage => exact ⟨_, .cutPage⟩
  | unknownOnPage byte rest unknown => exact ⟨_, .unknownOnPage byte rest unknown⟩
  | cutOperand opcode width rest listed fixed short =>
      exact ⟨_, .cutOperand opcode width rest listed fixed short⟩
  | cutCount opcode rest listed table short => exact ⟨_, .cutCount opcode rest listed table short⟩
  | cutTable opcode count entries listed table counted short =>
      exact ⟨_, .cutTable opcode count entries listed table counted short⟩

end Stops

/-- Behind an opcode stands an operand of its kind, or reading stops. -/
theorem operand_or_stops {opcode : Opcode} (listed : opcode ∈ Opcode.instructionSet)
    (offset length : Nat) (rest : List UInt8) :
    (∃ operand behind, opcode.operand.Fits operand ∧ rest = operand ++ behind) ∨
      ∃ error, Stops offset length (opcode.encoding ++ rest) (some opcode) error := by
  cases fixed : opcode.operand.width? with
  | some width =>
      by_cases short : rest.length < width
      · exact .inr ⟨_, .cutOperand opcode width rest listed fixed short⟩
      · refine .inl ⟨rest.take width, rest.drop width, ?_, (List.take_append_drop width rest).symm⟩
        rw [OperandKind.fits_of_width fixed, List.length_take]
        omega
  | none =>
      have table := OperandKind.width?_eq_none.mp fixed
      by_cases noCount : rest.length < 4
      · exact .inr ⟨_, .cutCount opcode rest listed table noCount⟩
      · have counted : 4 ≤ rest.length := Nat.le_of_not_lt noCount
        by_cases short : (rest.drop 4).length / 4 < Cursor.littleEndian (rest.take 4)
        · have stop : Stops offset length _ _ _ :=
            .cutTable opcode (rest.take 4) (rest.drop 4) listed table
              (List.length_take_of_le counted) short
          rw [List.take_append_drop] at stop
          exact .inr ⟨_, stop⟩
        · have fits := OperandKind.fits_switch_take counted (Nat.le_of_not_lt short)
          exact .inl ⟨_, _, table ▸ fits, (List.take_append_drop _ rest).symm⟩

theorem code_or_stops_of_opcode {opcode : Opcode} (listed : opcode ∈ Opcode.instructionSet)
    (offset length : Nat) (rest : List UInt8) :
    (∃ (code : Code) (behind : List UInt8), opcode.encoding ++ rest = code.bytes ++ behind) ∨
      ∃ known error, Stops offset length (opcode.encoding ++ rest) known error := by
  rcases operand_or_stops listed offset length rest with ⟨operand, behind, fits, rfl⟩ | stops
  · exact .inl ⟨⟨opcode, operand, listed, fits⟩, behind, by simp [Code.bytes]⟩
  · exact .inr ⟨_, stops⟩

/-- At bytes that are left an instruction begins, or reading stops. -/
theorem code_or_stops (offset length : Nat) {rest : List UInt8} (left : rest ≠ []) :
    (∃ (code : Code) (behind : List UInt8), rest = code.bytes ++ behind) ∨
      ∃ known error, Stops offset length rest known error := by
  match rest with
  | [] => exact absurd rfl left
  | first :: tail =>
      by_cases single : first = Opcode.pageByte
      · subst single
        match tail with
        | [] => exact .inr ⟨_, _, .cutPage⟩
        | second :: tail =>
            cases found : Opcode.find? (0xFE00 + second.toNat) with
            | none => exact .inr ⟨_, _, .unknownOnPage second tail found⟩
            | some opcode =>
                rcases Opcode.find?_eq_some_iff.mp found with ⟨listed, same⟩
                have encoded := Opcode.encoding_of_id_on_page same
                simpa [encoded] using code_or_stops_of_opcode listed offset length tail
      · cases found : Opcode.find? first.toNat with
        | none => exact .inr ⟨_, _, .unknownByte first tail single found⟩
        | some opcode =>
            rcases Opcode.find?_eq_some_iff.mp found with ⟨listed, same⟩
            have encoded := Opcode.encoding_of_id_eq_byte same
            simpa [encoded] using code_or_stops_of_opcode listed offset length tail

/-! ## Where reading ends early -/

/--
How reading ends at bytes that are left: no instruction begins there, or one does and the failure to
name its token has no text.
-/
inductive Halts (resolver : Option Resolver) (offset length : Nat) :
    List UInt8 → Option Opcode → DecodeError → Prop where
  | stops {rest : List UInt8} {known : Option Opcode} {error : DecodeError}
      (stops : Stops offset length rest known error) : Halts resolver offset length rest known error
  | untold (code : Code) (behind : List UInt8) (failure : HostFailure)
      (asked : code.naming resolver = .error failure) :
      Halts resolver offset length (code.bytes ++ behind) (some code.opcode) (.host failure)

namespace Halts

variable {resolver : Option Resolver} {offset length : Nat} {rest : List UInt8}
  {known : Option Opcode} {error : DecodeError}

theorem ne_nil (halts : Halts resolver offset length rest known error) : rest ≠ [] := by
  cases halts with
  | stops stops => exact stops.ne_nil
  | untold code behind failure asked => simp [code.bytes_ne_nil]

/-- Whether reading ends at some bytes does not hang on where they are. -/
theorem moved (halts : Halts resolver offset length rest known error) (newOffset newLength : Nat) :
    ∃ newError, Halts resolver newOffset newLength rest known newError := by
  cases halts with
  | stops stops =>
      rcases stops.moved newOffset newLength with ⟨newError, moved⟩
      exact ⟨newError, .stops moved⟩
  | untold code behind failure asked => exact ⟨_, .untold code behind failure asked⟩

/-- Where every failure has a text, reading ends only where no instruction begins. -/
theorem stops_of_told (halts : Halts resolver offset length rest known error)
    (told : FailuresAreTold resolver) : Stops offset length rest known error := by
  cases halts with
  | stops stops => exact stops
  | untold code behind failure asked =>
      rcases code.isReadable_of_told told with ⟨resolution, readable⟩
      rw [asked] at readable
      cases readable

end Halts

/-- At bytes that are left stands an instruction that can be read, or reading ends. -/
theorem readable_or_halts (resolver : Option Resolver) (offset length : Nat) {rest : List UInt8}
    (left : rest ≠ []) :
    (∃ (code : Code) (behind : List UInt8), code.IsReadable resolver ∧
      rest = code.bytes ++ behind) ∨
      ∃ known error, Halts resolver offset length rest known error := by
  rcases code_or_stops offset length left with ⟨code, behind, rfl⟩ | ⟨known, error, stops⟩
  · rcases code.isReadable_or_error resolver with readable | ⟨failure, asked⟩
    · exact .inl ⟨code, behind, readable, rfl⟩
    · exact .inr ⟨_, _, .untold code behind failure asked⟩
  · exact .inr ⟨known, error, .stops stops⟩

end CilTrace
