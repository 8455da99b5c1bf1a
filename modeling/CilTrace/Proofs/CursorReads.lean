import CilTrace.Cursor

/-!
What the reads of a cursor do when the cursor stands inside its body.

Such a cursor splits the body into the bytes before it and the bytes that are left. A read takes
bytes off the front of what is left, or finds too few of them and leaves the cursor where it is.
-/

namespace CilTrace

/-! ## Steps one after another -/

section Steps

variable {ε σ α β : Type} {step : ExceptT ε (StateM σ) α} {next : α → ExceptT ε (StateM σ) β}
  {state reached : σ}

theorem bind_of_ok {value : α} (run : step state = (.ok value, reached)) :
    (step >>= next) state = next value reached := by
  change ExceptT.bindCont next (step state).1 (step state).2 = next value reached
  rw [run]
  rfl

theorem bind_of_error {error : ε} (run : step state = (.error error, reached)) :
    (step >>= next) state = (.error error, reached) := by
  change ExceptT.bindCont next (step state).1 (step state).2 = (.error error, reached)
  rw [run]
  rfl

@[simp] theorem pure_apply (value : α) (state : σ) :
    (pure value : ExceptT ε (StateM σ) α) state = (.ok value, state) := rfl

theorem get_bind (next : σ → ExceptT ε (StateM σ) β) (state : σ) :
    ((get : ExceptT ε (StateM σ) σ) >>= next) state = next state state := rfl

theorem set_bind (next : PUnit → ExceptT ε (StateM σ) β) (state reached : σ) :
    ((set reached : ExceptT ε (StateM σ) PUnit) >>= next) state = next ⟨⟩ reached := rfl

theorem throw_bind (next : α → ExceptT ε (StateM σ) β) (error : ε) (state : σ) :
    ((throw error : ExceptT ε (StateM σ) α) >>= next) state = (.error error, state) := rfl

@[simp] theorem mapError_ok {δ : Type} (change : ε → δ) (value : α) :
    (Except.ok value : Except ε α).mapError change = .ok value := rfl

@[simp] theorem mapError_error {δ : Type} (change : ε → δ) (error : ε) :
    (Except.error error : Except ε α).mapError change = .error (change error) := rfl

/-- A result that is brought into a step, with its errors under another name. -/
theorem mapError_bind_of_ok {ε' : Type} {result : Except ε' α} {value : α}
    (ok : result = .ok value) (change : ε' → ε) (next : α → ExceptT ε (StateM σ) β) (state : σ) :
    ((liftM (result.mapError change) : ExceptT ε (StateM σ) α) >>= next) state =
      next value state := by
  subst ok
  rfl

end Steps

/-! ## Results one after another -/

section Results

variable {ε α β : Type} {result : Except ε α} {next : α → Except ε β}

theorem bind_eq_ok_iff {value : β} :
    (result >>= next) = .ok value ↔ ∃ first, result = .ok first ∧ next first = .ok value := by
  cases result with
  | error error => simp [bind, Except.bind]
  | ok first => simp [bind, Except.bind]

theorem bind_eq_error_iff {error : ε} :
    (result >>= next) = .error error ↔
      result = .error error ∨ ∃ first, result = .ok first ∧ next first = .error error := by
  cases result with
  | error error => simp [bind, Except.bind]
  | ok first => simp [bind, Except.bind]

end Results

/-! ## Numbers that can be written -/

theorem Numeral.write_of_writable {number : Int} (short : isWritable number = true) :
    write number = .ok (decimal number) :=
  if_pos short

theorem Numeral.write_of_long {number : Int} (long : ¬ isWritable number = true) :
    write number = .error .tooLongToWrite :=
  if_neg long

theorem Numeral.isWritable_of_digit {number : Int} (digit : number.natAbs < 10) :
    isWritable number = true := by
  have within : ∀ digits, 0 < digits → number.natAbs < Nat.pow 10 digits := fun digits some =>
    Nat.lt_of_lt_of_le digit (Nat.le_pow some)
  exact decide_eq_true (within maxDigits (by decide))

namespace Cursor

/-! ## Cursors inside a body -/

/-- The cursor that has `before` behind it and `rest` in front of it. -/
def between (before rest : List UInt8) (start : Int) : Cursor :=
  ⟨(before ++ rest).toArray, before.length, start⟩

theorem openAt_zero (data : Array UInt8) :
    openAt (some data) 0 = .ok (between [] data.toList 0) := by
  simp [openAt, between]

/-- A cursor inside its body has some bytes behind it and the others in front. -/
theorem exists_between_of_inside {cursor : Cursor} (low : 0 ≤ cursor.position)
    (high : cursor.position ≤ cursor.length) :
    ∃ before rest, cursor = between before rest cursor.instructionStart := by
  rcases cursor with ⟨data, position, start⟩
  simp only [length] at low high
  refine ⟨data.toList.take position.toNat, data.toList.drop position.toNat, ?_⟩
  simp only [between, List.take_append_drop, List.length_take, Array.length_toList]
  congr 1
  omega

theorem exists_between_of_openAt {body : Option (Array UInt8)} {offset : Int} {cursor : Cursor}
    (opened : openAt body offset = .ok cursor) :
    ∃ before rest, body = some (before ++ rest).toArray ∧
      cursor = between before rest before.length := by
  unfold openAt at opened
  split at opened
  · cases opened
  · next data =>
      split at opened
      · next inside =>
          cases opened
          have low : 0 ≤ (⟨data, offset, offset⟩ : Cursor).position := inside.1
          rcases exists_between_of_inside low inside.2 with ⟨before, rest, same⟩
          have place : offset = before.length := congrArg position same
          have whole : data = (before ++ rest).toArray := congrArg Cursor.data same
          refine ⟨before, rest, congrArg some whole, ?_⟩
          rw [same]
          exact congrArg (between before rest) place
      · cases opened

@[simp] theorem length_between (before rest : List UInt8) (start : Int) :
    (between before rest start).length = before.length + rest.length := by
  simp [between, length]

@[simp] theorem position_between (before rest : List UInt8) (start : Int) :
    (between before rest start).position = before.length := rfl

theorem atEnd_between_nil (before : List UInt8) (start : Int) :
    (between before [] start).atEnd = true := by
  simp [atEnd]

theorem atEnd_between_of_ne_nil {rest : List UInt8} (before : List UInt8) (start : Int)
    (left : rest ≠ []) : (between before rest start).atEnd = false := by
  have positive := List.length_pos_iff.mpr left
  simp only [atEnd, length_between, position_between, decide_eq_false_iff_not]
  omega

theorem index_of_le {cursor : Cursor} {place : Nat} (within : place ≤ cursor.length) :
    cursor.index place = place := by
  have notBelow : ¬ (place : Int) < 0 := by omega
  rw [index, if_neg notBelow, Int.toNat_natCast]
  exact Nat.min_eq_left within

theorem slice_between (before bytes rest : List UInt8) (start : Int) :
    (between before (bytes ++ rest) start).slice before.length
      (before.length + bytes.length : Nat) = bytes := by
  rw [slice, index_of_le (by simp), index_of_le (by simp)]
  simp [between]

/-- The bytes since an opcode began at the end of `before`. -/
theorem instructionBytes_between (before bytes rest : List UInt8) :
    (between (before ++ bytes) rest before.length).instructionBytes = bytes := by
  have sliced := slice_between before bytes rest before.length
  simpa [instructionBytes, between, slice, index, length] using sliced

/-! ## Taking bytes -/

theorem take_between (before bytes rest : List UInt8) (start : Int) :
    take bytes.length (between before (bytes ++ rest) start) =
      (.ok bytes, between (before ++ bytes) rest start) := by
  have enough : ¬ ((between before (bytes ++ rest) start).length : Int) <
      (between before (bytes ++ rest) start).position + bytes.length := by
    simp only [length_between, position_between, List.length_append]
    omega
  have notBelow : ¬ (between before (bytes ++ rest) start).position < lowestPlace := by
    simp only [position_between, lowestPlace]
    omega
  have inside : ¬ (between before (bytes ++ rest) start).position < 0 := by
    simp
  rw [take, get_bind, if_neg enough]
  simp only [if_neg notBelow, if_neg (fun both => inside (And.left both))]
  rw [set_bind, position_between, index_of_le (by simp)]
  simp [between]

theorem take_between_short {size : Nat} {rest : List UInt8} (before : List UInt8) (start : Int)
    (short : rest.length < size) :
    take size (between before rest start) =
      (.error (.outOfBounds size before.length (before.length + rest.length : Nat)),
        between before rest start) := by
  have tooFew : ((between before rest start).length : Int) <
      (between before rest start).position + size := by
    simp only [length_between, position_between]
    omega
  rw [take, get_bind, if_pos tooFew, throw_bind]
  simp

theorem takeBytes_between (before bytes rest : List UInt8) (start : Int) :
    takeBytes bytes.length (between before (bytes ++ rest) start) =
      (.ok bytes, between (before ++ bytes) rest start) := by
  have enough : ¬ ((bytes.length : Int) < 0 ∨
      ((between before (bytes ++ rest) start).length : Int) <
        (between before (bytes ++ rest) start).position + bytes.length) := by
    simp only [length_between, position_between, List.length_append]
    omega
  have sliced := slice_between before bytes rest start
  rw [takeBytes, get_bind, if_neg enough]
  dsimp only
  rw [set_bind, position_between, ← Int.natCast_add, sliced]
  simp [between]

/-- A size that is negative or too large is refused. -/
theorem takeBytes_refused {size : Int} {rest : List UInt8} (before : List UInt8) (start : Int)
    (refused : size < 0 ∨ (rest.length : Int) < size) :
    takeBytes size (between before rest start) =
      (.error (.short size before.length (before.length + rest.length : Nat)),
        between before rest start) := by
  have tooFew : size < 0 ∨ ((between before rest start).length : Int) <
      (between before rest start).position + size := by
    simp only [length_between, position_between]
    omega
  rw [takeBytes, get_bind, if_pos tooFew, throw_bind]
  simp

/-! ## Numbers -/

/-- The number that bytes spell in two's complement. -/
def signedValue (bytes : List UInt8) : Int :=
  Int.bmod (littleEndian bytes) (Nat.pow 0x100 bytes.length)

section Numbers

variable {size : Nat} {bytes : List UInt8}

theorem readUnsigned_between (before rest : List UInt8) (start : Int)
    (filled : bytes.length = size) :
    readUnsigned size (between before (bytes ++ rest) start) =
      (.ok (littleEndian bytes), between (before ++ bytes) rest start) := by
  subst filled
  exact bind_of_ok (take_between before bytes rest start)

theorem readUnsigned_between_short (before : List UInt8) (start : Int)
    (short : bytes.length < size) :
    readUnsigned size (between before bytes start) =
      (.error (.outOfBounds size before.length (before.length + bytes.length : Nat)),
        between before bytes start) :=
  bind_of_error (take_between_short before start short)

theorem readUnsigned_byte (before rest : List UInt8) (start : Int) (byte : UInt8) :
    readUnsigned 1 (between before (byte :: rest) start) =
      (.ok byte.toNat, between (before ++ [byte]) rest start) := by
  have read := readUnsigned_between before rest start (rfl : [byte].length = 1)
  simpa [littleEndian] using read

theorem readSigned_between (before rest : List UInt8) (start : Int)
    (filled : bytes.length = size) :
    readSigned size (between before (bytes ++ rest) start) =
      (.ok (signedValue bytes), between (before ++ bytes) rest start) := by
  subst filled
  exact bind_of_ok (take_between before bytes rest start)

theorem readSigned_between_short (before : List UInt8) (start : Int)
    (short : bytes.length < size) :
    readSigned size (between before bytes start) =
      (.error (.outOfBounds size before.length (before.length + bytes.length : Nat)),
        between before bytes start) :=
  bind_of_error (take_between_short before start short)

theorem readSingle_between (before rest : List UInt8) (start : Int) (filled : bytes.length = 4) :
    readSingle (between before (bytes ++ rest) start) =
      (.ok (littleEndian bytes), between (before ++ bytes) rest start) := by
  have taken : takeBytes 4 (between before (bytes ++ rest) start) =
      (.ok bytes, between (before ++ bytes) rest start) := by
    have sized := takeBytes_between before bytes rest start
    rw [filled] at sized
    exact sized
  rw [readSingle, bind_of_ok taken, if_pos filled, pure_apply]

theorem readSingle_between_short (before : List UInt8) (start : Int) (short : bytes.length < 4) :
    readSingle (between before bytes start) =
      (.error (.outOfBounds 4 before.length (before.length + bytes.length : Nat)),
        between before bytes start) := by
  have refused := takeBytes_refused before start (.inr (by omega : (bytes.length : Int) < 4))
  have left : max ((before.length + bytes.length : Nat) - (before.length : Int)) 0 =
      bytes.length := by
    omega
  have told : DecodeError.short 4 before.length (before.length + bytes.length : Nat) =
      .outOfBounds 4 before.length (before.length + bytes.length : Nat) := by
    have needed : Numeral.isWritable 4 = true := Numeral.isWritable_of_digit (by decide)
    have few : Numeral.isWritable bytes.length = true := Numeral.isWritable_of_digit (by omega)
    rw [DecodeError.short, left, needed, few]
    rfl
  rw [told] at refused
  exact bind_of_error refused

end Numbers

end Cursor

end CilTrace
