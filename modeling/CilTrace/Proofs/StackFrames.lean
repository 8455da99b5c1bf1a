import CilTrace.Proofs.FrameSnippets

/-!
The stack of a host error in its level.

Capturing keeps every entry of a stack, the innermost call first. The name of a function is split at
its last dot, but the line of the call puts both parts together again. An entry knows no offset, so
its line has a place in the source at most, and never a snippet.
-/

namespace CilTrace

namespace StackEntry

/-! ## Names -/

/-- The names of functions that keep all their parts: those without a dot, and those with something
before the last one. -/
inductive KeepsName : String → Prop where
  | plain (name : String) (dotless : '.' ∉ name.toList) : KeepsName name
  | inside (owner name : String) (some : owner ≠ "") (dotless : '.' ∉ name.toList) :
      KeepsName (owner ++ "." ++ name)

/-- The name of a function behind that of its module. -/
def fullName (entry : StackEntry) : String :=
  entry.module.getD "" ++ "." ++ entry.qualifiedName

theorem splitName_plain {name : String} (dotless : '.' ∉ name.toList) :
    splitName name = ("", name) := by
  have whole : name.toList.reverse.takeWhile (· != '.') = name.toList.reverse := by
    rw [List.takeWhile_eq_self_iff]
    intro char member
    have other : char ≠ '.' := fun same => dotless (same ▸ List.mem_reverse.mp member)
    simp [other]
  simp [splitName, whole]

theorem splitName_inside (owner : String) {name : String} (dotless : '.' ∉ name.toList) :
    splitName (owner ++ "." ++ name) = (owner, name) := by
  have last : (owner ++ "." ++ name).toList.reverse.takeWhile (· != '.') =
      name.toList.reverse := by
    have free : ∀ char ∈ name.toList.reverse, (char != '.') = true := by
      intro char member
      have other : char ≠ '.' := fun same => dotless (same ▸ List.mem_reverse.mp member)
      simp [other]
    simp [List.takeWhile_append_of_pos free]
  have count : (owner ++ "." ++ name).toList.length - name.toList.length - 1 =
      owner.toList.length := by
    simp only [String.toList_append, List.length_append]
    have dot : ".".toList.length = 1 := rfl
    omega
  simp only [splitName, last, List.reverse_reverse, count]
  simp

theorem dotless_splitName (name : String) : '.' ∉ (splitName name).2.toList := by
  intro member
  simp only [splitName, String.toList_ofList, List.mem_reverse] at member
  have kept := List.mem_takeWhile_imp member
  simp at kept

/-- The parts of a name behind a module are put together as they were. -/
theorem join_splitName {name : String} (keeps : KeepsName name) (module : String) :
    (if (splitName name).1.isEmpty then module else module ++ "." ++ (splitName name).1) ++ "." ++
      (splitName name).2 = module ++ "." ++ name := by
  cases keeps with
  | plain name dotless =>
      rw [splitName_plain dotless]
      simp
  | inside owner name some dotless =>
      rw [splitName_inside owner dotless]
      simp [some, String.append_assoc]

/-! ## Columns -/

/--
The column of an entry, counted from one: that of the unit of two bytes at which the entry stopped.
It is zero if that place or its column is not known.
-/
inductive ColumnOf (entry : StackEntry) : Int → Prop where
  | unplaced (below : entry.lastInstruction.toInt < 0) : ColumnOf entry 0
  | known (unit : Nat) (start : Int32) (here : entry.lastInstruction.toInt / 2 = unit)
      (found : entry.columns[unit]? = some (some start)) : ColumnOf entry (1 + start.toInt)
  | beyond (unit : Nat) (here : entry.lastInstruction.toInt / 2 = unit)
      (short : entry.columns.length ≤ unit) : ColumnOf entry 0
  | hole (unit : Nat) (here : entry.lastInstruction.toInt / 2 = unit)
      (found : entry.columns[unit]? = some none) : ColumnOf entry 0

theorem columnOf_column (entry : StackEntry) : entry.ColumnOf entry.column := by
  unfold column
  split
  · next below => exact .unplaced below
  · next placed =>
      have here : entry.lastInstruction.toInt / 2 =
          (entry.lastInstruction.toInt.toNat / 2 : Nat) := by omega
      split
      · next start found =>
          rw [Int.add_comm]
          exact .known _ start here found
      · next missing =>
          cases found : entry.columns[entry.lastInstruction.toInt.toNat / 2]? with
          | none => exact .beyond _ here (List.getElem?_eq_none_iff.mp found)
          | some start =>
              cases start with
              | none => exact .hole _ here found
              | some start => exact absurd found (missing start)

theorem column_of_unit {entry : StackEntry} {unit : Nat}
    (here : entry.lastInstruction.toInt / 2 = unit) {start : Option (Option Int32)}
    (found : entry.columns[unit]? = start) :
    entry.column = (start.bind id).elim 0 (·.toInt + 1) := by
  have placed : ¬ entry.lastInstruction.toInt < 0 := by omega
  have same : entry.lastInstruction.toInt.toNat / 2 = unit := by omega
  rw [column, if_neg placed, same, found]
  rcases start with _ | _ | start <;> rfl

/-- An entry has one column only. -/
theorem ColumnOf.eq_column {entry : StackEntry} {column : Int} (shown : entry.ColumnOf column) :
    column = entry.column := by
  cases shown with
  | unplaced below => rw [StackEntry.column, if_pos below]
  | known unit start here found =>
      rw [column_of_unit here found]
      exact Int.add_comm 1 start.toInt
  | beyond unit here short =>
      rw [column_of_unit here (List.getElem?_eq_none_iff.mpr short)]
      rfl
  | hole unit here found =>
      rw [column_of_unit here found]
      rfl

/-! ## Numbers -/

/-- The line of an entry; zero if it is not known. -/
def lineNumber (entry : StackEntry) : Int :=
  (entry.line.map Int32.toInt).getD 0

theorem isWritable_of_word {number : Int} (small : number.natAbs < 0x100000000) :
    Numeral.isWritable number = true := by
  have limit : 0x100000000 ≤ Nat.pow 10 Numeral.maxDigits := by decide +kernel
  exact decide_eq_true (Nat.lt_of_lt_of_le small limit)

theorem natAbs_toInt_lt (number : Int32) : number.toInt.natAbs < 0xFFFFFFFF := by
  have above := number.le_toInt
  have below := number.toInt_lt
  omega

theorem isWritable_lineNumber (entry : StackEntry) :
    Numeral.isWritable entry.lineNumber = true := by
  apply isWritable_of_word
  unfold lineNumber
  cases entry.line with
  | none => decide
  | some line =>
      have bound := natAbs_toInt_lt line
      simp only [Option.map_some, Option.getD_some]
      omega

theorem isWritable_column (entry : StackEntry) : Numeral.isWritable entry.column = true := by
  apply isWritable_of_word
  have shown := entry.columnOf_column
  generalize entry.column = column at shown ⊢
  cases shown with
  | known unit start here found =>
      have bound := natAbs_toInt_lt start
      omega
  | unplaced | beyond | hole => decide

/-! ## Frames and lines -/

/-- What a call frame has of an entry. -/
structure Shows (entry : StackEntry) (frame : CallFrame) : Prop where
  offset : frame.offset = none
  named : KeepsName entry.qualifiedName →
    ∃ owner, frame.declaringType = some owner ∧ owner ++ "." ++ frame.methodName = entry.fullName
  dotless : '.' ∉ frame.methodName.toList
  file : frame.file = some entry.file
  line : frame.line = entry.lineNumber
  column : entry.ColumnOf frame.column

theorem shows_toFrame (entry : StackEntry) : entry.Shows entry.toFrame where
  offset := rfl
  file := rfl
  line := rfl
  column := entry.columnOf_column
  dotless := dotless_splitName entry.qualifiedName
  named := by
    intro keeps
    refine ⟨_, rfl, ?_⟩
    exact join_splitName keeps (entry.module.getD "")

end StackEntry

/-! ## Lines -/

/-- How the line of a call without an offset goes on behind its name. -/
def CallFrame.placeEnding (line column : Int) : String :=
  if line = 0 ∨ column = 0 then ", "
  else " at (" ++ Numeral.decimal line ++ "," ++ Numeral.decimal column ++ "), "

theorem CallFrame.head_eq (frame : CallFrame) :
    frame.head = frame.nameText ++ placeEnding frame.line frame.column := by
  by_cases located : frame.line ≠ 0 ∧ frame.column ≠ 0
  · have known : ¬ (frame.line = 0 ∨ frame.column = 0) := by omega
    have closing : "), " = ")" ++ ", " := rfl
    rw [head, if_pos located, placeEnding, if_neg known, nameText, closing]
    simp only [String.append_assoc]
  · have unknown : frame.line = 0 ∨ frame.column = 0 := by omega
    rw [head, if_neg located, placeEnding, if_pos unknown, nameText, String.append_empty]

namespace StackEntry

/-- The line of an entry: its name, and the place in the source if line and column are known. -/
def ShownBy (entry : StackEntry) (line : String) : Prop :=
  KeepsName entry.qualifiedName → ∀ column, entry.ColumnOf column →
    line = "  in " ++ entry.fullName ++ CallFrame.placeEnding entry.lineNumber column ++ "\n"

theorem isWritable_toFrame (entry : StackEntry) : entry.toFrame.IsWritable where
  location _ _ := ⟨entry.isWritable_lineNumber, entry.isWritable_column⟩
  offset := by rintro offset ⟨⟩

/-- The line of an entry has no snippet. -/
theorem lineText_toFrame (entry : StackEntry) :
    entry.toFrame.lineText = entry.toFrame.head ++ "\n" := by
  have agrees := CallFrame.agreesWith_lineText entry.isWritable_toFrame
    (HostError.saysErrors_toFrame entry)
  exact (agrees.early (by rintro offset ⟨⟩)).2

theorem shownBy_lineText (entry : StackEntry) : entry.ShownBy entry.toFrame.lineText := by
  intro keeps column shown
  rcases entry.shows_toFrame.named keeps with ⟨owner, declared, joined⟩
  have name : entry.toFrame.nameText = "  in " ++ entry.fullName := by
    rw [CallFrame.nameText, declared, ← joined]
    simp [String.append_assoc]
  rw [shown.eq_column, lineText_toFrame, CallFrame.head_eq, name]
  rfl

end StackEntry

/-! ## Levels -/

namespace HostError

theorem text_eq_ok {error : HostError} {message : String} (readable : error.text = .ok message) :
    error.textFailure = none ∧ error.level.message = message := by
  unfold text at readable
  split at readable
  · cases readable
  · next none =>
      cases readable
      exact ⟨none, rfl⟩

/-- The level of an error has the lines of the entries of its stack behind its heading. -/
theorem append_level (error : HostError) (buffer : TextBuffer) :
    (error.level.append buffer).map TextBuffer.toString =
      .ok (buffer.toString ++ ("[" ++ error.typeName ++ " : " ++ error.level.message ++ "]\n" ++
        String.join (error.stack.reverse.map fun entry => entry.toFrame.lineText))) := by
  have whole : ∀ frame ∈ error.frames, frame.lineFailure = none := fun frame member =>
    CallFrame.lineFailure_of_said (saysErrors_frames member)
  have lines : error.frames.map CallFrame.lineText =
      error.stack.reverse.map fun entry => entry.toFrame.lineText := List.map_map
  have block : error.level.block = _ := Level.block_calls error.level whole
  rw [Level.append_eq, block, lines]
  rfl

/--
The level of an error has a call frame and a line for each entry of its stack, the innermost call
first, and nothing else but its heading.
-/
theorem level_shows_stack (error : HostError) {message : String}
    (readable : error.text = .ok message) :
    ∃ (level : Level) (frames : List CallFrame) (lines : List String),
      error.toLevel = .ok level ∧
      level.frames = .list (frames.map .call) ∧
      List.Forall₂ StackEntry.Shows error.stack.reverse frames ∧
      List.Forall₂ StackEntry.ShownBy error.stack.reverse lines ∧
      ∀ buffer, (level.append buffer).map TextBuffer.toString =
        .ok (buffer.toString ++ ("[" ++ error.typeName ++ " : " ++ message ++ "]\n" ++
          String.join lines)) := by
  rcases text_eq_ok readable with ⟨plain, rfl⟩
  refine ⟨error.level, error.stack.reverse.map StackEntry.toFrame,
    error.stack.reverse.map fun entry => entry.toFrame.lineText, toLevel_of_text plain, rfl, ?_, ?_,
    ?_⟩
  · rw [List.forall₂_map_right_iff]
    exact List.forall₂_same.mpr fun entry _ => entry.shows_toFrame
  · rw [List.forall₂_map_right_iff]
    exact List.forall₂_same.mpr fun entry _ => entry.shownBy_lineText
  · intro buffer
    exact error.append_level buffer

/-- A method of a nested class, called where the column is not known. -/
theorem level_shows_stack_of_two_calls :
    let outer : StackEntry :=
      { qualifiedName := "main", module := some "app", file := "app.py", line := some 7,
        lastInstruction := 5, columns := [some 0, some 2] }
    let inner : StackEntry :=
      { qualifiedName := "Outer.Inner.run", module := some "app.core", file := "core.py",
        line := some 12, lastInstruction := 3, columns := [some 0, some 8] }
    let error : HostError :=
      { name := "E", module := "builtins", qualifiedName := "E", message := some "m",
        textFailure := none, cause := none, context := none, suppressContext := false,
        stack := [outer, inner] }
    error.text = .ok "m" ∧
      ∃ level frames, error.toLevel = .ok level ∧
        level.frames = .list (frames.map .call) ∧
        List.Forall₂ StackEntry.Shows [inner, outer] frames ∧
        (level.append (.ofString "")).map TextBuffer.toString =
          .ok "[E : m]\n  in app.core.Outer.Inner.run at (12,9), \n  in app.main, \n" := by
  intro outer inner error
  have readable : error.text = .ok "m" := rfl
  have joined : inner.qualifiedName = "Outer.Inner" ++ "." ++ "run" := by decide
  have innerKeeps : StackEntry.KeepsName inner.qualifiedName := by
    rw [joined]
    exact .inside "Outer.Inner" "run" (by decide) (by decide)
  have outerKeeps : StackEntry.KeepsName outer.qualifiedName := .plain "main" (by decide)
  have innerColumn : inner.ColumnOf 9 := .known 1 8 (by decide) rfl
  have outerColumn : outer.ColumnOf 0 := .beyond 2 (by decide) (by decide)
  rcases level_shows_stack error readable with
    ⟨level, frames, lines, captured, listed, shows, shownLines, text⟩
  refine ⟨readable, level, frames, captured, listed, shows, ?_⟩
  rw [text]
  cases shownLines with
  | cons innerLine rest =>
      cases rest with
      | cons outerLine rest =>
          cases rest
          rw [innerLine innerKeeps 9 innerColumn, outerLine outerKeeps 0 outerColumn]
          decide +kernel

end HostError

end CilTrace
