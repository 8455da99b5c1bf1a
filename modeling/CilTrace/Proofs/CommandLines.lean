import CilTrace.Command.PlainLibrary
import CilTrace.Proofs.DecodeMessages
import CilTrace.Proofs.PathNames

/-!
What is relied on of a library for command lines.

A library is expected to read options that are spelled out, to check the files and numbers that they
name, and to print texts. Nothing else is known about it. The plain library does all this: it reads
every list of options back from its spelling, its checks leave the files as they are, and it takes
nothing out of a text without an escape character.
-/

namespace CilTrace

/-- There is a file with some content under a path, and the path is one that a system takes. -/
structure FileTree.HasFile (tree : FileTree) (path : String) (content : List UInt8) : Prop where
  found : tree.find? path = some (.file content)
  noNull : '\x00' ∉ path.toList

theorem FileTree.HasFile.read_normal {tree : FileTree} {path : String} {content : List UInt8}
    (file : tree.HasFile path content) :
    fileSystem.readBytes (Path.normal path) tree = (.ok content, tree) := by
  have kept := FileTree.read_normal file.found
  change ((tree.read (Path.normal path)).mapError _, tree) = _
  rw [kept]
  rfl

/-- Arguments that ask for the text of one input file on the standard output. The files that they
name are there, and the number that they name is one. -/
structure Arguments.AreSound (tree : FileTree) (arguments : Arguments) (inputFile : String) :
    Prop where
  operands : arguments.operands = [inputFile]
  noVersion : arguments.hasFlag .version = false
  noHelp : arguments.hasFlag .help = false
  noOutput : arguments.value? .output = none
  input : ∃ content, tree.HasFile inputFile content
  symbols : ∀ path, arguments.value? .symbols = some path → ∃ content, tree.HasFile path content
  depth : ∀ text, arguments.value? .maxStack = some text →
    ∃ maxStack, Numeral.read 10 text = .ok maxStack

/-- What the documentation of a library for command lines promises. -/
structure CommandLibrary.WorksAsDocumented (library : CommandLibrary (StateM FileTree)) : Prop where
  /-- Sound arguments that are spelled out make the request that they stand for: flags count when
  they are given, the last value of a setting counts, and a local variable is added for each type.
  The files stay as they are. -/
  parses : ∀ tree arguments inputFile, Arguments.AreSound tree arguments inputFile →
    library.parse FileTree.fileSystem arguments.spelled tree =
      (.ok (arguments.toRequest inputFile), tree)
  /-- Characters may be left out of what is printed, but what is left can be printed. -/
  prints : ∀ text : String, ∃ printed : String, library.echo text = printed
  /-- Nothing but control sequences is left out, and these begin with an escape character. -/
  verbatim : ∀ text : String, Text.HasNoEscape text → library.echo text = text

/-! ## Control sequences -/

theorem Control.dropFrom_sublist (skip : Nat) (points : List CodePoint) :
    (dropFrom skip points).Sublist points := by
  induction points generalizing skip with
  | nil => simp [dropFrom]
  | cons point rest induction =>
      cases skip with
      | succ skip => exact (induction skip).cons point
      | zero =>
          rw [dropFrom]
          split
          · exact (induction _).cons point
          · exact (induction 0).cons_cons point

namespace WideText

theorem exists_withoutControls (text : String) :
    ∃ printed : String, (ofString text).withoutControls = ofString printed := by
  have kept := Control.dropFrom_sublist 0 (ofString text).points
  rcases List.sublist_map_iff.mp kept with ⟨chars, _, points⟩
  refine ⟨String.ofList chars, ?_⟩
  rw [withoutControls, points, ofString, String.toList_ofList]

theorem withoutControls_eq_self {text : String} (free : Text.HasNoEscape text) :
    (ofString text).withoutControls = ofString text := by
  have kept : Control.dropFrom 0 (ofString text).points = (ofString text).points := by
    apply Control.dropFrom_eq_self
    intro point member escape
    rcases List.mem_map.mp member with ⟨char, inside, rfl⟩
    cases escape
    exact free inside
  rw [withoutControls, kept]

end WideText

/-! ## Options -/

namespace Arguments

theorem read_spelled_append (given : GivenOption) (rest : List String) :
    read (given.spelled ++ rest) = (read rest).map (prepend [given]) := by
  cases given with
  | flag given =>
      have argument : OptionArgument.read given.spelling = .ok ⟨[.flag given], none⟩ := by
        cases given <;> decide +kernel
      have option : givesOptions given.spelling = true ∧ given.spelling ≠ "--" := by
        cases given <;> decide +kernel
      change read (given.spelling :: rest) = _
      rw [read.eq_def]
      simp only [option, argument, if_true, if_false]
  | setting given value =>
      have argument : OptionArgument.read given.spelling =
          .ok ⟨[], some (given, given.spelling)⟩ := by
        cases given <;> decide +kernel
      have option : givesOptions given.spelling = true ∧ given.spelling ≠ "--" := by
        cases given <;> decide +kernel
      change read (given.spelling :: value :: rest) = _
      rw [read.eq_def]
      simp only [option, argument, if_true, if_false]
      rfl

/-- Arguments are read back from their spelling. -/
theorem read_spelled (arguments : Arguments) : read arguments.spelled = .ok arguments := by
  rcases arguments with ⟨options, operands⟩
  induction options with
  | nil => rfl
  | cons given options induction =>
      have later : read (options.flatMap GivenOption.spelled ++ "--" :: operands) =
          .ok ⟨options, operands⟩ := induction
      rw [spelled, List.flatMap_cons, List.append_assoc, read_spelled_append, later]
      rfl

/-- Arguments that ask neither for the version nor for help have no fixed answer. -/
theorem answer?_eq_none {arguments : Arguments} (noVersion : arguments.hasFlag .version = false)
    (noHelp : arguments.hasFlag .help = false) : arguments.answer? = none := by
  have asksNeither : ∀ given ∈ arguments.options,
      given ≠ .flag .version ∧ given ≠ .flag .help := by
    intro given member
    constructor
    · rintro rfl
      simp [hasFlag, member] at noVersion
    · rintro rfl
      simp [hasFlag, member] at noHelp
  rw [answer?, List.findSome?_eq_none_iff]
  intro given member
  split
  · exact absurd rfl (asksNeither _ member).1
  · exact absurd rfl (asksNeither _ member).2
  · rfl

end Arguments

/-! ## Checks -/

theorem state_bind_of_eq {σ α β : Type} {step : StateM σ α} {next : α → StateM σ β}
    {state reached : σ} {value : α} (run : step state = (value, reached)) :
    (step >>= next) state = next value reached := by
  change next (step state).1 (step state).2 = next value reached
  rw [run]

theorem forM_of_ok {ε σ α : Type} {state : σ} {step : α → ExceptT ε (StateM σ) PUnit}
    {items : List α} (ok : ∀ item ∈ items, step item state = (.ok ⟨⟩, state)) :
    items.forM step state = (.ok ⟨⟩, state) := by
  induction items with
  | nil => rfl
  | cons item items induction =>
      have first := ok item List.mem_cons_self
      have rest := induction fun other member => ok other (List.mem_cons_of_mem item member)
      change (step item >>= fun _ => items.forM step) state = _
      rw [bind_of_ok first, rest]

namespace Command

variable {tree : FileTree}

theorem checkFile_of_hasFile {path : String} {content : List UInt8}
    (file : tree.HasFile path content) (parameter : String) (mustExist : Bool) :
    checkFile FileTree.fileSystem parameter path mustExist tree = (.ok (), tree) := by
  have noNull : path.toList.contains '\x00' = false := by simpa using file.noNull
  have kind : FileTree.fileSystem.kindOf path tree = (some .file, tree) := by
    change ((tree.find? path).map FileEntry.kind, tree) = _
    rw [file.found]
    rfl
  have lifted : (liftM (FileTree.fileSystem.kindOf path) :
      ExceptT UsageError (StateM FileTree) (Option EntryKind)) tree = (.ok (some .file), tree) := by
    change (Except.ok (FileTree.fileSystem.kindOf path tree).1,
      (FileTree.fileSystem.kindOf path tree).2) = _
    rw [kind]
  rw [checkFile, noNull]
  exact bind_of_ok lifted

variable {arguments : Arguments} {inputFile : String}

theorem checkSetting_of_sound (sound : arguments.AreSound tree inputFile) (setting : Setting) :
    checkSetting FileTree.fileSystem arguments setting tree = (.ok (), tree) := by
  cases setting with
  | output => simp [checkSetting, sound.noOutput]
  | symbols =>
      cases given : arguments.value? .symbols with
      | none => simp [checkSetting, given]
      | some path =>
          rcases sound.symbols path given with ⟨content, file⟩
          simpa [checkSetting, given] using checkFile_of_hasFile file symbolsParameter true
  | maxStack =>
      cases given : arguments.value? .maxStack with
      | none => simp [checkSetting, given]
      | some text =>
          rcases sound.depth text given with ⟨maxStack, read⟩
          have whole : readMaxStack text = .ok maxStack := by
            rw [readMaxStack, read]
            rfl
          simp only [checkSetting, given, whole]
          rfl
  | «local» | name | offset => simp [checkSetting]

/-- Sound arguments pass all checks, which leave the files as they are. -/
theorem check_of_sound (sound : arguments.AreSound tree inputFile) :
    check FileTree.fileSystem arguments tree = (.ok (arguments.toRequest inputFile), tree) := by
  rcases sound.input with ⟨content, file⟩
  have settings : arguments.settings.forM (checkSetting FileTree.fileSystem arguments) tree =
      (.ok (), tree) :=
    forM_of_ok fun setting _ => checkSetting_of_sound sound setting
  rw [check, bind_of_ok settings, sound.operands]
  exact bind_of_ok (checkFile_of_hasFile file inputParameter true)

theorem parse_of_read {args : List String} (read : Arguments.read args = .ok arguments)
    (sound : arguments.AreSound tree inputFile) :
    parse FileTree.fileSystem args tree = (.ok (arguments.toRequest inputFile), tree) := by
  have noAnswer := Arguments.answer?_eq_none sound.noVersion sound.noHelp
  simp only [parse, read, noAnswer]
  exact state_bind_of_eq (check_of_sound sound)

end Command

/-- The plain library does what is relied on. -/
theorem CommandLibrary.worksAsDocumented_plain : (plain : CommandLibrary _).WorksAsDocumented where
  parses _ arguments _ sound := Command.parse_of_read arguments.read_spelled sound
  prints := WideText.exists_withoutControls
  verbatim _ free := WideText.withoutControls_eq_self free

end CilTrace
