import Mathlib.Data.String.Basic
import CilTrace.Files.Tree

/-!
A path and its normal form lead to the same file.

The normal form has no empty names and no dots. Such names lead nowhere, so the names that are left
reach the same place. The normal form is no longer than the path, so it is not refused for its length.
-/

namespace CilTrace

namespace Path

/-! ## Names -/

/-- Whether a name leads somewhere else. -/
def leads (name : String) : Bool :=
  !name.isEmpty && name != "."

theorem split_eq_splitOn (chars : List Char) : split chars = chars.splitOn '/' := by
  induction chars with
  | nil => rfl
  | cons char rest induction =>
      rw [List.splitOn_cons_eq_if_modifyHead, ← induction, split]
      by_cases slash : char = '/'
      · simp [slash]
      · have parts : split rest ≠ [] := induction ▸ List.splitOn_ne_nil '/' rest
        cases cut : split rest with
        | nil => exact absurd cut parts
        | cons part parts => simp [slash]

theorem slash_notMem_of_mem_split {chars part : List Char} (member : part ∈ split chars) :
    '/' ∉ part := by
  induction chars generalizing part with
  | nil =>
      rw [split, List.mem_singleton] at member
      simp [member]
  | cons char rest induction =>
      rw [split] at member
      by_cases slash : char = '/'
      · rw [if_pos slash] at member
        rcases List.mem_cons.mp member with rfl | later
        · exact List.not_mem_nil
        · exact induction later
      · rw [if_neg slash] at member
        cases cut : split rest with
        | nil =>
            rw [cut, List.mem_singleton] at member
            simp [member, Ne.symm slash]
        | cons first parts =>
            rw [cut] at member induction
            rcases List.mem_cons.mp member with rfl | later
            · have inFirst := induction List.mem_cons_self
              simp [Ne.symm slash, inFirst]
            · exact induction (List.mem_cons_of_mem first later)

theorem slash_notMem_of_mem_names {path name : String} (member : name ∈ names path) :
    '/' ∉ name.toList := by
  rcases List.mem_map.mp member with ⟨part, inParts, rfl⟩
  simpa using slash_notMem_of_mem_split inParts

theorem split_slashes (count : Nat) (chars : List Char) :
    split (List.replicate count '/' ++ chars) = List.replicate count [] ++ split chars := by
  induction count with
  | zero => rfl
  | succ count induction => simp [List.replicate_succ, split, induction]

/-! ## Normal forms -/

/-- A path begins with some slashes, of which its normal form keeps some if there are any. -/
theorem exists_slashes (path : String) :
    ∃ kept slashes rest, path.toList = List.replicate slashes '/' ++ rest ∧
      rest.head? ≠ some '/' ∧ (root path).toList = List.replicate kept '/' ∧ kept ≤ slashes ∧
      (kept = 0 ↔ slashes = 0) := by
  have slashes : path.toList.takeWhile (· == '/') =
      List.replicate (path.toList.takeWhile (· == '/')).length '/' := by
    refine List.eq_replicate_of_mem fun char member => ?_
    simpa using List.all_eq_true.mp List.all_takeWhile char member
  have cut := List.takeWhile_append_dropWhile (p := (· == '/')) (l := path.toList)
  have behind : (path.toList.dropWhile (· == '/')).head? ≠ some '/' := by
    intro slash
    have stop := List.head?_dropWhile_not (· == '/') path.toList
    rw [slash] at stop
    simp at stop
  rw [slashes] at cut
  unfold root
  generalize (path.toList.takeWhile (· == '/')).length = count at cut ⊢
  match count with
  | 0 => exact ⟨0, 0, _, cut.symm, behind, by simp⟩
  | 1 => exact ⟨1, 1, _, cut.symm, behind, by simp⟩
  | 2 => exact ⟨2, 2, _, cut.symm, behind, by simp⟩
  | count + 3 => exact ⟨1, count + 3, _, cut.symm, behind, by simp⟩

theorem intercalate_sublist {α : Type} (separator : List α) {kept parts : List (List α)}
    (sublist : kept.Sublist parts) :
    (separator.intercalate kept).Sublist (separator.intercalate parts) := by
  induction sublist with
  | slnil => exact .refl _
  | @cons kept parts part sublist induction =>
      refine induction.trans ?_
      cases parts with
      | nil => exact List.nil_sublist _
      | cons other parts =>
          rw [List.intercalate_cons_cons]
          exact List.sublist_append_right _ _
  | @cons_cons kept parts part sublist induction =>
      cases kept with
      | nil =>
          rw [List.intercalate_singleton]
          cases parts with
          | nil => rw [List.intercalate_singleton]
          | cons other parts =>
              rw [List.intercalate_cons_cons, List.append_assoc]
              exact List.sublist_append_left _ _
      | cons first kept =>
          cases parts with
          | nil => cases sublist
          | cons other parts =>
              rw [List.intercalate_cons_cons, List.intercalate_cons_cons]
              exact induction.append_left _

/-- The names of a path that lead somewhere. -/
def leadingNames (path : String) : List String :=
  (names path).filter leads

section Leading

variable {path : String}

theorem slash_notMem_of_mem_leadingNames {name : String} (member : name ∈ leadingNames path) :
    '/' ∉ name.toList :=
  slash_notMem_of_mem_names (List.mem_of_mem_filter member)

/-- The names that lead somewhere, joined with slashes, begin with no slash. -/
theorem exists_first (leading : leadingNames path ≠ []) :
    ∃ char tail, char ≠ '/' ∧
      ['/'].intercalate ((leadingNames path).map String.toList) = char :: tail := by
  cases found : leadingNames path with
  | nil => exact absurd found leading
  | cons name others =>
      have member : name ∈ leadingNames path := found ▸ List.mem_cons_self
      have noSlash := slash_notMem_of_mem_leadingNames member
      have nonempty : name.toList ≠ [] := by
        have leads := List.of_mem_filter member
        simp only [Path.leads, Bool.and_eq_true, Bool.not_eq_true'] at leads
        simpa using leads.1
      cases chars : name.toList with
      | nil => exact absurd chars nonempty
      | cons char rest =>
          rw [chars] at noSlash
          rw [List.map_cons, chars, List.intercalate_cons_cons_left]
          exact ⟨char, _, fun slash => noSlash (slash ▸ List.mem_cons_self), rfl⟩

theorem toList_normal (leading : leadingNames path ≠ []) :
    (normal path).toList =
      (root path).toList ++ ['/'].intercalate ((leadingNames path).map String.toList) := by
  have joined : (root path ++ String.intercalate "/" (leadingNames path)).toList =
      (root path).toList ++ ['/'].intercalate ((leadingNames path).map String.toList) := by
    rw [String.toList_append, String.toList_intercalate]
    rfl
  have nonempty : ¬ (root path ++ String.intercalate "/" (leadingNames path)).isEmpty := by
    rcases exists_first leading with ⟨char, tail, _, first⟩
    rw [first] at joined
    intro empty
    rw [String.isEmpty_iff.mp empty] at joined
    simp at joined
  have text : normal path = root path ++ String.intercalate "/" (leadingNames path) :=
    if_neg nonempty
  rw [text, joined]

theorem names_normal (leading : leadingNames path ≠ []) :
    ∃ count, names (normal path) = List.replicate count "" ++ leadingNames path := by
  rcases exists_slashes path with ⟨count, _, _, _, _, rootText, _⟩
  refine ⟨count, ?_⟩
  have noSlashes : ∀ part ∈ (leadingNames path).map String.toList, '/' ∉ part := by
    intro part member
    rcases List.mem_map.mp member with ⟨name, inNames, rfl⟩
    exact slash_notMem_of_mem_leadingNames inNames
  have parts := List.splitOn_intercalate '/' noSlashes (by simpa using leading)
  rw [names, toList_normal leading, rootText, split_slashes, split_eq_splitOn, parts]
  simp [Function.comp_def]

theorem head?_normal (leading : leadingNames path ≠ []) :
    (normal path).toList.head? = some '/' ↔ path.toList.head? = some '/' := by
  rcases exists_slashes path with ⟨count, slashes, rest, cut, behind, rootText, _, both⟩
  rcases exists_first leading with ⟨char, tail, noSlash, first⟩
  rw [toList_normal leading, rootText, first, cut]
  cases count with
  | zero => simp [both.mp rfl, noSlash, behind]
  | succ count =>
      cases slashes with
      | zero => exact absurd (both.mpr rfl) (Nat.succ_ne_zero count)
      | succ slashes => simp [List.replicate_succ]

theorem normal_sublist (leading : leadingNames path ≠ []) :
    (normal path).toList.Sublist path.toList := by
  rcases exists_slashes path with ⟨count, slashes, rest, cut, _, rootText, fewer, _⟩
  have fromRest : leadingNames path = ((split rest).map String.ofList).filter leads := by
    have empty : leads "" = false := by decide
    simp [leadingNames, names, cut, split_slashes, empty]
  have sublist : ((leadingNames path).map String.toList).Sublist (split rest) := by
    have kept := (List.filter_sublist (p := leads) (l := (split rest).map String.ofList)).map
      String.toList
    rw [← fromRest] at kept
    simpa [Function.comp_def] using kept
  rw [toList_normal leading, rootText, cut]
  refine List.Sublist.append ((List.replicate_sublist_replicate '/').mpr fewer) ?_
  have joined := intercalate_sublist ['/'] sublist
  rwa [split_eq_splitOn, List.intercalate_splitOn] at joined

end Leading

end Path

namespace FileTree

variable {tree : FileTree} {place reached : Place} {names : List String}

theorem step_of_not_leads {name : String} (stays : Path.leads name = false) :
    step place name = .ok place := by
  have same : name = "" ∨ name = "." := by
    simpa [Path.leads, Classical.or_iff_not_imp_left] using stays
  rcases same with rfl | rfl <;> rfl

/-- Names that lead nowhere can be left out. -/
theorem follow_filter_leads (followed : follow tree place names = .ok reached) :
    follow tree place (names.filter Path.leads) = .ok reached := by
  induction names generalizing place with
  | nil => exact followed
  | cons name rest induction =>
      rw [follow] at followed
      cases entry : tree.entry? place with
      | none => simp [entry] at followed
      | some found =>
          cases found with
          | file content => simp [entry] at followed
          | directory =>
              simp only [entry] at followed
              cases stays : Path.leads name with
              | false =>
                  rw [step_of_not_leads stays] at followed
                  rw [List.filter_cons_of_neg (by simp [stays])]
                  exact induction followed
              | true =>
                  rw [List.filter_cons_of_pos stays, follow]
                  simp only [entry]
                  cases stepped : step place name with
                  | error fault =>
                      rw [stepped] at followed
                      cases followed
                  | ok next =>
                      rw [stepped] at followed
                      exact induction followed

theorem follow_empty_names (directory : tree.entry? place = some .directory) (count : Nat) :
    follow tree place (List.replicate count "" ++ names) = follow tree place names := by
  induction count with
  | zero => rfl
  | succ count induction =>
      rw [List.replicate_succ, List.cons_append, follow]
      simp only [directory]
      rw [step_of_not_leads rfl]
      exact induction

/-- Where the names of a path are followed from. -/
def startOf (path : String) : Place :=
  if path.toList.head? = some '/' then .system [] else .inside []

theorem entry?_startOf (path : String) : tree.entry? (startOf path) = some .directory := by
  unfold startOf
  split <;> rfl

theorem locate_eq_ok_iff {path : String} :
    tree.locate path = .ok reached ↔
      path ≠ "" ∧ path.utf8ByteSize ≤ maxPathSize ∧
        follow tree (startOf path) (Path.names path) = .ok reached := by
  unfold locate
  by_cases empty : path = ""
  · simp [empty]
  by_cases long : maxPathSize < path.utf8ByteSize
  · simp [empty, long]
  · simp [empty, long, startOf, Nat.le_of_not_lt long]

theorem utf8ByteSize_le_of_sublist {text other : String}
    (sublist : text.toList.Sublist other.toList) : text.utf8ByteSize ≤ other.utf8ByteSize := by
  have sizes := String.utf8Len_le_of_sublist sublist
  rwa [← String.utf8ByteSize_ofList, ← String.utf8ByteSize_ofList, String.ofList_toList,
    String.ofList_toList] at sizes

/-- The file that a path leads to is read by the normal form of the path. -/
theorem read_normal {path : String} {content : List UInt8}
    (found : tree.find? path = some (.file content)) :
    tree.read (Path.normal path) = .ok content := by
  obtain ⟨reached, located, entry⟩ :
      ∃ reached, tree.locate path = .ok reached ∧ tree.entry? reached = some (.file content) := by
    unfold find? at found
    split at found
    · cases found
    · next reached located => exact ⟨reached, located, found⟩
  rcases locate_eq_ok_iff.mp located with ⟨_, short, followed⟩
  have filtered := follow_filter_leads followed
  have leading : Path.leadingNames path ≠ [] := by
    -- Without such a name the path would stay where it starts, in a directory.
    intro none
    rw [Path.leadingNames] at none
    rw [none, follow] at filtered
    cases filtered
    rw [entry?_startOf] at entry
    cases entry
  have sameStart : startOf (Path.normal path) = startOf path := by
    simp only [startOf, Path.head?_normal leading]
  have relocated : tree.locate (Path.normal path) = .ok reached := by
    rcases Path.names_normal leading with ⟨count, names⟩
    refine locate_eq_ok_iff.mpr ⟨?_, ?_, ?_⟩
    · intro empty
      have text := Path.toList_normal leading
      rcases Path.exists_first leading with ⟨char, tail, _, first⟩
      rw [empty, first] at text
      simp at text
    · exact (utf8ByteSize_le_of_sublist (Path.normal_sublist leading)).trans short
    · rw [names, sameStart, follow_empty_names (entry?_startOf path)]
      exact filtered
  simp [read, relocated, entry, bind, Except.bind, pure, Except.pure]

end FileTree

end CilTrace
