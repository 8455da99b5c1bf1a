import Mathlib.Data.List.TakeWhile
import CilTrace.BodyFile
import CilTrace.Proofs.HexPairs

/-!
Files of commented digit pairs.

Each line of such a file spells its bytes on its own: pairs of digits, and behind a semicolon a
comment that says nothing. The lines are cut before comments are dropped, and joined with blanks, so
no pair reaches over the end of a line.
-/

namespace CilTrace

/-! ## Lines -/

namespace Text

theorem splitLines_crlf (rest : List Char) :
    splitLines ('\r' :: '\n' :: rest) = [] :: splitLines rest := by
  rw [splitLines]

theorem splitLines_break {char : Char} (breaks : isLineBreak char = true) {rest : List Char}
    (single : char = '\r' → ∀ behind, rest ≠ '\n' :: behind) :
    splitLines (char :: rest) = [] :: splitLines rest := by
  rw [splitLines, if_pos breaks]
  intro behind first same
  exact single first behind same

theorem splitLines_lineFeed (rest : List Char) :
    splitLines ('\n' :: rest) = [] :: splitLines rest :=
  splitLines_break (by decide) fun same => absurd same (by decide)

theorem splitLines_inside {char : Char} (inside : isLineBreak char = false) (rest : List Char) :
    splitLines (char :: rest) =
      (char :: (splitLines rest).headD []) :: (splitLines rest).tail := by
  have different : char ≠ '\r' := by
    rintro rfl
    cases inside
  rw [splitLines]
  · rw [if_neg (by simp [inside])]
    cases splitLines rest <;> rfl
  · intro behind first
    exact absurd first different

theorem splitLines_line {line : List Char} (whole : ∀ char ∈ line, isLineBreak char = false)
    {rest : List Char} {lines : List (List Char)} (cut : splitLines rest = [] :: lines) :
    splitLines (line ++ rest) = line :: lines := by
  induction line with
  | nil => exact cut
  | cons char line induction =>
      have parts := List.forall_mem_cons.mp whole
      rw [List.cons_append, splitLines_inside parts.1, induction parts.2]
      rfl

theorem splitLines_last {line : List Char} (whole : ∀ char ∈ line, isLineBreak char = false)
    (shown : line ≠ []) : splitLines line = [line] := by
  induction line with
  | nil => exact absurd rfl shown
  | cons char line induction =>
      have parts := List.forall_mem_cons.mp whole
      rw [splitLines_inside parts.1]
      by_cases ended : line = []
      · subst ended
        rfl
      · rw [induction parts.2 ended]
        rfl

/-- Unifying line ends leaves the lines as they are. -/
theorem splitLines_unifyLineEnds (chars : List Char) :
    splitLines (unifyLineEnds chars) = splitLines chars := by
  fun_induction unifyLineEnds chars with
  | case1 => rfl
  | case2 rest induction => rw [splitLines_lineFeed, splitLines_crlf, induction]
  | case3 char rest single induction =>
      by_cases returns : char = '\r'
      · subst returns
        have alone : ∀ behind, rest ≠ '\n' :: behind := by
          rintro behind rfl
          exact single behind rfl rfl
        rw [if_pos rfl, splitLines_lineFeed, induction,
          splitLines_break (by decide) fun _ => alone]
      · rw [if_neg returns]
        cases breaks : isLineBreak char with
        | true =>
            have noReturn {text : List Char} : char = '\r' → ∀ behind, text ≠ '\n' :: behind :=
              fun same => absurd same returns
            rw [splitLines_break breaks noReturn, splitLines_break breaks noReturn, induction]
        | false => rw [splitLines_inside breaks, splitLines_inside breaks, induction]

end Text

/-! ## Commented lines -/

namespace HexText.Spells

variable {chars : List Char} {bytes : List UInt8}

theorem semicolon_notMem (spells : Spells chars bytes) : ';' ∉ chars := by
  induction spells with
  | nil => simp
  | blank char rest bytes isBlank later induction =>
      rintro (_ | ⟨_, member⟩)
      · simp [asciiBlanks] at isBlank
      · exact induction member
  | pair first second high low rest bytes firstDigit secondDigit later induction =>
      have noDigit {value : Nat} : ¬ IsDigit ';' value := by
        intro digit
        cases digitValue?_eq_some_iff.mpr digit
      rintro (_ | ⟨_, _ | ⟨_, member⟩⟩)
      · exact noDigit firstDigit
      · exact noDigit secondDigit
      · exact induction member

theorem eq_nil (spells : Spells [] bytes) : bytes = [] := by
  cases spells
  rfl

/-- A text has two digits for each byte that it spells, and else only blanks. -/
theorem length_visible (spells : Spells chars bytes) :
    (chars.filter (· ∉ asciiBlanks)).length = 2 * bytes.length := by
  induction spells with
  | nil => rfl
  | blank char rest bytes isBlank later induction => simpa [isBlank] using induction
  | pair first second high low rest bytes firstDigit secondDigit later induction =>
      simp only [List.filter_cons, firstDigit.not_blank, secondDigit.not_blank, not_false_eq_true,
        decide_true, if_true, List.length_cons, induction]
      omega

end HexText.Spells

theorem HexText.IsDigit.not_break {char : Char} {value : Nat} (digit : IsDigit char value) :
    Text.isLineBreak char = false := by
  rcases digit with ⟨small, rfl | rfl⟩ <;> interval_cases value <;> rfl

namespace BodyFile

open HexText

/-- A line of digit pairs, with a comment behind a semicolon if it has one. -/
inductive LineSpells : List Char → List UInt8 → Prop where
  | plain (line : List Char) (bytes : List UInt8) (spells : Spells line bytes) :
      LineSpells line bytes
  | commented (part comment : List Char) (bytes : List UInt8) (spells : Spells part bytes) :
      LineSpells (part ++ ';' :: comment) bytes

theorem lineSpells_iff {line : List Char} {bytes : List UInt8} :
    LineSpells line bytes ↔ Spells (withoutComment line) bytes := by
  have keeps {part : List Char} (free : ';' ∉ part) : ∀ char ∈ part, (char != ';') = true := by
    intro char member
    rw [bne_iff_ne]
    rintro rfl
    exact free member
  constructor
  · rintro (⟨_, _, spells⟩ | ⟨part, comment, _, spells⟩)
    · rwa [withoutComment, List.takeWhile_eq_self_iff.mpr (keeps spells.semicolon_notMem)]
    · rw [withoutComment, List.takeWhile_append_of_pos (keeps spells.semicolon_notMem)]
      simpa using spells
  · intro spells
    have cut : withoutComment line ++ line.dropWhile (· != ';') = line :=
      List.takeWhile_append_dropWhile
    cases behind : line.dropWhile (· != ';') with
    | nil =>
        rw [behind, List.append_nil] at cut
        rw [cut] at spells
        exact .plain _ _ spells
    | cons first comment =>
        have stop := List.head?_dropWhile_not (· != ';') line
        rw [behind] at stop cut
        have same : first = ';' := by simpa using stop
        subst same
        rw [← cut]
        exact .commented _ comment _ spells

/-- Reading gives the bytes of the lines one after another, if each line spells bytes. -/
theorem readText_eq_ok_iff {chars : List Char} {bytes : List UInt8} :
    readText chars = .ok bytes ↔
      ∃ parts, List.Forall₂ LineSpells (Text.splitLines chars) parts ∧ bytes = parts.flatten := by
  have blank : ' ' ∈ asciiBlanks := by simp [asciiBlanks]
  have lines (line : List Char) (part : List UInt8) := @lineSpells_iff line part
  rw [readText, joinLines, read_eq_ok_iff, spells_intercalate_iff blank]
  simp only [List.forall₂_map_left_iff, ← lines]

theorem read_of_decode {content : List UInt8} {chars : List Char}
    (decoded : Utf8.decode content = .ok chars) :
    read true content = (readText chars).mapError .pairs := by
  have same : readText (Text.unifyLineEnds chars) = readText chars := by
    rw [readText, readText, Text.splitLines_unifyLineEnds]
  rw [read, if_pos rfl, decoded, ← same]
  rfl

/-! ## Texts written line by line -/

/-- What ends a line: a character that does, or a carriage return and a line feed. -/
def IsBreak (mark : List Char) : Prop :=
  mark = ['\r', '\n'] ∨ ∃ char, mark = [char] ∧ Text.isLineBreak char = true

inductive Written : List Char → List UInt8 → Prop where
  | last (line : List Char) (bytes : List UInt8) (spells : LineSpells line bytes)
      (whole : ∀ char ∈ line, Text.isLineBreak char = false) : Written line bytes
  | line (line mark rest : List Char) (bytes more : List UInt8) (spells : LineSpells line bytes)
      (whole : ∀ char ∈ line, Text.isLineBreak char = false) (breaks : IsBreak mark)
      (later : Written rest more) : Written (line ++ (mark ++ rest)) (bytes ++ more)

/-- A break in front opens no line that spells anything, also where it is taken together with a
line feed behind it. -/
theorem exists_lines_behind {mark rest : List Char} (breaks : IsBreak mark)
    {parts : List (List UInt8)} (spelled : List.Forall₂ LineSpells (Text.splitLines rest) parts) :
    ∃ lines others, Text.splitLines (mark ++ rest) = [] :: lines ∧
      List.Forall₂ LineSpells lines others ∧ others.flatten = parts.flatten := by
  rcases breaks with rfl | ⟨char, rfl, breaks⟩
  · exact ⟨_, parts, Text.splitLines_crlf rest, spelled, rfl⟩
  · by_cases joined : char = '\r' ∧ ∃ behind, rest = '\n' :: behind
    · rcases joined with ⟨rfl, behind, rfl⟩
      rw [Text.splitLines_lineFeed] at spelled
      cases spelled with
      | cons nothing others =>
          refine ⟨_, _, Text.splitLines_crlf behind, others, ?_⟩
          rw [List.flatten_cons, (lineSpells_iff.mp nothing).eq_nil, List.nil_append]
    · have single : char = '\r' → ∀ behind, rest ≠ '\n' :: behind :=
        fun same behind first => joined ⟨same, behind, first⟩
      exact ⟨_, parts, Text.splitLines_break breaks single, spelled, rfl⟩

theorem Written.spelled {chars : List Char} {bytes : List UInt8} (written : Written chars bytes) :
    ∃ parts, List.Forall₂ LineSpells (Text.splitLines chars) parts ∧ bytes = parts.flatten := by
  induction written with
  | last line bytes spells whole =>
      by_cases shown : line = []
      · subst shown
        exact ⟨[], .nil, (lineSpells_iff.mp spells).eq_nil⟩
      · exact ⟨[bytes], by simpa [Text.splitLines_last whole shown] using spells, by simp⟩
  | line line mark rest bytes more spells whole breaks later induction =>
      rcases induction with ⟨parts, spelled, rfl⟩
      rcases exists_lines_behind breaks spelled with ⟨lines, others, cut, otherSpelled, same⟩
      refine ⟨bytes :: others, ?_, by rw [List.flatten_cons, same]⟩
      rw [Text.splitLines_line whole cut]
      exact .cons spells otherSpelled

theorem toList_byte (value : UInt8) :
    ∃ first second, (Hex.byte value).toList = [first, second] ∧
      IsDigit first (value.toNat / 16) ∧ IsDigit second (value.toNat % 16) := by
  have bound := value.toNat_lt
  have high : value.toNat / 16 < 16 := by omega
  have low : value.toNat % 16 < 16 := Nat.mod_lt _ (by decide)
  refine ⟨_, _, ?_, ⟨high, .inr rfl⟩, ⟨low, .inr rfl⟩⟩
  by_cases small : value.toNat < 16
  · rw [Hex.byte, Hex.padded, Hex.digits, Nat.toDigits_of_lt_base small,
      Nat.div_eq_of_lt small, Nat.mod_eq_of_lt small]
    simp [List.leftpad]
    rfl
  · rw [Hex.byte, Hex.padded, Hex.digits, Nat.toDigits_of_base_le (by decide) (by omega),
      Nat.toDigits_of_lt_base high]
    simp [List.leftpad]

/-- A body can be written without breaks, blanks and comments. -/
theorem written_pairs (body : List UInt8) : Written (Hex.pairs body).toList body := by
  have single : Spells (Hex.pairs body).toList body ∧
      ∀ char ∈ (Hex.pairs body).toList, Text.isLineBreak char = false := by
    rw [Hex.pairs, String.toList_join, List.flatMap_map]
    induction body with
    | nil => exact ⟨.nil, by simp⟩
    | cons value body induction =>
        rcases induction with ⟨spells, whole⟩
        rcases toList_byte value with ⟨first, second, digits, firstDigit, secondDigit⟩
        have halves : UInt8.ofNat (16 * (value.toNat / 16) + value.toNat % 16) = value := by
          rw [Nat.div_add_mod, UInt8.ofNat_toNat]
        have longer := Spells.pair _ _ _ _ _ _ firstDigit secondDigit spells
        rw [halves] at longer
        rw [List.flatMap_cons, digits]
        exact ⟨longer, List.forall_mem_append.mpr
          ⟨by simp [firstDigit.not_break, secondDigit.not_break], whole⟩⟩
  exact .last _ _ (.plain _ _ single.1) single.2

/--
A file of text is read exactly if each of its lines spells bytes, and gives these in order; what a
comment says does not matter. So a text that is written line by line, with any breaks, blanks and
comments, is read back, and a line that ends inside a pair is an error, whatever the next one begins
with.
-/
theorem reads_commented_pairs (content : List UInt8) (chars : List Char)
    (decoded : Utf8.decode content = .ok chars) :
    (∀ bytes, read true content = .ok bytes ↔
      ∃ parts, List.Forall₂ LineSpells (Text.splitLines chars) parts ∧ bytes = parts.flatten) ∧
    ((¬ ∃ parts, List.Forall₂ LineSpells (Text.splitLines chars) parts) →
      ∃ error, read true content = .error (.pairs error)) ∧
    (∀ bytes, Written chars bytes → read true content = .ok bytes) ∧
    (∀ body, chars = (Hex.pairs body).toList → read true content = .ok body) ∧
    ∀ line ∈ Text.splitLines chars,
      ((line.takeWhile (· != ';')).filter (· ∉ asciiBlanks)).length % 2 = 1 →
      ∃ error, read true content = .error (.pairs error) := by
  have accepts (bytes : List UInt8) : read true content = .ok bytes ↔
      ∃ parts, List.Forall₂ LineSpells (Text.splitLines chars) parts ∧ bytes = parts.flatten := by
    rw [← readText_eq_ok_iff, read_of_decode decoded]
    cases readText chars <;> simp [Except.mapError]
  have refuses (none : ¬ ∃ parts, List.Forall₂ LineSpells (Text.splitLines chars) parts) :
      ∃ error, read true content = .error (.pairs error) := by
    rw [read_of_decode decoded]
    cases result : readText chars with
    | error error => exact ⟨error, rfl⟩
    | ok bytes =>
        rcases readText_eq_ok_iff.mp result with ⟨parts, spelled, _⟩
        exact absurd ⟨parts, spelled⟩ none
  have reads (bytes : List UInt8) (written : Written chars bytes) : read true content = .ok bytes :=
    (accepts bytes).mpr written.spelled
  refine ⟨accepts, refuses, reads, ?_, ?_⟩
  · rintro body rfl
    exact reads body (written_pairs body)
  · intro line member odd
    apply refuses
    rintro ⟨parts, spelled⟩
    rcases List.forall₂_iff_get.mp spelled with ⟨_, each⟩
    rcases List.getElem_of_mem member with ⟨index, inside, rfl⟩
    have visible := (lineSpells_iff.mp (each index inside (by omega))).length_visible
    simp only [withoutComment, List.get_eq_getElem] at visible
    omega

/-- Two lines, each with a comment, one of them with a character outside ASCII in it. -/
theorem reads_commented_pairs_of_two_lines :
    let chars := "02 03;x\r\n5B2a ; é\x0b".toList
    let content : List UInt8 :=
      [0x30, 0x32, 0x20, 0x30, 0x33, 0x3B, 0x78, 0x0D, 0x0A, 0x35, 0x42, 0x32, 0x61, 0x20, 0x3B, 0x20,
        0xC3, 0xA9, 0x0B]
    Utf8.decode content = .ok chars ∧ Written chars [0x02, 0x03, 0x5B, 0x2A] ∧
      read true content = .ok [0x02, 0x03, 0x5B, 0x2A] := by
  intro chars content
  have decoded : Utf8.decode content = .ok chars := by decide
  have whole {line : List Char} (checked : line.all (!Text.isLineBreak ·) = true) :
      ∀ char ∈ line, Text.isLineBreak char = false := by
    simpa using checked
  have written : Written chars [0x02, 0x03, 0x5B, 0x2A] :=
    .line "02 03;x".toList ['\r', '\n'] "5B2a ; é\x0b".toList [0x02, 0x03] [0x5B, 0x2A]
      (.commented "02 03".toList ['x'] _ (read_eq_ok_iff.mp (by decide))) (whole (by decide))
      (.inl rfl) <|
    .line "5B2a ; é".toList ['\x0b'] [] [0x5B, 0x2A] []
      (.commented "5B2a ".toList " é".toList _ (read_eq_ok_iff.mp (by decide)))
      (whole (by decide)) (.inr ⟨_, rfl, by decide⟩) <|
    .last [] [] (.plain _ _ .nil) (whole rfl)
  exact ⟨decoded, written, (reads_commented_pairs content chars decoded).2.2.1 _ written⟩

end BodyFile

end CilTrace
