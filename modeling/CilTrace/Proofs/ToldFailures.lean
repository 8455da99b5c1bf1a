import CilTrace.Proofs.CursorReads
import CilTrace.Symbol.Table

/-!
Failures that have a text.

A failure to name a token is noted with its text, so decoding goes on behind it; a failure without a
text is not held up. The values of a host that are plain data, and the tables of their symbols, fail
with a text only, and so does a table of other objects if these do.
-/

namespace CilTrace

/-! ## Resolvers -/

/-- Whether a failure has a text, so that it can be noted. -/
def HostFailure.IsTold (failure : HostFailure) : Prop :=
  ∃ text, failure.text = .ok text

/-- Whether every failure that comes of asking a value for something has a text. -/
structure Answer.TellsFailures (answer : Answer) : Prop where
  isVoid : ∀ failure, answer.isVoid = .error failure → failure.IsTold
  text : ∀ failure, answer.text = .error failure → failure.IsTold
  blob : ∀ failure, answer.blob = .error failure → failure.IsTold

/-- Whether every failure of a resolver has a text: one of a call, and one of what it answers. -/
structure Resolver.TellsFailures (resolver : Resolver) : Prop where
  calls : ∀ kind token failure, resolver.answer kind token = .error failure → failure.IsTold
  answers : ∀ kind token answer, resolver.answer kind token = .ok answer → answer.TellsFailures

/-- Whether every failure to name a token has a text. Without a resolver there is none. -/
def FailuresAreTold (resolver : Option Resolver) : Prop :=
  ∀ host, resolver = some host → host.TellsFailures

theorem failuresAreTold_none : FailuresAreTold none := by
  simp [FailuresAreTold]

namespace Resolution

theorem isTold_of_ofAnswer {answer : Answer} (tells : answer.TellsFailures) {kind : ReferenceKind}
    {failure : HostFailure} (failed : ofAnswer kind answer = .error failure) : failure.IsTold := by
  unfold ofAnswer at failed
  rcases bind_eq_error_iff.mp failed with unclear | ⟨isVoid, _, failed⟩
  · exact tells.isVoid failure unclear
  · cases isVoid with
    | true => cases failed
    | false =>
        cases kind
        case signature =>
          rcases bind_eq_error_iff.mp failed with noBlob | ⟨_, _, failed⟩
          · exact tells.blob failure noBlob
          · cases failed
        all_goals
          rcases bind_eq_error_iff.mp failed with noText | ⟨_, _, failed⟩
          · exact tells.text failure noText
          · cases failed

theorem isTold_of_attempt {host : Resolver} (tells : host.TellsFailures) {kind : ReferenceKind}
    {token : Nat} {failure : HostFailure} (failed : attempt host kind token = .error failure) :
    failure.IsTold := by
  rcases bind_eq_error_iff.mp failed with noAnswer | ⟨answer, answered, failed⟩
  · exact tells.calls kind token failure noAnswer
  · exact isTold_of_ofAnswer (tells.answers kind token answer answered) failed

/-- A resolver whose failures have texts leaves no token without a note or a name. -/
theorem exists_ask {resolver : Option Resolver} (told : FailuresAreTold resolver)
    (kind : ReferenceKind) (token : Nat) :
    ∃ resolution, ask resolver kind token = .ok resolution := by
  cases resolver with
  | none => exact ⟨unasked, rfl⟩
  | some host =>
      dsimp only [ask]
      split
      · next resolution _ => exact ⟨resolution, rfl⟩
      · next failure attempted =>
          rcases isTold_of_attempt (told host rfl) attempted with ⟨text, same⟩
          exact ⟨failed text, by rw [same]; rfl⟩

end Resolution

/-! ## Plain data -/

namespace HostFailure

theorem isTold_told (kind text : String) : (told kind text).IsTold :=
  ⟨text, rfl⟩

/-- A failure to write a number that a value holds. -/
theorem isTold_of_mapError {α : Type} {result : Except NumeralError α} {failure : HostFailure}
    (failed : result.mapError ofNumeralError = .error failure) : failure.IsTold := by
  cases result with
  | ok value => cases failed
  | error error =>
      cases failed
      exact isTold_told _ _

end HostFailure

namespace Value

theorem isTold_of_byte {value : Value} {failure : HostFailure}
    (failed : value.byte = .error failure) : failure.IsTold := by
  cases value with
  | int number =>
      simp only [byte] at failed
      split at failed
      · cases failed
      · cases failed
        exact HostFailure.isTold_told _ _
  | bool flag => cases failed
  | _ =>
      cases failed
      exact HostFailure.isTold_told _ _

theorem isTold_of_mapM {α : Type} {change : α → Except HostFailure UInt8} {items : List α}
    {failure : HostFailure}
    (each : ∀ item failure, change item = .error failure → failure.IsTold)
    (failed : items.mapM change = .error failure) : failure.IsTold := by
  induction items with
  | nil => cases failed
  | cons item items induction =>
      rw [List.mapM_cons] at failed
      rcases bind_eq_error_iff.mp failed with first | ⟨_, _, failed⟩
      · exact each item failure first
      · rcases bind_eq_error_iff.mp failed with rest | ⟨_, _, failed⟩
        · exact induction rest
        · cases failed

theorem isTold_of_zeros {count : Int} {failure : HostFailure}
    (failed : zeros count = .error failure) : failure.IsTold := by
  unfold zeros at failed
  repeat' split at failed
  all_goals cases failed
  all_goals exact HostFailure.isTold_told _ _

theorem isTold_of_blob {value : Value} {failure : HostFailure}
    (failed : value.blob = .error failure) : failure.IsTold := by
  cases value with
  | bytes content => cases failed
  | list items => exact isTold_of_mapM (fun _ _ => isTold_of_byte) failed
  | object fields => exact isTold_of_mapM (fun _ _ => isTold_of_byte) failed
  | int number => exact isTold_of_zeros failed
  | bool flag => exact isTold_of_zeros failed
  | _ =>
      cases failed
      exact HostFailure.isTold_told _ _

theorem tellsFailures_toAnswer (value : Value) : value.toAnswer.TellsFailures where
  isVoid _ failed := by cases failed
  text _ failed := HostFailure.isTold_of_mapError failed
  blob _ failed := isTold_of_blob failed

end Value

/-! ## Symbol tables -/

/-- Whether a failure to have the text of a symbol has a text itself. -/
def Symbol.TellsFailures (symbol : Symbol) : Prop :=
  ∀ failure, symbol.rendering = .error failure → failure.IsTold

/-- A name that is already written out fails with a text only. -/
theorem Symbol.tellsFailures_plain (value : Value) : (Symbol.plain value).TellsFailures :=
  fun _ failed => HostFailure.isTold_of_mapError failed

theorem Symbol.TellsFailures.memberRendering {symbol : Symbol} (tells : symbol.TellsFailures)
    {failure : HostFailure} (failed : symbol.memberRendering = .error failure) :
    failure.IsTold := by
  cases symbol with
  | type fullName assembly => cases failed
  | _ => exact tells failure failed

namespace SymbolTables

/-- The tables whose entries are symbols. -/
def symbolTables (tables : SymbolTables) : List (Table Symbol) :=
  [tables.methods, tables.fields, tables.types, tables.strings, tables.members]

/-- Whether the symbols of all tables fail with a text only. -/
def TellFailures (tables : SymbolTables) : Prop :=
  ∀ table ∈ tables.symbolTables, ∀ entry ∈ table.entries, entry.2.TellsFailures

theorem mem_of_find? {α : Type} {table : Table α} {token : Int} {value : α}
    (found : table.find? token = some value) : ∃ key, (key, value) ∈ table.entries := by
  rcases table with ⟨entries⟩
  simp only [Table.find?] at found
  induction entries with
  | nil => cases found
  | cons entry entries induction =>
      rw [List.lookup_cons] at found
      split at found
      · cases found
        exact ⟨entry.1, List.mem_cons_self⟩
      · rcases induction found with ⟨key, member⟩
        exact ⟨key, List.mem_cons_of_mem entry member⟩

variable {tables : SymbolTables}

theorem TellFailures.of_find? (tell : tables.TellFailures) {table : Table Symbol}
    (listed : table ∈ tables.symbolTables) {token : Int} {symbol : Symbol}
    (found : table.find? token = some symbol) : symbol.TellsFailures := by
  rcases mem_of_find? found with ⟨key, member⟩
  exact tell table listed _ member

theorem TellFailures.of_member? (tell : tables.TellFailures) {token : Int} {symbol : Symbol}
    (found : tables.member? token = some symbol) : symbol.TellsFailures := by
  simp only [member?, Option.or_eq_some_iff] at found
  rcases found with (found | ⟨_, found⟩) | ⟨_, found | ⟨_, found⟩⟩
  all_goals exact tell.of_find? (by simp [symbolTables]) found

theorem isTold_of_rendering {rendering : Except HostFailure WideText}
    (told : ∀ failure, rendering = .error failure → failure.IsTold) {change : WideText → Value}
    {error : ResolveError}
    (failed : (rendering.map change).mapError ResolveError.host = .error error) :
    error.toFailure.IsTold := by
  cases rendering with
  | ok content => cases failed
  | error failure =>
      cases failed
      exact told failure rfl

theorem TellFailures.isTold_of_resolve (tell : tables.TellFailures) {kind : ReferenceKind}
    {token : Int} {error : ResolveError} (failed : tables.resolve kind token = .error error) :
    error.toFailure.IsTold := by
  unfold resolve at failed
  dsimp only at failed
  split at failed
  · next value answered =>
      cases kind
      case signature =>
        rcases Option.map_eq_some_iff.mp answered with ⟨blob, _, rfl⟩
        cases failed
      case member =>
        rcases Option.map_eq_some_iff.mp answered with ⟨symbol, found, rfl⟩
        exact isTold_of_rendering (fun _ => (tell.of_member? found).memberRendering) failed
      all_goals
        rcases Option.map_eq_some_iff.mp answered with ⟨symbol, found, rfl⟩
        exact isTold_of_rendering (tell.of_find? (by simp [symbolTables]) found) failed
  · cases failed
    exact HostFailure.isTold_told _ _

theorem TellFailures.toResolver (tell : tables.TellFailures) : tables.toResolver.TellsFailures where
  calls kind token failure failed := by
    cases answered : tables.resolve kind token with
    | ok value =>
        simp [SymbolTables.toResolver, answered, Except.map] at failed
    | error error =>
        simp only [SymbolTables.toResolver, answered, Except.map, mapError_error] at failed
        cases failed
        exact tell.isTold_of_resolve answered
  answers kind token answer ok := by
    cases answered : tables.resolve kind token with
    | ok value =>
        simp only [SymbolTables.toResolver, answered, Except.map, mapError_ok] at ok
        cases ok
        exact value.tellsFailures_toAnswer
    | error error =>
        simp [SymbolTables.toResolver, answered, Except.map] at ok

end SymbolTables

end CilTrace
