import Mathlib.Data.List.Nodup
import Mathlib.Data.Nat.Find
import Mathlib.Order.Bounds.Defs
import CilTrace.HostError
import CilTrace.Proofs.TraceBlocks

/-!
Capturing an error and its causes.

Every host error leads to at most one other, so from a root there is one path inward. It ends, or it
comes back to an error further out. Capturing takes the errors up to there, as many as the depth
limit leaves, and a trace of what was captured shows each of them once.
-/

namespace CilTrace

namespace HostError

/-! ## Paths inward -/

/--
What comes next after an error: its cause if it has one; otherwise nothing if its context is
suppressed, and its context, if there is one, if it is not.
-/
inductive LeadsTo (error : HostError) : Option Nat → Prop where
  | cause (number : Nat) (caused : error.cause = some number) : LeadsTo error (some number)
  | suppressed (uncaused : error.cause = none) (hidden : error.suppressContext = true) :
      LeadsTo error none
  | context (uncaused : error.cause = none) (shown : error.suppressContext = false) :
      LeadsTo error error.context

theorem leadsTo_iff {error : HostError} {next : Option Nat} :
    error.LeadsTo next ↔ error.next? = next := by
  constructor
  · intro leads
    cases leads with
    | cause number caused => simp [next?, caused]
    | suppressed uncaused hidden => simp [next?, uncaused, hidden]
    | context uncaused shown => simp [next?, uncaused, shown]
  · rintro rfl
    unfold next?
    cases caused : error.cause with
    | some number => exact .cause number caused
    | none =>
        cases hidden : error.suppressContext with
        | true => exact .suppressed caused hidden
        | false => exact .context caused hidden

/-- Errors that lead to none but each other. -/
def Closed (errors : List HostError) : Prop :=
  ∀ error ∈ errors, ∀ number, error.LeadsTo (some number) → number < errors.length

/-- The errors that one leads to, over any number of others. -/
inductive Reaches (errors : List HostError) (root : Nat) : Nat → Prop where
  | root : Reaches errors root root
  | next {number next : Nat} {error : HostError} (outer : Reaches errors root number)
      (found : errors[number]? = some error) (leads : error.LeadsTo (some next)) :
      Reaches errors root next

/-- The path from a root inward, by the numbers of the errors at its places. -/
structure IsPath (errors : List HostError) (root : Nat) (path : Nat → Option Nat) : Prop where
  root : path 0 = some root
  next : ∀ place number error, path place = some number → errors[number]? = some error →
    error.LeadsTo (path (place + 1))
  ended : ∀ place, path place = none → path (place + 1) = none

/-- A path has no error at a place, or one that was at an earlier place. -/
def EndsAt (path : Nat → Option Nat) (place : Nat) : Prop :=
  path place = none ∨ ∃ earlier < place, path earlier = path place

section Paths

variable (errors : List HostError) (root : Nat)

/-- The number of the error at a place of the path from a root inward. -/
def pathAt : Nat → Option Nat
  | 0 => some root
  | place + 1 => (pathAt place).bind fun number => errors[number]?.bind next?

theorem isPath_pathAt : IsPath errors root (pathAt errors root) where
  root := rfl
  next place number error here found := by
    rw [leadsTo_iff]
    simp [pathAt, here, found]
  ended place missing := by simp [pathAt, missing]

/-- The error at a place of the path. -/
def errorAt (place : Nat) : Option HostError :=
  (pathAt errors root place).bind (errors[·]?)

end Paths

section Walks

variable {errors : List HostError} {root : Nat}

theorem pathAt_lt (closed : Closed errors) (inside : root < errors.length) {place number : Nat}
    (here : pathAt errors root place = some number) : number < errors.length := by
  cases place with
  | zero =>
      cases here
      exact inside
  | succ place =>
      obtain ⟨outer, _, next⟩ := Option.bind_eq_some_iff.mp here
      obtain ⟨error, found, next⟩ := Option.bind_eq_some_iff.mp next
      exact closed error (List.mem_of_getElem? found) number (leadsTo_iff.mpr next)

theorem reaches_pathAt {place number : Nat} (here : pathAt errors root place = some number) :
    Reaches errors root number := by
  induction place generalizing number with
  | zero =>
      cases here
      exact .root
  | succ place induction =>
      obtain ⟨outer, there, next⟩ := Option.bind_eq_some_iff.mp here
      obtain ⟨error, found, next⟩ := Option.bind_eq_some_iff.mp next
      exact .next (induction there) found (leadsTo_iff.mpr next)

theorem pathAt_succ {place number : Nat} {error : HostError}
    (here : pathAt errors root place = some number) (found : errors[number]? = some error) :
    pathAt errors root (place + 1) = error.next? := by
  simp [pathAt, here, found]

/-- The numbers on the first places of a path, in order. -/
def Walked (errors : List HostError) (root count : Nat) (numbers : List Nat) : Prop :=
  numbers.map some = (List.range count).map (pathAt errors root)

namespace Walked

variable {count number : Nat} {numbers : List Nat}

theorem length_eq (walked : Walked errors root count numbers) : numbers.length = count := by
  simpa using congrArg List.length walked

theorem mem_iff (walked : Walked errors root count numbers) :
    number ∈ numbers ↔ ∃ place < count, pathAt errors root place = some number := by
  have onPath : number ∈ numbers ↔ some number ∈ numbers.map some := by simp
  rw [onPath, walked]
  simp

theorem next (walked : Walked errors root count numbers)
    (here : pathAt errors root count = some number) :
    Walked errors root (count + 1) (numbers ++ [number]) := by
  have before : numbers.map some = (List.range count).map (pathAt errors root) := walked
  simp [Walked, List.range_succ, before, here]

theorem lt_length (walked : Walked errors root count numbers) (closed : Closed errors)
    (inside : root < errors.length) (member : number ∈ numbers) : number < errors.length := by
  rcases walked.mem_iff.mp member with ⟨place, _, here⟩
  exact pathAt_lt closed inside here

end Walked

/-- A path that has not ended before some place has had a different error at each one. -/
theorem exists_walked {count : Nat} (early : ∀ place < count, ¬ EndsAt (pathAt errors root) place) :
    ∃ numbers, Walked errors root count numbers ∧ numbers.Nodup := by
  have present : ∀ number ∈ (List.range count).map (pathAt errors root), number.isSome := by
    intro number member
    rcases List.mem_map.mp member with ⟨place, within, rfl⟩
    have goesOn := early place (List.mem_range.mp within)
    exact Option.isSome_iff_ne_none.mpr fun missing => goesOn (.inl missing)
  have walked : Walked errors root count ((List.range count).filterMap (pathAt errors root)) := by
    rw [Walked, List.map_filterMap_some_eq_filter_map_isSome, List.filter_eq_self.mpr present]
  refine ⟨_, walked, List.Nodup.of_map some ?_⟩
  rw [walked]
  refine List.Nodup.map_on ?_ List.nodup_range
  intro place within other otherWithin same
  -- Of two places with one error, the path has ended at the later one.
  by_contra different
  rcases Nat.lt_or_gt_of_ne different with before | behind
  · exact early other (List.mem_range.mp otherWithin) (.inr ⟨place, before, same⟩)
  · exact early place (List.mem_range.mp within) (.inr ⟨other, behind, same.symm⟩)

/-- Among as many errors as there are, a path comes to its end. -/
theorem exists_end (closed : Closed errors) (inside : root < errors.length) :
    ∃ stop ≤ errors.length, IsLeast {place | EndsAt (pathAt errors root) place} stop := by
  have ending : ∃ place ≤ errors.length, EndsAt (pathAt errors root) place := by
    by_contra endless
    have early : ∀ place < errors.length + 1, ¬ EndsAt (pathAt errors root) place :=
      fun place within ends => endless ⟨place, Nat.le_of_lt_succ within, ends⟩
    rcases exists_walked early with ⟨numbers, walked, distinct⟩
    have tooMany := length_le_of_distinct distinct fun _ => walked.lt_length closed inside
    have count := walked.length_eq
    omega
  rcases ending with ⟨place, bound, ends⟩
  classical
  have ending : ∃ place, EndsAt (pathAt errors root) place := ⟨place, ends⟩
  exact ⟨Nat.find ending, (Nat.find_min' ending ends).trans bound, Nat.find_spec ending,
    fun _ otherEnds => Nat.find_min' ending otherEnds⟩

/-! ## The loop of capturing -/

section Steps

variable {limit : Int} {unseen number : Nat} {seen : List Nat}

theorem path_again (old : number ∈ seen) : path errors limit unseen seen (some number) = [] := by
  cases unseen with
  | zero => rfl
  | succ unseen => simp [path, old]

theorem path_deep (deep : limit ≤ seen.length) :
    path errors limit unseen seen (some number) = [] := by
  cases unseen with
  | zero => rfl
  | succ unseen => simp [path, deep]

theorem path_next (new : number ∉ seen) (shallow : ¬ limit ≤ seen.length) {error : HostError}
    (found : errors[number]? = some error) :
    path errors limit (unseen + 1) seen (some number) =
      error :: path errors limit unseen (number :: seen) error.next? := by
  simp [path, new, shallow, found]

/-- Where a path ends, there is nothing left to capture. -/
theorem path_at_end {stop : Nat} (ends : EndsAt (pathAt errors root) stop)
    (walked : Walked errors root stop seen.reverse) :
    path errors limit unseen seen (pathAt errors root stop) = [] := by
  cases here : pathAt errors root stop with
  | none => cases unseen <;> rfl
  | some number =>
      rcases ends with missing | ⟨earlier, less, same⟩
      · rw [here] at missing
        cases missing
      · refine path_again (List.mem_reverse.mp (walked.mem_iff.mpr ?_))
        exact ⟨earlier, less, same.trans here⟩

end Steps

/--
From a place of the path on, with the errors before it seen, capturing takes the errors to the end of
the path, or as many as the depth limit leaves.
-/
theorem path_eq (closed : Closed errors) (inside : root < errors.length) {stop : Nat}
    (least : IsLeast {place | EndsAt (pathAt errors root) place} stop) (limit : Int) {place : Nat}
    {seen : List Nat} (walked : Walked errors root place seen.reverse) (before : place ≤ stop)
    {unseen : Nat} (enough : stop ≤ place + unseen) :
    path errors limit unseen seen (pathAt errors root place) =
      (List.range' place (min limit.toNat stop - place)).filterMap (errorAt errors root) := by
  have seenLength : seen.length = place := by
    rw [← List.length_reverse, walked.length_eq]
  induction unseen generalizing seen place with
  | zero =>
      have ended : place = stop := by omega
      have nothingLeft : min limit.toNat stop - place = 0 := by omega
      rw [nothingLeft, path_at_end (ended ▸ least.1) walked]
      rfl
  | succ unseen induction =>
      by_cases ended : place = stop
      · have nothingLeft : min limit.toNat stop - place = 0 := by omega
        rw [nothingLeft, path_at_end (ended ▸ least.1) walked]
        rfl
      have early : ¬ EndsAt (pathAt errors root) place := fun ends =>
        ended (Nat.le_antisymm before (least.2 ends))
      cases here : pathAt errors root place with
      | none => exact absurd (.inl here) early
      | some number =>
          have new : number ∉ seen := fun old => by
            rcases walked.mem_iff.mp (List.mem_reverse.mpr old) with ⟨earlier, less, same⟩
            exact early (.inr ⟨earlier, less, same.trans here.symm⟩)
          by_cases deep : limit ≤ place
          · have nothingLeft : min limit.toNat stop - place = 0 := by omega
            rw [nothingLeft, path_deep (seenLength ▸ deep)]
            rfl
          · obtain ⟨error, found⟩ : ∃ error, errors[number]? = some error :=
              ⟨_, List.getElem?_eq_getElem (pathAt_lt closed inside here)⟩
            have longer : Walked errors root (place + 1) (number :: seen).reverse := by
              rw [List.reverse_cons]
              exact walked.next here
            have later := induction longer (by omega) (by omega) (by simp [seenLength])
            have oneMore : min limit.toNat stop - place =
                (min limit.toNat stop - (place + 1)) + 1 := by omega
            have atPlace : errorAt errors root place = some error := by
              simp [errorAt, here, found]
            rw [path_next new (seenLength ▸ deep) found, oneMore, List.range'_succ,
              List.filterMap_cons_some atPlace, ← later, pathAt_succ here found]

/-- What capturing takes from a path: the errors at its first places. -/
theorem path_of_root (closed : Closed errors) (inside : root < errors.length) (limit : Int)
    {stop : Nat} (bound : stop ≤ errors.length)
    (least : IsLeast {place | EndsAt (pathAt errors root) place} stop) {numbers : List Nat}
    (walked : Walked errors root (min limit.toNat stop) numbers) :
    (path errors limit errors.length [] (some root)).map some = numbers.map (errors[·]?) := by
  have nothingSeen : Walked errors root 0 [].reverse := rfl
  have taken := path_eq closed inside least limit nothingSeen (Nat.zero_le stop)
    (Nat.le_add_left_of_le bound)
  have found : (List.range (min limit.toNat stop)).map (errorAt errors root) =
      numbers.map (errors[·]?) := by
    calc
      _ = ((List.range (min limit.toNat stop)).map (pathAt errors root)).map
          (Option.bind · (errors[·]?)) := by rw [List.map_map]; rfl
      _ = (numbers.map some).map (Option.bind · (errors[·]?)) := by rw [walked]
      _ = numbers.map (errors[·]?) := by rw [List.map_map]; rfl
  have present : ∀ error ∈ numbers.map (errors[·]?), error.isSome := by
    intro error member
    rcases List.mem_map.mp member with ⟨number, onPath, rfl⟩
    simpa using walked.lt_length closed inside onPath
  rw [pathAt, Nat.sub_zero, ← List.range_eq_range'] at taken
  rw [taken, List.map_filterMap_some_eq_filter_map_isSome, found, List.filter_eq_self.mpr present]

end Walks

/-! ## Levels -/

/-- The level of an error whose text can be had. -/
def level (error : HostError) : Level :=
  { typeName := error.typeName
    message := error.message.getD ""
    frames := .list (error.frames.map .call) }

theorem toLevel_of_text {error : HostError} (readable : error.textFailure = none) :
    error.toLevel = .ok error.level := by
  unfold toLevel text
  rw [readable]
  rfl

theorem toLevel_of_noText {error : HostError} {failure : HostFailure}
    (unreadable : error.textFailure = some failure) : error.toLevel = .error failure := by
  unfold toLevel text
  rw [unreadable]
  rfl

theorem toLevel_eq_ok {error : HostError} {result : Level} (ok : error.toLevel = .ok result) :
    result = error.level := by
  cases failing : error.textFailure with
  | some failure =>
      rw [toLevel_of_noText failing] at ok
      cases ok
  | none =>
      rw [toLevel_of_text failing] at ok
      cases ok
      rfl

/-- The call frame of an entry knows no method, so there is no token to be named. -/
theorem saysErrors_toFrame (entry : StackEntry) : entry.toFrame.SaysErrors := by
  have told : entry.toFrame.TellsFailures := by
    rintro method ⟨⟩
  exact told.saysErrors

theorem saysErrors_frames {error : HostError} {frame : CallFrame} (member : frame ∈ error.frames) :
    frame.SaysErrors := by
  rcases List.mem_map.mp member with ⟨entry, _, rfl⟩
  exact saysErrors_toFrame entry

theorem saysErrors_level (error : HostError) : error.level.SaysErrors := by
  intro items listed frame member
  cases listed
  rcases List.mem_map.mp member with ⟨shown, inStack, same⟩
  cases same
  exact saysErrors_frames inStack

theorem levels_cons_of_error {error : HostError} {inner : List HostError}
    {failure : HostFailure} (failed : levels inner = .error failure) :
    levels (error :: inner) = .error failure := by
  rw [levels, failed]
  rfl

theorem levels_cons_of_ok {error : HostError} {inner : List HostError} {innerLevels : List Level}
    (ok : levels inner = .ok innerLevels) :
    levels (error :: inner) = error.toLevel.map (· :: innerLevels) := by
  rw [levels, ok]
  cases error.toLevel <;> rfl

/--
Errors that can all be captured give their levels. Otherwise the innermost of those that cannot says
how capturing fails.
-/
theorem levels_cases (errors : List HostError) :
    (∀ error ∈ errors, error.toLevel = .ok error.level) ∧
        levels errors = .ok (errors.map level) ∨
      ∃ outer error inner failure, errors = outer ++ error :: inner ∧
        error.toLevel = .error failure ∧ (∀ other ∈ inner, other.toLevel = .ok other.level) ∧
        levels errors = .error failure := by
  induction errors with
  | nil => exact .inl ⟨by simp, rfl⟩
  | cons first inner induction =>
      rcases induction with ⟨whole, ok⟩ | ⟨outer, error, rest, failure, cut, failed, whole, stop⟩
      · cases result : first.toLevel with
        | ok firstLevel =>
            cases toLevel_eq_ok result
            refine .inl ⟨List.forall_mem_cons.mpr ⟨result, whole⟩, ?_⟩
            rw [levels_cons_of_ok ok, result]
            rfl
        | error failure =>
            refine .inr ⟨[], first, inner, failure, rfl, result, whole, ?_⟩
            rw [levels_cons_of_ok ok, result]
            rfl
      · exact .inr ⟨first :: outer, error, rest, failure, by rw [cut, List.cons_append], failed,
          whole, levels_cons_of_error stop⟩

theorem levels_of_readable {errors : List HostError}
    (readable : ∀ error ∈ errors, error.textFailure = none) :
    levels errors = .ok (errors.map level) := by
  rcases levels_cases errors with ⟨_, ok⟩ | ⟨outer, error, inner, failure, rfl, failed, _, _⟩
  · exact ok
  · rw [toLevel_of_text (readable error (by simp))] at failed
    cases failed

end HostError

/-! ## What was captured, as a record -/

namespace ErrorRecord

/-- Levels as errors of which each has the next one as its cause. -/
def nested (levels : List Level) : List ErrorRecord :=
  levels.mapIdx fun number level =>
    { level with cause := if number + 1 < levels.length then .error (number + 1) else .nothing }

theorem causes_nested (levels : List Level) {number : Nat} (inside : number < levels.length)
    {seen : List Nat} (outer : ∀ other ∈ seen, other < number) :
    Causes (nested levels) seen (.error number) (levels.drop number) := by
  have found : (nested levels)[number]? = some
      { levels[number] with
        cause := if number + 1 < levels.length then .error (number + 1) else .nothing } := by
    simp [nested, inside]
  have new : number ∉ seen := fun old => Nat.lt_irrefl number (outer number old)
  rw [List.drop_eq_getElem_cons inside]
  refine .error seen number _ _ new found ?_
  dsimp only
  by_cases more : number + 1 < levels.length
  · rw [if_pos more]
    refine causes_nested levels more fun other member => ?_
    rcases List.mem_cons.mp member with rfl | old
    · exact Nat.lt_succ_self other
    · exact (outer other old).trans (Nat.lt_succ_self number)
  · rw [if_neg more, List.drop_eq_nil_of_le (Nat.le_of_not_lt more)]
    exact .nothing _
termination_by levels.length - number

end ErrorRecord

namespace Trace

theorem ofErrors_nested (config : Config) {levels : List Level}
    (within : levels.length ≤ config.maxCauseDepth.toNat) :
    ofErrors config (ErrorRecord.nested levels) (.error 0) =
      (levels.reverse.mapM Level.block).map
        (String.intercalate (config.causeSeparator ++ "\n")) := by
  cases levels with
  | nil => rfl
  | cons level levels =>
      have causes := ErrorRecord.causes_nested (level :: levels) (Nat.succ_pos levels.length)
        (fun _ member => absurd member List.not_mem_nil)
      have shown := ofErrors_of_causes causes (.inl within)
      rw [List.drop_zero, List.take_of_length_le within] at shown
      exact shown

theorem ofHostErrors_of_capture {config : Config} {errors : List HostError} {root : Nat}
    {levels : List Level}
    (captured : HostError.capture errors config.maxCauseDepth root = .ok levels) :
    ofHostErrors config errors root =
      (levels.reverse.mapM Level.block).map
        (String.intercalate (config.causeSeparator ++ "\n")) := by
  rw [ofHostErrors, captured]
  exact ofLevels_eq config levels.reverse

end Trace

namespace HostError

theorem exists_level_blocks (errors : List HostError) :
    ∃ blocks, (errors.map level).reverse.mapM Level.block = .ok blocks ∧
      List.Forall₂ (fun error text => error.level.block = .ok text) errors.reverse blocks := by
  have said : ∀ shown ∈ (errors.map level).reverse, shown.SaysErrors := by
    intro shown member
    rcases List.mem_map.mp (List.mem_reverse.mp member) with ⟨error, _, rfl⟩
    exact error.saysErrors_level
  rcases Trace.exists_blocks said with ⟨blocks, shown, each⟩
  rw [← List.map_reverse, List.forall₂_map_left_iff] at each
  exact ⟨blocks, shown, each⟩

/--
Capturing follows the path from an error inward until it ends, comes back to an error or reaches the
depth limit, and takes each error on it once. The trace of the error is that of the record that was
captured, with one block for each of these errors.
-/
theorem capture_follows_path (errors : List HostError) (root : Nat) (closed : Closed errors)
    (inside : root < errors.length)
    (readable : ∀ number error, Reaches errors root number → errors[number]? = some error →
      error.textFailure = none)
    (limit : Int) :
    ∃ (path : Nat → Option Nat) (stop : Nat) (numbers : List Nat) (captured : List HostError),
      IsPath errors root path ∧
      IsLeast {place | EndsAt path place} stop ∧
      numbers.map some = (List.range (min limit.toNat stop)).map path ∧
      numbers.Nodup ∧
      captured.map some = numbers.map (errors[·]?) ∧
      captured.length = min limit.toNat stop ∧
      capture errors limit root = .ok (captured.map level) ∧
      ∀ config, config.maxCauseDepth = limit →
        Trace.ofHostErrors config errors root =
          Trace.ofErrors config (ErrorRecord.nested (captured.map level)) (.error 0) ∧
        ∃ blocks, List.Forall₂ (fun error text => error.level.block = .ok text)
            captured.reverse blocks ∧
          Trace.ofHostErrors config errors root =
            .ok (String.intercalate (config.causeSeparator ++ "\n") blocks) := by
  rcases exists_end closed inside with ⟨stop, bound, least⟩
  have early : ∀ place < min limit.toNat stop, ¬ EndsAt (pathAt errors root) place :=
    fun place within ends =>
      Nat.not_le_of_lt (Nat.lt_of_lt_of_le within (Nat.min_le_right _ _)) (least.2 ends)
  rcases exists_walked early with ⟨numbers, walked, distinct⟩
  have taken := path_of_root closed inside limit bound least walked
  generalize found : path errors limit errors.length [] (some root) = captured at taken
  have count : captured.length = min limit.toNat stop := by
    have same := congrArg List.length taken
    rw [List.length_map, List.length_map, walked.length_eq] at same
    exact same
  have allReadable : ∀ error ∈ captured, error.textFailure = none := by
    intro error member
    have onPath : some error ∈ captured.map some := List.mem_map_of_mem member
    rw [taken] at onPath
    rcases List.mem_map.mp onPath with ⟨number, onPath, here⟩
    rcases walked.mem_iff.mp onPath with ⟨place, _, there⟩
    exact readable number error (reaches_pathAt there) here
  have result : capture errors limit root = .ok (captured.map level) := by
    rw [capture, found]
    exact levels_of_readable allReadable
  refine ⟨pathAt errors root, stop, numbers, captured, isPath_pathAt errors root, least, walked,
    distinct, taken, count, result, ?_⟩
  rintro config rfl
  have shown := Trace.ofHostErrors_of_capture result
  have depth : (captured.map level).length ≤ config.maxCauseDepth.toNat := by
    rw [List.length_map, count]
    exact Nat.min_le_left _ _
  refine ⟨shown.trans (Trace.ofErrors_nested config depth).symm, ?_⟩
  rcases exists_level_blocks captured with ⟨blocks, all, each⟩
  refine ⟨blocks, each, ?_⟩
  rw [shown, all]
  rfl

theorem IsPath.step {errors : List HostError} {root : Nat} {path : Nat → Option Nat}
    (isPath : IsPath errors root path) {place number : Nat} {error : HostError}
    (here : path place = some number) (found : errors[number]? = some error) :
    path (place + 1) = error.next? :=
  (leadsTo_iff.mp (isPath.next place number error here found)).symm

/-- A path that enters a circle away from its root, by causes and contexts; one context is
suppressed. -/
theorem capture_follows_path_into_circle :
    let plain : HostError :=
      { name := "", module := "builtins", qualifiedName := "", message := none, textFailure := none,
        cause := none, context := none, suppressContext := false, stack := [] }
    let outer : HostError :=
      { plain with qualifiedName := "Outer", cause := some 1, context := some 3 }
    let middle : HostError := { plain with qualifiedName := "Middle", context := some 2 }
    let inner : HostError :=
      { plain with qualifiedName := "Inner", message := some "late", cause := some 1 }
    let hidden : HostError :=
      { plain with qualifiedName := "Hidden", context := some 3, suppressContext := true }
    let errors := [outer, middle, inner, hidden]
    Closed errors ∧ 0 < errors.length ∧
      (∀ number error, Reaches errors 0 number → errors[number]? = some error →
        error.textFailure = none) ∧
      (∃ path, IsPath errors 0 path ∧ (List.range 4).map path = [some 0, some 1, some 2, some 1]) ∧
      capture errors 64 0 = .ok [outer.level, middle.level, inner.level] ∧
      Trace.ofHostErrors { causeSeparator := "--" } errors 0 =
        .ok "[Inner : late]\n--\n[Middle : ]\n--\n[Outer : ]\n" := by
  intro plain outer middle inner hidden errors
  have closed : Closed errors := by
    simp [Closed, leadsTo_iff, errors, outer, middle, inner, hidden, plain, next?]
  have inside : 0 < errors.length := by decide
  have readable : ∀ number error, Reaches errors 0 number → errors[number]? = some error →
      error.textFailure = none := by
    intro number error _ found
    have member := List.mem_of_getElem? found
    simp only [errors, List.mem_cons, List.not_mem_nil, or_false] at member
    rcases member with rfl | rfl | rfl | rfl <;> rfl
  rcases capture_follows_path errors 0 closed inside readable 64 with
    ⟨path, stop, numbers, captured, isPath, least, walked, _, taken, _, result, shown⟩
  have start : path 0 = some 0 := isPath.root
  have first : path 1 = some 1 := isPath.step start rfl
  have second : path 2 = some 2 := isPath.step first rfl
  have third : path 3 = some 1 := isPath.step second rfl
  have fresh : ∀ place < 3, path place = some place := by
    intro place before
    have few : place = 0 ∨ place = 1 ∨ place = 2 := by omega
    rcases few with rfl | rfl | rfl <;> assumption
  have circle : stop = 3 := by
    refine Nat.le_antisymm (least.2 (.inr ⟨1, by decide, first.trans third.symm⟩)) ?_
    by_contra before
    have here := fresh stop (by omega)
    rcases least.1 with missing | ⟨earlier, less, same⟩
    · cases here.symm.trans missing
    · have there := fresh earlier (by omega)
      cases there.symm.trans (same.trans here)
      exact absurd less (Nat.lt_irrefl _)
  have onPath : numbers = [0, 1, 2] := by
    refine List.map_injective_iff.mpr (fun _ _ => Option.some.inj) (walked.trans ?_)
    simp [circle, List.range_succ, start, first, second]
  have three : captured = [outer, middle, inner] := by
    refine List.map_injective_iff.mpr (fun _ _ => Option.some.inj) (taken.trans ?_)
    rw [onPath]
    rfl
  refine ⟨closed, inside, readable, ⟨path, isPath, ?_⟩, ?_, ?_⟩
  · simp [List.range_succ, start, first, second, third]
  · rw [result, three]
    rfl
  · rw [(shown { causeSeparator := "--" } rfl).1, three]
    decide +kernel

end HostError

end CilTrace
