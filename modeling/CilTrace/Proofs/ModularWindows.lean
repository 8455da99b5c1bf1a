import Mathlib.Data.Int.ModEq
import Mathlib.Tactic.Linarith
import Mathlib.Tactic.Ring

/-!
Multiples whose remainder lies in a window.

For the multiples of a step, the first one whose remainder modulo a number lies in a given window is
found as the greatest common divisor is: the question about a modulus and a step is led back to one
about the step and a remainder. What is proved is that no earlier multiple lies in the window, so a
range in which all such multiples are looked at has been searched completely.
-/

namespace CilTrace

/-- A window of remainders of the multiples of a step. -/
structure Window where
  step : Nat
  modulus : Nat
  low : Nat
  high : Nat

namespace Window

/-- Whether the remainder of a multiple lies in the window. -/
def Holds (window : Window) (factor : Nat) : Prop :=
  window.low ≤ window.step * factor % window.modulus ∧
    window.step * factor % window.modulus ≤ window.high

/-- The window on the other side of the modulus, for multiples that go down. -/
def reflect (window : Window) : Window where
  step := window.modulus - window.step
  modulus := window.modulus
  low := window.modulus - window.high
  high := window.modulus - window.low

/-- The window for the number of turns around the modulus. -/
def turns (window : Window) : Window where
  step := (window.step - window.modulus % window.step) % window.step
  modulus := window.step
  low := window.low % window.step
  high := window.high % window.step

/-- The window for multiples that are counted from a later one. -/
def after (window : Window) (start : Nat) : Window :=
  let passed := window.step * start % window.modulus
  if passed < window.low then
    { window with low := window.low - passed, high := window.high - passed }
  else if window.high < passed then
    { window with
      low := window.low + window.modulus - passed
      high := window.high + window.modulus - passed }
  else { window with low := 0, high := window.modulus }

/-! ## One step of the search -/

variable {window : Window} {factor : Nat}

theorem Holds.modulus_pos (holds : window.Holds factor) (low : 0 < window.low)
    (small : window.step ≤ window.modulus) : 0 < window.modulus := by
  rcases Nat.eq_zero_or_pos window.modulus with zero | positive
  · have still : window.step = 0 := by omega
    have above := holds.1
    rw [still, Nat.zero_mul, Nat.zero_mod] at above
    omega
  · exact positive

theorem Holds.reflect (holds : window.Holds factor) (low : 0 < window.low)
    (small : window.step ≤ window.modulus) : window.reflect.Holds factor := by
  have positive := holds.modulus_pos low small
  have split := Nat.div_add_mod (window.step * factor) window.modulus
  have bound := Nat.mod_lt (window.step * factor) positive
  rcases holds with ⟨above, below⟩
  generalize window.step * factor % window.modulus = rest at *
  generalize window.step * factor / window.modulus = turns at *
  -- The multiples of the step and of its complement add up to multiples of the modulus.
  have sum : (window.modulus - window.step) * factor + window.step * factor =
      window.modulus * factor := by
    rw [← Nat.add_mul, Nat.sub_add_cancel small]
  have room : turns < factor := by
    apply Nat.lt_of_mul_lt_mul_left (a := window.modulus)
    have most := Nat.mul_le_mul_right factor small
    omega
  rcases Nat.exists_eq_add_of_lt room with ⟨more, rfl⟩
  have complement : (window.modulus - window.step) * (turns + more + 1) =
      (window.modulus - rest) + window.modulus * more := by
    have expanded : window.modulus * (turns + more + 1) =
        window.modulus * turns + window.modulus * more + window.modulus := by ring
    omega
  have remainder : (window.modulus - window.step) * (turns + more + 1) % window.modulus =
      window.modulus - rest := by
    rw [complement, Nat.add_mul_mod_self_left, Nat.mod_eq_of_lt (by omega)]
  rw [Window.Holds, Window.reflect]
  dsimp only
  rw [remainder]
  omega

theorem dvd_complement_add {step : Nat} (positive : 0 < step) (number : Nat) :
    step ∣ (step - number % step) % step + number := by
  have split := Nat.div_add_mod number step
  have small := Nat.mod_lt number positive
  rcases Nat.eq_zero_or_pos (number % step) with zero | rest
  · rw [zero, Nat.sub_zero, Nat.mod_self, Nat.zero_add]
    exact Nat.dvd_of_mod_eq_zero zero
  · rw [Nat.mod_eq_of_lt (by omega)]
    refine ⟨number / step + 1, ?_⟩
    rw [Nat.mul_add]
    omega

/-- If no multiple of the step lies between the bounds themselves, the turns up to a multiple in the
window are in the window of turns. -/
theorem Holds.turns (holds : window.Holds factor) (positive : 0 < window.step)
    (none : window.low / window.step = window.high / window.step) :
    window.turns.Holds (window.step * factor / window.modulus) := by
  have split := Nat.div_add_mod (window.step * factor) window.modulus
  rcases holds with ⟨above, below⟩
  generalize window.step * factor % window.modulus = rest at *
  generalize window.step * factor / window.modulus = turns at *
  have same : (window.step - window.modulus % window.step) % window.step * turns % window.step =
      rest % window.step := by
    -- Both come to a multiple of the step when the turns of the modulus are added.
    apply Nat.ModEq.add_right_cancel' (window.modulus * turns)
    rw [Nat.add_comm rest, split, ← Nat.add_mul]
    have turned := (dvd_complement_add positive window.modulus).mul_right turns
    exact turned.modEq_zero_nat.trans (Nat.dvd_mul_right _ _).modEq_zero_nat.symm
  have lower := Nat.div_add_mod window.low window.step
  have middle := Nat.div_add_mod rest window.step
  have upper := Nat.div_add_mod window.high window.step
  have quotient : rest / window.step = window.low / window.step := by
    have least := Nat.div_le_div_right (c := window.step) above
    have most := Nat.div_le_div_right (c := window.step) below
    omega
  rw [quotient] at middle
  rw [← none] at upper
  rw [Window.Holds, Window.turns]
  dsimp only
  rw [same]
  omega

theorem Holds.after {start : Nat} (holds : window.Holds (start + factor))
    (positive : 0 < window.modulus) : (window.after start).Holds factor := by
  have passed := Nat.mod_lt (window.step * start) positive
  have more := Nat.mod_lt (window.step * factor) positive
  rw [Window.Holds, Nat.mul_add, Nat.add_mod] at holds
  have sum : (window.step * start % window.modulus + window.step * factor % window.modulus) %
        window.modulus =
      if window.step * start % window.modulus + window.step * factor % window.modulus <
          window.modulus then
        window.step * start % window.modulus + window.step * factor % window.modulus
      else window.step * start % window.modulus + window.step * factor % window.modulus -
        window.modulus := by
    split_ifs with short
    · exact Nat.mod_eq_of_lt short
    · rw [Nat.mod_eq_sub_mod (by omega), Nat.mod_eq_of_lt (by omega)]
  rw [sum] at holds
  unfold Window.after Window.Holds
  dsimp only
  split_ifs with before behind <;> dsimp only <;> split_ifs at holds <;> omega

/-! ## The search -/

theorem ceil_le {number step factor : Nat} (positive : 0 < step)
    (reached : number ≤ step * factor) : (number + step - 1) / step ≤ factor := by
  rw [Nat.div_le_iff_le_mul_add_pred positive]
  omega

theorem le_ceil {number step : Nat} (positive : 0 < step) :
    (number + step - 1) / step ≤ number / step + 1 := by
  apply ceil_le positive
  rw [Nat.mul_add, Nat.mul_one]
  exact (Nat.lt_mul_div_succ number positive).le

/-- A number before which no multiple lies in the window. -/
def first : Nat → Window → Nat
  | 0, _ => 0
  | fuel + 1, window =>
      if window.low = 0 ∨ window.step = 0 then 0
      else if window.modulus < 2 * window.step then first fuel window.reflect
      else
        let direct := (window.low + window.step - 1) / window.step
        if direct * window.step ≤ window.high then direct
        else
          (window.low + window.modulus * first fuel window.turns + window.step - 1) / window.step

theorem first_le (fuel : Nat) {window : Window} {factor : Nat}
    (small : window.step ≤ window.modulus) (holds : window.Holds factor) :
    first fuel window ≤ factor := by
  induction fuel generalizing window factor with
  | zero => exact Nat.zero_le _
  | succ fuel induction =>
      have split := Nat.div_add_mod (window.step * factor) window.modulus
      have above := holds.1
      have below := holds.2
      unfold first
      dsimp only
      split_ifs with trivial large direct
      · exact Nat.zero_le _
      · exact induction (Nat.sub_le _ _) (holds.reflect (by omega) small)
      · apply ceil_le (by omega)
        omega
      · have positive : 0 < window.step := by omega
        have none : window.low / window.step = window.high / window.step := by
          have least := Nat.div_le_div_right (c := window.step) (above.trans below)
          by_contra different
          have apart : window.low / window.step + 1 ≤ window.high / window.step := by omega
          apply direct
          calc (window.low + window.step - 1) / window.step * window.step
              ≤ window.high / window.step * window.step :=
                Nat.mul_le_mul_right _ ((le_ceil positive).trans apart)
            _ ≤ window.high := Nat.div_mul_le_self _ _
        have turns := induction (Nat.mod_lt _ positive).le (holds.turns positive none)
        have turned := Nat.mul_le_mul_left window.modulus turns
        apply ceil_le positive
        omega

/-- Looks at all multiples in the window from one number up to another. -/
def search (window : Window) (check : Nat → Bool) (stop : Nat) : Nat → Nat → Bool
  | 0, _ => false
  | fuel + 1, start =>
      let next := start + first 64 (window.after start)
      if stop ≤ next then true else check next && search window check stop fuel (next + 1)

/-- A search that ends has looked at every multiple in the window. -/
theorem check_of_search {window : Window} {check : Nat → Bool} {stop fuel start : Nat}
    (small : window.step ≤ window.modulus) (positive : 0 < window.modulus)
    (searched : search window check stop fuel start = true) {factor : Nat}
    (holds : window.Holds factor) (begun : start ≤ factor) (within : factor < stop) :
    check factor = true := by
  induction fuel generalizing start with
  | zero => cases searched
  | succ fuel induction =>
      rcases Nat.exists_eq_add_of_le begun with ⟨distance, rfl⟩
      have step : (window.after start).step ≤ (window.after start).modulus := by
        unfold after
        dsimp only
        split_ifs <;> exact small
      have next := first_le 64 step (holds.after positive)
      unfold search at searched
      dsimp only at searched
      split_ifs at searched with ended
      · omega
      · rcases (Bool.and_eq_true _ _).mp searched with ⟨checked, searched⟩
        rcases Nat.lt_or_eq_of_le next with later | here
        · exact induction searched (by omega)
        · rw [← here]
          exact checked

/-! ## Odd multiples -/

/-- The window of the multiples of a step that come near to an odd multiple of another number; near
means within one of some equal parts of that number. -/
def nearOdd (step half parts : Nat) : Window :=
  let common := step.gcd half
  let unit := half / common
  { step := step / common % (2 * unit)
    modulus := 2 * unit
    low := unit - unit / parts
    high := unit + unit / parts }

theorem le_add_div_of_mul_le {parts larger smaller unit : Nat} (positive : 0 < parts)
    (bound : parts * larger ≤ parts * smaller + unit) : larger ≤ smaller + unit / parts := by
  have distance : larger - smaller ≤ unit / parts := by
    rw [Nat.le_div_iff_mul_le positive, Nat.mul_comm, Nat.mul_sub]
    omega
  omega

section NearOdd

variable {step half parts factor turns : Nat} (positive : 0 < half)

include positive

theorem nearOdd_small : (nearOdd step half parts).step ≤ (nearOdd step half parts).modulus ∧
    0 < (nearOdd step half parts).modulus := by
  have unit : 0 < half / step.gcd half :=
    Nat.div_pos (Nat.gcd_le_right _ positive) (Nat.gcd_pos_of_pos_right _ positive)
  exact ⟨(Nat.mod_lt _ (by omega)).le, by unfold nearOdd; dsimp only; omega⟩

variable (above : parts * (step * factor) ≤ parts * ((2 * turns + 1) * half) + half)
  (below : parts * ((2 * turns + 1) * half) ≤ parts * (step * factor) + half)

include above below

/-- A multiple near to an odd one lies in the window, and there is more than one number in the
window unless the multiple is the odd one. -/
theorem holds_nearOdd (several : 1 < parts) : (nearOdd step half parts).Holds factor ∧
    (step * factor ≠ (2 * turns + 1) * half →
      (nearOdd step half parts).low ≠ (nearOdd step half parts).high) := by
  have common : 0 < step.gcd half := Nat.gcd_pos_of_pos_right _ positive
  unfold nearOdd Window.Holds
  dsimp only
  generalize stepSplit : step / step.gcd half = part
  generalize halfSplit : half / step.gcd half = unit
  have stepSplit : step = step.gcd half * part := by
    rw [← stepSplit, Nat.mul_div_cancel' (Nat.gcd_dvd_left _ _)]
  have halfSplit : half = step.gcd half * unit := by
    rw [← halfSplit, Nat.mul_div_cancel' (Nat.gcd_dvd_right _ _)]
  generalize step.gcd half = shared at *
  subst stepSplit halfSplit
  have unitPositive : 0 < unit := Nat.pos_of_mul_pos_left positive
  have above : parts * (part * factor) ≤ parts * ((2 * turns + 1) * unit) + unit := by
    apply Nat.le_of_mul_le_mul_left _ common
    linarith
  have below : parts * ((2 * turns + 1) * unit) ≤ parts * (part * factor) + unit := by
    apply Nat.le_of_mul_le_mul_left _ common
    linarith
  have above := le_add_div_of_mul_le (by omega) above
  have below := le_add_div_of_mul_le (by omega) below
  have margin : unit / parts < unit := Nat.div_lt_self unitPositive several
  have odd : (2 * turns + 1) * unit = 2 * unit * turns + unit := by ring
  rw [odd] at above below
  constructor
  · have remainder :
        part % (2 * unit) * factor % (2 * unit) = part * factor - 2 * unit * turns := by
      have split : part * factor = (part * factor - 2 * unit * turns) + 2 * unit * turns := by omega
      rw [Nat.mod_mul_mod]
      nth_rewrite 1 [split]
      rw [Nat.add_mul_mod_self_left, Nat.mod_eq_of_lt (by omega)]
    rw [remainder]
    omega
  · intro different same
    apply different
    have exact : part * factor = 2 * unit * turns + unit := by omega
    rw [Nat.mul_assoc, exact, ← odd]
    ring

end NearOdd

end Window

end CilTrace
