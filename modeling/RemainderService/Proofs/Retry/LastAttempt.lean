import Mathlib.Order.ConditionallyCompleteLattice.Basic
import Mathlib.Order.Lattice.Nat
import RemainderService.Proofs.Retry.Course

/-!
# The last attempt of a call

A call may end at an attempt whose outcome is not transient, and at the one behind the last that
the policy allows to be followed. It ends at the first of them, with the outcome of that attempt
(`call_eq_course`), unless a pause before it is no span of time: then it crashes at the first
attempt with such a pause (`call_eq_course_of_overflow`).

Both hold while the policy counts at least one attempt fewer than there are numbers. The first
attempt that may end a call exists for every server, so nothing is assumed about the outcomes.

**Without that bound** there is a third way (`goes_of_isLeast`): all numbers are used up by attempts
that are followed by others.
-/

set_option autoImplicit false

namespace RemainderService.RetryPolicy

variable {ρ α : Type}

/-- The attempts at which a call may end: the outcome is not transient, or no further attempt is
allowed. -/
def Ends (policy : RetryPolicy) (outcomes : Nat → Except Status α) : Set Nat :=
  {n | 1 ≤ n ∧ (¬ Transient (outcomes n) ∨ n = policy.maxRetries.toNat + 1)}

variable {policy : RetryPolicy} {op : String} {request : ρ}
  {respond : Nat → ρ → Except Status α} {outcomes : Nat → Except Status α} {n k : Nat}

/-- The attempt behind the allowed repetitions ends a call whatever its outcome. -/
theorem succ_maxRetries_mem_ends : policy.maxRetries.toNat + 1 ∈ policy.Ends outcomes :=
  ⟨by omega, .inr rfl⟩

/-- There is a first attempt at which a call may end. -/
theorem exists_isLeast_ends (policy : RetryPolicy) (outcomes : Nat → Except Status α) :
    ∃ n, IsLeast (policy.Ends outcomes) n :=
  ⟨_, isLeast_csInf ⟨_, succ_maxRetries_mem_ends⟩⟩

/-- The first attempt at which a call may end is at most one behind the allowed repetitions. -/
theorem le_succ_maxRetries (first : IsLeast (policy.Ends outcomes) n) :
    n ≤ policy.maxRetries.toNat + 1 :=
  first.2 succ_maxRetries_mem_ends

/-- An attempt before the first at which a call may end failed for a transient reason. -/
theorem transient_of_lt (first : IsLeast (policy.Ends outcomes) n) (low : 1 ≤ k) (high : k < n) :
    Transient (outcomes k) := by
  by_contra final
  have := first.2 (show k ∈ policy.Ends outcomes from ⟨low, .inl final⟩)
  omega

/-- Such an attempt is followed by another one if its pause is a span of time. -/
theorem goesOn_of_lt (first : IsLeast (policy.Ends outcomes) n) (low : 1 ≤ k) (high : k < n)
    (fits : ¬ policy.Overflows k) : policy.GoesOn outcomes k := by
  have := le_succ_maxRetries first
  exact goesOn_of_transient (transient_of_lt first low high) (by omega) fits

/-- At the first attempt at which a call may end, the verdict is its outcome. -/
theorem verdict_of_isLeast (first : IsLeast (policy.Ends outcomes) n) :
    policy.verdict n (outcomes n) = .stop (.ofOutcome (outcomes n)) := by
  rcases first.1.2 with final | last
  · exact verdict_of_not_transient final
  · exact verdict_of_exhausted (by omega)

/-- An attempt whose pause is no span of time is not attempt 0, whose pause would be none at all. -/
theorem pos_of_overflows (exceeds : policy.Overflows k) : 0 < k := by
  rcases Nat.eq_zero_or_pos k with rfl | positive
  · simp only [Overflows, Nat.mul_zero, Nat.not_lt_zero] at exceeds
  · exact positive

/-- A policy that leaves a number for every attempt leaves one for the first that may end a call. -/
theorem le_attemptNumbers (bounded : policy.maxRetries.toNat < 4294967295)
    (first : IsLeast (policy.Ends outcomes) n) : n ≤ attemptNumbers := by
  have limit := le_succ_maxRetries first
  show n ≤ 4294967295
  omega

/-- A call makes all attempts up to the first at which it may end, if that one has a number and no
pause before it overflows. It ends with the outcome of that attempt. -/
theorem call_eq_course_of_le (first : IsLeast (policy.Ends (respond · request)) n)
    (room : n ≤ attemptNumbers) (fits : ∀ k < n, ¬ policy.Overflows k) :
    policy.call op request respond =
      policy.course op request (respond · request) 1 (n - 1) (.ofOutcome (respond n request)) := by
  have positive : 1 ≤ n := first.1.1
  have last : 1 + (n - 1) = n := by omega
  refine callFrom_eq_course 1 (n - 1) attemptNumbers (fun k low high => ?_) ?_ (by omega)
  · exact goesOn_of_lt first low (by omega) (fits k (by omega))
  · rw [last]
    exact verdict_of_isLeast first

/-- **A call without overflow** makes all attempts up to the first at which it may end, and ends
with the outcome of that one. -/
theorem call_eq_course (bounded : policy.maxRetries.toNat < 4294967295)
    (first : IsLeast (policy.Ends (respond · request)) n) (fits : ∀ k < n, ¬ policy.Overflows k) :
    policy.call op request respond =
      policy.course op request (respond · request) 1 (n - 1) (.ofOutcome (respond n request)) :=
  call_eq_course_of_le first (le_attemptNumbers bounded first) fits

/-- A call crashes at the first attempt whose pause is no span of time, if that one has a number and
the call may not end before. -/
theorem call_eq_course_of_overflow_of_le (first : IsLeast (policy.Ends (respond · request)) n)
    (room : k ≤ attemptNumbers) (least : IsLeast {k | k < n ∧ policy.Overflows k} k) :
    policy.call op request respond =
      policy.course op request (respond · request) 1 (k - 1) (.crashed .backoffOverflow) := by
  obtain ⟨⟨before, exceeds⟩, minimal⟩ := least
  have limit := le_succ_maxRetries first
  have positive : 1 ≤ k := pos_of_overflows exceeds
  have last : 1 + (k - 1) = k := by omega
  refine callFrom_eq_course 1 (k - 1) attemptNumbers (fun j low high => ?_) ?_ (by omega)
  · refine goesOn_of_lt first low (by omega) fun overflow => ?_
    have := minimal ⟨by omega, overflow⟩
    omega
  · rw [last]
    exact verdict_of_overflow (transient_of_lt first positive before) (by omega) exceeds

/-- **A call with an overflow** before the first attempt at which it may end crashes at the first
attempt whose pause is no span of time. -/
theorem call_eq_course_of_overflow (bounded : policy.maxRetries.toNat < 4294967295)
    (first : IsLeast (policy.Ends (respond · request)) n)
    (least : IsLeast {k | k < n ∧ policy.Overflows k} k) :
    policy.call op request respond =
      policy.course op request (respond · request) 1 (k - 1) (.crashed .backoffOverflow) :=
  call_eq_course_of_overflow_of_le first
    (least.1.1.le.trans (le_attemptNumbers bounded first)) least

/-- The pauses of a call that ends without an outcome overflow for the first time somewhere. -/
theorem exists_isLeast_overflow (overflow : ∃ k < n, policy.Overflows k) :
    ∃ k, IsLeast {k | k < n ∧ policy.Overflows k} k := by
  obtain ⟨k, before, exceeds⟩ := overflow
  exact ⟨_, isLeast_csInf ⟨k, before, exceeds⟩⟩

/-- The requests of a course are as many copies of one as there are attempts. -/
theorem sent_course (policy : RetryPolicy) (op : String) (request : ρ)
    (outcomes : Nat → Except Status α) (ending : Ending Status α) (positive : 1 ≤ n) :
    (policy.course op request outcomes 1 (n - 1) ending).sent = List.replicate n request := by
  rw [course, Nat.sub_add_cancel positive]

/-- A course has as many attempts as its last one has for a number. -/
theorem attempts_course (policy : RetryPolicy) (op : String) (request : ρ)
    (outcomes : Nat → Except Status α) (ending : Ending Status α) (positive : 1 ≤ n) :
    (policy.course op request outcomes 1 (n - 1) ending).attempts = n := by
  rw [CallRun.attempts, sent_course _ _ _ _ _ positive, List.length_replicate]

/-! ## All calls -/

/-- The run that is made when no number is left. -/
def outOfNumbers : CallRun ρ α := ⟨[], [], [], .crashed .attemptOverflow⟩

/-- How a call can go, by the first attempt at which it may end. -/
inductive Goes (policy : RetryPolicy) (op : String) (request : ρ)
    (outcomes : Nat → Except Status α) (n : Nat) : CallRun ρ α → Prop
  | ended (room : n ≤ attemptNumbers) (fits : ∀ k < n, ¬ policy.Overflows k) :
    Goes policy op request outcomes n
      (policy.course op request outcomes 1 (n - 1) (.ofOutcome (outcomes n)))
  | overflowed {k : Nat} (least : IsLeast {k | k < n ∧ policy.Overflows k} k) :
    Goes policy op request outcomes n
      (policy.course op request outcomes 1 (k - 1) (.crashed .backoffOverflow))
  | ranOut (last : n = attemptNumbers + 1) (fits : ∀ k < n, ¬ policy.Overflows k) :
    Goes policy op request outcomes n
      (policy.lead op request outcomes 1 attemptNumbers outOfNumbers)

/-- **Every call goes in one of three ways.** The third takes the greatest count of repetitions, and
as many transient failures as there are numbers: then the attempt at which the call has to end has
none. -/
theorem goes_of_isLeast (first : IsLeast (policy.Ends (respond · request)) n) :
    policy.Goes op request (respond · request) n (policy.call op request respond) := by
  have limit := le_succ_maxRetries first
  have short := policy.maxRetries.toNat_lt
  by_cases overflow : ∃ k < n, policy.Overflows k
  · obtain ⟨k, least⟩ := exists_isLeast_overflow overflow
    have before : k < n := least.1.1
    have room : k ≤ attemptNumbers := by
      show k ≤ 4294967295
      omega
    rw [call_eq_course_of_overflow_of_le first room least]
    exact .overflowed least
  · have fits : ∀ k < n, ¬ policy.Overflows k := fun k before exceeds => overflow ⟨k, before, exceeds⟩
    rcases Nat.lt_or_ge attemptNumbers n with beyond | room
    · have last : n = attemptNumbers + 1 := by
        have numbers : attemptNumbers = 4294967295 := rfl
        omega
      have lead : policy.call op request respond =
          policy.lead op request (respond · request) 1 attemptNumbers outOfNumbers :=
        callFrom_eq_lead 1 attemptNumbers 0 fun k low high =>
          goesOn_of_lt first low (by omega) (fits k (by omega))
      rw [lead]
      exact .ranOut last fits
    · rw [call_eq_course_of_le first room fits]
      exact .ended room fits

end RemainderService.RetryPolicy
