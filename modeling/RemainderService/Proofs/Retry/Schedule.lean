import Mathlib.Algebra.Order.BigOperators.Group.List
import Mathlib.Data.List.Range
import Mathlib.Tactic.Ring
import RemainderService.Proofs.Retry.Trace

/-!
# The schedule of the pauses

The pauses of a run are the products of the base with 1, 2, 3 and so on, each up to the cap
(`Capped.nanos_eq`). What follows from that alone is said of lists of numbers first
(`cappedProducts`): they grow by the base at most, they stay at the cap once they have reached it,
and until then their sum is a triangular number of bases.

**The law** (`pauses_grow_up_to_cap`) says it of the pauses of calls and of connecting (`Scheduled`).
How many pauses there are is up to the loops: one fewer than attempts, and never more than the policy
allows repetitions (`Goes.length_backoffs_le`). The law does not ask that the products are spans of
time: a run that meets one which is not crashes there, and its pauses up to then are as any others.
-/

set_option autoImplicit false

namespace RemainderService

/-! ## Capped products -/

/-- So many products of a base with 1, 2, 3 and so on, each up to a cap. -/
def cappedProducts (base cap count : Nat) : List Nat :=
  (List.range' 1 count).map fun k => min (base * k) cap

section

variable (base cap count : Nat)

/-- Later products are not smaller. -/
theorem nondecreasing_cappedProducts : (cappedProducts base cap count).Pairwise (· ≤ ·) := by
  unfold cappedProducts
  rw [List.pairwise_map]
  refine List.Pairwise.imp ?_ (List.pairwise_lt_range' 1)
  intro k later before
  have grows : base * k ≤ base * later := Nat.mul_le_mul_left base before.le
  omega

/-- The next product is larger by the base at most. -/
theorem isChain_cappedProducts :
    (cappedProducts base cap count).IsChain fun here next => next ≤ here + base := by
  unfold cappedProducts
  rw [List.isChain_map]
  refine (List.isChain_range' 1 count 1).imp ?_
  rintro k _ rfl
  have next : base * (k + 1) = base * k + base := Nat.mul_succ base k
  omega

/-- Behind a product that has reached the cap, all have. -/
theorem stays_cappedProducts :
    (cappedProducts base cap count).Pairwise fun here later => here = cap → later = cap := by
  unfold cappedProducts
  rw [List.pairwise_map]
  refine List.Pairwise.imp ?_ (List.pairwise_lt_range' 1)
  intro k later before reached
  have grows : base * k ≤ base * later := Nat.mul_le_mul_left base before.le
  omega

/-- The sum is at most as many caps as there are products. -/
theorem sum_cappedProducts_le : (cappedProducts base cap count).sum ≤ count * cap := by
  have bounded : ∀ product ∈ cappedProducts base cap count, product ≤ cap := by
    intro product mem
    obtain ⟨k, -, rfl⟩ := List.mem_map.mp mem
    exact Nat.min_le_right _ _
  have total := List.sum_le_card_nsmul _ cap bounded
  simpa [cappedProducts] using total

/-- Up to the cap, twice the sum is the base times the number of products times the next number. -/
theorem two_mul_sum_cappedProducts (below : base * count ≤ cap) :
    2 * (cappedProducts base cap count).sum = base * ((count + 1) * count) := by
  induction count with
  | zero => simp [cappedProducts]
  | succ count ih =>
    have smaller : base * count ≤ cap := (Nat.mul_le_mul_left base (Nat.le_succ count)).trans below
    have last : cappedProducts base cap (count + 1) =
        cappedProducts base cap count ++ [base * (count + 1)] := by
      unfold cappedProducts
      rw [List.range'_1_concat, List.map_append, List.map_singleton, Nat.add_comm 1 count,
        Nat.min_eq_left below]
    rw [last, List.sum_append, List.sum_singleton, Nat.mul_add, ih smaller]
    ring

end

namespace RetryPolicy

variable {ρ α : Type} {policy : RetryPolicy}

/-! ## Schedules -/

/-- The total of some pauses, in nanoseconds. -/
def total (backoffs : List Duration) : Nat := (backoffs.map Duration.nanos).sum

/-- **The pauses of a run with so many attempts are a capped linear schedule**: there is one fewer,
none is shorter than an earlier one or longer than the one before by more than the base, and they
stay at the cap. Where the last product is not above the cap, the total is half the base times the
number of attempts times the number before it. -/
structure Scheduled (policy : RetryPolicy) (attempts : Nat) (backoffs : List Duration) : Prop where
  attempts_eq : attempts = backoffs.length + 1
  nondecreasing : backoffs.Pairwise fun here later => here.nanos ≤ later.nanos
  grows : backoffs.IsChain fun here next => next.nanos ≤ here.nanos + policy.base.nanos
  stays : backoffs.Pairwise fun here later => here = policy.cap → later = policy.cap
  two_mul_total : policy.base.nanos * (attempts - 1) ≤ policy.cap.nanos →
    2 * total backoffs = policy.base.nanos * (attempts * (attempts - 1))

/-- Pauses that are capped products in order are scheduled. -/
theorem scheduled_of_nanos_eq {attempts : Nat} {backoffs : List Duration}
    (attempts_eq : attempts = backoffs.length + 1)
    (nanos_eq : backoffs.map Duration.nanos =
      cappedProducts policy.base.nanos policy.cap.nanos backoffs.length) :
    policy.Scheduled attempts backoffs := by
  have nondecreasing :=
    nondecreasing_cappedProducts policy.base.nanos policy.cap.nanos backoffs.length
  have grows := isChain_cappedProducts policy.base.nanos policy.cap.nanos backoffs.length
  have stays := stays_cappedProducts policy.base.nanos policy.cap.nanos backoffs.length
  rw [← nanos_eq, List.pairwise_map] at nondecreasing stays
  rw [← nanos_eq, List.isChain_map] at grows
  refine ⟨attempts_eq, nondecreasing, grows, stays.imp ?_, ?_⟩
  · intro here later step reached
    exact Duration.ext_nanos (step (congrArg Duration.nanos reached))
  · intro below
    have count : attempts - 1 = backoffs.length := by omega
    rw [count] at below ⊢
    rw [total, nanos_eq, attempts_eq, two_mul_sum_cappedProducts _ _ _ below]

/-- A call pauses at most as often as the policy allows repetitions. -/
theorem Goes.length_backoffs_le {op : String} {request : ρ} {outcomes : Nat → Except Status α}
    {n : Nat} {run : CallRun ρ α} (goes : policy.Goes op request outcomes n run)
    (first : IsLeast (policy.Ends outcomes) n) :
    run.backoffs.length ≤ policy.maxRetries.toNat := by
  have limit := le_succ_maxRetries first
  cases goes with
  | ended =>
    simp only [course, List.length_map, List.length_range']
    omega
  | @overflowed k least =>
    have before : k < n := least.1.1
    simp only [course, List.length_map, List.length_range']
    omega
  | ranOut last =>
    simp only [lead, outOfNumbers, List.append_nil, List.length_map, List.length_range']
    omega

/-- **The pauses of every call are scheduled** if the policy leaves a number for every attempt. -/
theorem scheduled_call (policy : RetryPolicy) (bounded : policy.maxRetries.toNat < 4294967295)
    (op : String) (request : ρ) (respond : Nat → ρ → Except Status α) :
    policy.Scheduled (policy.call op request respond).attempts
      (policy.call op request respond).backoffs :=
  scheduled_of_nanos_eq (policy.traced_call bounded op request respond).attempts_eq
    (policy.capped_call op request respond).nanos_eq

/-- The pauses of every call are in total at most as many caps as repetitions are allowed. -/
theorem total_backoffs_call_le (policy : RetryPolicy) (op : String) (request : ρ)
    (respond : Nat → ρ → Except Status α) :
    total (policy.call op request respond).backoffs ≤
      policy.maxRetries.toNat * policy.cap.nanos := by
  obtain ⟨n, first⟩ := exists_isLeast_ends policy (respond · request)
  have goes : policy.Goes op request (respond · request) n (policy.call op request respond) :=
    goes_of_isLeast first
  have nanos_eq := (policy.capped_call op request respond).nanos_eq
  calc total (policy.call op request respond).backoffs
      = (cappedProducts policy.base.nanos policy.cap.nanos
          (policy.call op request respond).backoffs.length).sum := congrArg List.sum nanos_eq
    _ ≤ (policy.call op request respond).backoffs.length * policy.cap.nanos :=
        sum_cappedProducts_le _ _ _
    _ ≤ policy.maxRetries.toNat * policy.cap.nanos :=
        Nat.mul_le_mul_right _ (goes.length_backoffs_le first)

/-! ## The law -/

/-- **Pauses grow by the base up to the cap.** If the policy leaves a number for every attempt, the
pauses of every call are a capped linear schedule, and in total they are at most as many caps as
repetitions are allowed. So are the pauses of connecting under the settings that have this policy. -/
theorem pauses_grow_up_to_cap (policy : RetryPolicy)
    (bounded : policy.maxRetries.toNat < 4294967295) :
    (∀ (op : String) (request : ρ) (respond : Nat → ρ → Except Status α),
      let run := policy.call op request respond
      policy.Scheduled run.attempts run.backoffs ∧
        total run.backoffs ≤ policy.maxRetries.toNat * policy.cap.nanos) ∧
    (∀ (config : ClientConfig) (uri : String) (outcome : Nat → Except ConnectFault Unit),
      config.policy = policy →
      let run := config.connect uri outcome
      policy.Scheduled run.attempts run.backoffs ∧
        total run.backoffs ≤ policy.maxRetries.toNat * policy.cap.nanos) := by
  constructor
  · intro op request respond
    exact ⟨policy.scheduled_call bounded op request respond,
      policy.total_backoffs_call_le op request respond⟩
  · rintro config uri outcome rfl run
    obtain ⟨attempts, backoffs, -⟩ : InStep run (config.mirrorCall outcome) :=
      config.connect_inStep_mirrorCall uri outcome
    rw [attempts, backoffs]
    exact ⟨config.policy.scheduled_call bounded "" () (ClientConfig.mirroring outcome),
      config.policy.total_backoffs_call_le "" () (ClientConfig.mirroring outcome)⟩

/-- Four attempts to reach an address that refuses all: the pauses are 100, 200 and 300 milliseconds
where the cap allows it, and 100, 150 and 150 where it does not. A call to a server that is down
pauses as often. -/
theorem three_pauses_below_and_above_cap :
    let wide : ClientConfig := ⟨"test", .zero, .zero, ⟨3, .ofMillis 100, .ofMillis 300⟩⟩
    let narrow : RetryPolicy := ⟨3, .ofMillis 100, .ofMillis 150⟩
    let refused : Nat → Except ConnectFault Unit := fun _ => .error (.system .connectionRefused)
    let down : Nat → Nat → Except Status String := fun _ _ => .error ⟨.unavailable, "down"⟩
    (wide.policy.maxRetries.toNat < 4294967295 ∧
      (wide.connect "http://127.0.0.1:1" refused).attempts = 4 ∧
      2 * total (wide.connect "http://127.0.0.1:1" refused).backoffs = 100000000 * (4 * 3)) ∧
    (narrow.maxRetries.toNat < 4294967295 ∧
      (narrow.call "test.op" 7 down).backoffs = [.ofMillis 100, .ofMillis 150, .ofMillis 150] ∧
      (narrow.call "test.op" 7 down).backoffs.Pairwise
        (fun here later => here = narrow.cap → later = narrow.cap) ∧
      total (narrow.call "test.op" 7 down).backoffs ≤ 3 * 150000000) := by
  intro wide narrow refused down
  have bounded : wide.policy.maxRetries.toNat < 4294967295 := by decide
  have alsoBounded : narrow.maxRetries.toNat < 4294967295 := by decide
  have four : (wide.connect "http://127.0.0.1:1" refused).attempts = 4 := by decide +kernel
  have pauses : (narrow.call "test.op" 7 down).backoffs =
      [.ofMillis 100, .ofMillis 150, .ofMillis 150] := by
    decide +kernel
  obtain ⟨scheduled, -⟩ := (pauses_grow_up_to_cap (ρ := Nat) (α := String) wide.policy bounded).2
    wide "http://127.0.0.1:1" refused rfl
  obtain ⟨schedule, limit⟩ :=
    (pauses_grow_up_to_cap narrow alsoBounded).1 "test.op" 7 down
  have twice := scheduled.two_mul_total
  rw [four] at twice
  exact ⟨⟨bounded, four, twice (by decide)⟩, alsoBounded, pauses, schedule.stays, limit⟩

end RetryPolicy

end RemainderService
