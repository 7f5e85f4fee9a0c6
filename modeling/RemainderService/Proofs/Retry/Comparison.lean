import Mathlib.Data.List.Forall2
import RemainderService.Proofs.Retry.Course

/-!
# Calls under two policies

Two policies face the same server. The loop is run under both at once, turn by turn, and the two runs
keep step as long as the verdicts agree.

**More repetitions** (`callFrom_keepsStep`). With the same pauses, verdicts differ in one case only:
the smaller policy gives up on a transient failure, and the larger one may go on. So the larger
policy makes the same run, or one that begins with the attempts and the pauses of a run that gave up
(`GivesWayTo`).

**Other pauses** (`callFrom_differsInPauses`). With as many repetitions, verdicts differ in the pause,
and in the crash where a product is no span of time. If neither run crashes there, nothing else
differs but what the log says of the pauses (`DiffersInPauses`).

**The law** (`larger_policies_extend_calls`) puts the two together. It asks nothing of the server,
and nothing of the count of repetitions.
-/

set_option autoImplicit false

namespace RemainderService

variable {ρ α : Type}

/-! ## Comparing runs -/

/-- Two events that show the same, but for the value of one field. -/
structure Event.AgreesExcept (field : String) (event other : Event) : Prop where
  severity_eq : event.severity = other.severity
  target_eq : event.target = other.target
  heading_eq : event.heading = other.heading
  fields_agree : List.Forall₂ (fun here there => here.1 = there.1 ∧
    (here.1 ≠ field → here.2 = there.2)) event.fields other.fields

/-- An event shows what it shows. -/
theorem Event.AgreesExcept.refl (field : String) (event : Event) :
    event.AgreesExcept field event :=
  ⟨rfl, rfl, rfl, List.forall₂_same.mpr fun _ _ => ⟨rfl, fun _ => rfl⟩⟩

/-- Announcements of two pauses behind one attempt differ in the pause. -/
theorem Event.agreesExcept_callRetrying (op : String) (attempt : Nat) (code : Code)
    (pause other : Duration) :
    (Event.callRetrying op attempt code pause).AgreesExcept "backoff_ms"
      (.callRetrying op attempt code other) := by
  refine ⟨rfl, rfl, rfl, ?_⟩
  unfold Event.fields
  simp

/-- The run gave up: the policy allowed no attempt behind a transient failure. -/
def CallRun.GaveUp (policy : RetryPolicy) (run : CallRun ρ α) : Prop :=
  run.attempts = policy.maxRetries.toNat + 1 ∧
    ∃ status, run.ending = .failed status ∧ status.code.retryable = true

/-- A run that failed for a transient reason gives way to one that begins like it. -/
structure CallRun.GivesWayTo (run longer : CallRun ρ α) : Prop where
  failed : ∃ status, run.ending = .failed status ∧ status.code.retryable = true
  sent_prefix : run.sent <+: longer.sent
  backoffs_prefix : run.backoffs <+: longer.backoffs

/-- Runs with the same requests and the same ending, whose logs differ in what they say of the
pauses. -/
structure CallRun.DiffersInPauses (run other : CallRun ρ α) : Prop where
  sent_eq : other.sent = run.sent
  ending_eq : other.ending = run.ending
  logs_agree : List.Forall₂ (Event.AgreesExcept "backoff_ms") run.log other.log

/-- Runs that go on in the same way after an attempt and a pause give way to one another if they do
from there on. -/
theorem CallRun.GivesWayTo.after {run longer : CallRun ρ α} (later : run.GivesWayTo longer)
    (request : ρ) (pause : Duration) (log : List Event) :
    (CallRun.after request pause log run).GivesWayTo (.after request pause log longer) where
  failed := later.failed
  sent_prefix := (List.prefix_cons_inj request).mpr later.sent_prefix
  backoffs_prefix := (List.prefix_cons_inj pause).mpr later.backoffs_prefix

/-- A run differs from itself in no pause. -/
theorem CallRun.DiffersInPauses.refl (run : CallRun ρ α) : run.DiffersInPauses run :=
  ⟨rfl, rfl, List.forall₂_same.mpr fun event _ => .refl _ event⟩

/-- Runs that differ in pauses do so behind an attempt that is followed by different pauses. -/
theorem CallRun.DiffersInPauses.after {run other : CallRun ρ α} (later : run.DiffersInPauses other)
    (request : ρ) (op : String) (attempt : Nat) (code : Code) (pause otherPause : Duration) :
    (CallRun.after request pause
        [.callOpened op attempt, .callRetrying op attempt code pause] run).DiffersInPauses
      (.after request otherPause
        [.callOpened op attempt, .callRetrying op attempt code otherPause] other) where
  sent_eq := congrArg (request :: ·) later.sent_eq
  ending_eq := later.ending_eq
  logs_agree := .cons (.refl _ _)
    (.cons (Event.agreesExcept_callRetrying op attempt code pause otherPause) later.logs_agree)

namespace RetryPolicy

variable {policy other : RetryPolicy} {op : String} {request : ρ}
  {respond : Nat → ρ → Except Status α}

/-! ## More repetitions -/

/-- Policies with the same base and the same cap have the same pauses. -/
theorem backoff?_congr (base : other.base = policy.base) (cap : other.cap = policy.cap)
    (attempt : Nat) : other.backoff? attempt = policy.backoff? attempt := by
  unfold backoff?
  rw [base, cap]

/-- **Verdicts under more repetitions** are the same, unless the smaller policy gives up on a
transient failure. -/
theorem verdict_eq_or_gaveUp (fewer : policy.maxRetries.toNat ≤ other.maxRetries.toNat)
    (base : other.base = policy.base) (cap : other.cap = policy.cap) (attempt : Nat)
    (outcome : Except Status α) :
    other.verdict attempt outcome = policy.verdict attempt outcome ∨
      (policy.maxRetries.toNat < attempt ∧
        ∃ status, outcome = .error status ∧ status.code.retryable = true) := by
  by_cases transient : Transient outcome
  · obtain ⟨status, failed, retryable⟩ := transient_iff.mp transient
    by_cases allowed : attempt ≤ policy.maxRetries.toNat
    · left
      rw [failed, verdict, verdict, givesUp_eq_false_iff.mpr ⟨retryable, allowed⟩,
        givesUp_eq_false_iff.mpr ⟨retryable, Nat.le_trans allowed fewer⟩, backoff?_congr base cap]
    · exact .inr ⟨Nat.lt_of_not_le allowed, status, failed, retryable⟩
  · left
    rw [verdict_of_not_transient transient, verdict_of_not_transient transient]

/-- Every run that has a number for its first attempt begins with a request. -/
theorem singleton_prefix_sent (attempt numbers : Nat) :
    [request] <+: (policy.callFrom op request respond attempt (numbers + 1)).sent := by
  rw [callFrom_succ]
  cases policy.verdict attempt (respond attempt request) with
  | stop ending => exact List.prefix_rfl
  | again status pause => exact (List.prefix_cons_inj request).mpr List.nil_prefix

/-- **A larger policy keeps step** from every attempt on that the smaller one allows: it makes the
same run, or the smaller one gives up, and its run gives way. -/
theorem callFrom_keepsStep (fewer : policy.maxRetries.toNat ≤ other.maxRetries.toNat)
    (base : other.base = policy.base) (cap : other.cap = policy.cap) (attempt numbers : Nat)
    (allowed : attempt ≤ policy.maxRetries.toNat + 1) :
    other.callFrom op request respond attempt numbers =
        policy.callFrom op request respond attempt numbers ∨
      (attempt + (policy.callFrom op request respond attempt numbers).attempts =
          policy.maxRetries.toNat + 2 ∧
        (policy.callFrom op request respond attempt numbers).GivesWayTo
          (other.callFrom op request respond attempt numbers)) := by
  induction numbers generalizing attempt with
  | zero => exact .inl rfl
  | succ numbers ih =>
    obtain same | ⟨last, status, failed, retryable⟩ :=
      verdict_eq_or_gaveUp fewer base cap attempt (respond attempt request)
    · rw [callFrom_succ, callFrom_succ, same]
      cases verdict : policy.verdict attempt (respond attempt request) with
      | stop ending => exact .inl rfl
      | again status pause =>
        obtain ⟨-, -, repeated, -⟩ := verdict_eq_again_iff.mp verdict
        obtain later | ⟨counted, later⟩ := ih (attempt + 1) (by omega)
        · left
          simp only [later]
        · right
          refine ⟨?_, later.after request pause _⟩
          simp only [CallRun.after, CallRun.attempts, List.length_cons] at counted ⊢
          omega
    · -- The smaller policy makes its last attempt, and every run of the larger begins with one.
      right
      have begins : [request] <+: (other.callFrom op request respond attempt (numbers + 1)).sent :=
        singleton_prefix_sent attempt numbers
      have gaveUp : policy.verdict attempt (respond attempt request) = .stop (.failed status) := by
        rw [verdict_of_exhausted last, failed, Ending.ofOutcome]
      have turn : policy.callFrom op request respond attempt (numbers + 1) = _ :=
        callFrom_succ attempt numbers
      rw [turn, gaveUp]
      refine ⟨?_, ⟨status, rfl, retryable⟩, begins, List.nil_prefix⟩
      simp only [CallRun.only, CallRun.attempts, List.length_singleton]
      omega

/-! ## Other pauses -/

/-- **Other pauses keep step**: with as many repetitions, two runs without a product that is no span
of time differ in pauses. -/
theorem callFrom_differsInPauses (same : other.maxRetries = policy.maxRetries)
    (attempt numbers : Nat)
    (fits : (policy.callFrom op request respond attempt numbers).ending ≠
      .crashed .backoffOverflow)
    (otherFits : (other.callFrom op request respond attempt numbers).ending ≠
      .crashed .backoffOverflow) :
    (policy.callFrom op request respond attempt numbers).DiffersInPauses
      (other.callFrom op request respond attempt numbers) := by
  induction numbers generalizing attempt with
  | zero => exact .refl _
  | succ numbers ih =>
    have exhausted : other.exhausted attempt = policy.exhausted attempt := by
      unfold RetryPolicy.exhausted
      rw [same]
    unfold callFrom at fits otherFits ⊢
    rw [exhausted] at otherFits ⊢
    cases outcome : respond attempt request with
    | ok value => exact .refl _
    | error status =>
      simp only [outcome] at fits otherFits ⊢
      split
      · exact .refl _
      · next goes =>
        rw [if_neg goes] at fits otherFits
        cases product : policy.backoff? attempt with
        | none => simp [product, CallRun.only] at fits
        | some pause =>
          cases otherProduct : other.backoff? attempt with
          | none => simp [otherProduct, CallRun.only] at otherFits
          | some otherPause =>
            rw [product] at fits
            rw [otherProduct] at otherFits
            exact (ih (attempt + 1) fits otherFits).after request op attempt _ pause otherPause

/-! ## The law -/

/-- **Larger policies extend calls, and other pauses only change the pauses.** Two policies, the
second with at least as many repetitions, call one server.

1. If they have the same base and the same cap, then the attempts of the first call are the first
   attempts of the second, and its pauses the first pauses. If the first call does not give up, the
   second is the same call, with its requests, its pauses, its log and its ending. So it succeeds if
   the first does.
2. If they allow as many repetitions, and no product that a call asks for is no span of time, then
   the calls have the same ending and the same attempts with the same requests. Their logs have the
   same entries, but for the pauses in milliseconds. -/
theorem larger_policies_extend_calls (policy other : RetryPolicy)
    (fewer : policy.maxRetries.toNat ≤ other.maxRetries.toNat) (op : String) (request : ρ)
    (respond : Nat → ρ → Except Status α) :
    let run := policy.call op request respond
    let longer := other.call op request respond
    (other.base = policy.base → other.cap = policy.cap →
      run.sent <+: longer.sent ∧ run.backoffs <+: longer.backoffs ∧
        (¬ run.GaveUp policy → longer = run) ∧
        ∀ value, run.ending = .answered value → longer.ending = .answered value) ∧
    (other.maxRetries = policy.maxRetries →
      run.ending ≠ .crashed .backoffOverflow → longer.ending ≠ .crashed .backoffOverflow →
        longer.ending = run.ending ∧ longer.attempts = run.attempts ∧ longer.sent = run.sent ∧
          List.Forall₂ (Event.AgreesExcept "backoff_ms") run.log longer.log) := by
  intro run longer
  constructor
  · intro base cap
    have step : longer = run ∨
        (1 + run.attempts = policy.maxRetries.toNat + 2 ∧ run.GivesWayTo longer) :=
      callFrom_keepsStep fewer base cap 1 attemptNumbers (by omega)
    obtain same | ⟨counted, gives⟩ := step
    · rw [same]
      exact ⟨List.prefix_rfl, List.prefix_rfl, fun _ => rfl, fun _ => id⟩
    · refine ⟨gives.sent_prefix, gives.backoffs_prefix, ?_, ?_⟩
      · intro finished
        exact absurd ⟨by omega, gives.failed⟩ finished
      · intro value answered
        obtain ⟨status, failed, -⟩ := gives.failed
        rw [answered] at failed
        cases failed
  · intro same fits otherFits
    have differs : run.DiffersInPauses longer :=
      callFrom_differsInPauses same 1 attemptNumbers fits otherFits
    refine ⟨differs.ending_eq, ?_, differs.sent_eq, differs.logs_agree⟩
    unfold CallRun.attempts
    rw [differs.sent_eq]

/-- A server that is up from its third attempt on is reached with three repetitions and not with one.
One that is up from its second attempt on is reached in the same way with both, and with longer
pauses as well. -/
theorem third_attempt_needs_second_repetition :
    let small : RetryPolicy := ⟨1, .ofMillis 1, .ofMillis 5⟩
    let large : RetryPolicy := ⟨3, .ofMillis 1, .ofMillis 5⟩
    let slow : RetryPolicy := ⟨1, .ofMillis 70, .ofMillis 90⟩
    let upFrom (first : Nat) : Nat → Nat → Except Status String := fun attempt _ =>
      if attempt < first then .error ⟨.unavailable, "down"⟩ else .ok "up"
    small.maxRetries.toNat ≤ large.maxRetries.toNat ∧
      ((small.call "test.op" 7 (upFrom 3)).GaveUp small ∧
        (small.call "test.op" 7 (upFrom 3)).sent <+: (large.call "test.op" 7 (upFrom 3)).sent ∧
        (large.call "test.op" 7 (upFrom 3)).ending = .answered "up") ∧
      (¬ (small.call "test.op" 7 (upFrom 2)).GaveUp small ∧
        large.call "test.op" 7 (upFrom 2) = small.call "test.op" 7 (upFrom 2)) ∧
      (slow.call "test.op" 7 (upFrom 2)).backoffs ≠ (small.call "test.op" 7 (upFrom 2)).backoffs ∧
      List.Forall₂ (Event.AgreesExcept "backoff_ms") (small.call "test.op" 7 (upFrom 2)).log
        (slow.call "test.op" 7 (upFrom 2)).log := by
  intro small large slow upFrom
  have fewer : small.maxRetries.toNat ≤ large.maxRetries.toNat := by decide
  have gaveUp : (small.call "test.op" 7 (upFrom 3)).GaveUp small :=
    ⟨by decide +kernel, ⟨.unavailable, "down"⟩, by decide +kernel, rfl⟩
  have answered : (small.call "test.op" 7 (upFrom 2)).ending = .answered "up" := by decide +kernel
  have slowAnswered : (slow.call "test.op" 7 (upFrom 2)).ending = .answered "up" := by
    decide +kernel
  have finished : ¬ (small.call "test.op" 7 (upFrom 2)).GaveUp small := by
    rintro ⟨-, status, failed, -⟩
    rw [answered] at failed
    cases failed
  obtain ⟨begins, -⟩ :=
    (larger_policies_extend_calls small large fewer "test.op" 7 (upFrom 3)).1 rfl rfl
  obtain ⟨-, -, same, -⟩ :=
    (larger_policies_extend_calls small large fewer "test.op" 7 (upFrom 2)).1 rfl rfl
  obtain ⟨-, -, -, logs⟩ :=
    (larger_policies_extend_calls small slow (Nat.le_refl 1) "test.op" 7 (upFrom 2)).2 rfl
      (by simp [answered]) (by simp [slowAnswered])
  exact ⟨fewer, ⟨gaveUp, begins, by decide +kernel⟩, ⟨finished, same finished⟩,
    by decide +kernel, logs⟩

end RetryPolicy

end RemainderService
