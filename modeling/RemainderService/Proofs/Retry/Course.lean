import RemainderService.Retry

/-!
# The course of a call

A policy passes a verdict on the outcome of each attempt: the call ends, or another attempt follows
after a pause. The loop of a call looks at nothing else (`callFrom_succ`), so everything that is
said about calls is said about verdicts first.

**The law** (`callFrom_eq_course`): attempts that are followed by others up to one that stops are a
run that can be written down at once, with its requests, pauses, entries of the log and ending. The
induction is on the number of attempts that are followed (`callFrom_eq_lead`); the attempt numbers
that are left have to be more than that, which is the one place where their supply matters.

**Verdicts in the words of the outcome** come next: an outcome that is not transient stops the call
with itself, so does any outcome when no attempt is left, and a transient one goes on unless the
pause is no span of time.
-/

set_option autoImplicit false

namespace RemainderService

/-- What a policy makes of the outcome of an attempt. -/
inductive Verdict (α : Type)
  | stop (ending : Ending Status α)
  | again (status : Status) (pause : Duration)

/-- An outcome after which the same call may be tried again. -/
inductive Transient {α : Type} : Except Status α → Prop
  | unavailable (message : String) : Transient (.error ⟨.unavailable, message⟩)
  | deadlineExceeded (message : String) : Transient (.error ⟨.deadlineExceeded, message⟩)

/-- The outcome of the last attempt as the ending of a call, unchanged. -/
def Ending.ofOutcome {α : Type} : Except Status α → Ending Status α
  | .ok value => .answered value
  | .error status => .failed status

/-- The code of an outcome; a value has the code of a success. -/
def outcomeCode {α : Type} : Except Status α → Code
  | .ok _ => .ok
  | .error status => status.code

namespace RetryPolicy

variable {ρ α : Type}

/-- The verdict of a policy on the outcome of an attempt. -/
def verdict (policy : RetryPolicy) (attempt : Nat) : Except Status α → Verdict α
  | .ok value => .stop (.answered value)
  | .error status =>
    if !status.code.retryable || policy.exhausted attempt then .stop (.failed status)
    else
      match policy.backoff? attempt with
      | none => .stop (.crashed .backoffOverflow)
      | some pause => .again status pause

/-- The pause after an attempt. A product that is no span of time exceeds the cap. -/
def pause (policy : RetryPolicy) (attempt : Nat) : Duration :=
  (policy.backoff? attempt).getD policy.cap

/-- The product of the base with an attempt number exceeds every span of time. -/
def Overflows (policy : RetryPolicy) (attempt : Nat) : Prop :=
  Duration.maxNanos < policy.base.nanos * attempt

instance (policy : RetryPolicy) (attempt : Nat) : Decidable (policy.Overflows attempt) :=
  inferInstanceAs (Decidable (_ < _))

/-- The attempt is followed by another one. -/
def GoesOn (policy : RetryPolicy) (outcomes : Nat → Except Status α) (attempt : Nat) : Prop :=
  ∃ status pause, policy.verdict attempt (outcomes attempt) = .again status pause

/-- The entries of the log for an attempt that is followed by another one. -/
def retryEntries (policy : RetryPolicy) (op : String) (outcomes : Nat → Except Status α)
    (attempt : Nat) : List Event :=
  [.callOpened op attempt,
    .callRetrying op attempt (outcomeCode (outcomes attempt)) (policy.pause attempt)]

/-- The entries behind the span of the last attempt. -/
def closingEntries (op : String) (attempt : Nat) : Ending Status α → List Event
  | .answered _ => if 1 < attempt then [.callRecovered op attempt] else []
  | .failed status => [.callFailed op attempt status]
  | .crashed _ => []

/-- The run in which so many attempts from a number on are followed by others, up to a run that
begins behind them. -/
def lead (policy : RetryPolicy) (op : String) (request : ρ) (outcomes : Nat → Except Status α)
    (first followed : Nat) (later : CallRun ρ α) : CallRun ρ α where
  sent := List.replicate followed request ++ later.sent
  backoffs := (List.range' first followed).map policy.pause ++ later.backoffs
  log := (List.range' first followed).flatMap (policy.retryEntries op outcomes) ++ later.log
  ending := later.ending

/-- The run in which so many attempts from a number on are followed by others and the next one is
the last. -/
def course (policy : RetryPolicy) (op : String) (request : ρ) (outcomes : Nat → Except Status α)
    (first followed : Nat) (ending : Ending Status α) : CallRun ρ α where
  sent := List.replicate (followed + 1) request
  backoffs := (List.range' first followed).map policy.pause
  log := (List.range' first followed).flatMap (policy.retryEntries op outcomes) ++
    .callOpened op (first + followed) :: closingEntries op (first + followed) ending
  ending := ending

/-! ## The loop reads verdicts -/

variable {policy : RetryPolicy} {op : String} {request : ρ}
  {respond : Nat → ρ → Except Status α}

/-- One turn of the loop, by the verdict on its attempt. -/
theorem callFrom_succ (attempt numbers : Nat) :
    policy.callFrom op request respond attempt (numbers + 1) =
      match policy.verdict attempt (respond attempt request) with
      | .stop ending =>
        .only request (.callOpened op attempt :: closingEntries op attempt ending) ending
      | .again status pause =>
        .after request pause
          [.callOpened op attempt, .callRetrying op attempt status.code pause]
          (policy.callFrom op request respond (attempt + 1) numbers) := by
  rw [callFrom]
  cases respond attempt request with
  | ok value => rfl
  | error status =>
    simp only [verdict]
    split
    · rfl
    · cases policy.backoff? attempt with
      | none => rfl
      | some pause => rfl

/-- The loop does not give up on a transient status while the policy allows a further attempt. -/
theorem givesUp_eq_false_iff {attempt : Nat} {status : Status} :
    (!status.code.retryable || policy.exhausted attempt) = false ↔
      status.code.retryable = true ∧ attempt ≤ policy.maxRetries.toNat := by
  rw [Bool.or_eq_false_iff, Bool.not_eq_false', exhausted, decide_eq_false_iff_not, Nat.not_lt]

/-- An attempt that is followed by another one failed with a transient status while the policy
allowed a further attempt, and its pause is a span of time. -/
theorem verdict_eq_again_iff {attempt : Nat} {outcome : Except Status α} {status : Status}
    {pause : Duration} :
    policy.verdict attempt outcome = .again status pause ↔
      outcome = .error status ∧ status.code.retryable = true ∧
        attempt ≤ policy.maxRetries.toNat ∧ policy.backoff? attempt = some pause := by
  cases outcome with
  | ok value => simp only [verdict, reduceCtorEq, false_and]
  | error failure =>
    rw [verdict]
    constructor
    · intro h
      split at h
      · cases h
      · next goes =>
        obtain ⟨retryable, allowed⟩ := givesUp_eq_false_iff.mp (Bool.eq_false_iff.mpr goes)
        split at h
        · cases h
        · next product => cases h; exact ⟨rfl, retryable, allowed, product⟩
    · rintro ⟨same, retryable, allowed, product⟩
      cases same
      rw [givesUp_eq_false_iff.mpr ⟨retryable, allowed⟩, if_neg Bool.false_ne_true, product]

/-- Attempts that are followed by others lead up to the run behind them. -/
theorem callFrom_eq_lead (first followed left : Nat)
    (goesOn : ∀ k, first ≤ k → k < first + followed → policy.GoesOn (respond · request) k) :
    policy.callFrom op request respond first (followed + left) =
      policy.lead op request (respond · request) first followed
        (policy.callFrom op request respond (first + followed) left) := by
  induction followed generalizing first with
  | zero =>
    rw [Nat.zero_add, Nat.add_zero]
    rfl
  | succ followed ih =>
    obtain ⟨status, pause, again⟩ := goesOn first (Nat.le_refl first) (by omega)
    obtain ⟨failed, -, -, product⟩ := verdict_eq_again_iff.mp again
    have paused : policy.pause first = pause := by rw [RetryPolicy.pause, product, Option.getD_some]
    have code : outcomeCode (respond first request) = status.code := congrArg outcomeCode failed
    rw [Nat.add_right_comm, callFrom_succ,
      show policy.verdict first (respond first request) = _ from again,
      ih (first + 1) fun k low high => goesOn k (by omega) (by omega), Nat.add_right_comm first 1]
    simp only [lead, CallRun.after, List.range'_succ, List.map_cons, List.flatMap_cons,
      retryEntries, paused, code, List.replicate_succ, List.cons_append, List.nil_append,
      Nat.add_assoc]

/-- **A call is its course**: if so many attempts are followed by others and the next one stops, the
loop makes exactly that run, provided that the attempt numbers last. -/
theorem callFrom_eq_course {ending : Ending Status α} (first followed numbers : Nat)
    (goesOn : ∀ k, first ≤ k → k < first + followed → policy.GoesOn (respond · request) k)
    (stops : policy.verdict (first + followed) (respond (first + followed) request) = .stop ending)
    (room : followed < numbers) :
    policy.callFrom op request respond first numbers =
      policy.course op request (respond · request) first followed ending := by
  obtain ⟨left, rfl⟩ : ∃ left, numbers = followed + (left + 1) := ⟨numbers - followed - 1, by omega⟩
  rw [callFrom_eq_lead first followed (left + 1) goesOn, callFrom_succ, stops]
  simp only [lead, course, CallRun.only, List.append_nil, List.replicate_succ']

/-! ## Verdicts in the words of the outcome -/

/-- An outcome is transient exactly if it is a status with a code that the loop takes for one. -/
theorem transient_iff {outcome : Except Status α} :
    Transient outcome ↔ ∃ status, outcome = .error status ∧ status.code.retryable = true := by
  constructor
  · rintro (message | message)
    · exact ⟨_, rfl, rfl⟩
    · exact ⟨_, rfl, rfl⟩
  · rintro ⟨⟨code, message⟩, rfl, retryable⟩
    cases code with
    | unavailable => exact .unavailable message
    | deadlineExceeded => exact .deadlineExceeded message
    | _ => cases retryable

/-- The pause after an attempt is a span of time exactly if the product is one. -/
theorem backoff?_eq_none_iff {attempt : Nat} :
    policy.backoff? attempt = none ↔ policy.Overflows attempt := by
  simp only [backoff?, Option.map_eq_none_iff, Duration.scale?, Duration.ofNanos?, Overflows,
    Duration.maxNanos]
  split
  · next fits =>
    constructor
    · intro none
      cases none
    · intro exceeds
      exact absurd fits (Nat.not_le.mpr exceeds)
  · next exceeds => exact ⟨fun _ => Nat.not_le.mp exceeds, fun _ => rfl⟩

/-- What is not transient ends the call, with the outcome itself. -/
theorem verdict_of_not_transient {attempt : Nat} {outcome : Except Status α}
    (final : ¬ Transient outcome) :
    policy.verdict attempt outcome = .stop (.ofOutcome outcome) := by
  cases outcome with
  | ok value => rfl
  | error status =>
    have refused : status.code.retryable = false := by
      cases h : status.code.retryable with
      | false => rfl
      | true => exact absurd (transient_iff.mpr ⟨status, rfl, h⟩) final
    rw [verdict, refused, Bool.not_false, Bool.true_or, if_pos rfl, Ending.ofOutcome]

/-- The last attempt that the policy allows ends the call, with its outcome. -/
theorem verdict_of_exhausted {attempt : Nat} {outcome : Except Status α}
    (last : policy.maxRetries.toNat < attempt) :
    policy.verdict attempt outcome = .stop (.ofOutcome outcome) := by
  cases outcome with
  | ok value => rfl
  | error status =>
    have noneLeft : policy.exhausted attempt = true := decide_eq_true last
    rw [verdict, noneLeft, Bool.or_true, if_pos rfl, Ending.ofOutcome]

/-- A transient failure that may be repeated crashes the call if the pause is no span of time. -/
theorem verdict_of_overflow {attempt : Nat} {outcome : Except Status α}
    (transient : Transient outcome) (allowed : attempt ≤ policy.maxRetries.toNat)
    (exceeds : policy.Overflows attempt) :
    policy.verdict attempt outcome = .stop (.crashed .backoffOverflow) := by
  obtain ⟨status, rfl, retryable⟩ := transient_iff.mp transient
  rw [verdict, givesUp_eq_false_iff.mpr ⟨retryable, allowed⟩, if_neg Bool.false_ne_true,
    backoff?_eq_none_iff.mpr exceeds]

/-- A transient failure that may be repeated is followed by another attempt if the pause is a span
of time. -/
theorem goesOn_of_transient {outcomes : Nat → Except Status α} {attempt : Nat}
    (transient : Transient (outcomes attempt)) (allowed : attempt ≤ policy.maxRetries.toNat)
    (fits : ¬ policy.Overflows attempt) : policy.GoesOn outcomes attempt := by
  obtain ⟨status, failed, retryable⟩ := transient_iff.mp transient
  cases hb : policy.backoff? attempt with
  | none => exact absurd (backoff?_eq_none_iff.mp hb) fits
  | some pause => exact ⟨status, pause, verdict_eq_again_iff.mpr ⟨failed, retryable, allowed, hb⟩⟩

end RetryPolicy

end RemainderService
