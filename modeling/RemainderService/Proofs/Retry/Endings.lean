import RemainderService.Proofs.Retry.Connection
import RemainderService.Proofs.Retry.LastAttempt

/-!
# How connecting ends

Connecting goes the way of a call whose attempts mirror its own (`connectFrom_inStep`). So what is
known of every call is known of it: it makes all attempts up to the first at which it may end, unless
a pause before is no span of time, or the numbers run out (`ConnectGoes`). What a mirror cannot show
is the fault that is reported, and that is the one of the last attempt
(`connect_ends_or_runsOut`).
-/

set_option autoImplicit false

namespace RemainderService

/-- The outcome of an attempt at a call that mirrors an attempt to connect. -/
def mirrored : Except ConnectFault Unit → Except Status Unit
  | .ok () => .ok ()
  | .error fault => .error ⟨.unavailable, fault.headline⟩

/-- The mirrored outcome mirrors. -/
theorem mirrors_mirrored (made : Except ConnectFault Unit) : Mirrors made (mirrored made) := by
  cases made with
  | ok => exact .made ()
  | error fault => exact .refused fault _

/-- A connection was made if its mirror is not transient. -/
theorem not_transient_mirrored_iff {made : Except ConnectFault Unit} :
    ¬ Transient (mirrored made) ↔ made = .ok () := by
  cases made with
  | ok =>
    refine ⟨fun _ => rfl, fun _ => ?_⟩
    rintro ⟨⟩
  | error fault =>
    constructor
    · intro final
      exact absurd (.unavailable _) final
    · intro made
      cases made

/-- Runs that end in the same way crash with the same. -/
theorem SameWay.crashed_iff {α : Type} {ending : Ending ConnectError Unit}
    {other : Ending Status α} {crash : Crash} (same : SameWay ending other) :
    ending = .crashed crash ↔ other = .crashed crash := by
  cases same with
  | crashed => simp only [Ending.crashed.injEq]
  | _ => simp only [reduceCtorEq]

/-- An outcome is no crash. -/
theorem Ending.ofOutcome_ne_crashed {α : Type} (outcome : Except Status α) (crash : Crash) :
    Ending.ofOutcome outcome ≠ .crashed crash := by
  cases outcome with
  | ok value => exact fun same => nomatch same
  | error status => exact fun same => nomatch same

namespace ClientConfig

variable {config : ClientConfig} {uri : String} {outcome : Nat → Except ConnectFault Unit} {n : Nat}

/-- The attempts at which connecting may end: a connection is made, or no further attempt is
allowed. -/
def Ends (config : ClientConfig) (outcome : Nat → Except ConnectFault Unit) : Set Nat :=
  {n | 1 ≤ n ∧ (outcome n = .ok () ∨ n = config.policy.maxRetries.toNat + 1)}

/-- These are the attempts at which a mirrored call may end. -/
theorem ends_mirrored (config : ClientConfig) (outcome : Nat → Except ConnectFault Unit) :
    config.policy.Ends (fun attempt => mirrored (outcome attempt)) = config.Ends outcome := by
  simp only [RetryPolicy.Ends, Ends, not_transient_mirrored_iff]

/-- The server whose answers mirror the attempts to connect. -/
def mirroring (outcome : Nat → Except ConnectFault Unit) (attempt : Nat) (_ : Unit) :
    Except Status Unit :=
  mirrored (outcome attempt)

/-- The call to that server. -/
def mirrorCall (config : ClientConfig) (outcome : Nat → Except ConnectFault Unit) :
    CallRun Unit Unit :=
  config.policy.call "" () (mirroring outcome)

/-- Connecting keeps step with its mirror. -/
theorem connect_inStep_mirrorCall (config : ClientConfig) (uri : String)
    (outcome : Nat → Except ConnectFault Unit) :
    InStep (config.connect uri outcome) (config.mirrorCall outcome) := by
  have mirrors : ∀ attempt, Mirrors (outcome attempt) (mirroring outcome attempt ()) :=
    fun attempt => mirrors_mirrored (outcome attempt)
  exact connectFrom_inStep "" () mirrors 1 RetryPolicy.attemptNumbers

/-- There is a first attempt at which connecting may end. -/
theorem exists_isLeast_connectEnds (config : ClientConfig)
    (outcome : Nat → Except ConnectFault Unit) : ∃ n, IsLeast (config.Ends outcome) n := by
  rw [← ends_mirrored]
  exact RetryPolicy.exists_isLeast_ends _ _

/-- The outcome of the last attempt as the ending of a run. A fault is reported with the number of
attempts. -/
def concluding (config : ClientConfig) (uri : String) (attempts : Nat) :
    Except ConnectFault Unit → Ending ConnectError Unit
  | .ok () => .answered ()
  | .error fault => .failed (.exhausted config.name uri attempts fault)

/-- Such an ending is no crash. -/
theorem concluding_ne_crashed (config : ClientConfig) (uri : String) (attempts : Nat)
    (made : Except ConnectFault Unit) (crash : Crash) :
    config.concluding uri attempts made ≠ .crashed crash := by
  cases made with
  | ok => exact fun same => nomatch same
  | error fault => exact fun same => nomatch same

/-- How connecting can go, by the first attempt at which it may end. -/
inductive ConnectGoes (config : ClientConfig) (uri : String)
    (outcome : Nat → Except ConnectFault Unit) (n : Nat) (run : ConnectRun) : Prop
  | ended (room : n ≤ RetryPolicy.attemptNumbers) (fits : ∀ k < n, ¬ config.policy.Overflows k)
    (attempts : run.attempts = n) (ending : run.ending = config.concluding uri n (outcome n))
  | overflowed {k : Nat} (least : IsLeast {k | k < n ∧ config.policy.Overflows k} k)
    (attempts : run.attempts = k) (ending : run.ending = .crashed .backoffOverflow)
  | ranOut (last : n = RetryPolicy.attemptNumbers + 1)
    (fits : ∀ k < n, ¬ config.policy.Overflows k)
    (attempts : run.attempts = RetryPolicy.attemptNumbers)
    (ending : run.ending = .crashed .attemptOverflow)

/-- Connecting that ends as a call with an outcome ends with the outcome of its last attempt. -/
theorem ending_connect {answer : Except Status Unit}
    (same : SameWay (config.connect uri outcome).ending (.ofOutcome answer)) :
    (config.connect uri outcome).ending =
      config.concluding uri (config.connect uri outcome).attempts
        (outcome (config.connect uri outcome).attempts) := by
  have ends := connect_ends_or_runsOut config uri outcome
  generalize (config.connect uri outcome).attempts = attempts at ends ⊢
  generalize (config.connect uri outcome).ending = ending at same ends ⊢
  rcases ends with ends | ⟨-, crashed⟩
  · cases ends with
    | connected answered =>
      rw [answered]
      rfl
    | gaveUp failed =>
      rw [failed]
      rfl
    | overflowed => exact absurd (same.crashed_iff.mp rfl) (Ending.ofOutcome_ne_crashed _ _)
  · rw [crashed] at same
    exact absurd (same.crashed_iff.mp rfl) (Ending.ofOutcome_ne_crashed _ _)

/-- **Connecting goes in one of three ways**, those of a call. -/
theorem connectGoes_of_isLeast (first : IsLeast (config.Ends outcome) n) :
    ConnectGoes config uri outcome n (config.connect uri outcome) := by
  obtain ⟨attempts, -, same⟩ := config.connect_inStep_mirrorCall uri outcome
  rw [← ends_mirrored] at first
  have goes : config.policy.Goes "" () (mirroring outcome · ()) n (config.mirrorCall outcome) :=
    RetryPolicy.goes_of_isLeast first
  generalize config.mirrorCall outcome = call at goes attempts same
  cases goes with
  | ended room fits =>
    have counted : (config.connect uri outcome).attempts = n := by
      have positive : 1 ≤ n := first.1.1
      rw [attempts, RetryPolicy.attempts_course _ _ _ _ _ positive]
    have ending := ending_connect same
    rw [counted] at ending
    exact .ended room fits counted ending
  | overflowed least =>
    have positive := RetryPolicy.pos_of_overflows least.1.2
    refine .overflowed least ?_ (same.crashed_iff.mpr rfl)
    rw [attempts, RetryPolicy.attempts_course _ _ _ _ _ positive]
  | ranOut last fits =>
    refine .ranOut last fits ?_ (same.crashed_iff.mpr rfl)
    rw [attempts, CallRun.attempts, RetryPolicy.lead, RetryPolicy.outOfNumbers, List.append_nil,
      List.length_replicate]

end ClientConfig

end RemainderService
