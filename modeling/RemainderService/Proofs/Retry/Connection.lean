import RemainderService.Connect
import RemainderService.Proofs.Retry.Course

/-!
# Connecting keeps step with calls

The loop that connects and the loop of a call are written apart. They are compared turn by turn:
`ConnectTurn` says what one turn of connecting can do, in the words of the policy, and the verdict
on an outcome that mirrors it says what a call does there. If an attempt to connect fails, the
mirrored attempt at a call fails as unavailable, so both loops go on, give up or crash together.

**A run ends in one of three ways** (`connect_ends`): with the first connection that is made, with
the fault of the attempt behind the last that may be repeated, or with a pause that is no span of
time. As long as there is a number for every attempt that the policy allows, there is no fourth
(`connect_ends_or_runsOut`).

**The law** (`connecting_keeps_step_with_calls`) puts the two together.
-/

set_option autoImplicit false

namespace RemainderService

variable {ρ α : Type}

/-- The outcome of an attempt to connect, told as the outcome of an attempt at a call: every fault
makes the server unavailable. -/
inductive Mirrors : Except ConnectFault Unit → Except Status α → Prop
  | made (value : α) : Mirrors (.ok ()) (.ok value)
  | refused (fault : ConnectFault) (message : String) :
    Mirrors (.error fault) (.error ⟨.unavailable, message⟩)

/-- Two endings of one kind. -/
inductive SameWay : Ending ConnectError Unit → Ending Status α → Prop
  | answered (value : α) : SameWay (.answered ()) (.answered value)
  | failed (error : ConnectError) (status : Status) : SameWay (.failed error) (.failed status)
  | crashed (crash : Crash) : SameWay (.crashed crash) (.crashed crash)

/-- A run of connecting and a run of a call with as many attempts, the same pauses in the same
order, and endings of one kind. -/
structure InStep (connecting : ConnectRun) (call : CallRun ρ α) : Prop where
  attempts_eq : connecting.attempts = call.attempts
  backoffs_eq : connecting.backoffs = call.backoffs
  sameWay : SameWay connecting.ending call.ending

/-- Runs of a single attempt are in step if they end in the same way. -/
theorem InStep.only {request : ρ} {log entries : List Event} {ending : Ending ConnectError Unit}
    {other : Ending Status α} (same : SameWay ending other) :
    InStep (.only log ending) (.only request entries other) :=
  ⟨rfl, rfl, same⟩

/-- Runs that go on after the same pause are in step if they are from there on. -/
theorem InStep.after {connecting : ConnectRun} {call : CallRun ρ α}
    (later : InStep connecting call) (request : ρ) (pause : Duration) (log entries : List Event) :
    InStep (connecting.after pause log) (call.after request pause entries) where
  attempts_eq := congrArg (· + 1) later.attempts_eq
  backoffs_eq := congrArg (pause :: ·) later.backoffs_eq
  sameWay := later.sameWay

namespace ClientConfig

variable {config : ClientConfig} {uri : String} {outcome : Nat → Except ConnectFault Unit}

/-! ## One turn -/

/-- What one turn of connecting can do, by the outcome of its attempt. -/
inductive ConnectTurn (config : ClientConfig) (uri : String) (made : Except ConnectFault Unit)
    (attempt : Nat) (later : ConnectRun) : ConnectRun → Prop
  | connected {log : List Event} (answered : made = .ok ()) :
    ConnectTurn config uri made attempt later (.only log (.answered ()))
  | gaveUp {log : List Event} {fault : ConnectFault} (failed : made = .error fault)
    (last : config.policy.maxRetries.toNat < attempt) :
    ConnectTurn config uri made attempt later
      (.only log (.failed (.exhausted config.name uri attempt fault)))
  | overflowed {log : List Event} {fault : ConnectFault} (failed : made = .error fault)
    (allowed : attempt ≤ config.policy.maxRetries.toNat)
    (product : config.policy.backoff? attempt = none) :
    ConnectTurn config uri made attempt later (.only log (.crashed .backoffOverflow))
  | again {log : List Event} {fault : ConnectFault} {pause : Duration}
    (failed : made = .error fault) (allowed : attempt ≤ config.policy.maxRetries.toNat)
    (product : config.policy.backoff? attempt = some pause) :
    ConnectTurn config uri made attempt later (.after pause log later)

/-- One turn of the loop. -/
theorem connectFrom_turn (attempt numbers : Nat) :
    ConnectTurn config uri (outcome attempt) attempt
      (config.connectFrom uri outcome (attempt + 1) numbers)
      (config.connectFrom uri outcome attempt (numbers + 1)) := by
  rw [connectFrom]
  cases outcome attempt with
  | ok made => exact .connected rfl
  | error fault =>
    simp only
    split
    · next allowed =>
      rw [backoff?_eq]
      cases product : config.policy.backoff? attempt with
      | none => exact .overflowed rfl allowed product
      | some pause => exact .again rfl allowed product
    · next last => exact .gaveUp rfl (Nat.lt_of_not_le last)

/-! ## Whole runs -/

/-- **The two loops keep step**, from every attempt number on. -/
theorem connectFrom_inStep (op : String) (request : ρ) {respond : Nat → ρ → Except Status α}
    (mirrors : ∀ attempt, Mirrors (outcome attempt) (respond attempt request))
    (attempt numbers : Nat) :
    InStep (config.connectFrom uri outcome attempt numbers)
      (config.policy.callFrom op request respond attempt numbers) := by
  induction numbers generalizing attempt with
  | zero => exact ⟨rfl, rfl, .crashed .attemptOverflow⟩
  | succ numbers ih =>
    have mirrored := mirrors attempt
    have turn : ConnectTurn config uri (outcome attempt) attempt _ _ :=
      connectFrom_turn attempt numbers
    rw [RetryPolicy.callFrom_succ]
    -- Of the outcomes only this one matters, so the turn is split for any pair that mirrors.
    generalize config.connectFrom uri outcome attempt (numbers + 1) = run at turn ⊢
    generalize outcome attempt = made at mirrored turn
    generalize respond attempt request = answer at mirrored ⊢
    cases mirrored with
    | made value =>
      cases turn with
      | connected => exact .only (.answered value)
      | gaveUp failed => cases failed
      | overflowed failed => cases failed
      | again failed => cases failed
    | refused fault message =>
      have transient : Transient (.error ⟨.unavailable, message⟩ : Except Status α) :=
        .unavailable message
      cases turn with
      | connected answered => cases answered
      | gaveUp failed last =>
        rw [RetryPolicy.verdict_of_exhausted last]
        exact .only (.failed _ _)
      | overflowed failed allowed product =>
        have exceeds := RetryPolicy.backoff?_eq_none_iff.mp product
        rw [RetryPolicy.verdict_of_overflow transient allowed exceeds]
        exact .only (.crashed .backoffOverflow)
      | again failed allowed product =>
        rw [RetryPolicy.verdict_eq_again_iff.mpr ⟨rfl, rfl, allowed, product⟩]
        exact (ih (attempt + 1)).after _ _ _ _

/-- How a run can end, by the number and the outcome of its last attempt. -/
inductive ConnectEnds (config : ClientConfig) (uri : String)
    (outcome : Nat → Except ConnectFault Unit) (last : Nat) : Ending ConnectError Unit → Prop
  | connected (answered : outcome last = .ok ()) :
    ConnectEnds config uri outcome last (.answered ())
  | gaveUp {fault : ConnectFault} (failed : outcome last = .error fault)
    (exhausted : last = config.policy.maxRetries.toNat + 1) :
    ConnectEnds config uri outcome last (.failed (.exhausted config.name uri last fault))
  | overflowed {fault : ConnectFault} (failed : outcome last = .error fault)
    (allowed : last ≤ config.policy.maxRetries.toNat) (exceeds : config.policy.Overflows last) :
    ConnectEnds config uri outcome last (.crashed .backoffOverflow)

/-- A run ends in one of three ways, or it uses up the numbers that are left. -/
theorem connectFrom_ends_or_runsOut (attempt numbers : Nat)
    (allowed : attempt ≤ config.policy.maxRetries.toNat + 1) :
    (∃ last, attempt + (config.connectFrom uri outcome attempt numbers).attempts = last + 1 ∧
      ConnectEnds config uri outcome last
        (config.connectFrom uri outcome attempt numbers).ending) ∨
    (attempt + numbers ≤ config.policy.maxRetries.toNat + 1 ∧
      (config.connectFrom uri outcome attempt numbers).ending = .crashed .attemptOverflow) := by
  induction numbers generalizing attempt with
  | zero => exact .inr ⟨allowed, rfl⟩
  | succ numbers ih =>
    have turn : ConnectTurn config uri (outcome attempt) attempt _ _ :=
      connectFrom_turn attempt numbers
    generalize config.connectFrom uri outcome attempt (numbers + 1) = run at turn ⊢
    cases turn with
    | connected answered => exact .inl ⟨attempt, rfl, .connected answered⟩
    | gaveUp failed behind => exact .inl ⟨attempt, rfl, .gaveUp failed (by omega)⟩
    | overflowed failed repeated product =>
      have exceeds := RetryPolicy.backoff?_eq_none_iff.mp product
      exact .inl ⟨attempt, rfl, .overflowed failed repeated exceeds⟩
    | again _ repeated _ =>
      rcases ih (attempt + 1) (by omega) with ⟨last, counted, ends⟩ | ⟨behind, crashed⟩
      · have behind (later : Nat) : attempt + (later + 1) = attempt + 1 + later := by omega
        exact .inl ⟨last, (behind _).trans counted, ends⟩
      · exact .inr ⟨by omega, crashed⟩

/-- A whole run ends in one of three ways, at its last attempt, or it uses up all numbers. -/
theorem connect_ends_or_runsOut (config : ClientConfig) (uri : String)
    (outcome : Nat → Except ConnectFault Unit) :
    ConnectEnds config uri outcome (config.connect uri outcome).attempts
        (config.connect uri outcome).ending ∨
      (RetryPolicy.attemptNumbers ≤ config.policy.maxRetries.toNat ∧
        (config.connect uri outcome).ending = .crashed .attemptOverflow) := by
  have ends : (∃ last, 1 + (config.connect uri outcome).attempts = last + 1 ∧
      ConnectEnds config uri outcome last (config.connect uri outcome).ending) ∨
      (1 + RetryPolicy.attemptNumbers ≤ config.policy.maxRetries.toNat + 1 ∧
        (config.connect uri outcome).ending = .crashed .attemptOverflow) :=
    connectFrom_ends_or_runsOut 1 RetryPolicy.attemptNumbers (by omega)
  rcases ends with ⟨last, counted, ends⟩ | ⟨behind, crashed⟩
  · obtain rfl : (config.connect uri outcome).attempts = last := by omega
    exact .inl ends
  · exact .inr ⟨by omega, crashed⟩

/-- **A whole run ends in one of three ways**, at its last attempt, if there is a number for every
attempt that the policy allows. -/
theorem connect_ends (config : ClientConfig) (uri : String)
    (outcome : Nat → Except ConnectFault Unit)
    (bounded : config.policy.maxRetries.toNat < 4294967295) :
    ConnectEnds config uri outcome (config.connect uri outcome).attempts
      (config.connect uri outcome).ending := by
  rcases connect_ends_or_runsOut config uri outcome with ends | ⟨most, -⟩
  · exact ends
  · exact absurd bounded (Nat.not_lt.mpr most)

/-- **Connecting and calling follow one policy.** Whatever the outcomes of the attempts to connect,
a call whose attempts mirror them makes as many attempts, asks for the same pauses in the same
order, and ends in the same way; no run crashes but for a pause that is no span of time. If
connecting fails, all attempts that the policy allows were made, and the error is the fault of the
last one behind a single entry that names the service, the address as it was given, and their
number. -/
theorem connecting_keeps_step_with_calls (config : ClientConfig) (uri : String)
    (outcome : Nat → Except ConnectFault Unit) (op : String) (request : ρ)
    (respond : Nat → ρ → Except Status α)
    (bounded : config.policy.maxRetries.toNat < 4294967295)
    (mirrors : ∀ attempt, Mirrors (outcome attempt) (respond attempt request)) :
    let connecting := config.connect uri outcome
    let call := config.policy.call op request respond
    connecting.attempts = call.attempts ∧
      connecting.backoffs = call.backoffs ∧
      SameWay connecting.ending call.ending ∧
      (∀ crash, connecting.ending = .crashed crash →
        crash.message = "overflow when multiplying duration by scalar") ∧
      ∀ error, connecting.ending = .failed error →
        connecting.attempts = config.policy.maxRetries.toNat + 1 ∧
        ∃ fault, outcome (config.policy.maxRetries.toNat + 1) = .error fault ∧
          error.chain =
            ("failed to connect to " ++ config.name ++ " at " ++ uri ++ " after " ++
              toString (config.policy.maxRetries.toNat + 1) ++ " attempts") :: fault.chain := by
  intro connecting call
  obtain ⟨attempts, backoffs, sameWay⟩ : InStep connecting call :=
    connectFrom_inStep op request mirrors 1 RetryPolicy.attemptNumbers
  have ends : ConnectEnds config uri outcome connecting.attempts connecting.ending :=
    connect_ends config uri outcome bounded
  refine ⟨attempts, backoffs, sameWay, fun crash crashed => ?_, fun error failed => ?_⟩
  · rw [crashed] at ends
    cases ends
    rfl
  · rw [failed] at ends
    cases ends with
    | gaveUp refused exhausted =>
      rw [exhausted] at refused ⊢
      exact ⟨rfl, _, refused, rfl⟩

/-- Nothing listens, and one further attempt is allowed: the second refusal is reported with the
number of attempts, and a call under the same policy makes two attempts as well. -/
theorem two_refusals_keep_step :
    let config : ClientConfig := ⟨"calculator", .zero, .zero, ⟨1, .ofMillis 1, .ofMillis 5⟩⟩
    let uri := "http://127.0.0.1:1"
    let outcome : Nat → Except ConnectFault Unit := fun _ => .error (.system .connectionRefused)
    let respond : Nat → Nat → Except Status Nat := fun _ _ => .error ⟨.unavailable, "down"⟩
    config.policy.maxRetries.toNat < 4294967295 ∧
      (∀ attempt, Mirrors (outcome attempt) (respond attempt 7)) ∧
      (config.policy.call "test.down" 7 respond).attempts = 2 ∧
      ∃ error, (config.connect uri outcome).ending = .failed error ∧
        error.chain =
          ["failed to connect to calculator at http://127.0.0.1:1 after 2 attempts",
            "transport error", "tcp connect error", "tcp connect error",
            "Connection refused (os error 111)"] := by
  intro config uri outcome respond
  have bounded : config.policy.maxRetries.toNat < 4294967295 := by decide
  have mirrors : ∀ attempt, Mirrors (outcome attempt) (respond attempt 7) :=
    fun _ => .refused _ _
  obtain ⟨attempts, -, -, -, failure⟩ :=
    connecting_keeps_step_with_calls config uri outcome "test.down" 7 respond bounded mirrors
  obtain ⟨error, failed⟩ : ∃ error, (config.connect uri outcome).ending = .failed error := by
    have ends := connect_ends config uri outcome bounded
    generalize (config.connect uri outcome).attempts = last at ends
    generalize (config.connect uri outcome).ending = ending at ends ⊢
    cases ends with
    | connected answered => cases answered
    | gaveUp => exact ⟨_, rfl⟩
    | overflowed _ allowed exceeds =>
      have few : last ≤ 1 := allowed
      have many : 18446744073709551615999999999 < 1000000 * last := exceeds
      omega
  obtain ⟨counted, fault, refused, chain⟩ := failure error failed
  cases refused
  exact ⟨bounded, mirrors, attempts.symm.trans counted, error, failed, chain.trans (by decide)⟩

end ClientConfig

end RemainderService
