import RemainderService.Proofs.Retry.ClientReport
import RemainderService.Proofs.Retry.Endings

/-!
# What the cap bounds

The pause after an attempt is the product of the base with the attempt number, or the cap if that is
less (`nanos_pause`). So no run asks for a pause above the cap. The product is taken first, though,
and has to be a span of time by itself: a run that meets one which is not crashes, however short the
cap.

**The law** (`cap_bounds_pauses_not_products`) says what the pauses of a run are and when it ends
without an outcome (`Capped`): exactly if it asks for a product that is no span of time, or if it
uses up the attempt numbers. It holds of calls, and of connecting by its mirror.

**Protected policies** end all runs with an outcome. They are the ones whose last product is a span
of time and whose last attempt has a number (`Protected`): the cap does not occur in that.
-/

set_option autoImplicit false

namespace RemainderService

namespace RetryPolicy

variable {ρ α β ε : Type} {policy : RetryPolicy}

/-! ## One pause -/

/-- A pause is the product of the base with the attempt number, up to the cap. -/
theorem nanos_of_backoff? {attempt : Nat} {pause : Duration}
    (product : policy.backoff? attempt = some pause) :
    pause.nanos = min (policy.base.nanos * attempt) policy.cap.nanos := by
  obtain ⟨scaled, fits, rfl⟩ := Option.map_eq_some_iff.mp product
  rw [Duration.nanos_min, Duration.scale?_eq_some_iff.mp fits]

/-- Even where the product is no span of time, the least of it and the cap is one. -/
theorem nanos_pause (attempt : Nat) :
    (policy.pause attempt).nanos = min (policy.base.nanos * attempt) policy.cap.nanos := by
  rw [pause]
  cases product : policy.backoff? attempt with
  | none =>
    have exceeds : Duration.maxNanos < policy.base.nanos * attempt :=
      backoff?_eq_none_iff.mp product
    have short : policy.cap.nanos ≤ Duration.maxNanos := policy.cap.nanos_le
    exact (Nat.min_eq_right (short.trans exceeds.le)).symm
  | some pause => exact nanos_of_backoff? product

/-- Products grow with the attempt number. -/
theorem Overflows.mono {k last : Nat} (exceeds : policy.Overflows k) (behind : k ≤ last) :
    policy.Overflows last :=
  Nat.lt_of_lt_of_le exceeds (Nat.mul_le_mul_left _ behind)

/-! ## Runs -/

/-- **What a cap bounds in a run**: its pauses are the capped products in order, and it ends like
the last outcome, unless it asks for a product that is no span of time or uses up the numbers. -/
structure Capped (policy : RetryPolicy) (outcomes : Nat → Except Status α)
    (backoffs : List Duration) (last ending : Ending ε β) : Prop where
  nanos_eq : backoffs.map Duration.nanos =
    (List.range' 1 backoffs.length).map fun k => min (policy.base.nanos * k) policy.cap.nanos
  le_cap : ∀ pause ∈ backoffs, pause.nanos ≤ policy.cap.nanos
  overflow_iff : ending = .crashed .backoffOverflow ↔ ¬ policy.NeverOverflows outcomes
  runsOut_iff : ending = .crashed .attemptOverflow ↔
    policy.NeverOverflows outcomes ∧ policy.maxRetries.toNat = 4294967295 ∧
      ∀ k, 1 ≤ k → k ≤ 4294967295 → Transient (outcomes k)
  ends : (∃ crash, ending = .crashed crash) ∨ ending = last

/-- All products that a run can ask for are spans of time, and all attempts that it can make have
numbers. -/
def Protected (policy : RetryPolicy) : Prop :=
  ¬ policy.Overflows policy.maxRetries.toNat ∧ policy.maxRetries.toNat < 4294967295

section

variable {outcomes : Nat → Except Status α} {backoffs : List Duration} {last ending : Ending ε β}
  {n : Nat}

/-- A call pauses behind the attempts before the first at which it may end. So it never overflows
exactly if none of their products does. -/
theorem neverOverflows_iff (first : IsLeast (policy.Ends outcomes) n) :
    policy.NeverOverflows outcomes ↔ ∀ k < n, ¬ policy.Overflows k := by
  refine ⟨fun fits => fits.of_lt first, fun fits k allowed transient => fits k ?_⟩
  rcases first.1.2 with final | last
  · by_contra behind
    exact final (transient n first.1.1 (Nat.le_of_not_lt behind))
  · omega

/-- Runs under a protected policy end like the last outcome. -/
theorem Capped.eq_last (capped : policy.Capped outcomes backoffs last ending)
    (protects : policy.Protected) : ending = last := by
  obtain ⟨fits, room⟩ := protects
  rcases capped.ends with ⟨crash, crashed⟩ | ends
  · cases crash with
    | backoffOverflow =>
      refine absurd (fun k allowed _ exceeds => ?_) (capped.overflow_iff.mp crashed)
      exact fits (Overflows.mono exceeds allowed)
    | attemptOverflow =>
      have most := (capped.runsOut_iff.mp crashed).2.1
      omega
  · exact ends

/-- Runs under a policy that is not protected crash if every outcome is transient. -/
theorem Capped.crashed (capped : policy.Capped outcomes backoffs last ending)
    (transient : ∀ k, Transient (outcomes k)) (unprotected : ¬ policy.Protected) :
    ∃ crash, ending = .crashed crash := by
  by_cases fits : policy.NeverOverflows outcomes
  · have short := policy.maxRetries.toNat_lt
    have product := fits _ le_rfl fun k _ _ => transient k
    have most : policy.maxRetries.toNat = 4294967295 := by
      by_contra fewer
      exact unprotected ⟨product, by omega⟩
    exact ⟨_, capped.runsOut_iff.mpr ⟨fits, most, fun k _ _ => transient k⟩⟩
  · exact ⟨_, capped.overflow_iff.mpr fits⟩

end

/-! ## Calls -/

section

variable {op : String} {request : ρ} {outcomes : Nat → Except Status α} {n : Nat}
  {run : CallRun ρ α}

/-- The pauses of a call are those after its attempts, in order. -/
theorem Goes.pauses (goes : policy.Goes op request outcomes n run) :
    ∃ count, run.backoffs = (List.range' 1 count).map policy.pause := by
  cases goes with
  | ended => exact ⟨n - 1, rfl⟩
  | @overflowed k => exact ⟨k - 1, rfl⟩
  | ranOut => exact ⟨attemptNumbers, List.append_nil _⟩

/-- A call crashes on a product exactly if it asks for one that is no span of time. -/
theorem Goes.overflow_iff (goes : policy.Goes op request outcomes n run)
    (first : IsLeast (policy.Ends outcomes) n) :
    run.ending = .crashed .backoffOverflow ↔ ¬ policy.NeverOverflows outcomes := by
  rw [neverOverflows_iff first]
  cases goes with
  | ended room fits =>
    exact ⟨fun crashed => absurd crashed (Ending.ofOutcome_ne_crashed _ _), absurd fits⟩
  | overflowed least =>
    exact ⟨fun _ fits => fits _ least.1.1 least.1.2, fun _ => rfl⟩
  | ranOut last fits =>
    exact ⟨fun crashed => (nomatch crashed), absurd fits⟩

/-- A call uses up the numbers exactly if it asks for no such product, the policy allows the
greatest count of repetitions, and as many outcomes are transient. -/
theorem Goes.runsOut_iff (goes : policy.Goes op request outcomes n run)
    (first : IsLeast (policy.Ends outcomes) n) :
    run.ending = .crashed .attemptOverflow ↔
      policy.NeverOverflows outcomes ∧ policy.maxRetries.toNat = 4294967295 ∧
        ∀ k, 1 ≤ k → k ≤ 4294967295 → Transient (outcomes k) := by
  rw [neverOverflows_iff first]
  cases goes with
  | ended room fits =>
    have room : n ≤ 4294967295 := room
    refine ⟨fun crashed => absurd crashed (Ending.ofOutcome_ne_crashed _ _), ?_⟩
    rintro ⟨-, most, transient⟩
    rcases first.1.2 with final | last
    · exact absurd (transient n first.1.1 room) final
    · omega
  | overflowed least =>
    exact ⟨fun crashed => (nomatch crashed), fun ⟨fits, _⟩ => absurd least.1.2 (fits _ least.1.1)⟩
  | ranOut last fits =>
    have last : n = 4294967296 := last
    have limit := le_succ_maxRetries first
    have short := policy.maxRetries.toNat_lt
    refine ⟨fun _ => ⟨fits, by omega, fun k positive allowed => ?_⟩, fun _ => rfl⟩
    exact transient_of_lt first positive (by omega)

/-- A call that does not crash ends with the outcome of its last attempt. -/
theorem Goes.ends (goes : policy.Goes op request outcomes n run)
    (first : IsLeast (policy.Ends outcomes) n) :
    (∃ crash, run.ending = .crashed crash) ∨ run.ending = .ofOutcome (outcomes run.attempts) := by
  cases goes with
  | ended =>
    rw [attempts_course _ _ _ _ _ first.1.1]
    exact .inr rfl
  | overflowed => exact .inl ⟨_, rfl⟩
  | ranOut => exact .inl ⟨_, rfl⟩

end

/-- **Calls are capped.** -/
theorem capped_call (policy : RetryPolicy) (op : String) (request : ρ)
    (respond : Nat → ρ → Except Status α) :
    policy.Capped (respond · request) (policy.call op request respond).backoffs
      (.ofOutcome (respond (policy.call op request respond).attempts request))
      (policy.call op request respond).ending := by
  obtain ⟨n, first⟩ := exists_isLeast_ends policy (respond · request)
  have goes : policy.Goes op request (respond · request) n (policy.call op request respond) :=
    goes_of_isLeast first
  obtain ⟨count, pauses⟩ := goes.pauses
  refine ⟨?_, ?_, goes.overflow_iff first, goes.runsOut_iff first, goes.ends first⟩
  · rw [pauses, List.length_map, List.length_range', List.map_map]
    exact List.map_congr_left fun k _ => nanos_pause k
  · rw [pauses]
    intro pause mem
    obtain ⟨k, -, rfl⟩ := List.mem_map.mp mem
    exact (nanos_pause k).trans_le (Nat.min_le_right _ _)

end RetryPolicy

/-! ## Connecting -/

/-- **Connecting is capped**, every fault being transient. -/
theorem ClientConfig.capped_connect (config : ClientConfig) (uri : String)
    (outcome : Nat → Except ConnectFault Unit) :
    config.policy.Capped (fun attempt => mirrored (outcome attempt))
      (config.connect uri outcome).backoffs
      (config.concluding uri (config.connect uri outcome).attempts
        (outcome (config.connect uri outcome).attempts))
      (config.connect uri outcome).ending := by
  obtain ⟨-, backoffs, same⟩ := config.connect_inStep_mirrorCall uri outcome
  have mirror : config.policy.Capped (fun attempt => mirrored (outcome attempt))
      (config.mirrorCall outcome).backoffs _ (config.mirrorCall outcome).ending :=
    config.policy.capped_call "" () (mirroring outcome)
  rw [← backoffs] at mirror
  refine ⟨mirror.nanos_eq, mirror.le_cap, same.crashed_iff.trans mirror.overflow_iff,
    same.crashed_iff.trans mirror.runsOut_iff, ?_⟩
  rcases mirror.ends with ⟨crash, crashed⟩ | ends
  · exact .inl ⟨crash, same.crashed_iff.mpr crashed⟩
  · exact .inr (ending_connect (ends ▸ same))

/-! ## The law -/

namespace RetryPolicy

variable {ρ α : Type}

/-- **The cap bounds pauses, not products.**

1. An attempt has a pause exactly if its product with the base is a span of time. The pause is that
   product, up to the cap.
2. Every call is capped, whatever the outcomes of its attempts.
3. So is connecting.
4. The policies under which no call crashes are the protected ones.
5. So are those under which no connecting crashes. -/
theorem cap_bounds_pauses_not_products :
    (∀ (policy : RetryPolicy) (attempt : Nat),
      (policy.backoff? attempt = none ↔ policy.Overflows attempt) ∧
        ∀ pause, policy.backoff? attempt = some pause →
          pause.nanos = min (policy.base.nanos * attempt) policy.cap.nanos) ∧
    (∀ (policy : RetryPolicy) (op : String) (request : ρ) (respond : Nat → ρ → Except Status α),
      let run := policy.call op request respond
      policy.Capped (respond · request) run.backoffs
        (.ofOutcome (respond run.attempts request)) run.ending) ∧
    (∀ (config : ClientConfig) (uri : String) (outcome : Nat → Except ConnectFault Unit),
      let run := config.connect uri outcome
      config.policy.Capped (fun attempt => mirrored (outcome attempt)) run.backoffs
        (config.concluding uri run.attempts (outcome run.attempts)) run.ending) ∧
    (∀ (policy : RetryPolicy) (op : String) (request : ρ),
      (∀ (respond : Nat → ρ → Except Status α) (crash : Crash),
        (policy.call op request respond).ending ≠ .crashed crash) ↔ policy.Protected) ∧
    (∀ (config : ClientConfig) (uri : String),
      (∀ (outcome : Nat → Except ConnectFault Unit) (crash : Crash),
        (config.connect uri outcome).ending ≠ .crashed crash) ↔ config.policy.Protected) := by
  refine ⟨fun policy attempt => ⟨backoff?_eq_none_iff, fun _ => nanos_of_backoff?⟩, capped_call,
    ClientConfig.capped_connect, fun policy op request => ⟨fun safe => ?_, ?_⟩,
    fun config uri => ⟨fun safe => ?_, ?_⟩⟩
  · by_contra unprotected
    obtain ⟨crash, crashed⟩ := (policy.capped_call op request fun _ _ =>
      (.error ⟨.unavailable, ""⟩ : Except Status α)).crashed (fun _ => .unavailable "") unprotected
    exact safe _ crash crashed
  · intro protects respond crash
    rw [(policy.capped_call op request respond).eq_last protects]
    exact Ending.ofOutcome_ne_crashed _ crash
  · by_contra unprotected
    obtain ⟨crash, crashed⟩ := (config.capped_connect uri fun _ => .error .schemeMissing).crashed
      (fun _ => .unavailable _) unprotected
    exact safe _ crash crashed
  · intro protects outcome crash
    rw [(config.capped_connect uri outcome).eq_last protects]
    exact config.concluding_ne_crashed uri _ _ crash

/-- With the greatest base and a cap of one second, the product for the second attempt is no span of
time. A call that would be answered at its third attempt crashes there, although the capped product
is a second. Connecting crashes there, too. -/
theorem greatest_base_crashes_below_cap :
    let policy : RetryPolicy := ⟨3, ⟨18446744073709551615999999999, by decide⟩, .ofMillis 1000⟩
    let config : ClientConfig := ⟨"test", .ofMillis 2000, .ofMillis 2000, policy⟩
    let respond : Nat → String → Except Status String := fun attempt _ =>
      if attempt < 3 then .error ⟨.unavailable, "down"⟩ else .ok "up"
    let outcome : Nat → Except ConnectFault Unit := fun _ => .error (.system .connectionRefused)
    min (policy.base.nanos * 2) policy.cap.nanos = 1000000000 ∧
      policy.backoff? 2 = none ∧
      respond 3 "r" = .ok "up" ∧
      (policy.call "test.op" "r" respond).ending = .crashed .backoffOverflow ∧
      (config.connect "http://127.0.0.1:1" outcome).ending = .crashed .backoffOverflow := by
  intro policy config respond outcome
  have exceeds : policy.Overflows 2 := by decide
  have called : ¬ policy.NeverOverflows (respond · "r") := by
    intro fits
    refine fits 2 (by decide) (fun k _ low => ?_) exceeds
    have down : respond k "r" = .error ⟨.unavailable, "down"⟩ := if_pos (Nat.lt_succ_of_le low)
    show Transient (respond k "r")
    rw [down]
    exact .unavailable "down"
  have connected : ¬ policy.NeverOverflows fun attempt => mirrored (outcome attempt) := fun fits =>
    fits 2 (by decide) (fun _ _ _ => .unavailable _) exceeds
  exact ⟨by decide, backoff?_eq_none_iff.mpr exceeds, rfl,
    (policy.capped_call "test.op" "r" respond).overflow_iff.mpr called,
    (config.capped_connect "http://127.0.0.1:1" outcome).overflow_iff.mpr connected⟩

end RetryPolicy

end RemainderService
