import RemainderService.Proofs.Entry
import RemainderService.Proofs.Retry.Cap

/-!
# The numbers of the attempts

Attempts are counted from 1, and what a run logs about an attempt carries its number. Spans are
compared as a whole (`spans`); of a message only the number is read, off its fields
(`Event.attempt?`).

**Calls** open one span for each attempt, with its number (`spans_callFrom`). Their messages count
the attempts, too (`eventAttempts_callFrom`), with one exception: a call that succeeds at once has
nothing to say.
**Connecting** numbers its messages in the same way (`eventAttempts_connectFrom`), but a span tells
the service and the address only (`spans_connectFrom`).

**The law** (`attempts_stay_within_retries`) is that a run has at most one attempt more than the
policy allows repetitions, that every attempt has a number, and that the run ends with the outcome of
the last one. There are as many numbers as the greatest count of repetitions, and a run of that many
repetitions needs one more. So the law asks that such a run does not meet transient failures only;
otherwise it ends without an outcome (`Capped.runsOut_iff`).
-/

set_option autoImplicit false

namespace RemainderService

/-! ## Numbers in a log -/

namespace Entry

/-- The span of an attempt of a call. -/
def attemptSpan (op : String) (attempt : Nat) : Entry where
  severity := .debug
  heading := .span "grpc_call"
  fields := [("op", .quoted op), ("attempt", .number attempt)]

/-- The span of an attempt to connect, which has no number. -/
def connectSpan (service uri : String) : Entry where
  severity := .debug
  heading := .span "grpc_connect"
  fields := [("service", .quoted service), ("uri", .plain uri)]

end Entry

/-- The entry opens a span. -/
def Event.opensSpan (event : Event) : Bool :=
  match event.heading with
  | .span _ => true
  | .message _ => false

/-- The spans that a log opens, as they are shown. -/
def spans (log : List Event) : List Entry :=
  (log.filter Event.opensSpan).map Event.shown

/-- The number of the attempt that an entry of the log is about, as its fields show it. -/
def Event.attempt? (event : Event) : Option FieldValue := event.fields.lookup "attempt"

/-- The attempts that the messages of a log are about. -/
def eventAttempts (log : List Event) : List FieldValue :=
  (log.filter (!·.opensSpan)).filterMap Event.attempt?

/-- So many attempt numbers in order, from a first one on. -/
def numbersFrom (first count : Nat) : List FieldValue :=
  (List.range' first count).map fun attempt : Nat => .number attempt

/-- The spans of two logs, one behind the other. -/
theorem spans_append (log later : List Event) :
    spans (log ++ later) = spans log ++ spans later := by
  rw [spans, List.filter_append, List.map_append]
  rfl

/-- The attempts in the messages of two logs, one behind the other. -/
theorem eventAttempts_append (log later : List Event) :
    eventAttempts (log ++ later) = eventAttempts log ++ eventAttempts later := by
  rw [eventAttempts, List.filter_append, List.filterMap_append]
  rfl

/-- One more number, in front. -/
theorem numbersFrom_succ (first count : Nat) :
    numbersFrom first (count + 1) = .number first :: numbersFrom (first + 1) count := by
  rw [numbersFrom, List.range'_succ, List.map_cons]
  rfl

/-- If the first attempt of a run failed, one with a value is a later one. -/
theorem one_lt_of_ok {ε α : Type} (outcomes : Nat → Except ε α) {attempt : Nat} {value : α}
    (positive : 1 ≤ attempt) (begun : attempt = 1 → ∃ error, outcomes 1 = .error error)
    (made : outcomes attempt = .ok value) : 1 < attempt := by
  by_contra first
  obtain rfl : attempt = 1 := by omega
  obtain ⟨error, failed⟩ := begun rfl
  rw [failed] at made
  cases made

/-! ## Calls -/

namespace RetryPolicy

variable {ρ α : Type} {policy : RetryPolicy} {op : String} {request : ρ}
  {respond : Nat → ρ → Except Status α}

/-- **The spans of a call carry its attempt numbers**, one span for each attempt. -/
theorem spans_callFrom (attempt numbers : Nat) :
    spans (policy.callFrom op request respond attempt numbers).log =
      (List.range' attempt (policy.callFrom op request respond attempt numbers).attempts).map
        (Entry.attemptSpan op) := by
  induction numbers generalizing attempt with
  | zero => rfl
  | succ numbers ih =>
    rw [callFrom_succ]
    cases policy.verdict attempt (respond attempt request) with
    | stop ending =>
      cases ending with
      | answered value =>
        simp only [CallRun.only, closingEntries]
        split <;> rfl
      | failed status => rfl
      | crashed crash => rfl
    | again status pause =>
      simp only [CallRun.after, CallRun.attempts, List.length_cons]
      rw [spans_append, ih, List.range'_succ]
      rfl

/-- **The messages of a call carry its attempt numbers**, one message for each attempt, unless the
very first one succeeds. -/
theorem eventAttempts_callFrom (attempt numbers : Nat) (positive : 1 ≤ attempt)
    (begun : attempt = 1 → ∃ status, respond 1 request = .error status)
    (ended : ∀ crash,
      (policy.callFrom op request respond attempt numbers).ending ≠ .crashed crash) :
    eventAttempts (policy.callFrom op request respond attempt numbers).log =
      numbersFrom attempt (policy.callFrom op request respond attempt numbers).attempts := by
  induction numbers generalizing attempt with
  | zero => exact absurd rfl (ended .attemptOverflow)
  | succ numbers ih =>
    rw [callFrom] at ended ⊢
    cases result : respond attempt request with
    | ok value =>
      have behind := one_lt_of_ok (respond · request) positive begun result
      simp only [CallRun.only, if_pos behind]
      rfl
    | error status =>
      simp only [result] at ended ⊢
      split
      · rfl
      · next goes =>
        rw [if_neg goes] at ended
        cases product : policy.backoff? attempt with
        | none =>
          rw [product] at ended
          exact absurd rfl (ended .backoffOverflow)
        | some pause =>
          rw [product] at ended
          simp only [CallRun.after, CallRun.attempts, List.length_cons] at ended ⊢
          rw [eventAttempts_append, ih (attempt + 1) (by omega) (by omega) ended, numbersFrom_succ]
          rfl

/-- A call that succeeds at once has no message about an attempt. -/
theorem eventAttempts_call_of_ok {value : α} (made : respond 1 request = .ok value) :
    eventAttempts (policy.call op request respond).log = [] := by
  simp only [call, attemptNumbers, callFrom, made]
  rfl

end RetryPolicy

/-! ## Connecting -/

namespace ClientConfig

variable {config : ClientConfig} {uri : String} {outcome : Nat → Except ConnectFault Unit}

/-- **The spans of connecting tell the service and the address**, one span for each attempt. -/
theorem spans_connectFrom (attempt numbers : Nat) :
    spans (config.connectFrom uri outcome attempt numbers).log =
      List.replicate (config.connectFrom uri outcome attempt numbers).attempts
        (.connectSpan config.name uri) := by
  induction numbers generalizing attempt with
  | zero => rfl
  | succ numbers ih =>
    rw [connectFrom]
    cases outcome attempt with
    | ok made =>
      simp only [ConnectRun.only]
      split <;> rfl
    | error fault =>
      simp only
      split
      · cases config.backoff? attempt with
        | none => rfl
        | some pause =>
          simp only [ConnectRun.after]
          rw [spans_append, ih, List.replicate_succ]
          rfl
      · rfl

/-- **The messages of connecting carry its attempt numbers**, one message for each attempt, unless
the very first one succeeds. -/
theorem eventAttempts_connectFrom (attempt numbers : Nat) (positive : 1 ≤ attempt)
    (begun : attempt = 1 → ∃ fault, outcome 1 = .error fault)
    (ended : ∀ crash, (config.connectFrom uri outcome attempt numbers).ending ≠ .crashed crash) :
    eventAttempts (config.connectFrom uri outcome attempt numbers).log =
      numbersFrom attempt (config.connectFrom uri outcome attempt numbers).attempts := by
  induction numbers generalizing attempt with
  | zero => exact absurd rfl (ended .attemptOverflow)
  | succ numbers ih =>
    rw [connectFrom] at ended ⊢
    cases result : outcome attempt with
    | ok made =>
      have behind := one_lt_of_ok outcome positive begun result
      simp only [ConnectRun.only, if_pos behind]
      rfl
    | error fault =>
      simp only [result] at ended ⊢
      split
      · next allowed =>
        rw [if_pos allowed] at ended
        cases product : config.backoff? attempt with
        | none =>
          rw [product] at ended
          exact absurd rfl (ended .backoffOverflow)
        | some pause =>
          rw [product] at ended
          simp only [ConnectRun.after] at ended ⊢
          rw [eventAttempts_append, ih (attempt + 1) (by omega) (by omega) ended, numbersFrom_succ]
          rfl
      · rfl

/-- Connecting at once has no message about an attempt. -/
theorem eventAttempts_connect_of_ok (made : outcome 1 = .ok ()) :
    eventAttempts (config.connect uri outcome).log = [] := by
  simp only [connect, RetryPolicy.attemptNumbers, connectFrom, made]
  rfl

end ClientConfig

/-! ## The law -/

namespace RetryPolicy

variable {ρ α : Type} {policy : RetryPolicy}

/-- If all products are spans of time, none overflows before the first attempt at which a run may
end. -/
theorem fits_of_le {n : Nat} (limit : n ≤ policy.maxRetries.toNat + 1)
    (fits : ∀ k, 1 ≤ k → k ≤ policy.maxRetries.toNat → ¬ policy.Overflows k) :
    ∀ k < n, ¬ policy.Overflows k := by
  intro k before exceeds
  exact fits k (pos_of_overflows exceeds) (by omega) exceeds

/-- The first attempt at which a run may end has a number, unless the policy allows the greatest
count of repetitions and as many outcomes are transient. -/
theorem le_attemptNumbers_of_final {outcomes : Nat → Except Status α} {n : Nat}
    (first : IsLeast (policy.Ends outcomes) n)
    (final : policy.maxRetries.toNat = 4294967295 →
      ∃ k, 1 ≤ k ∧ k ≤ 4294967295 ∧ ¬ Transient (outcomes k)) : n ≤ attemptNumbers := by
  show n ≤ 4294967295
  by_cases most : policy.maxRetries.toNat = 4294967295
  · obtain ⟨k, positive, short, final⟩ := final most
    have reached : n ≤ k := first.2 ⟨positive, .inl final⟩
    omega
  · have limit := le_succ_maxRetries first
    have short := policy.maxRetries.toNat_lt
    omega

/-- **Attempts stay within the repetitions**, and are numbered from 1. For a policy all of whose
products are spans of time:

1. A call makes at most one attempt more than repetitions are allowed, and ends with the outcome of
   its last attempt. It opens one span for each attempt, with its number, in order. Its messages
   carry the same numbers, one for each attempt; a call that succeeds at once has none.
2. The same holds of connecting, only that its spans tell the service and the address and no number.

With the greatest count of repetitions, some outcome among as many has to be final. -/
theorem attempts_stay_within_retries (policy : RetryPolicy)
    (fits : ∀ k, 1 ≤ k → k ≤ policy.maxRetries.toNat → ¬ policy.Overflows k) :
    (∀ (op : String) (request : ρ) (respond : Nat → ρ → Except Status α),
      (policy.maxRetries.toNat = 4294967295 →
        ∃ k, 1 ≤ k ∧ k ≤ 4294967295 ∧ ¬ Transient (respond k request)) →
      let run := policy.call op request respond
      run.attempts ≤ policy.maxRetries.toNat + 1 ∧ run.attempts ≤ 4294967295 ∧
        run.ending = .ofOutcome (respond run.attempts request) ∧
        spans run.log = (List.range' 1 run.attempts).map (Entry.attemptSpan op) ∧
        eventAttempts run.log =
          if (respond 1 request).isOk then [] else numbersFrom 1 run.attempts) ∧
    (∀ (config : ClientConfig) (uri : String) (outcome : Nat → Except ConnectFault Unit),
      config.policy = policy →
      (policy.maxRetries.toNat = 4294967295 →
        ∃ k, 1 ≤ k ∧ k ≤ 4294967295 ∧ outcome k = .ok ()) →
      let run := config.connect uri outcome
      run.attempts ≤ policy.maxRetries.toNat + 1 ∧ run.attempts ≤ 4294967295 ∧
        run.ending = config.concluding uri run.attempts (outcome run.attempts) ∧
        spans run.log = List.replicate run.attempts (.connectSpan config.name uri) ∧
        eventAttempts run.log =
          if (outcome 1).isOk then [] else numbersFrom 1 run.attempts) := by
  refine ⟨fun op request respond final => ?_, fun config uri outcome same final => ?_⟩
  · obtain ⟨n, first⟩ := exists_isLeast_ends policy (respond · request)
    have positive : 1 ≤ n := first.1.1
    have limit := le_succ_maxRetries first
    have room := le_attemptNumbers_of_final first final
    intro run
    have course : run = policy.course op request (respond · request) 1 (n - 1)
        (.ofOutcome (respond n request)) :=
      call_eq_course_of_le first room (fits_of_le limit fits)
    have attempts : run.attempts = n := by rw [course, attempts_course _ _ _ _ _ positive]
    have ending : run.ending = .ofOutcome (respond n request) := congrArg CallRun.ending course
    rw [← attempts] at limit room ending
    refine ⟨limit, room, ending, spans_callFrom 1 attemptNumbers, ?_⟩
    cases made : respond 1 request with
    | ok value => exact eventAttempts_call_of_ok made
    | error status =>
      refine eventAttempts_callFrom 1 attemptNumbers (le_refl 1) (fun _ => ⟨status, made⟩) ?_
      intro crash
      exact ending ▸ Ending.ofOutcome_ne_crashed _ crash
  · subst same
    obtain ⟨n, first⟩ := config.exists_isLeast_connectEnds outcome
    have mirroredFirst := first
    rw [← config.ends_mirrored] at mirroredFirst
    have limit := le_succ_maxRetries mirroredFirst
    have room : n ≤ attemptNumbers := by
      refine le_attemptNumbers_of_final mirroredFirst fun most => ?_
      obtain ⟨k, positive, short, made⟩ := final most
      exact ⟨k, positive, short, not_transient_mirrored_iff.mpr made⟩
    intro run
    have goes : config.ConnectGoes uri outcome n run := ClientConfig.connectGoes_of_isLeast first
    have opened : spans run.log = List.replicate run.attempts (.connectSpan config.name uri) :=
      config.spans_connectFrom 1 attemptNumbers
    cases goes with
    | ended _ _ attempts ending =>
      rw [← attempts] at limit room ending
      refine ⟨limit, room, ending, opened, ?_⟩
      cases made : outcome 1 with
      | ok connected => exact config.eventAttempts_connect_of_ok made
      | error fault =>
        refine config.eventAttempts_connectFrom 1 attemptNumbers (le_refl 1)
          (fun _ => ⟨fault, made⟩) ?_
        intro crash
        exact ending ▸ config.concluding_ne_crashed _ _ _ crash
    | overflowed least => exact absurd least.1.2 (fits_of_le limit fits _ least.1.1)
    | ranOut last => omega

/-- The greatest policy leaves numbers for two transient failures and the success behind them. With
the same policy, connecting at once has no message about an attempt. -/
theorem greatest_policy_recovers_at_third_attempt :
    let policy : RetryPolicy := ⟨4294967295, .ofMillis 1, .ofMillis 2⟩
    let config : ClientConfig := ⟨"test", .ofMillis 5000, .ofMillis 2000, policy⟩
    let respond : Nat → String → Except Status String := fun attempt _ =>
      if attempt < 3 then .error ⟨.unavailable, "down"⟩ else .ok "up"
    let outcome : Nat → Except ConnectFault Unit := fun _ => .ok ()
    let call := policy.call "test.op" "r" respond
    let connecting := config.connect "http://127.0.0.1:1" outcome
    (∀ k, 1 ≤ k → k ≤ policy.maxRetries.toNat → ¬ policy.Overflows k) ∧
      (¬ Transient (respond 3 "r") ∧ call.attempts = 3 ∧ call.ending = .answered "up" ∧
        spans call.log =
          [⟨.debug, .span "grpc_call", [("op", .quoted "test.op"), ("attempt", .number 1)]⟩,
            ⟨.debug, .span "grpc_call", [("op", .quoted "test.op"), ("attempt", .number 2)]⟩,
            ⟨.debug, .span "grpc_call", [("op", .quoted "test.op"), ("attempt", .number 3)]⟩] ∧
        eventAttempts call.log = [.number 1, .number 2, .number 3]) ∧
      (outcome 1 = .ok () ∧ connecting.attempts = 1 ∧ connecting.ending = .answered () ∧
        spans connecting.log = [⟨.debug, .span "grpc_connect",
          [("service", .quoted "test"), ("uri", .plain "http://127.0.0.1:1")]⟩] ∧
        eventAttempts connecting.log = []) := by
  intro policy config respond outcome call connecting
  have fits : ∀ k, 1 ≤ k → k ≤ policy.maxRetries.toNat → ¬ policy.Overflows k := by
    intro k _ short exceeds
    have few : k ≤ 4294967295 := short
    have many : 18446744073709551615999999999 < 1000000 * k := exceeds
    omega
  have final : ¬ Transient (respond 3 "r") := by
    intro transient
    cases transient
  have first : IsLeast (policy.Ends (respond · "r")) 3 := by
    refine ⟨⟨by decide, .inl final⟩, ?_⟩
    rintro k ⟨-, conclusive | last⟩
    · by_contra before
      have down : respond k "r" = .error ⟨.unavailable, "down"⟩ := if_pos (Nat.not_le.mp before)
      refine conclusive ?_
      show Transient (respond k "r")
      rw [down]
      exact .unavailable "down"
    · have last : k = 4294967296 := last
      omega
  have three : call.attempts = 3 := by
    have limit := le_succ_maxRetries first
    rw [show call = _ from call_eq_course_of_le first (by decide) (fits_of_le limit fits),
      attempts_course _ _ _ _ _ (by decide)]
  obtain ⟨calls, connects⟩ := attempts_stay_within_retries (ρ := String) (α := String) policy fits
  obtain ⟨-, -, answered, opened, counted⟩ :=
    calls "test.op" "r" respond fun _ => ⟨3, by decide, by decide, final⟩
  obtain ⟨-, -, connected, unnumbered, silent⟩ :=
    connects config "http://127.0.0.1:1" outcome rfl fun _ => ⟨1, by decide, by decide, rfl⟩
  change call.ending = .ofOutcome (respond call.attempts "r") at answered
  change spans call.log = (List.range' 1 call.attempts).map (Entry.attemptSpan "test.op") at opened
  change eventAttempts call.log = numbersFrom 1 call.attempts at counted
  rw [three] at answered opened counted
  exact ⟨fits, ⟨final, three, answered, opened, counted⟩, rfl, rfl, connected, unnumbered, silent⟩

/-- The greatest policy does not end a call to a server that stays down. It makes 4294967295
attempts, and so does connecting to no address; neither has an outcome. Where connecting ends, its
two spans show no number. -/
theorem longest_runs_out_of_numbers :
    let longest : RetryPolicy := ⟨4294967295, .zero, .zero⟩
    let refused : Nat → Except ConnectFault Unit := fun _ => .error (.invalidUri .empty)
    let config (policy : RetryPolicy) : ClientConfig :=
      ⟨"test", .ofMillis 2000, .ofMillis 2000, policy⟩
    let down : Nat → String → Except Status String := fun _ _ => .error ⟨.unavailable, "down"⟩
    let once : RetryPolicy := ⟨1, .ofMillis 1, .ofMillis 2⟩
    ((∀ k, ¬ longest.Overflows k) ∧
      (longest.call "test.op" "r" down).ending = .crashed .attemptOverflow ∧
      ((config longest).connect "" refused).ending = .crashed .attemptOverflow) ∧
    (∀ k ≤ 1, ¬ once.Overflows k) ∧
      ((config once).connect "" refused).attempts = 2 ∧
      spans ((config once).connect "" refused).log =
        [⟨.debug, .span "grpc_connect", [("service", .quoted "test"), ("uri", .plain "")]⟩,
          ⟨.debug, .span "grpc_connect", [("service", .quoted "test"), ("uri", .plain "")]⟩] := by
  intro longest refused config down once
  have fits : ∀ k, ¬ longest.Overflows k := by
    intro k exceeds
    have many : 18446744073709551615999999999 < 0 * k := exceeds
    omega
  have never {α : Type} (outcomes : Nat → Except Status α) : longest.NeverOverflows outcomes :=
    fun k _ _ => fits k
  have called := (longest.capped_call "test.op" "r" down).runsOut_iff.mpr
    ⟨never _, rfl, fun _ _ _ => .unavailable _⟩
  have connected := ((config longest).capped_connect "" refused).runsOut_iff.mpr
    ⟨never _, rfl, fun _ _ _ => .unavailable _⟩
  have two : ((config once).connect "" refused).attempts = 2 := by decide +kernel
  refine ⟨⟨fits, called, connected⟩, by decide, two, ?_⟩
  rw [show spans ((config once).connect "" refused).log = _ from
    (config once).spans_connectFrom 1 attemptNumbers]
  exact congrArg (List.replicate · (Entry.connectSpan "test" "")) two

end RetryPolicy

end RemainderService
