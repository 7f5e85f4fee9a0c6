import RemainderService.Script
import RemainderService.Proofs.Retry.LastAttempt

/-!
# Calls that share a script

A call looks at the outcomes of its own attempts and at no other (`call_congr`). So a call that a
script answers is the same call when it is given the replies to its attempts alone
(`callScripted_segment`), and calls made one after the other cut the script into consecutive
segments, one for each: put together in order, with the unused replies behind them, the segments
are the script again, followed by the value that is kept for afterwards as often as it was needed.

**The specification of a call** (`calls_use_outcomes_in_order`) puts this beside the two ways in
which a single call can end.
-/

set_option autoImplicit false

namespace RemainderService

variable {ρ α : Type}

/-! ## What a call depends on -/

/-- The loop depends on the server only at the attempts that it makes. -/
theorem RetryPolicy.callFrom_congr {policy : RetryPolicy} {op : String} {request : ρ}
    {respond other : Nat → ρ → Except Status α} (first numbers : Nat)
    (agree : ∀ k, first ≤ k →
      k < first + (policy.callFrom op request respond first numbers).attempts →
        other k request = respond k request) :
    policy.callFrom op request other first numbers =
      policy.callFrom op request respond first numbers := by
  induction numbers generalizing first with
  | zero => rfl
  | succ numbers ih =>
    rw [callFrom_succ] at agree ⊢
    rw [callFrom_succ]
    cases verdict : policy.verdict first (respond first request) with
    | stop ending =>
      rw [verdict] at agree
      have here := agree first (Nat.le_refl first) (Nat.lt_succ_self first)
      rw [here, verdict]
    | again status pause =>
      rw [verdict] at agree
      have attempts : (CallRun.after request pause
          [.callOpened op first, .callRetrying op first status.code pause]
          (policy.callFrom op request respond (first + 1) numbers)).attempts =
            (policy.callFrom op request respond (first + 1) numbers).attempts + 1 := rfl
      simp only [attempts] at agree
      have here := agree first (Nat.le_refl first) (by omega)
      have rest := ih (first + 1) fun k low high => agree k (by omega) (by omega)
      rw [here, verdict]
      simp only [rest]

/-- A call depends on the server only at the attempts that it makes. -/
theorem RetryPolicy.call_congr {policy : RetryPolicy} {op : String} {request : ρ}
    {respond other : Nat → ρ → Except Status α}
    (agree : ∀ k, 1 ≤ k → k ≤ (policy.call op request respond).attempts →
      other k request = respond k request) :
    policy.call op request other = policy.call op request respond :=
  callFrom_congr 1 attemptNumbers fun k low high => agree k low (by rw [call]; omega)

/-! ## Segments of a script -/

namespace Reply

/-- The reply of a server whose script has ended. -/
def afterwards (beyond : α) : Reply α := ⟨.ok beyond, .zero⟩

/-- A script with as many replies behind its end as make it this long. -/
def padded (script : List (Reply α)) (beyond : α) (count : Nat) : List (Reply α) :=
  script ++ List.replicate (count - script.length) (afterwards beyond)

/-- The replies to so many attempts. -/
def segment (script : List (Reply α)) (beyond : α) (count : Nat) : List (Reply α) :=
  (padded script beyond count).take count

variable (script : List (Reply α)) (beyond : α) {attempt : Nat} (count : Nat)

/-- A segment has as many replies as it is for attempts. -/
theorem length_segment : (segment script beyond count).length = count := by
  simp only [segment, padded, List.length_take, List.length_append, List.length_replicate]
  omega

/-- A segment and the script behind it are the script, padded where the segment is longer. -/
theorem segment_append_drop :
    segment script beyond count ++ script.drop count = padded script beyond count := by
  have rest : (padded script beyond count).drop count = script.drop count := by
    rw [padded, List.drop_append, List.drop_replicate, Nat.sub_self, List.replicate_zero,
      List.append_nil]
  rw [segment, ← rest, List.take_append_drop]

/-- Padding changes no reply. -/
theorem nth_padded : nth (padded script beyond count) beyond attempt = nth script beyond attempt := by
  rw [nth, nth, padded]
  by_cases inside : attempt - 1 < script.length
  · rw [List.getElem?_append_left inside]
  · have outside : script.length ≤ attempt - 1 := Nat.le_of_not_lt inside
    rw [List.getElem?_append_right outside, List.getElem?_eq_none outside, List.getElem?_replicate]
    split <;> rfl

/-- A segment gives the replies of the script to the attempts that it is for. -/
theorem nth_segment {count : Nat} (low : 1 ≤ attempt) (high : attempt ≤ count) :
    nth (segment script beyond count) beyond attempt = nth script beyond attempt := by
  rw [← nth_padded script beyond count, nth, nth, segment,
    List.getElem?_take_of_lt (by omega)]

end Reply

namespace RetryPolicy

/-- Scripts that give the same replies to the attempts of a call make the same call of it, at the
same times. -/
theorem callScripted_congr {policy : RetryPolicy} {op : String} {request : ρ}
    {script other : List (Reply α)} {beyond : α}
    (agree : ∀ k, 1 ≤ k → k ≤ (policy.callScripted op request script beyond).run.attempts →
      Reply.nth other beyond k = Reply.nth script beyond k) :
    policy.callScripted op request other beyond = policy.callScripted op request script beyond := by
  have run : policy.call op request (fun attempt _ => (Reply.nth other beyond attempt).outcome) =
      policy.call op request (fun attempt _ => (Reply.nth script beyond attempt).outcome) :=
    call_congr fun k low high => by rw [agree k low high]
  have delays : ∀ i ∈ List.range (policy.callScripted op request script beyond).run.attempts,
      (Reply.nth other beyond (i + 1)).delay = (Reply.nth script beyond (i + 1)).delay := by
    intro i inside
    rw [agree (i + 1) (by omega) (List.mem_range.mp inside)]
  rw [callScripted, run]
  exact congrArg (fun waits => TimedCall.mk _ (Timeline.ofWaits waits _)) (List.map_congr_left delays)

/-- **A call needs no more of a script than the segment for its own attempts.** -/
theorem callScripted_segment (policy : RetryPolicy) (op : String) (request : ρ)
    (script : List (Reply α)) (beyond : α) :
    policy.callScripted op request
        (Reply.segment script beyond (policy.callScripted op request script beyond).run.attempts)
        beyond =
      policy.callScripted op request script beyond :=
  callScripted_congr fun _ low high => Reply.nth_segment script beyond low high

/-- **Calls cut a script into consecutive segments**, one for each call and as long as it has
attempts. Each call is what it would be on its own segment. -/
theorem callAll_segments (policy : RetryPolicy) (beyond : α) (calls : List (String × ρ))
    (script : List (Reply α)) :
    ∃ segments : List (List (Reply α)),
      segments.length = calls.length ∧
      (policy.callAll script beyond calls).calls =
        List.zipWith (fun call segment => policy.callScripted call.1 call.2 segment beyond)
          calls segments ∧
      segments.map List.length =
        (policy.callAll script beyond calls).calls.map (·.run.attempts) ∧
      segments.flatten ++ (policy.callAll script beyond calls).unused =
        Reply.padded script beyond segments.flatten.length := by
  induction calls generalizing script with
  | nil =>
    refine ⟨[], rfl, rfl, rfl, ?_⟩
    rw [callAll, Reply.padded, List.flatten_nil, List.length_nil, Nat.zero_sub,
      List.replicate_zero, List.append_nil, List.nil_append]
  | cons named later ih =>
    obtain ⟨op, request⟩ := named
    let count := (policy.callScripted op request script beyond).run.attempts
    obtain ⟨segments, same, calls, lengths, whole⟩ := ih (script.drop count)
    refine ⟨Reply.segment script beyond count :: segments, ?_, ?_, ?_, ?_⟩
    · rw [List.length_cons, List.length_cons, same]
    · rw [callAll, List.zipWith_cons_cons, callScripted_segment, ← calls]
    · rw [callAll, List.map_cons, List.map_cons, Reply.length_segment, lengths]
    · have split : (policy.callAll script beyond ((op, request) :: later)).unused =
          (policy.callAll (script.drop count) beyond later).unused := rfl
      rw [split, List.flatten_cons, List.append_assoc, whole, Reply.padded, ← List.append_assoc,
        Reply.segment_append_drop, Reply.padded, Reply.padded, List.append_assoc,
        List.replicate_append_replicate, List.length_append, Reply.length_segment,
        List.length_drop]
      congr 2
      omega

/-! ## The specification of a call -/

/-- **A call ends at the first attempt at which it may, and calls use outcomes in order.** For a
policy that leaves a number for every attempt: let `n` be the first attempt whose outcome is not
transient, or the one behind the allowed repetitions. If every pause before it is a span of time,
the same request is sent `n` times and the ending is outcome `n`; otherwise the call crashes at the
first attempt whose pause is none. Calls that share a script use up consecutive segments of it. -/
theorem calls_use_outcomes_in_order (policy : RetryPolicy)
    (bounded : policy.maxRetries.toNat < 4294967295) :
    (∀ (op : String) (request : ρ) (respond : Nat → ρ → Except Status α),
      ∃ n, IsLeast (policy.Ends (respond · request)) n ∧
        ((∀ k < n, ¬ policy.Overflows k) →
          (policy.call op request respond).sent = List.replicate n request ∧
          (policy.call op request respond).ending = .ofOutcome (respond n request)) ∧
        ((∃ k < n, policy.Overflows k) →
          ∃ k crash, IsLeast {k | k < n ∧ policy.Overflows k} k ∧
            (policy.call op request respond).sent = List.replicate k request ∧
            (policy.call op request respond).ending = .crashed crash ∧
            crash.message = "overflow when multiplying duration by scalar")) ∧
    (∀ (script : List (Reply α)) (beyond : α) (calls : List (String × ρ)),
      ∃ segments : List (List (Reply α)),
        segments.length = calls.length ∧
        (policy.callAll script beyond calls).calls =
          List.zipWith (fun call segment => policy.callScripted call.1 call.2 segment beyond)
            calls segments ∧
        segments.map List.length =
          (policy.callAll script beyond calls).calls.map (·.run.attempts) ∧
        segments.flatten ++ (policy.callAll script beyond calls).unused =
          script ++ List.replicate (segments.flatten.length - script.length)
            ⟨.ok beyond, .zero⟩) := by
  refine ⟨fun op request respond => ?_, fun script beyond calls => ?_⟩
  · obtain ⟨n, first⟩ := exists_isLeast_ends policy (respond · request)
    refine ⟨n, first, fun fits => ?_, fun overflow => ?_⟩
    · rw [call_eq_course bounded first fits]
      exact ⟨sent_course policy op request _ _ first.1.1, rfl⟩
    · obtain ⟨k, least⟩ := exists_isLeast_overflow overflow
      have positive : 1 ≤ k := pos_of_overflows least.1.2
      refine ⟨k, .backoffOverflow, least, ?_, ?_, rfl⟩
      · rw [call_eq_course_of_overflow bounded first least]
        exact sent_course policy op request _ _ positive
      · rw [call_eq_course_of_overflow bounded first least]
        rfl
  · exact callAll_segments policy beyond calls script

/-- With the greatest span as its base, a policy has no pause after the second attempt, although it
allows four attempts: a call that meets failures only crashes there. -/
theorem longest_base_crashes_at_second_attempt :
    let policy : RetryPolicy := ⟨3, ⟨18446744073709551615999999999, by decide⟩, .zero⟩
    let down : Nat → Nat → Except Status String := fun _ _ => .error ⟨.unavailable, "down"⟩
    policy.maxRetries.toNat < 4294967295 ∧ policy.Overflows 2 ∧
      (policy.call "test.down" 7 down).sent = [7, 7] ∧
      (policy.call "test.down" 7 down).ending = .crashed .backoffOverflow := by
  intro policy down
  have bounded : policy.maxRetries.toNat < 4294967295 := by decide
  have exceeds : policy.Overflows 2 := by decide
  obtain ⟨n, first, -, crash⟩ := (calls_use_outcomes_in_order policy bounded).1 "test.down" 7 down
  have last : n = 4 := by
    rcases first.1.2 with final | last
    · exact absurd (Transient.unavailable "down") final
    · exact last
  obtain ⟨k, crash, least, sent, ending, message⟩ := crash ⟨2, by omega, exceeds⟩
  have second : k = 2 := by
    have upper : k ≤ 2 := least.2 ⟨by omega, exceeds⟩
    have lower : ¬ policy.Overflows 1 := by decide
    have positive : 0 < k := pos_of_overflows least.1.2
    rcases Nat.lt_or_ge k 2 with one | two
    · exact absurd (show k = 1 by omega) fun one => lower (one ▸ least.1.2)
    · omega
  subst second
  refine ⟨bounded, exceeds, sent, ?_⟩
  cases crash with
  | backoffOverflow => exact ending
  | attemptOverflow => exact absurd message (by decide)

end RetryPolicy

end RemainderService
