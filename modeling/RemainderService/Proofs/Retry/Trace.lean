import RemainderService.Proofs.Retry.AttemptNumbers

/-!
# The log traces the call

In the words of its entries (`Entry`) the log of a call is a function of what the call did.

**The law** (`log_traces_call`). Each attempt that is followed by another has two entries, its span
and the announcement of its pause, with the code of its outcome and the pause in milliseconds. The
last attempt has its span, and behind it at most one entry, which says how the call ended. A call
that succeeds at once needs none, and a call that crashes has no time for one.

The entries are written out here with their wording. `Event` has the same wording in functions that
read it off an event, and `shown_retryEntries` and `shown_closingEntries` say that the two agree.
-/

set_option autoImplicit false

namespace RemainderService

/-! ## What a log shows -/

namespace Entry

/-- The announcement of a pause, in whole milliseconds and at most the largest 64-bit number. -/
def retrying (op : String) (attempt : Nat) (code : Code) (pause : Duration) : Entry where
  severity := .debug
  heading := .message "retrying gRPC call after backoff"
  fields := [("op", .quoted op), ("attempt", .number attempt), ("code", .plain code.name),
    ("backoff_ms", .number ↑(min (pause.nanos / 1000000) 18446744073709551615))]

/-- The report of a success that took more than one attempt. -/
def recovered (op : String) (attempt : Nat) : Entry where
  severity := .info
  heading := .message "gRPC call succeeded after retries"
  fields := [("op", .quoted op), ("attempt", .number attempt)]

/-- The report of a failure. -/
def failed (op : String) (attempt : Nat) (status : Status) : Entry where
  severity := .warn
  heading := .message "gRPC call failed"
  fields := [("op", .quoted op), ("attempt", .number attempt), ("code", .plain status.code.name),
    ("message", .plain status.message)]

/-- The entry says how a call ended. -/
def endsCall (entry : Entry) : Bool :=
  entry.heading = .message "gRPC call succeeded after retries" ||
    entry.heading = .message "gRPC call failed"

end Entry

variable {ρ α : Type}

/-- The entries for attempts from a number on that were followed by others, with the pauses behind
them. -/
def followedTrace (op : String) (outcomes : Nat → Except Status α) (first : Nat)
    (backoffs : List Duration) : List Entry :=
  (backoffs.zipIdx first).flatMap fun (pause, attempt) =>
    [.attemptSpan op attempt, .retrying op attempt (outcomeCode (outcomes attempt)) pause]

/-- The entries behind the span of the last attempt. -/
def closingTrace (op : String) (attempt : Nat) : Ending Status α → List Entry
  | .answered _ => if attempt = 1 then [] else [.recovered op attempt]
  | .failed status => [.failed op attempt status]
  | .crashed _ => []

/-- The log of a call that paused so often and ended in this way. -/
def callTrace (op : String) (outcomes : Nat → Except Status α) (backoffs : List Duration)
    (ending : Ending Status α) : List Entry :=
  followedTrace op outcomes 1 backoffs ++
    .attemptSpan op (backoffs.length + 1) :: closingTrace op (backoffs.length + 1) ending

/-! ## No entry ends a call but the last -/

/-- Entries for attempts that were followed by others do not end a call. -/
theorem endsCall_of_mem_followedTrace {op : String} {outcomes : Nat → Except Status α}
    {first : Nat} {backoffs : List Duration} {entry : Entry}
    (mem : entry ∈ followedTrace op outcomes first backoffs) : entry.endsCall = false := by
  obtain ⟨⟨pause, attempt⟩, -, pair⟩ := List.mem_flatMap.mp mem
  simp only [List.mem_cons, List.not_mem_nil, or_false] at pair
  obtain rfl | rfl := pair
  · simp [Entry.endsCall, Entry.attemptSpan]
  · simp [Entry.endsCall, Entry.retrying]

/-- At most one entry stands behind the last span. -/
theorem length_closingTrace_le (op : String) (attempt : Nat) (ending : Ending Status α) :
    (closingTrace op attempt ending).length ≤ 1 := by
  cases ending with
  | answered value =>
    rw [closingTrace]
    split <;> simp
  | failed status => simp [closingTrace]
  | crashed crash => simp [closingTrace]

/-- Where a list goes on behind a part without the property by one element at most, an element with
the property is the last. -/
theorem eq_nil_of_append_eq {β : Type} {p : β → Bool} {front closing earlier later : List β}
    {last : β} (quiet : ∀ x ∈ front, p x = false) (short : closing.length ≤ 1)
    (split : front ++ closing = earlier ++ last :: later) (holds : p last = true) :
    later = [] := by
  rw [List.append_eq_append_iff] at split
  obtain ⟨between, -, rest⟩ | ⟨between, rfl, rest⟩ := split
  · rw [rest] at short
    simp only [List.length_append, List.length_cons] at short
    exact List.length_eq_zero_iff.mp (by omega)
  · cases between with
    | nil =>
      rw [List.nil_append] at rest
      rw [← rest, List.length_cons] at short
      exact List.length_eq_zero_iff.mp (by omega)
    | cons head between =>
      injection rest with same
      have silent : p last = false := quiet last (by simp [same])
      rw [silent] at holds
      cases holds

variable {op : String} {outcomes : Nat → Except Status α} {backoffs : List Duration}
  {ending : Ending Status α}

/-- What stands in front of the closing entries ends no call. -/
theorem endsCall_of_mem_front {attempt : Nat} {entry : Entry}
    (mem : entry ∈ followedTrace op outcomes 1 backoffs ++ [.attemptSpan op attempt]) :
    entry.endsCall = false := by
  rw [List.mem_append, List.mem_singleton] at mem
  obtain followed | rfl := mem
  · exact endsCall_of_mem_followedTrace followed
  · simp [Entry.endsCall, Entry.attemptSpan]

/-- An entry that ends a call is the last of its log. -/
theorem eq_nil_of_callTrace_eq {earlier later : List Entry} {last : Entry}
    (split : callTrace op outcomes backoffs ending = earlier ++ last :: later)
    (ends : last.endsCall = true) : later = [] := by
  unfold callTrace at split
  rw [List.append_cons] at split
  exact eq_nil_of_append_eq (fun _ => endsCall_of_mem_front) (length_closingTrace_le _ _ ending)
    split ends

/-- The log of a call has at most one entry that ends it. -/
theorem countP_endsCall_callTrace_le :
    (callTrace op outcomes backoffs ending).countP Entry.endsCall ≤ 1 := by
  unfold callTrace
  rw [List.append_cons, List.countP_append, List.countP_eq_zero.mpr, Nat.zero_add]
  · exact List.countP_le_length.trans (length_closingTrace_le _ _ ending)
  · intro entry mem
    simp [endsCall_of_mem_front mem]

/-- The entry's pause in milliseconds, if it announces one. -/
def Entry.backoffMillis? (entry : Entry) : Option FieldValue := entry.fields.lookup "backoff_ms"

/-- The entries for attempts that were followed by others announce their pauses. -/
theorem backoffMillis_followedTrace (op : String) (outcomes : Nat → Except Status α) (first : Nat)
    (backoffs : List Duration) :
    (followedTrace op outcomes first backoffs).filterMap Entry.backoffMillis? =
      backoffs.map fun pause =>
        .number ↑(min (pause.nanos / 1000000) 18446744073709551615) := by
  induction backoffs generalizing first with
  | nil => rfl
  | cons pause later ih =>
    have rest := ih (first + 1)
    unfold followedTrace at rest ⊢
    rw [List.zipIdx_cons, List.flatMap_cons, List.filterMap_append, rest]
    rfl

/-- The entries of a log announce the pauses of the call. -/
theorem backoffMillis_callTrace (op : String) (outcomes : Nat → Except Status α)
    (backoffs : List Duration) (ending : Ending Status α) :
    (callTrace op outcomes backoffs ending).filterMap Entry.backoffMillis? =
      backoffs.map fun pause =>
        .number ↑(min (pause.nanos / 1000000) 18446744073709551615) := by
  have closing (attempt : Nat) :
      (closingTrace op attempt ending).filterMap Entry.backoffMillis? = [] := by
    cases ending with
    | answered value =>
      rw [closingTrace]
      split <;> rfl
    | failed status => rfl
    | crashed crash => rfl
  have span (attempt : Nat) : (Entry.attemptSpan op attempt).backoffMillis? = none := by rfl
  unfold callTrace
  rw [List.filterMap_append, List.filterMap_cons_none (span _), closing, List.append_nil,
    backoffMillis_followedTrace]

/-! ## The log of a course -/

/-- The entries for one attempt that was followed by another show its trace. -/
theorem shown_retryEntries (policy : RetryPolicy) (op : String)
    (outcomes : Nat → Except Status α) (attempt : Nat) :
    (policy.retryEntries op outcomes attempt).map Event.shown =
      [.attemptSpan op attempt,
        .retrying op attempt (outcomeCode (outcomes attempt)) (policy.pause attempt)] := by
  rfl

/-- The entries for attempts that were followed by others show the trace of their pauses. -/
theorem shown_followed (policy : RetryPolicy) (op : String) (outcomes : Nat → Except Status α)
    (first followed : Nat) :
    ((List.range' first followed).flatMap (policy.retryEntries op outcomes)).map Event.shown =
      followedTrace op outcomes first ((List.range' first followed).map policy.pause) := by
  induction followed generalizing first with
  | zero => rfl
  | succ followed ih =>
    rw [List.range'_succ, List.flatMap_cons, List.map_append, shown_retryEntries, ih (first + 1)]
    simp only [followedTrace, List.map_cons, List.zipIdx_cons, List.flatMap_cons]

/-- The entries behind the last span show the closing trace. -/
theorem shown_closingEntries (op : String) {attempt : Nat} (positive : 1 ≤ attempt)
    (ending : Ending Status α) :
    (RetryPolicy.closingEntries op attempt ending).map Event.shown =
      closingTrace op attempt ending := by
  cases ending with
  | answered value =>
    simp only [RetryPolicy.closingEntries, closingTrace]
    by_cases once : attempt = 1
    · rw [if_pos once, if_neg (by omega), List.map_nil]
    · rw [if_neg once, if_pos (by omega)]
      rfl
  | failed status => rfl
  | crashed crash => rfl

/-- **The log of a course** is its trace. -/
theorem shown_course (policy : RetryPolicy) (op : String) (request : ρ)
    (outcomes : Nat → Except Status α) (followed : Nat) (ending : Ending Status α) :
    (policy.course op request outcomes 1 followed ending).log.map Event.shown =
      callTrace op outcomes (policy.course op request outcomes 1 followed ending).backoffs
        ending := by
  unfold RetryPolicy.course callTrace
  simp only [List.map_append, List.map_cons, shown_followed, List.length_map, List.length_range']
  rw [Nat.add_comm 1 followed, shown_closingEntries op (Nat.le_add_left 1 followed) ending]
  rfl

namespace RetryPolicy

/-- A call with its trace: all attempts but the last failed for a transient reason and have a pause
behind them. The call ends with the outcome of its last attempt, or it crashes there, where the pause
of a transient failure is no span of time. -/
structure Traced (policy : RetryPolicy) (op : String) (outcomes : Nat → Except Status α)
    (run : CallRun ρ α) : Prop where
  attempts_eq : run.attempts = run.backoffs.length + 1
  transient : ∀ k, 1 ≤ k → k < run.attempts → Transient (outcomes k)
  log_eq : run.log.map Event.shown = callTrace op outcomes run.backoffs run.ending
  ending_eq : run.ending = .ofOutcome (outcomes run.attempts) ∨
    Transient (outcomes run.attempts) ∧ policy.Overflows run.attempts ∧
      run.ending = .crashed .backoffOverflow

/-- A course is traced if its ending belongs to its last attempt. -/
theorem traced_course {policy : RetryPolicy} {op : String} {request : ρ}
    {outcomes : Nat → Except Status α} {n : Nat} {ending : Ending Status α} (positive : 1 ≤ n)
    (transient : ∀ k, 1 ≤ k → k < n → Transient (outcomes k))
    (ends : ending = .ofOutcome (outcomes n) ∨
      Transient (outcomes n) ∧ policy.Overflows n ∧ ending = .crashed .backoffOverflow) :
    policy.Traced op outcomes (policy.course op request outcomes 1 (n - 1) ending) := by
  have attempts : (policy.course op request outcomes 1 (n - 1) ending).attempts = n :=
    attempts_course policy op request outcomes ending positive
  constructor
  · rw [attempts, course, List.length_map, List.length_range', Nat.sub_add_cancel positive]
  · rw [attempts]
    exact transient
  · exact shown_course policy op request outcomes (n - 1) ending
  · rw [attempts]
    exact ends

/-- **Every call is traced** if the policy leaves a number for every attempt. -/
theorem traced_call (policy : RetryPolicy) (bounded : policy.maxRetries.toNat < 4294967295)
    (op : String) (request : ρ) (respond : Nat → ρ → Except Status α) :
    policy.Traced op (respond · request) (policy.call op request respond) := by
  obtain ⟨n, first⟩ := exists_isLeast_ends policy (respond · request)
  have transient (k : Nat) (low : 1 ≤ k) (high : k < n) : Transient (respond k request) :=
    transient_of_lt first low high
  have goes : policy.Goes op request (respond · request) n (policy.call op request respond) :=
    goes_of_isLeast first
  generalize policy.call op request respond = run at goes ⊢
  cases goes with
  | ended room fits => exact traced_course first.1.1 transient (.inl rfl)
  | @overflowed k least =>
    have before : k < n := least.1.1
    have positive : 1 ≤ k := pos_of_overflows least.1.2
    refine traced_course positive (fun j low high => transient j low (by omega)) (.inr ?_)
    exact ⟨transient k positive before, least.1.2, rfl⟩
  | ranOut last =>
    have room := le_attemptNumbers bounded first
    omega

/-- A log has one span for each attempt. -/
theorem length_filter_opensSpan (policy : RetryPolicy) (op : String) (request : ρ)
    (respond : Nat → ρ → Except Status α) :
    ((policy.call op request respond).log.filter Event.opensSpan).length =
      (policy.call op request respond).attempts := by
  have opened : spans (policy.call op request respond).log = _ := spans_callFrom 1 attemptNumbers
  have lengths := congrArg List.length opened
  simpa [spans, call] using lengths

/-! ## The law -/

/-- **The log traces the call.** For a policy that leaves a number for every attempt:

1. There is one attempt more than pauses, and all attempts but the last failed for a transient
   reason.
2. The log shows, in order, for each attempt with a pause behind it its span and the announcement of
   the pause, with the code of its outcome; then the span of the last attempt; then the end: nothing
   if the first attempt succeeded, a report of the recovery if a later one did, a report of the
   status if the call failed, and nothing if it crashed.
3. The call ends with the outcome of the last attempt, or it crashes because the product for its
   pause is no span of time.
4. The log has as many spans as there are attempts. At most one of its entries says how the call
   ended, and nothing stands behind that one.
5. The pauses that it announces are the pauses that were made, in whole milliseconds and at most the
   largest 64-bit number. -/
theorem log_traces_call (policy : RetryPolicy) (bounded : policy.maxRetries.toNat < 4294967295)
    (op : String) (request : ρ) (respond : Nat → ρ → Except Status α) :
    let run := policy.call op request respond
    let n := run.attempts
    let shown := run.log.map Event.shown
    (n = run.backoffs.length + 1 ∧ ∀ k, 1 ≤ k → k < n → Transient (respond k request)) ∧
    shown = callTrace op (respond · request) run.backoffs run.ending ∧
    ((∃ value, respond n request = .ok value ∧ run.ending = .answered value) ∨
      (∃ status, respond n request = .error status ∧ run.ending = .failed status) ∨
      (Transient (respond n request) ∧ policy.backoff? n = none ∧
        run.ending = .crashed .backoffOverflow)) ∧
    ((run.log.filter Event.opensSpan).length = n ∧ shown.countP Entry.endsCall ≤ 1 ∧
      ∀ earlier last later, shown = earlier ++ last :: later → last.endsCall = true →
        later = []) ∧
    shown.filterMap Entry.backoffMillis? = run.backoffs.map fun pause =>
      .number ↑(min (pause.nanos / 1000000) 18446744073709551615) := by
  intro run n shown
  have traced : policy.Traced op (respond · request) run :=
    policy.traced_call bounded op request respond
  have log : shown = callTrace op (respond · request) run.backoffs run.ending := traced.log_eq
  refine ⟨⟨traced.attempts_eq, traced.transient⟩, log, ?_, ⟨?_, ?_, ?_⟩, ?_⟩
  · obtain ended | ⟨transient, exceeds, crashed⟩ := traced.ending_eq
    · change run.ending = .ofOutcome (respond n request) at ended
      cases outcome : respond n request with
      | ok value =>
        rw [outcome] at ended
        exact .inl ⟨value, rfl, ended⟩
      | error status =>
        rw [outcome] at ended
        exact .inr (.inl ⟨status, rfl, ended⟩)
    · exact .inr (.inr ⟨transient, backoff?_eq_none_iff.mpr exceeds, crashed⟩)
  · exact length_filter_opensSpan policy op request respond
  · rw [log]
    exact countP_endsCall_callTrace_le
  · intro earlier last later split ends
    rw [log] at split
    exact eq_nil_of_callTrace_eq split ends
  · rw [log]
    exact backoffMillis_callTrace op _ run.backoffs run.ending

/-- The greatest span as a base: the pause behind the first attempt has more milliseconds than a
64-bit number can count, and the product for the second is no span of time. The log ends with the
span of the second attempt. -/
theorem log_of_crash_behind_longest_pause :
    let longest : Duration := ⟨18446744073709551615999999999, by decide⟩
    let policy : RetryPolicy := ⟨3, longest, longest⟩
    let respond : Nat → Nat → Except Status String := fun attempt _ =>
      .error (if attempt = 1 then ⟨.unavailable, "down"⟩ else ⟨.deadlineExceeded, "slow"⟩)
    let run := policy.call "test.op" 7 respond
    policy.maxRetries.toNat < 4294967295 ∧ run.ending = .crashed .backoffOverflow ∧
      run.log.map Event.shown =
        [.attemptSpan "test.op" 1,
          ⟨.debug, .message "retrying gRPC call after backoff",
            [("op", .quoted "test.op"), ("attempt", .number 1), ("code", .plain "Unavailable"),
              ("backoff_ms", .number 18446744073709551615)]⟩,
          .attemptSpan "test.op" 2] := by
  intro longest policy respond run
  have bounded : policy.maxRetries.toNat < 4294967295 := by decide
  have backoffs : run.backoffs = [longest] := by decide +kernel
  have crashed : run.ending = .crashed .backoffOverflow := by decide +kernel
  obtain ⟨-, log, -⟩ := policy.log_traces_call bounded "test.op" 7 respond
  change run.log.map Event.shown = callTrace "test.op" (respond · 7) run.backoffs run.ending at log
  rw [backoffs, crashed] at log
  exact ⟨bounded, crashed, log.trans (by decide +kernel)⟩

end RetryPolicy

end RemainderService
