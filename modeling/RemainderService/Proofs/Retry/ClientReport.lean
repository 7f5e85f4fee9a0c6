import RemainderService.Client
import RemainderService.Proofs.Retry.LastAttempt

/-!
# What a client reports

The error of a failed call tells how the call ended. Two classifications meet here: the loop of a
call asks which codes are transient, and the client asks which error a code stands for. They agree
on every code (`ofStatus_eq_transport_iff`), so an error in transport says that every attempt
failed for a transient reason, and any other error, like an answer, belongs to the first attempt
that did not.

**The log** of a failed call ends with two reports, the one of the loop and the one of the client,
and no other entry of it is a report (`log_of_failed`); that of a successful call has none.
-/

set_option autoImplicit false

namespace RemainderService

/-! ## Codes by their numbers -/

/-- A number stands for a code other than `unknown` exactly if it is the number of that code. -/
theorem Code.ofNumber_eq_iff {number : Int} {code : Code} (known : code ≠ .unknown) :
    Code.ofNumber number = code ↔ number = code.number := by
  constructor
  · intro h
    unfold Code.ofNumber at h
    cases found : Code.all.find? (fun c => (c.number : Int) == number) with
    | none =>
      rw [found] at h
      exact absurd h.symm known
    | some c =>
      rw [found, Option.getD_some] at h
      subst h
      have same := List.find?_some found
      exact (beq_iff_eq.mp same).symm
  · rintro rfl
    exact Code.ofNumber_number code

namespace ClientError

variable {code : Code} {message text : String}

/-- A status is reported as a failure in transport exactly if the loop takes its code for a
transient one. -/
theorem ofStatus_eq_transport_iff :
    ofStatus ⟨code, message⟩ = .transport text ↔ code.retryable = true ∧ message = text := by
  cases code <;> simp only [ofStatus, Code.retryable, reduceCtorEq, transport.injEq, true_and,
    Bool.false_eq_true, false_and]

/-- A status is reported as unimplemented exactly if it says so. -/
theorem ofStatus_eq_unimplemented_iff :
    ofStatus ⟨code, message⟩ = .unimplemented text ↔ code = .unimplemented ∧ message = text := by
  cases code <;> simp only [ofStatus, reduceCtorEq, unimplemented.injEq, true_and, false_and]

/-- Every other status is reported as internal. -/
theorem ofStatus_eq_internal_iff :
    ofStatus ⟨code, message⟩ = .internal text ↔
      code.retryable = false ∧ code ≠ .unimplemented ∧ message = text := by
  cases code <;> simp only [ofStatus, Code.retryable, reduceCtorEq, internal.injEq, true_and,
    Bool.true_eq_false, false_and, ne_eq, not_true_eq_false, not_false_iff]

/-- The error for a status, by the number of its code. -/
theorem ofStatus_ofNumber (number : Int) (message : String) :
    ofStatus ⟨Code.ofNumber number, message⟩ =
      if number = 12 then .unimplemented message
      else if number = 14 ∨ number = 4 then .transport message
      else .internal message := by
  by_cases twelve : number = 12
  · subst twelve
    rfl
  rw [if_neg twelve]
  by_cases transient : number = 14 ∨ number = 4
  · rw [if_pos transient]
    rcases transient with rfl | rfl <;> rfl
  · rw [if_neg transient]
    have final : (Code.ofNumber number).retryable = false := by
      cases code : Code.ofNumber number with
      | unavailable => exact absurd (.inl ((Code.ofNumber_eq_iff (by decide)).mp code)) transient
      | deadlineExceeded =>
        exact absurd (.inr ((Code.ofNumber_eq_iff (by decide)).mp code)) transient
      | _ => rfl
    have implemented : Code.ofNumber number ≠ .unimplemented :=
      fun code => twelve ((Code.ofNumber_eq_iff (by decide)).mp code)
    exact ofStatus_eq_internal_iff.mpr ⟨final, implemented, rfl⟩

end ClientError

/-- A status is a transient outcome exactly if its code is. -/
theorem transient_error_iff {α : Type} {code : Code} {message : String} :
    Transient (.error ⟨code, message⟩ : Except Status α) ↔ code.retryable = true := by
  rw [RetryPolicy.transient_iff]
  constructor
  · rintro ⟨status, same, retryable⟩
    cases same
    exact retryable
  · intro retryable
    exact ⟨_, rfl, retryable⟩

namespace RetryPolicy

variable {α : Type} {policy : RetryPolicy} {outcomes : Nat → Except Status α} {n : Nat}

/-- No pause that the policy is asked for on these outcomes overflows: it is asked for one after an
attempt that may be followed, if all attempts so far failed for a transient reason. -/
def NeverOverflows (policy : RetryPolicy) (outcomes : Nat → Except Status α) : Prop :=
  ∀ k ≤ policy.maxRetries.toNat, (∀ j, 1 ≤ j → j ≤ k → Transient (outcomes j)) →
    ¬ policy.Overflows k

/-- The attempts whose outcome is not transient. -/
def conclusive (outcomes : Nat → Except Status α) : Set Nat :=
  {n | 1 ≤ n ∧ ¬ Transient (outcomes n)}

/-- Without overflow, no attempt before the last one overflows. -/
theorem NeverOverflows.of_lt (fits : policy.NeverOverflows outcomes)
    (first : IsLeast (policy.Ends outcomes) n) : ∀ k < n, ¬ policy.Overflows k := by
  intro k before
  have limit := le_succ_maxRetries first
  exact fits k (by omega) fun j low high => transient_of_lt first low (by omega)

/-- The first attempt that is not transient is the last one of a call, if the policy allows it. -/
theorem isLeast_ends_of_conclusive (first : IsLeast (conclusive outcomes) n)
    (allowed : n ≤ policy.maxRetries.toNat + 1) : IsLeast (policy.Ends outcomes) n := by
  refine ⟨⟨first.1.1, .inl first.1.2⟩, ?_⟩
  rintro k ⟨positive, final | last⟩
  · exact first.2 ⟨positive, final⟩
  · omega

/-- **A property that no transient outcome has** holds of the last outcome of a call exactly if it
holds of the first outcome that is not transient, and the policy allows that attempt. -/
theorem last_outcome_iff (first : IsLeast (policy.Ends outcomes) n) (p : Except Status α → Prop)
    (final : ∀ outcome, p outcome → ¬ Transient outcome) :
    p (outcomes n) ↔
      ∃ k, IsLeast (conclusive outcomes) k ∧ k ≤ policy.maxRetries.toNat + 1 ∧ p (outcomes k) := by
  constructor
  · intro holds
    refine ⟨n, ⟨⟨first.1.1, final _ holds⟩, ?_⟩, le_succ_maxRetries first, holds⟩
    rintro k ⟨positive, ends⟩
    exact first.2 ⟨positive, .inl ends⟩
  · rintro ⟨k, conclusive, allowed, holds⟩
    rw [first.unique (isLeast_ends_of_conclusive conclusive allowed)]
    exact holds

/-- The last outcome of a call is transient exactly if all that the policy allows are. -/
theorem last_transient_iff (first : IsLeast (policy.Ends outcomes) n) :
    Transient (outcomes n) ↔
      n = policy.maxRetries.toNat + 1 ∧
        ∀ k, 1 ≤ k → k ≤ policy.maxRetries.toNat + 1 → Transient (outcomes k) := by
  constructor
  · intro transient
    have last : n = policy.maxRetries.toNat + 1 := first.1.2.resolve_left fun h => h transient
    refine ⟨last, fun k low high => ?_⟩
    rcases Nat.lt_or_ge k n with before | behind
    · exact transient_of_lt first low before
    · rwa [show k = n by omega]
  · rintro ⟨last, all⟩
    exact all n first.1.1 (by omega)

end RetryPolicy

/-! ## The outcome for the user -/

/-- What the user gets for the outcome of the last attempt. -/
def Ending.ofReply : Except Status Number → Ending ClientError Binary64
  | .ok number => .answered number.result
  | .error status => .failed (.ofStatus status)

namespace Ending

variable {outcome : Except Status Number} {text : String} {value : Binary64}

/-- The user hears of a failure in transport exactly for a transient status with that text. -/
theorem ofReply_eq_transport_iff :
    ofReply outcome = .failed (.transport text) ↔
      Transient outcome ∧ ∃ code, outcome = .error ⟨code, text⟩ := by
  cases outcome with
  | ok number => exact ⟨nofun, fun ⟨_, code, error⟩ => nomatch error⟩
  | error status =>
    obtain ⟨code, message⟩ := status
    rw [ofReply, failed.injEq, ClientError.ofStatus_eq_transport_iff, transient_error_iff]
    constructor
    · rintro ⟨retryable, rfl⟩
      exact ⟨retryable, code, rfl⟩
    · rintro ⟨retryable, other, same⟩
      cases same
      exact ⟨retryable, rfl⟩

/-- The user hears that a method is unimplemented exactly for a status that says so. -/
theorem ofReply_eq_unimplemented_iff :
    ofReply outcome = .failed (.unimplemented text) ↔
      outcome = .error ⟨.unimplemented, text⟩ := by
  cases outcome with
  | ok number => exact ⟨nofun, nofun⟩
  | error status =>
    obtain ⟨code, message⟩ := status
    rw [ofReply, failed.injEq, ClientError.ofStatus_eq_unimplemented_iff, Except.error.injEq,
      Status.mk.injEq]

/-- The user hears of an internal failure exactly for every other status. -/
theorem ofReply_eq_internal_iff :
    ofReply outcome = .failed (.internal text) ↔
      ¬ Transient outcome ∧ ∃ code, code ≠ .unimplemented ∧ outcome = .error ⟨code, text⟩ := by
  cases outcome with
  | ok number => exact ⟨nofun, fun ⟨_, code, _, error⟩ => nomatch error⟩
  | error status =>
    obtain ⟨code, message⟩ := status
    rw [ofReply, failed.injEq, ClientError.ofStatus_eq_internal_iff, transient_error_iff,
      Bool.not_eq_true]
    constructor
    · rintro ⟨final, implemented, rfl⟩
      exact ⟨final, code, implemented, rfl⟩
    · rintro ⟨final, other, implemented, same⟩
      cases same
      exact ⟨final, implemented, rfl⟩

/-- The user gets a value exactly if a reply carried it. -/
theorem ofReply_eq_answered_iff : ofReply outcome = .answered value ↔ outcome = .ok ⟨value⟩ := by
  cases outcome with
  | ok number =>
    obtain ⟨result⟩ := number
    rw [ofReply, answered.injEq, Except.ok.injEq, Number.mk.injEq]
  | error status => exact ⟨nofun, nofun⟩

end Ending

/-- The entry reports that a call failed. -/
def Event.ReportsFailure (event : Event) : Prop :=
  event.heading = .message "gRPC call failed" ∨ event.heading = .message "calculator call failed"

namespace ClientConfig

open RetryPolicy

variable {config : ClientConfig} {operands : Operands}
  {respond : Nat → Operands → Except Status Number} {n : Nat}

/-- Without overflow, a call of a client runs to the first attempt at which it may end. -/
theorem modulus_eq_ofRun (bounded : config.policy.maxRetries.toNat < 4294967295)
    (fits : config.policy.NeverOverflows (respond · operands))
    (first : IsLeast (config.policy.Ends (respond · operands)) n) :
    config.modulus operands respond =
      .ofRun (config.policy.course modulusCall operands (respond · operands) 1 (n - 1)
        (.ofOutcome (respond n operands))) := by
  rw [modulus, ofClient_eq, call_eq_course bounded first (fits.of_lt first)]

/-- Without overflow, the user gets the outcome of the first attempt at which a call may end. -/
theorem modulus_outcome (bounded : config.policy.maxRetries.toNat < 4294967295)
    (fits : config.policy.NeverOverflows (respond · operands))
    (first : IsLeast (config.policy.Ends (respond · operands)) n) :
    (config.modulus operands respond).outcome = .ofReply (respond n operands) := by
  rw [modulus_eq_ofRun bounded fits first]
  cases respond n operands with
  | ok number => rfl
  | error status => rfl

/-- The entries for attempts that are followed by others report no failure. -/
theorem not_reportsFailure_of_mem_followed {policy : RetryPolicy} {op : String}
    {outcomes : Nat → Except Status Number} {first followed : Nat} {event : Event}
    (mem : event ∈ (List.range' first followed).flatMap (policy.retryEntries op outcomes)) :
    ¬ event.ReportsFailure := by
  obtain ⟨attempt, -, entry⟩ := List.mem_flatMap.mp mem
  rw [retryEntries, List.mem_pair] at entry
  rcases entry with rfl | rfl
  · rintro (report | report) <;> cases report
  · rintro (report | report) <;> (injection report with text; exact absurd text (by decide))

/-- **The log of a call that fails for its user** ends with the report of the loop and the report of
the client, and nothing before them is a report. -/
theorem log_of_failed {status : Status} (bounded : config.policy.maxRetries.toNat < 4294967295)
    (fits : config.policy.NeverOverflows (respond · operands))
    (first : IsLeast (config.policy.Ends (respond · operands)) n)
    (failed : respond n operands = .error status) :
    ∃ earlier, (∀ event ∈ earlier, ¬ event.ReportsFailure) ∧
      (config.modulus operands respond).log =
        earlier ++ [.callFailed modulusCall n status, .clientFailed (.ofStatus status)] := by
  have positive : 1 ≤ n := first.1.1
  refine ⟨(List.range' 1 (n - 1)).flatMap
    (config.policy.retryEntries modulusCall (respond · operands)) ++ [.callOpened modulusCall n],
    fun event mem => ?_, ?_⟩
  · rcases List.mem_append.mp mem with followed | opened
    · exact not_reportsFailure_of_mem_followed followed
    · rw [List.mem_singleton.mp opened]
      rintro (report | report) <;> cases report
  · have last : 1 + (n - 1) = n := by omega
    rw [modulus_eq_ofRun bounded fits first, failed]
    simp only [Ending.ofOutcome, ClientCall.ofRun, course, closingEntries, last,
      List.append_assoc, List.cons_append, List.nil_append]

/-- **The log of a call that is answered** has no report of a failure. -/
theorem log_of_answered {number : Number}
    (bounded : config.policy.maxRetries.toNat < 4294967295)
    (fits : config.policy.NeverOverflows (respond · operands))
    (first : IsLeast (config.policy.Ends (respond · operands)) n)
    (answered : respond n operands = .ok number) :
    ∀ event ∈ (config.modulus operands respond).log, ¬ event.ReportsFailure := by
  intro event mem
  rw [modulus_eq_ofRun bounded fits first, answered] at mem
  rcases List.mem_append.mp mem with followed | closing
  · exact not_reportsFailure_of_mem_followed followed
  · rcases List.mem_cons.mp closing with rfl | recovered
    · rintro (report | report) <;> cases report
    · simp only [Ending.ofOutcome, closingEntries] at recovered
      split at recovered
      · rw [List.mem_singleton.mp recovered]
        rintro (report | report) <;> (injection report with text; exact absurd text (by decide))
      · cases recovered

/-! ## The report -/

/-- **The report of a client tells how its call ended.** On outcomes for which no pause overflows:
an error in transport means that every attempt that the policy allows failed for a transient
reason, and carries the text of the last; any other report is that of the first outcome that is not
transient, which came within the allowed attempts. The log of a failed call has two reports, a
warning and behind it the error with its wording, that of an answered call has none. -/
theorem report_tells_how_call_ended (config : ClientConfig) (operands : Operands)
    (respond : Nat → Operands → Except Status Number)
    (bounded : config.policy.maxRetries.toNat < 4294967295)
    (fits : config.policy.NeverOverflows (respond · operands)) :
    (∀ text, (config.modulus operands respond).outcome = .failed (.transport text) ↔
      (∀ k, 1 ≤ k → k ≤ config.policy.maxRetries.toNat + 1 → Transient (respond k operands)) ∧
        ∃ code, respond (config.policy.maxRetries.toNat + 1) operands = .error ⟨code, text⟩) ∧
    (∀ text, (config.modulus operands respond).outcome = .failed (.unimplemented text) ↔
      ∃ n, IsLeast (conclusive (respond · operands)) n ∧
        n ≤ config.policy.maxRetries.toNat + 1 ∧
        respond n operands = .error ⟨.unimplemented, text⟩) ∧
    (∀ text, (config.modulus operands respond).outcome = .failed (.internal text) ↔
      ∃ n, IsLeast (conclusive (respond · operands)) n ∧
        n ≤ config.policy.maxRetries.toNat + 1 ∧
        ∃ code, code ≠ .unimplemented ∧ respond n operands = .error ⟨code, text⟩) ∧
    (∀ value, (config.modulus operands respond).outcome = .answered value ↔
      ∃ n, IsLeast (conclusive (respond · operands)) n ∧
        n ≤ config.policy.maxRetries.toNat + 1 ∧ respond n operands = .ok ⟨value⟩) ∧
    (∀ (number : Int) (text : String), ClientError.ofStatus ⟨.ofNumber number, text⟩ =
      if number = 12 then .unimplemented text
      else if number = 14 ∨ number = 4 then .transport text
      else .internal text) ∧
    (∀ error, (config.modulus operands respond).outcome = .failed error →
      ∃ earlier warning report,
        (config.modulus operands respond).log = earlier ++ [warning, report] ∧
        (∀ event ∈ earlier, ¬ event.ReportsFailure) ∧
        warning.severity = .warn ∧ warning.heading = .message "gRPC call failed" ∧
        report.severity = .debug ∧ report.heading = .message "calculator call failed" ∧
        ("error", .plain error.message) ∈ report.fields) ∧
    (∀ value, (config.modulus operands respond).outcome = .answered value →
      ∀ event ∈ (config.modulus operands respond).log, ¬ event.ReportsFailure) := by
  obtain ⟨n, first⟩ := exists_isLeast_ends config.policy (respond · operands)
  rw [modulus_outcome bounded fits first]
  refine ⟨fun text => ?_, fun text => ?_, fun text => ?_, fun value => ?_,
    ClientError.ofStatus_ofNumber, fun error failed => ?_, fun value answered => ?_⟩
  · rw [Ending.ofReply_eq_transport_iff, last_transient_iff first]
    constructor
    · rintro ⟨⟨rfl, all⟩, failed⟩
      exact ⟨all, failed⟩
    · rintro ⟨all, failed⟩
      have last : n = config.policy.maxRetries.toNat + 1 := by
        refine first.1.2.resolve_left fun final => final ?_
        exact all n first.1.1 (le_succ_maxRetries first)
      rw [last]
      exact ⟨⟨rfl, all⟩, failed⟩
  · rw [Ending.ofReply_eq_unimplemented_iff]
    refine last_outcome_iff first (· = .error ⟨.unimplemented, text⟩) ?_
    rintro outcome rfl transient
    cases transient
  · rw [Ending.ofReply_eq_internal_iff,
      last_outcome_iff first (fun outcome => ¬ Transient outcome ∧
        ∃ code, code ≠ .unimplemented ∧ outcome = .error ⟨code, text⟩) fun _ both => both.1]
    constructor
    · rintro ⟨k, conclusive, allowed, -, failed⟩
      exact ⟨k, conclusive, allowed, failed⟩
    · rintro ⟨k, conclusive, allowed, failed⟩
      exact ⟨k, conclusive, allowed, conclusive.1.2, failed⟩
  · rw [Ending.ofReply_eq_answered_iff]
    refine last_outcome_iff first (· = .ok ⟨value⟩) ?_
    rintro outcome rfl transient
    cases transient
  · cases reply : respond n operands with
    | ok number => rw [reply] at failed; cases failed
    | error status =>
      rw [reply] at failed
      cases failed
      obtain ⟨earlier, quiet, log⟩ := log_of_failed bounded fits first reply
      exact ⟨earlier, _, _, log, quiet, rfl, rfl, rfl, rfl, List.mem_cons_of_mem _ (.head _)⟩
  · cases reply : respond n operands with
    | ok number => exact log_of_answered bounded fits first reply
    | error status => rw [reply] at answered; cases answered

/-- Two transient failures and then a status with the code of a success: the third attempt is the
last that is allowed, and the user hears of an internal failure with its text. -/
theorem report_after_two_transient_failures :
    let config : ClientConfig := ⟨"calculator", .zero, .zero, ⟨2, .ofMillis 1, .ofMillis 5⟩⟩
    let respond : Nat → Operands → Except Status Number := fun attempt _ =>
      .error (if attempt = 1 then ⟨.unavailable, "down"⟩
        else if attempt = 2 then ⟨.deadlineExceeded, "slow"⟩ else ⟨.ok, "odd"⟩)
    config.policy.maxRetries.toNat < 4294967295 ∧
      config.policy.NeverOverflows (respond · ⟨.zero, .zero⟩) ∧
      (config.modulus ⟨.zero, .zero⟩ respond).outcome = .failed (.internal "odd") := by
  intro config respond
  have bounded : config.policy.maxRetries.toNat < 4294967295 := by decide
  have fits : config.policy.NeverOverflows (respond · ⟨.zero, .zero⟩) := by
    intro k allowed _
    have small : k = 0 ∨ k = 1 ∨ k = 2 := by
      have : k ≤ 2 := allowed
      omega
    rcases small with rfl | rfl | rfl <;> decide
  have third : IsLeast (conclusive (respond · ⟨.zero, .zero⟩)) 3 := by
    refine ⟨⟨by decide, nofun⟩, ?_⟩
    rintro k ⟨positive, final⟩
    by_contra early
    have small : k = 1 ∨ k = 2 := by omega
    rcases small with rfl | rfl
    · exact final (.unavailable "down")
    · exact final (.deadlineExceeded "slow")
  obtain ⟨-, -, internal, -⟩ :=
    report_tells_how_call_ended config ⟨.zero, .zero⟩ respond bounded fits
  exact ⟨bounded, fits, (internal "odd").mpr ⟨3, third, by decide, .ok, by decide, rfl⟩⟩

end ClientConfig

end RemainderService
