import RemainderService.Proofs.Server.Steps

/-!
# Stopping

A process that gets no listener ends at once, whatever happens then. Any other process is told to
stop by the first signal that is handled and by nothing else, once, and ends in good order when its
serve loop has returned.

**The law** (`stops_once_on_first_signal`) covers every answer of the system to a server that asks
for a listener, and every history behind it; a process of the program is one of them (`run_start`).
A refusal is reported with the address that was asked for. That the address of a listener cannot be
read is a failure of its own, and its report names no address (`unresolved_address_is_not_named`).
-/

set_option autoImplicit false

namespace RemainderService

namespace ServerProcess

/-- A process that is started on a host has made the steps of its start. -/
theorem run_start (host : Host) (requested : SocketAddress) (inputs : List ServerInput) :
    (start host requested).run inputs =
      (launch (host.outcome requested) requested).run (startUp ++ inputs) :=
  List.foldl_append.symm

/-! ## Without a listener -/

/-- **A process that failed early.** It answered no call and never listened, and it ended with a
failure. Its log is one error, with this report. -/
structure FailedEarly (report : String) (p : ServerProcess) : Prop where
  unanswered : p.answered = []
  unheard : ∀ entry ∈ p.log.map Event.shown, entry.heading ≠ .message "gRPC server listening"
  failed : p.exit = some .failure
  reported : p.log.map Event.shown =
    [⟨.error, .message "modulus server terminated", [("error", .plain report)]⟩]

/-- A process without a listener has failed early, with the chain of its error as the report. -/
theorem failedEarly_run {outcome : BindOutcome} {requested : SocketAddress} {error : ServerError}
    (failed : outcome.report requested = ⟨.error error, []⟩) (inputs : List ServerInput) :
    FailedEarly (String.intercalate ": " (startFailure error))
      ((launch outcome requested).run inputs) := by
  have launched : launch outcome requested =
      ⟨requested, .bound, [], .open, .none, some .failure, [],
        [.terminated (startFailure error)]⟩ := by
    unfold launch
    rw [failed]
    rfl
  have still : (launch outcome requested).run inputs = launch outcome requested := by
    induction inputs using List.reverseRecOn with
    | nil => rfl
    | append_singleton inputs input ih =>
      rw [run_concat, ih]
      exact step_of_ended (by rw [launched]; rfl) input
  rw [still, launched]
  exact {
    unanswered := rfl
    unheard := by simp [Event.shown, Event.heading]
    failed := rfl
    reported := rfl }

/-- The chain of a refusal names the address. -/
theorem startFailure_bind (requested : SocketAddress) (cause : String) :
    String.intercalate ": " (startFailure (.bind requested cause)) =
      "modulus server cannot start: failed to listen on " ++ requested.text ++ ": " ++ cause := by
  have joined : String.intercalate ": " (startFailure (.bind requested cause)) =
      "modulus server cannot start" ++ ": " ++ ("failed to listen on " ++ requested.text) ++ ": " ++
        cause := rfl
  rw [joined, ← String.append_assoc]
  rfl

/-- The chain of an address that cannot be read. -/
theorem startFailure_localAddress (cause : String) :
    String.intercalate ": " (startFailure (.localAddress cause)) =
      "modulus server cannot start: failed to resolve bound address: " ++ cause := by
  have joined : String.intercalate ": " (startFailure (.localAddress cause)) =
      "modulus server cannot start" ++ ": " ++ "failed to resolve bound address" ++ ": " ++
        cause := rfl
  rw [joined]
  rfl

/-! ## With a listener -/

/-- **A process that is stopped once**, after a history. -/
structure StopsOnce (address : SocketAddress) (inputs : List ServerInput) (p : ServerProcess) :
    Prop where
  /-- It is told to stop just if a signal that had arrived was handled. -/
  caused : p.stopping = true ↔ ∃ signal before after, HandledFirst inputs signal before after
  /-- That is never taken back. -/
  kept : p.stopping = true → ∀ more, (p.run more).stopping = true
  /-- The log has one request to stop if it is told to stop, and none otherwise. -/
  once : (p.log.map Event.shown).countP Entry.requestsStop = if p.stopping = true then 1 else 0
  /-- The request names the first signal that was handled. -/
  named : ∀ signal,
    ⟨.info, .message "stop requested, draining", [("signal", .plain signal.name)]⟩ ∈
      p.log.map Event.shown ↔ ∃ before after, HandledFirst inputs signal before after
  /-- The request is logged before the end. -/
  ordered : ∀ other earlier later, p.log.map Event.shown = earlier ++ .stopped other :: later →
    ∃ signal, .stopRequested signal ∈ earlier
  /-- What is logged as information or more severe is the start as far as it has come, with the
  request somewhere in it, and the end behind everything. -/
  reported : Reported address p.stage p.exit p.watcher (reports p.log)
  /-- From then on, leaving all signals out of what happens next changes nothing but the signals
  that wait for the watcher: the token, the log, the exit status and the rest are the same. -/
  unmoved : p.stopping = true → ∀ more, ∃ pending,
    p.run more = { p.run (more.filter fun input => !input.isSignal) with pending := pending }
  /-- It listens once its start is over. -/
  listening : ⟨.info, .message "gRPC server listening",
      [("bound_addr", .plain address.text), ("transport", .quoted "tcp")]⟩ ∈
    p.log.map Event.shown ↔ StartedUp inputs
  /-- What is answered is what the domain answers to the calls of the history, in their order. -/
  answered : p.answered.Sublist (answers inputs)
  /-- From the moment at which it listens until it ends, every call is answered. -/
  complete : StartedUp inputs → ∀ more, (p.run more).exit = none →
    (p.run more).answered = p.answered ++ answers more
  /-- The serve loop returns once it has drained after a signal, and that is logged. -/
  returned : ⟨.info, .message "gRPC server stopped", [("bound_addr", .plain address.text)]⟩ ∈
    p.log.map Event.shown ↔ Returns inputs
  /-- The process ends with a success once the serve loop has returned, and in no other way. -/
  ended : (p.exit = some .success ↔ Returns inputs) ∧ (p.exit = none ∨ p.exit = some .success)

/-- A process with a listener is stopped once. -/
theorem stopsOnce_run (address requested : SocketAddress) (inputs : List ServerInput) :
    StopsOnce address inputs ((launch (.bound address) requested).run inputs) := by
  have sound := (sound_launch address requested).run inputs
  have heard := heard_run address requested inputs
  have told := stopping_run_iff address requested inputs
  have listens := listens_run_iff address requested inputs
  have exit := exit_run_iff address requested inputs
  have unanswered := run_answered_sublist (p := launch (.bound address) requested) rfl inputs
  have cut : ¬ Quiet inputs ↔ ∃ signal before after, HandledFirst inputs signal before after := by
    constructor
    · exact (quiet_or_handledFirst inputs).resolve_left
    · rintro ⟨signal, before, after, handled⟩
      exact handled.not_quiet
  -- How the process came about is in these facts, and is not looked at again.
  generalize (launch (.bound address) requested).run inputs = p at *
  have received (stopping : p.stopping = true) : ∃ signal, p.watcher = .ended signal := by
    obtain ⟨signal, before, after, handled⟩ := cut.mp (told.mp stopping)
    exact ⟨signal, (heard.watcher_iff signal).mpr ⟨before, after, handled⟩⟩
  exact {
    caused := told.trans cut
    kept := by
      intro stopping more
      obtain ⟨signal, waits⟩ := received stopping
      rw [(sound.run more).told, run_watcher waits]
      rfl
    once := by
      rw [countP_requestsStop, sound.reported.once, sound.told]
    named := by
      intro signal
      rw [← heard.watcher_iff, ← sound.reported.named signal]
      exact mem_reports rfl
    ordered := by
      intro other earlier later split
      have reported := congrArg (List.filter Entry.isReport) split
      rw [List.filter_append, List.filter_cons_of_pos rfl] at reported
      obtain ⟨signal, mem⟩ := sound.reported.ordered reported
      exact ⟨signal, (List.mem_filter.mp mem).1⟩
    reported := sound.reported
    unmoved := by
      intro stopping more
      obtain ⟨signal, waits⟩ := received stopping
      exact exists_run_eq_filter waits more
    listening := by
      rw [← listens, ServerProcess.listens, decide_eq_true_iff, ← sound.reported.listening_mem]
      exact mem_reports rfl
    answered := unanswered
    complete := by
      intro started more running
      exact (run_answered (listens.mpr started) more running).2
    returned := by
      rw [← exit, ← sound.reported.stopped_mem ?_]
      · exact mem_reports rfl
      · intro success
        rcases sound.exit with running | ⟨-, -, stopping⟩
        · rw [running] at success
          cases success
        · rwa [← sound.told]
    ended := ⟨exit, sound.exit.imp id And.left⟩ }

/-! ## The law -/

/-- **Stopping is caused by a signal and happens once.** For every address that is asked for, and
every history:

1. If the system refuses the address, the process has failed early, and its report names the address
   that was asked for.
2. If the system has no address for the listener, the process has failed early, too, and says so.
3. Otherwise the process is stopped once: by the first signal that is handled, for good, with one
   request in the log and in front of the end. Calls are answered as the domain answers them, and the
   process ends with a success when the serve loop has returned. -/
theorem stops_once_on_first_signal (requested : SocketAddress) (inputs : List ServerInput) :
    (∀ cause : String, FailedEarly
      ("modulus server cannot start: failed to listen on " ++ requested.text ++ ": " ++ cause)
      ((launch (.refused cause) requested).run inputs)) ∧
    (∀ cause : String, FailedEarly
      ("modulus server cannot start: failed to resolve bound address: " ++ cause)
      ((launch (.unresolved cause) requested).run inputs)) ∧
    (∀ address : SocketAddress,
      StopsOnce address inputs ((launch (.bound address) requested).run inputs)) := by
  refine ⟨?_, ?_, fun address => stopsOnce_run address requested inputs⟩
  · intro cause
    rw [← startFailure_bind]
    exact failedEarly_run rfl inputs
  · intro cause
    rw [← startFailure_localAddress]
    exact failedEarly_run rfl inputs

/-- On an idle host, the second of two signals is handled first and the other one afterwards: the
stop is caused by the former, and a call is refused by its name before it and while the process
drains. A second process on the same address fails early. -/
theorem stopped_by_signal_handled_first :
    let before : List ServerInput := startUp ++
      [.deliver .interrupt, .call .divide ⟨.zero, .zero⟩, .deliver .terminate]
    let after : List ServerInput :=
      [.turnTo .interrupt, .call .divide ⟨.zero, .zero⟩, .drained, .deliver .terminate]
    let inputs : List ServerInput := before ++ .turnTo .terminate :: after
    let p := (launch (Host.idle.outcome listenAddress) listenAddress).run inputs
    let refused : AnsweredCall :=
      ⟨.divide, ⟨.zero, .zero⟩, .error ⟨.unimplemented, "method Divide not implemented"⟩⟩
    HandledFirst inputs .terminate before after ∧ StopsOnce listenAddress inputs p ∧
      Entry.stopRequested .terminate ∈ p.log.map Event.shown ∧ p.exit = some .success ∧
      p.answered = [refused, refused] ∧
      FailedEarly ("modulus server cannot start: failed to listen on 0.0.0.0:50055: " ++
        "Address already in use (os error 98)")
        ((start ⟨[listenAddress]⟩ listenAddress).run inputs) := by
  intro before after inputs p refused
  have free : Host.idle.outcome listenAddress = .bound listenAddress := by decide
  have taken : Host.outcome ⟨[listenAddress]⟩ listenAddress =
      .refused "Address already in use (os error 98)" := by
    decide
  obtain ⟨-, -, stops⟩ := stops_once_on_first_signal listenAddress inputs
  obtain ⟨fails, -⟩ := stops_once_on_first_signal listenAddress (startUp ++ inputs)
  have stopped : StopsOnce listenAddress inputs p := by
    show StopsOnce listenAddress inputs ((launch _ listenAddress).run inputs)
    rw [free]
    exact stops listenAddress
  have quiet : Quiet before := by
    intro front signal rest split
    have turned : .turnTo signal ∈ before := split ▸ List.mem_append_right _ List.mem_cons_self
    simp [before, startUp] at turned
  have handled : HandledFirst inputs .terminate before after := ⟨rfl, by simp [before], quiet⟩
  have requested := (stopped.named .terminate).mpr ⟨_, _, handled⟩
  have success : p.exit = some .success := by decide +kernel
  have failed := fails "Address already in use (os error 98)"
  rw [← taken, ← run_start] at failed
  exact ⟨handled, stopped, requested, success, rfl, failed⟩

/-- **An address that cannot be read is not named.** The server asks for its standard address, gets a
listener and cannot read the address of the listener: it ends with a failure and one error, and the
error has the requested address nowhere in its fields. -/
theorem unresolved_address_is_not_named :
    let cause := "Transport endpoint is not connected (os error 107)"
    let p := launch (.unresolved cause) listenAddress
    (BindOutcome.unresolved cause).report listenAddress = ⟨.error (.localAddress cause), []⟩ ∧
      p.exit = some .failure ∧
      p.log.map Event.shown = [⟨.error, .message "modulus server terminated",
        [("error", .plain ("modulus server cannot start: failed to resolve bound address: " ++
          "Transport endpoint is not connected (os error 107)"))]⟩] ∧
      ∀ entry ∈ p.log.map Event.shown, ∀ field ∈ entry.fields,
        ¬ listenAddress.text.toList <:+: field.2.text.toList := by
  intro cause p
  refine ⟨rfl, rfl, rfl, ?_⟩
  decide +kernel

end ServerProcess

end RemainderService
