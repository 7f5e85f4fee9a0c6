import RemainderService.Proofs.Entry
import RemainderService.Proofs.Server.History

/-!
# What a server process reports

Entries down to the level of information are reports; the rest of a log is detail. A process reports
its start, the request to stop and its end, and nothing else: what is logged about calls is detail,
and so is what the transport notes.

**The reports of a process** (`Reported`) are those of its start as far as it has come. Once a signal
is handled, the request to stop stands somewhere among them, because the watcher does not wait for
the start; the end stands behind everything.

**What every moment keeps** (`Sound`) is that the reports are of this form, that the token is called
off just if the watcher has received a signal, and that the process has ended in no other way than
in good order, with its serve loop running and told to end. Every kind of input keeps it, and so does
a whole history (`Sound.run`).
-/

set_option autoImplicit false

namespace RemainderService

/-! ## Entries -/

namespace Entry

/-- The report that a process starts. -/
def starting (address : SocketAddress) : Entry where
  severity := .info
  heading := .message "modulus server starting"
  fields := [("endpoint", .plain address.endpoint)]

/-- The report that the serve loop runs. -/
def listening (address : SocketAddress) : Entry where
  severity := .info
  heading := .message "gRPC server listening"
  fields := [("bound_addr", .plain address.text), ("transport", .quoted "tcp")]

/-- The report that a signal has requested a stop. -/
def stopRequested (signal : Signal) : Entry where
  severity := .info
  heading := .message "stop requested, draining"
  fields := [("signal", .plain signal.name)]

/-- The report that the serve loop has returned. -/
def stopped (address : SocketAddress) : Entry where
  severity := .info
  heading := .message "gRPC server stopped"
  fields := [("bound_addr", .plain address.text)]

/-- The report of a process that gave up. -/
def terminated (error : String) : Entry where
  severity := .error
  heading := .message "modulus server terminated"
  fields := [("error", .plain error)]

/-- The entry is information or more severe. -/
def isReport (entry : Entry) : Bool := entry.severity.rank ≤ Severity.info.rank

/-- The entry is a request to stop. -/
def requestsStop (entry : Entry) : Bool :=
  entry.severity = .info ∧ entry.heading = .message "stop requested, draining"

end Entry

/-- The reports in a log. -/
def reports (log : List Event) : List Entry :=
  (log.map Event.shown).filter Entry.isReport

/-- The reports in two logs, one behind the other. -/
theorem reports_append (log later : List Event) :
    reports (log ++ later) = reports log ++ reports later := by
  rw [reports, List.map_append, List.filter_append]
  rfl

/-- A report is shown just if it is among the reports. -/
theorem mem_reports {log : List Event} {entry : Entry} (report : entry.isReport = true) :
    entry ∈ log.map Event.shown ↔ entry ∈ reports log := by
  rw [reports, List.mem_filter]
  exact ⟨fun mem => ⟨mem, report⟩, And.left⟩

/-- Requests to stop are counted among the reports. -/
theorem countP_requestsStop (log : List Event) :
    (log.map Event.shown).countP Entry.requestsStop = (reports log).countP Entry.requestsStop := by
  rw [reports, List.countP_filter]
  congr 1
  funext entry
  unfold Entry.requestsStop Entry.isReport
  cases entry.severity <;> simp [Severity.rank]

/-- A call is a detail. -/
theorem reports_call (operation : Operation) (operands : Operands) :
    reports (OperationSet.modulus.call operation operands).log = [] := by
  by_cases service : operation = .modulus
  · subst service
    show reports (OperationSet.evaluateModulus operands).log = []
    unfold OperationSet.evaluateModulus
    rw [reports_append]
    split <;> rfl
  · cases operation with
    | modulus => exact absurd rfl service
    | _ => rfl

/-- So is a note of the transport. -/
theorem reports_note (note : TransportNote) : reports [note.event] = [] := by
  cases note <;> rfl

namespace ServerProcess

/-! ## The form of the reports -/

/-- The reports of a start that has come to a stage. -/
def startReports (address : SocketAddress) : Stage → List Entry
  | .bound => []
  | .starting => [.starting address]
  | .registered => [.starting address]
  | .listening => [.starting address, .listening address]

/-- The reports of the end of a process. -/
def endReports (address : SocketAddress) (exit : Option ExitStatus) : List Entry :=
  if exit = some .success then [.stopped address] else []

/-- **The reports of a process** at a stage, by the wait of its watcher and its exit status. -/
inductive Reported (address : SocketAddress) (stage : Stage) (exit : Option ExitStatus) :
    Wait → List Entry → Prop
  | serving : Reported address stage exit .open (startReports address stage)
  | draining {signal : Signal} {front back : List Entry}
    (start : front ++ back = startReports address stage) :
    Reported address stage exit (.ended signal)
      (front ++ .stopRequested signal :: (back ++ endReports address exit))

variable {address : SocketAddress} {stage : Stage} {exit : Option ExitStatus} {wait : Wait}
  {entries : List Entry}

/-- No report of a start requests a stop or is an end. -/
theorem startReports_spec (address : SocketAddress) (stage : Stage) :
    (startReports address stage).countP Entry.requestsStop = 0 ∧
      (∀ signal, .stopRequested signal ∉ startReports address stage) ∧
      ∀ other, .stopped other ∉ startReports address stage := by
  cases stage <;>
    simp [startReports, Entry.requestsStop, Entry.starting, Entry.listening, Entry.stopRequested,
      Entry.stopped]

/-- The serve loop is reported once it runs. -/
theorem listening_mem_startReports :
    .listening address ∈ startReports address stage ↔ stage = .listening := by
  cases stage <;> simp [startReports, Entry.starting, Entry.listening]

/-- Different signals are reported in different words. -/
theorem stopRequested_injective {signal other : Signal}
    (same : Entry.stopRequested signal = .stopRequested other) : signal = other := by
  cases signal <;> cases other <;> first | rfl | simp [Entry.stopRequested, Signal.name] at same

/-- An end is no request. -/
theorem stopped_ne_stopRequested (signal : Signal) :
    Entry.stopped address ≠ .stopRequested signal := by
  simp [Entry.stopRequested, Entry.stopped]

/-- **One request** is reported once a signal is received, and none before. -/
theorem Reported.once (reported : Reported address stage exit wait entries) :
    entries.countP Entry.requestsStop = if wait.received?.isSome then 1 else 0 := by
  cases reported with
  | serving => exact (startReports_spec address stage).1
  | @draining signal front back start =>
    have silent := (startReports_spec address stage).1
    rw [← start, List.countP_append] at silent
    have ends : (endReports address exit).countP Entry.requestsStop = 0 := by
      unfold endReports
      split <;> simp [Entry.requestsStop, Entry.stopped]
    have request : Entry.requestsStop (.stopRequested signal) = true := by
      simp [Entry.requestsStop, Entry.stopRequested]
    rw [List.countP_append, List.countP_cons_of_pos request, List.countP_append, ends]
    simp only [Wait.received?, Option.isSome_some, if_true]
    omega

/-- **The request names** the signal that was received. -/
theorem Reported.named (reported : Reported address stage exit wait entries) (signal : Signal) :
    .stopRequested signal ∈ entries ↔ wait = .ended signal := by
  have absent := (startReports_spec address stage).2.1 signal
  cases reported with
  | serving => exact iff_of_false absent nofun
  | @draining received front back start =>
    rw [← start, List.mem_append, not_or] at absent
    have last : .stopRequested signal ∉ endReports address exit := by
      unfold endReports
      split <;> simp [Entry.stopRequested, Entry.stopped]
    rw [List.mem_append, List.mem_cons, List.mem_append]
    simp only [absent.1, absent.2, last, or_false, false_or, Wait.ended.injEq]
    constructor
    · intro same
      exact (stopRequested_injective same).symm
    · rintro rfl
      rfl

/-- **The serve loop is reported** once it runs. -/
theorem Reported.listening_mem (reported : Reported address stage exit wait entries) :
    .listening address ∈ entries ↔ stage = .listening := by
  cases reported with
  | serving => exact listening_mem_startReports
  | @draining signal front back start =>
    have last : .listening address ∉ endReports address exit := by
      unfold endReports
      split <;> simp [Entry.listening, Entry.stopped]
    have request : Entry.listening address ≠ .stopRequested signal := by
      simp [Entry.listening, Entry.stopRequested]
    rw [← @listening_mem_startReports address stage, ← start]
    simp [last, request]

/-- **The end is reported** once the process has ended in good order. -/
theorem Reported.stopped_mem (reported : Reported address stage exit wait entries)
    (told : exit = some .success → wait.received?.isSome = true) :
    .stopped address ∈ entries ↔ exit = some .success := by
  have absent := (startReports_spec address stage).2.2 address
  cases reported with
  | serving =>
    refine iff_of_false absent ?_
    intro ended
    cases told ended
  | @draining signal front back start =>
    rw [← start, List.mem_append, not_or] at absent
    rw [List.mem_append, List.mem_cons, List.mem_append]
    unfold endReports
    split
    · next ended => simp [ended]
    · next running => simp [running, absent, stopped_ne_stopRequested]

/-- **Whatever stands in front of an end**, a request is in it. -/
theorem Reported.ordered (reported : Reported address stage exit wait entries)
    {other : SocketAddress} {earlier later : List Entry}
    (split : entries = earlier ++ .stopped other :: later) :
    ∃ signal, .stopRequested signal ∈ earlier := by
  have absent := (startReports_spec address stage).2.2 other
  cases reported with
  | serving =>
    refine absurd ?_ absent
    rw [split]
    exact List.mem_append_right _ List.mem_cons_self
  | @draining signal front back start =>
    rw [← start, List.mem_append, not_or] at absent
    rcases List.append_eq_append_iff.mp split with ⟨rest, rfl, cut⟩ | ⟨rest, rfl, cut⟩
    · cases rest with
      | nil => simp [Entry.stopRequested, Entry.stopped] at cut
      | cons entry rest =>
        rw [← (List.cons.inj cut).1]
        exact ⟨signal, List.mem_append_right _ List.mem_cons_self⟩
    · -- The end would be among the reports of the start.
      refine absurd ?_ absent.1
      cases rest with
      | nil => simp [Entry.stopRequested, Entry.stopped] at cut
      | cons entry rest =>
        rw [← (List.cons.inj cut).1]
        exact List.mem_append_right _ List.mem_cons_self

/-! ## What every moment keeps -/

/-- **A process with a listener is sound.** -/
structure Sound (address : SocketAddress) (p : ServerProcess) : Prop where
  address_eq : p.address = address
  told : p.stopping = p.watcher.received?.isSome
  exit : p.exit = none ∨ p.exit = some .success ∧ p.listens = true ∧ p.stopping = true
  reported : Reported address p.stage p.exit p.watcher (reports p.log)

/-- A process that has just been given its listener is sound. -/
theorem sound_launch (address requested : SocketAddress) :
    Sound address (launch (.bound address) requested) where
  address_eq := rfl
  told := rfl
  exit := .inl rfl
  reported := .serving

/-- A report at the end of the start extends the reports of the process. -/
theorem Reported.extend {later : Stage} {more : List Entry}
    (reported : Reported address stage none wait entries)
    (grows : startReports address later = startReports address stage ++ more) :
    Reported address later none wait (entries ++ more) := by
  cases reported with
  | serving =>
    rw [← grows]
    exact .serving
  | @draining signal front back start =>
    have longer : front ++ (back ++ more) = startReports address later := by
      rw [grows, ← start, List.append_assoc]
    have whole : front ++ Entry.stopRequested signal :: (back ++ endReports address none) ++ more =
        front ++ .stopRequested signal :: (back ++ more ++ endReports address none) := by
      simp [endReports]
    rw [whole]
    exact .draining longer

variable {p : ServerProcess}

/-- A step of the start keeps a process sound, if its report is the next one. -/
theorem Sound.advance {later : Stage} {event : Event} (sound : Sound address p)
    (running : p.exit = none)
    (grows : startReports address later = startReports address p.stage ++ reports [event]) :
    Sound address { p with stage := later, log := p.log ++ [event] } where
  address_eq := sound.address_eq
  told := sound.told
  exit := .inl running
  reported := by
    have reported := sound.reported
    rw [running] at reported
    rw [reports_append, running]
    exact reported.extend grows

/-- The start keeps a process sound. -/
theorem Sound.proceed (sound : Sound address p) (running : p.exit = none) :
    Sound address p.proceed := by
  obtain rfl := sound.address_eq
  unfold ServerProcess.proceed
  split
  · next stage => exact sound.advance running (by rw [stage]; rfl)
  · next stage => exact sound.advance running (by rw [stage]; rfl)
  · next stage => exact sound.advance running (by rw [stage]; rfl)
  · exact sound

/-- Handling a signal keeps a process sound if its watcher still waits. -/
theorem Sound.handle (sound : Sound address p) (running : p.exit = none)
    (waits : p.watcher = .open) (signal : Signal) : Sound address (p.handle signal) where
  address_eq := sound.address_eq
  told := by
    rw [ServerProcess.handle, waits]
    simp [stopping, Wait.deliver, Wait.received?, Cancellations.cancel, Cancellations.holds,
      Token.above]
  exit := .inl running
  reported := by
    have reported := sound.reported
    rw [running, waits] at reported
    simp only [ServerProcess.handle, waits, running, Wait.deliver, reports_append]
    generalize reports p.log = entries at reported ⊢
    cases reported
    exact .draining (List.append_nil _)

/-- Details keep a process sound, whatever is answered meanwhile. -/
theorem Sound.detail {more : List Event} (sound : Sound address p) (silent : reports more = [])
    (answered : List AnsweredCall) :
    Sound address { p with answered := answered, log := p.log ++ more } where
  address_eq := sound.address_eq
  told := sound.told
  exit := sound.exit
  reported := by
    rw [reports_append, silent, List.append_nil]
    exact sound.reported

/-- The end keeps a process sound if its serve loop runs and was told to end. -/
theorem Sound.finish (sound : Sound address p) (running : p.exit = none)
    (listens : p.listens = true) (stopping : p.stopping = true) : Sound address p.finish where
  address_eq := sound.address_eq
  told := sound.told
  exit := .inr ⟨rfl, listens, stopping⟩
  reported := by
    have reported := sound.reported
    have told := sound.told
    obtain rfl := sound.address_eq
    rw [running] at reported
    simp only [ServerProcess.finish, reports_append]
    generalize reports p.log = entries at reported ⊢
    generalize p.watcher = wait at reported told ⊢
    cases reported with
    | serving =>
      rw [stopping] at told
      cases told
    | @draining signal front back start =>
      have whole : front ++ Entry.stopRequested signal :: (back ++ endReports p.address none) ++
          reports [.stopped p.address] =
            front ++ .stopRequested signal :: (back ++ endReports p.address (some .success)) := by
        simp [endReports]
        rfl
      rw [whole]
      exact .draining start

/-- **A step keeps a process sound.** -/
theorem Sound.step (sound : Sound address p) (input : ServerInput) :
    Sound address (p.step input) := by
  unfold ServerProcess.step
  split
  · exact sound
  · next goes =>
    have running : p.exit = none := Option.not_isSome_iff_eq_none.mp goes
    cases input with
    | proceed => exact sound.proceed running
    | deliver signal => exact ⟨sound.address_eq, sound.told, sound.exit, sound.reported⟩
    | turnTo signal =>
      rw [act]
      split
      · next handles =>
        refine sound.handle running ?_ signal
        cases waits : p.watcher with
        | «open» => rfl
        | ended first => simp [waits, Wait.received?] at handles
      · exact sound
    | call operation operands =>
      rw [act]
      split
      · exact sound.detail (reports_call operation operands) _
      · exact sound
    | transport note =>
      rw [act]
      split
      · exact sound.detail (reports_note note) p.answered
      · exact sound
    | drained =>
      rw [act]
      split
      · next ends =>
        obtain ⟨listens, stopping⟩ := Bool.and_eq_true_iff.mp ends
        exact sound.finish running listens stopping
      · exact sound

/-- One more input is one more step. -/
theorem run_concat (p : ServerProcess) (inputs : List ServerInput) (input : ServerInput) :
    p.run (inputs ++ [input]) = (p.run inputs).step input :=
  List.foldl_append

/-- **A history keeps a process sound.** -/
theorem Sound.run (sound : Sound address p) (inputs : List ServerInput) :
    Sound address (p.run inputs) := by
  induction inputs using List.reverseRecOn with
  | nil => exact sound
  | append_singleton inputs input ih =>
    rw [run_concat]
    exact ih.step input

end ServerProcess

end RemainderService
