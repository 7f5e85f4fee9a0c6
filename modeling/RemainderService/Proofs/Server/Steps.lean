import RemainderService.Proofs.Server.Reports

/-!
# What inputs do to a server process

What a history says is found again in the process that has lived it: the watcher has received the
first signal that is handled (`Heard`), the serve loop runs once the start is over, the calls are
answered while it runs, and the process has ended just if the serve loop returns. Each of these is a
lemma about one more input and a lemma about a whole history.

**Later signals** move nothing: once the watcher has received one, an input that has to do with a
signal changes the signals that wait, which nothing looks at any more (`exists_run_eq_filter`).
-/

set_option autoImplicit false

namespace RemainderService

/-- The number of steps that lead to a stage. -/
def Stage.place : Stage → Nat
  | .bound => 0
  | .starting => 1
  | .registered => 2
  | .listening => 3

namespace ServerProcess

variable {address : SocketAddress} {p : ServerProcess} {inputs : List ServerInput}
  {input : ServerInput} {signal : Signal}

/-! ## What a step leaves alone -/

/-- Nothing happens to a process that has ended. -/
theorem step_of_ended (ended : p.exit.isSome = true) (input : ServerInput) : p.step input = p :=
  if_pos ended

/-- A process that runs acts on its input. -/
theorem step_of_running (running : p.exit = none) (input : ServerInput) :
    p.step input = p.act input := by
  rw [step, running]
  rfl

/-- A step of the start changes the stage and the log. -/
theorem exists_proceed_eq (p : ServerProcess) :
    ∃ stage log, p.proceed = { p with stage := stage, log := log } := by
  unfold proceed
  split <;> exact ⟨_, _, rfl⟩

/-- Only the start changes the stage. -/
theorem act_stage (other : input ≠ .proceed) : (p.act input).stage = p.stage := by
  cases input with
  | proceed => exact absurd rfl other
  | deliver signal => rfl
  | turnTo signal | call operation operands | transport note | drained =>
    rw [act]
    split <;> rfl

/-- Only draining changes the exit status. -/
theorem act_exit (other : input ≠ .drained) : (p.act input).exit = p.exit := by
  cases input with
  | proceed =>
    obtain ⟨stage, log, same⟩ := p.exists_proceed_eq
    rw [act, same]
  | deliver signal => rfl
  | turnTo signal | call operation operands | transport note =>
    rw [act]
    split <;> rfl
  | drained => exact absurd rfl other

/-- Only signals change what the watcher has received and what waits for it. -/
theorem act_signals (plain : input.isSignal = false) :
    (p.act input).watcher = p.watcher ∧ (p.act input).pending = p.pending := by
  cases input with
  | proceed =>
    obtain ⟨stage, log, same⟩ := p.exists_proceed_eq
    rw [act, same]
    exact ⟨rfl, rfl⟩
  | deliver signal | turnTo signal => cases plain
  | call operation operands | transport note | drained =>
    rw [act]
    split <;> exact ⟨rfl, rfl⟩

/-- A process that has ended stays so. -/
theorem exit_of_step (running : (p.step input).exit = none) : p.exit = none := by
  by_contra ended
  rw [step_of_ended (Option.isSome_iff_ne_none.mpr ended)] at running
  exact ended running

/-- The serve loop, once started, is not started again. -/
theorem step_listens (listens : p.listens = true) (input : ServerInput) :
    (p.step input).listens = true := by
  unfold step
  split
  · exact listens
  · by_cases start : input = .proceed
    · subst start
      have stage : p.stage = .listening := of_decide_eq_true listens
      rw [act, proceed, stage]
      exact listens
    · rwa [ServerProcess.listens, act_stage start]

/-! ## Signals -/

/-- **The watcher receives one signal**, and no step takes it back. -/
theorem step_watcher (received : p.watcher = .ended signal) (input : ServerInput) :
    (p.step input).watcher = .ended signal := by
  unfold step
  split
  · exact received
  · cases input with
    | deliver other => exact received
    | turnTo other =>
      rw [act]
      split
      · next handles => simp [received, Wait.received?] at handles
      · exact received
    | proceed | call operation operands | transport note | drained =>
      rw [(act_signals rfl).1]
      exact received

/-- Nor does a history. -/
theorem run_watcher (received : p.watcher = .ended signal) (more : List ServerInput) :
    (p.run more).watcher = .ended signal := by
  induction more using List.reverseRecOn with
  | nil => exact received
  | append_singleton more input ih =>
    rw [run_concat]
    exact step_watcher ih input

/-- **What the watcher has heard of a history**: nothing, and then all signals that arrived wait for
it; or the first signal that is handled. -/
inductive Heard (inputs : List ServerInput) (p : ServerProcess) : Prop
  | nothing (waits : p.watcher = .open) (quiet : Quiet inputs)
    (pending : p.pending = delivered inputs)
  | first {signal : Signal} {before after : List ServerInput}
    (received : p.watcher = .ended signal) (handled : HandledFirst inputs signal before after)

/-- A sound process whose watcher waits has not ended. -/
theorem Sound.running_of_open (sound : Sound address p) (waits : p.watcher = .open) :
    p.exit = none := by
  rcases sound.exit with running | ⟨-, -, stopping⟩
  · exact running
  · rw [sound.told, waits] at stopping
    cases stopping

/-- An input that has nothing to do with signals is not heard. -/
theorem Heard.plain (waits : p.watcher = .open) (quiet : Quiet inputs)
    (pending : p.pending = delivered inputs) (plain : input.isSignal = false) :
    Heard (inputs ++ [input]) (p.act input) := by
  obtain ⟨watcher, kept⟩ := act_signals (p := p) plain
  apply Heard.nothing
  · exact watcher.trans waits
  · exact quiet.concat_plain plain
  · rw [kept, pending, delivered_append, delivered_plain plain, List.append_nil]

/-- **One more input is heard**, too. -/
theorem Heard.step (heard : Heard inputs p) (sound : Sound address p) (input : ServerInput) :
    Heard (inputs ++ [input]) (p.step input) := by
  cases heard with
  | first received handled => exact .first (step_watcher received input) (handled.append [input])
  | nothing waits quiet pending =>
    rw [step_of_running (sound.running_of_open waits)]
    cases input with
    | deliver signal =>
      refine .nothing waits ?_ ?_
      · apply quiet.concat
        intro other turned
        cases turned
      · rw [act, pending, delivered_append]
        rfl
    | turnTo signal =>
      have arrived : p.pending.contains signal = true ↔ .deliver signal ∈ inputs := by
        rw [pending, List.contains_iff_mem, mem_delivered]
      rw [act, waits]
      split
      · next handles =>
        obtain ⟨present, -⟩ := Bool.and_eq_true_iff.mp handles
        refine .first ?_ ⟨rfl, arrived.mp present, quiet⟩
        rw [handle, waits]
        rfl
      · next ignored =>
        have absent : .deliver signal ∉ inputs := by
          intro present
          exact ignored (Bool.and_eq_true_iff.mpr ⟨arrived.mpr present, rfl⟩)
        refine .nothing waits ?_ ?_
        · apply quiet.concat
          intro other turned
          injection turned with signals
          rwa [← signals]
        · rw [pending, delivered_append]
          exact (List.append_nil _).symm
    | proceed | call operation operands | transport note | drained =>
      exact .plain waits quiet pending rfl

/-! ## The serve loop -/

/-- A process listens at the last stage. -/
theorem listens_iff_place : p.listens = true ↔ 3 ≤ p.stage.place := by
  rw [listens, decide_eq_true_iff]
  cases p.stage <;> simp [Stage.place]

/-- A step of the start leads to the next stage, unless there is none. -/
theorem place_proceed (p : ServerProcess) :
    p.proceed.stage.place = min 3 (p.stage.place + 1) := by
  unfold proceed
  split
  · next stage => rw [stage]; rfl
  · next stage => rw [stage]; rfl
  · next stage => rw [stage]; rfl
  · next stage => rw [stage]; rfl

/-- **One more input moves the start on** if it is a step of the start. -/
theorem place_step (sound : Sound address p) (counted : p.stage.place = min 3 (inputs.count .proceed))
    (input : ServerInput) :
    (p.step input).stage.place = min 3 ((inputs ++ [input]).count .proceed) := by
  rw [List.count_append]
  rcases sound.exit with running | ⟨ended, listens, -⟩
  · rw [step_of_running running]
    by_cases start : input = .proceed
    · subst start
      rw [act, place_proceed, counted, List.count_singleton_self]
      omega
    · rw [act_stage start, counted, List.count_singleton, if_neg (by simpa using start)]
      rfl
  · -- Whatever is counted now, an ended process had come to the last stage.
    have last := listens_iff_place.mp listens
    rw [step_of_ended (by rw [ended]; rfl)]
    omega

/-- What ends a process in good order. -/
theorem exit_step_iff (sound : Sound address p) (input : ServerInput) :
    (p.step input).exit = some .success ↔
      p.exit = some .success ∨ input = .drained ∧ p.listens = true ∧ p.stopping = true := by
  rcases sound.exit with running | ⟨ended, -⟩
  · rw [step_of_running running]
    by_cases last : input = .drained
    · subst last
      rw [act]
      by_cases ends : p.listens = true ∧ p.stopping = true
      · simp [ends, finish]
      · rw [if_neg (by simpa using ends)]
        simp [running, ends]
    · simp [act_exit last, running, last]
  · rw [step_of_ended (by rw [ended]; rfl)]
    exact iff_of_true ended (.inl ended)

/-! ## Calls -/

/-- **A call is answered** as the domain answers it, if the serve loop runs; nothing else is. -/
theorem act_answered (p : ServerProcess) (input : ServerInput) :
    (p.act input).answered = p.answered ++ if p.listens then answers [input] else [] := by
  cases input with
  | call operation operands =>
    rw [act]
    split
    · rw [answer, call_value]
      rfl
    · exact (List.append_nil _).symm
  | proceed =>
    obtain ⟨stage, log, same⟩ := p.exists_proceed_eq
    rw [act, same]
    simp [answers]
  | deliver signal => simp [act, answers]
  | turnTo signal | transport note | drained =>
    rw [act]
    split <;> simp [answers, handle, finish]

/-- While the serve loop runs, one more call is answered. -/
theorem step_answered (listens : p.listens = true) (running : p.exit = none)
    (input : ServerInput) : (p.step input).answered = p.answered ++ answers [input] := by
  rw [step_of_running running, act_answered, if_pos listens]

/-- So are all calls of a history. -/
theorem run_answered (listens : p.listens = true) (more : List ServerInput)
    (running : (p.run more).exit = none) :
    (p.run more).listens = true ∧ (p.run more).answered = p.answered ++ answers more := by
  induction more using List.reverseRecOn with
  | nil => exact ⟨listens, (List.append_nil _).symm⟩
  | append_singleton more input ih =>
    rw [run_concat] at running ⊢
    have before := exit_of_step running
    obtain ⟨still, answered⟩ := ih before
    refine ⟨step_listens still input, ?_⟩
    rw [step_answered still before, answered, answers_append, List.append_assoc]

/-- No step answers anything but its input. -/
theorem step_answered_sublist (p : ServerProcess) (input : ServerInput) :
    (p.step input).answered.Sublist (p.answered ++ answers [input]) := by
  unfold step
  split
  · exact List.sublist_append_left _ _
  · rw [act_answered]
    apply List.Sublist.append_left
    split
    · apply List.Sublist.refl
    · apply List.nil_sublist

/-- What is answered is what the domain answers, call by call and in order. -/
theorem run_answered_sublist (unanswered : p.answered = []) (inputs : List ServerInput) :
    (p.run inputs).answered.Sublist (answers inputs) := by
  induction inputs using List.reverseRecOn with
  | nil =>
    show p.answered.Sublist _
    rw [unanswered]
    exact List.nil_sublist _
  | append_singleton inputs input ih =>
    rw [run_concat, answers_append]
    exact (step_answered_sublist _ input).trans (ih.append_right _)

/-! ## Later signals -/

/-- An input that has nothing to do with signals does not look at the signals that wait. -/
theorem step_with_pending (p : ServerProcess) (others : List Signal)
    (plain : input.isSignal = false) :
    ({ p with pending := others } : ServerProcess).step input =
      { p.step input with pending := others } := by
  by_cases running : p.exit = none
  · rw [step_of_running running, step_of_running (p := { p with pending := others }) running]
    cases input with
    | proceed =>
      obtain ⟨address, stage⟩ := p
      cases stage <;> rfl
    | deliver signal | turnTo signal => cases plain
    | call operation operands | transport note | drained =>
      rw [act, act]
      split <;> split <;> first | rfl | contradiction
  · have ended := Option.isSome_iff_ne_none.mpr running
    rw [step_of_ended ended, step_of_ended (p := { p with pending := others }) ended]

/-- An input that has to do with a signal changes only the signals that wait, once one was
received. -/
theorem exists_step_eq (received : p.watcher = .ended signal) (signalled : input.isSignal = true) :
    ∃ others, p.step input = { p with pending := others } := by
  unfold step
  split
  · exact ⟨p.pending, rfl⟩
  · cases input with
    | deliver other => exact ⟨_, rfl⟩
    | turnTo other =>
      rw [act]
      split
      · next handles => simp [received, Wait.received?] at handles
      · exact ⟨p.pending, rfl⟩
    | proceed | call operation operands | transport note | drained => cases signalled

/-- **Later signals move nothing**: without them a history leads to the same process, up to the
signals that wait. -/
theorem exists_run_eq_filter (received : p.watcher = .ended signal) (more : List ServerInput) :
    ∃ others, p.run more =
      { p.run (more.filter fun input => !input.isSignal) with pending := others } := by
  induction more using List.reverseRecOn with
  | nil => exact ⟨p.pending, rfl⟩
  | append_singleton more input ih =>
    -- The two runs differ in the signals that wait, and no further input looks at these.
    obtain ⟨others, same⟩ := ih
    rw [run_concat, same, List.filter_append]
    by_cases signalled : input.isSignal = true
    · have dropped : [input].filter (fun input => !input.isSignal) = [] := by simp [signalled]
      rw [dropped, List.append_nil]
      exact exists_step_eq (run_watcher received (more.filter fun input => !input.isSignal)) signalled
    · have plain : input.isSignal = false := by simpa using signalled
      have kept : [input].filter (fun input => !input.isSignal) = [input] := by simp [plain]
      rw [kept, run_concat]
      exact ⟨others, step_with_pending _ others plain⟩

/-! ## Whole histories -/

section Launched

variable (address requested : SocketAddress) (inputs : List ServerInput)

/-- **What a whole history says is heard.** -/
theorem heard_run : Heard inputs ((launch (.bound address) requested).run inputs) := by
  induction inputs using List.reverseRecOn with
  | nil => exact .nothing rfl quiet_nil rfl
  | append_singleton inputs input ih =>
    rw [run_concat]
    exact ih.step ((sound_launch address requested).run inputs) input

/-- **The serve loop runs** once the start is over. -/
theorem listens_run_iff :
    ((launch (.bound address) requested).run inputs).listens = true ↔ StartedUp inputs := by
  have counted : ((launch (.bound address) requested).run inputs).stage.place =
      min 3 (inputs.count .proceed) := by
    induction inputs using List.reverseRecOn with
    | nil => rfl
    | append_singleton inputs input ih =>
      rw [run_concat]
      exact place_step ((sound_launch address requested).run inputs) ih input
  rw [listens_iff_place, counted, StartedUp]
  omega

/-- **The process is told to stop** just if a signal has been handled. -/
theorem stopping_run_iff :
    ((launch (.bound address) requested).run inputs).stopping = true ↔ ¬ Quiet inputs := by
  rw [((sound_launch address requested).run inputs).told]
  cases heard_run address requested inputs with
  | nothing waits quiet =>
    rw [waits]
    exact iff_of_false Bool.false_ne_true (not_not_intro quiet)
  | first received handled =>
    rw [received]
    exact iff_of_true rfl handled.not_quiet

/-- **The process ends in good order** just if the serve loop returns. -/
theorem exit_run_iff :
    ((launch (.bound address) requested).run inputs).exit = some .success ↔ Returns inputs := by
  induction inputs using List.reverseRecOn with
  | nil =>
    refine iff_of_false nofun ?_
    rintro ⟨earlier, later, split, -⟩
    simp at split
  | append_singleton inputs input ih =>
    rw [run_concat, exit_step_iff ((sound_launch address requested).run inputs), ih,
      listens_run_iff, stopping_run_iff, returns_concat]

end Launched

/-- The watcher has received the signal that is handled first, and no other. -/
theorem Heard.watcher_iff (heard : Heard inputs p) (signal : Signal) :
    p.watcher = .ended signal ↔ ∃ before after, HandledFirst inputs signal before after := by
  cases heard with
  | nothing waits quiet =>
    rw [waits]
    refine iff_of_false nofun ?_
    rintro ⟨before, after, handled⟩
    exact handled.not_quiet quiet
  | @first other before after received handled =>
    rw [received]
    constructor
    · intro same
      injection same with signals
      exact ⟨before, after, signals ▸ handled⟩
    · rintro ⟨front, behind, another⟩
      rw [(handled.unique another).1]

end ServerProcess

end RemainderService
