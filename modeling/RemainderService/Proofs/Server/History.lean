import Mathlib.Data.List.Induction
import RemainderService.ServerProcess

/-!
# Histories of a server process

What a history says before any process lives it: which signals arrive, which of them the watcher
handles first, which calls are made, and whether the serve loop comes to an end.

**A history is cut in two** by the first signal that is handled, unless none is
(`quiet_or_handledFirst`), and it is cut in one way (`HandledFirst.unique`). Histories are compared
with runs from the end, so most lemmas say what one more input changes.
-/

set_option autoImplicit false

namespace RemainderService

/-- The input has to do with a signal. -/
def ServerInput.isSignal : ServerInput → Bool
  | .deliver _ => true
  | .turnTo _ => true
  | _ => false

namespace ServerProcess

/-- The signals that arrive, in order. -/
def delivered (inputs : List ServerInput) : List Signal :=
  inputs.filterMap fun
    | .deliver signal => some signal
    | _ => none

/-- The signals that arrive are those that are delivered. -/
theorem mem_delivered {inputs : List ServerInput} {signal : Signal} :
    signal ∈ delivered inputs ↔ .deliver signal ∈ inputs := by
  rw [delivered, List.mem_filterMap]
  constructor
  · rintro ⟨input, mem, found⟩
    cases input <;> cases found
    exact mem
  · exact fun mem => ⟨_, mem, rfl⟩

/-- The signals that arrive in two histories, one behind the other. -/
theorem delivered_append (inputs more : List ServerInput) :
    delivered (inputs ++ more) = delivered inputs ++ delivered more :=
  List.filterMap_append

/-- An input that has nothing to do with signals delivers none. -/
theorem delivered_plain {input : ServerInput} (plain : input.isSignal = false) :
    delivered [input] = [] := by
  cases input with
  | deliver signal => cases plain
  | _ => rfl

/-! ## Calls -/

/-- The answer of the service to a call: the remainder of the truncated operands, as a double, or a
refusal that names the operation. -/
def domainAnswer (operation : Operation) (operands : Operands) : Except Status Binary64 :=
  if operation = .modulus then
    .ok (.ofInt64 (remainder operands.truncated.1 operands.truncated.2))
  else .error ⟨.unimplemented, "method " ++ operation.name ++ " not implemented"⟩

/-- The calls of a history, with their answers. -/
def answers (inputs : List ServerInput) : List AnsweredCall :=
  inputs.filterMap fun
    | .call operation operands => some ⟨operation, operands, domainAnswer operation operands⟩
    | _ => none

/-- The calls of two histories, one behind the other. -/
theorem answers_append (inputs more : List ServerInput) :
    answers (inputs ++ more) = answers inputs ++ answers more :=
  List.filterMap_append

/-- The service answers a call as the domain does. -/
theorem call_value (operation : Operation) (operands : Operands) :
    (OperationSet.modulus.call operation operands).value = domainAnswer operation operands := by
  cases operation <;> rfl

/-! ## The first signal -/

/-- **The watcher has handled no signal**: it turned to none that had arrived. -/
def Quiet (inputs : List ServerInput) : Prop :=
  ∀ before signal after, inputs = before ++ .turnTo signal :: after → .deliver signal ∉ before

/-- **The first signal that is handled**: it has arrived when the watcher turns to it, and no signal
was handled before. -/
structure HandledFirst (inputs : List ServerInput) (signal : Signal)
    (before after : List ServerInput) : Prop where
  split : inputs = before ++ .turnTo signal :: after
  arrived : .deliver signal ∈ before
  first : Quiet before

/-- Nothing is handled where nothing happens. -/
theorem quiet_nil : Quiet [] := by
  intro before signal after split
  simp at split

/-- One more input keeps a history quiet, unless it turns to a signal that has arrived. -/
theorem Quiet.concat {inputs : List ServerInput} {input : ServerInput} (quiet : Quiet inputs)
    (unhandled : ∀ signal, input = .turnTo signal → .deliver signal ∉ inputs) :
    Quiet (inputs ++ [input]) := by
  intro before signal after split
  -- The watcher turns to the signal with the new input, or it did so before.
  rcases List.eq_nil_or_concat after with rfl | ⟨rest, last, rfl⟩
  · obtain ⟨same, turned⟩ := List.append_inj' split rfl
    rw [← same]
    exact unhandled signal (List.cons.inj turned).1
  · rw [List.concat_eq_append, ← List.cons_append, ← List.append_assoc] at split
    exact quiet before signal rest (List.append_inj' split rfl).1

/-- An input that has nothing to do with signals keeps a history quiet. -/
theorem Quiet.concat_plain {inputs : List ServerInput} {input : ServerInput}
    (quiet : Quiet inputs) (plain : input.isSignal = false) : Quiet (inputs ++ [input]) := by
  apply quiet.concat
  intro signal turned
  rw [turned] at plain
  cases plain

/-- Nothing that follows makes another signal the first. -/
theorem HandledFirst.append {inputs before after : List ServerInput} {signal : Signal}
    (handled : HandledFirst inputs signal before after) (more : List ServerInput) :
    HandledFirst (inputs ++ more) signal before (after ++ more) where
  split := by rw [handled.split, List.append_assoc, List.cons_append]
  arrived := handled.arrived
  first := handled.first

/-- **A history is cut in two**, unless it is quiet. -/
theorem quiet_or_handledFirst (inputs : List ServerInput) :
    Quiet inputs ∨ ∃ signal before after, HandledFirst inputs signal before after := by
  induction inputs using List.reverseRecOn with
  | nil => exact .inl quiet_nil
  | append_singleton inputs input ih =>
    rcases ih with quiet | ⟨signal, before, after, handled⟩
    · by_cases turned : ∃ signal, input = .turnTo signal ∧ .deliver signal ∈ inputs
      · obtain ⟨signal, rfl, arrived⟩ := turned
        exact .inr ⟨signal, inputs, [], rfl, arrived, quiet⟩
      · exact .inl (quiet.concat fun signal same arrived => turned ⟨signal, same, arrived⟩)
    · exact .inr ⟨signal, before, after ++ [input], handled.append [input]⟩

/-- A history that is cut in two is not quiet. -/
theorem HandledFirst.not_quiet {inputs before after : List ServerInput} {signal : Signal}
    (handled : HandledFirst inputs signal before after) : ¬ Quiet inputs :=
  fun quiet => quiet before signal after handled.split handled.arrived

/-- A quiet history does not go on behind a cut. -/
theorem Quiet.cut_eq {before rest after behind : List ServerInput} {signal other : Signal}
    (quiet : Quiet (before ++ rest)) (arrived : .deliver signal ∈ before)
    (cut : .turnTo signal :: after = rest ++ .turnTo other :: behind) :
    rest = [] ∧ signal = other ∧ after = behind := by
  cases rest with
  | nil =>
    injection cut with turned same
    injection turned with signals
    exact ⟨rfl, signals, same⟩
  | cons input rest =>
    rw [← (List.cons.inj cut).1] at quiet
    exact absurd arrived (quiet before signal rest rfl)

/-- **A history is cut in one way.** -/
theorem HandledFirst.unique {inputs before after front behind : List ServerInput}
    {signal other : Signal} (handled : HandledFirst inputs signal before after)
    (another : HandledFirst inputs other front behind) :
    signal = other ∧ before = front ∧ after = behind := by
  have split := handled.split.symm.trans another.split
  rcases List.append_eq_append_iff.mp split with ⟨rest, rfl, cut⟩ | ⟨rest, rfl, cut⟩
  · obtain ⟨rfl, signals, same⟩ := another.first.cut_eq handled.arrived cut
    exact ⟨signals, (List.append_nil before).symm, same⟩
  · obtain ⟨rfl, signals, same⟩ := handled.first.cut_eq another.arrived cut
    exact ⟨signals.symm, List.append_nil front, same.symm⟩

/-! ## The serve loop -/

/-- The start is over: its three steps have been made. -/
def StartedUp (inputs : List ServerInput) : Prop := 3 ≤ inputs.count .proceed

/-- **The serve loop returns**: at some moment at which it runs and a signal has been handled, it has
drained. -/
def Returns (inputs : List ServerInput) : Prop :=
  ∃ earlier later, inputs = earlier ++ .drained :: later ∧ StartedUp earlier ∧ ¬ Quiet earlier

/-- One more input makes the serve loop return if it is that moment. -/
theorem returns_concat {inputs : List ServerInput} {input : ServerInput} :
    Returns (inputs ++ [input]) ↔
      Returns inputs ∨ input = .drained ∧ StartedUp inputs ∧ ¬ Quiet inputs := by
  constructor
  · rintro ⟨earlier, later, split, started, handled⟩
    rcases List.eq_nil_or_concat later with rfl | ⟨rest, last, rfl⟩
    · obtain ⟨rfl, same⟩ := List.append_inj' split rfl
      exact .inr ⟨(List.cons.inj same).1, started, handled⟩
    · rw [List.concat_eq_append, ← List.cons_append, ← List.append_assoc] at split
      exact .inl ⟨earlier, rest, (List.append_inj' split rfl).1, started, handled⟩
  · rintro (⟨earlier, later, rfl, started, handled⟩ | ⟨rfl, started, handled⟩)
    · refine ⟨earlier, later ++ [input], ?_, started, handled⟩
      rw [List.append_assoc, List.cons_append]
    · exact ⟨inputs, [], rfl, started, handled⟩

end ServerProcess

end RemainderService
