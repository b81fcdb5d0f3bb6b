/-!
# Dialogues

A host gives commands to a part of the machine, one after another, and each of
them is answered.  A command that is refused is answered by a fault, and the host
may go on with the state that it leaves.  What is shown here holds of every part
and of every kind of commands.
-/

namespace ChipEight

section Dialogues

variable {State View Command Answer : Type}

/-- Carry out commands in order.  The answers are in the order of the
commands. -/
def dialogue (perform : State → Command → Answer × State) (state : State) :
    List Command → List Answer × State
  | [] => ([], state)
  | command :: rest =>
      let first := perform state command
      let later := dialogue perform first.2 rest
      (first.1 :: later.1, later.2)

variable {perform : State → Command → Answer × State}

/-- What every command keeps, a dialogue keeps. -/
theorem dialogue_keeps (Kept : State → Prop)
    (step : ∀ state command, Kept state → Kept (perform state command).2)
    {state : State} (kept : Kept state) (commands : List Command) :
    Kept (dialogue perform state commands).2 := by
  induction commands generalizing state with
  | nil => exact kept
  | cons command rest inductionHypothesis =>
      exact inductionHypothesis (step state command kept)

/-- If a view of the states is enough to answer every command and to tell the view
of what the command leaves, then it is enough for every dialogue. -/
theorem dialogue_view {view : State → View}
    {rule : View → Command → Answer × View}
    (step : ∀ state command,
      (perform state command).1 = (rule (view state) command).1 ∧
        view (perform state command).2 = (rule (view state) command).2)
    (state : State) (commands : List Command) :
    (dialogue perform state commands).1 =
        (dialogue rule (view state) commands).1 ∧
      view (dialogue perform state commands).2 =
        (dialogue rule (view state) commands).2 := by
  induction commands generalizing state with
  | nil => exact ⟨rfl, rfl⟩
  | cons command rest inductionHypothesis =>
      rcases step state command with ⟨answered, left⟩
      rcases inductionHypothesis (perform state command).2 with
        ⟨answeredLater, leftLater⟩
      rw [left] at answeredLater leftLater
      simp only [dialogue]
      exact ⟨by rw [answered, answeredLater], leftLater⟩

end Dialogues

end ChipEight
