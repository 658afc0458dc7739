import Reink.D4.Operation
import Reink.Platform.Stream

/-!
# Where the link panics

The expectations of the source all hold but two. `open_service` and `ensure_channel_credit` store
the result of a reply in an entry they looked up before they waited for it, and an `Exit` that is
serviced meanwhile has removed the entry. `no_panic_iff` says that this is the only way a run
panics, over an arbitrary transport and for any list of calls, and that whenever it happens the run
does panic.
-/

namespace Reink

namespace D4Link

variable {T : Type} {w w' : LinkRun T}

/-- A result is stored after the conversation has ended. -/
def StoresLate (step : Step (D4Link T) Event) : Prop :=
  step.event.installs ≠ none ∧ step.before.conversation = .terminated

/-- A transition never does that: the entry is there as long as the conversation is. -/
theorem Transition.not_storesLate {event : Event} {after : D4Link T}
    (h : Transition w event after) : ¬ StoresLate ⟨w.state, event, after⟩ := by
  rintro ⟨hinstalls, hover⟩
  cases h with
  | opened _ running => exact running hover
  | @granted _ _ _ _ side _ _ byHost =>
    cases side with
    | host => exact (byHost rfl).2 hover
    | peer => exact hinstalls rfl
  | @marked event h => cases event <;> first | exact h.elim | exact hinstalls rfl
  | @transported event h => cases event <;> first | exact h.elim | exact hinstalls rfl
  | _ => exact hinstalls rfl

theorem Loses.storesLate {event : Event} {after : D4Link T} (h : Loses w event after) :
    StoresLate ⟨w.state, event, after⟩ := by
  obtain ⟨-, hover, channel, hinstalls, -⟩ := h
  refine ⟨?_, hover⟩
  rw [hinstalls]
  exact Option.some_ne_none channel

/-- Along a path of transitions nothing is stored late. -/
theorem not_storesLate_of_path (h : Trail Transition w w')
    (hw : ∀ step ∈ w.history, ¬ StoresLate step) : ∀ step ∈ w'.history, ¬ StoresLate step :=
  h.forall_history (I := fun _ ↦ True) (fun _ _ _ _ _ ↦ trivial)
    (fun _ _ _ hstep _ ↦ hstep.not_storesLate) trivial hw

variable [ByteTransport T]

/-- The calls of a run none of whose steps stores late have not panicked, and conversely. -/
theorem runCalls_no_panic_iff (calls : List Call) (hw : w.state.Present)
    (hist : ∀ step ∈ w.history, ¬ StoresLate step) :
    (∀ outcome ∈ (runCalls calls w).1, ∀ message, outcome ≠ .panic message) ↔
      ∀ step ∈ (runCalls calls w).2.history, ¬ StoresLate step := by
  induction calls generalizing w with
  | nil => exact ⟨fun _ ↦ hist, fun _ _ h ↦ absurd h (List.not_mem_nil)⟩
  | cons call calls ih =>
    rcases runOperation_cases call.bound call.operation hw with ⟨hquiet, hpath⟩ |
      ⟨⟨message, hpanic⟩, v, event, after, hpath, hloses, hlast⟩
    · have hpresent := hpath.state_invariant (fun _ _ _ hstep ↦ hstep.present) hw
      have hlater := not_storesLate_of_path hpath hist
      by_cases hreturned : (runOperation call.bound call.operation w).1.Returned
      · rw [runCalls_returned hreturned, ← ih hpresent hlater]
        simp only [List.forall_mem_cons]
        exact ⟨fun h ↦ h.2, fun h ↦ ⟨hquiet, h⟩⟩
      · rw [runCalls_not_returned hreturned]
        simp only [List.forall_mem_singleton]
        exact ⟨fun _ ↦ hlater, fun _ ↦ hquiet⟩
    · -- The call has panicked: it ends the run, and its last step stores late.
      have hreturned : ¬ (runOperation call.bound call.operation w).1.Returned := by
        rw [hpanic]
        exact id
      rw [runCalls_not_returned hreturned, hlast]
      constructor
      · intro h
        exact absurd hpanic (h _ (List.mem_singleton.2 rfl) message)
      · intro h
        exact absurd hloses.storesLate (h _ (by simp))

/-- **When a run panics.** No call of a run panics if and only if no step of it stores the result of
a reply in a channel's entry after the conversation has ended. -/
theorem no_panic_iff (calls : List Call) (target : T) :
    (∀ outcome ∈ (runNew calls target).1, ∀ message, outcome ≠ .panic message) ↔
      ∀ step ∈ (runNew calls target).2.history,
        step.event.installs ≠ none → step.before.conversation ≠ .terminated := by
  rw [runNew, runCalls_no_panic_iff calls (present_new target) (by simp)]
  exact forall₂_congr fun step _ ↦ not_and

/-- The peer opens the conversation and names the socket of the service, then exits, and answers
`OpenChannel` nevertheless. -/
def exitsBeforeOpenReply : StreamTransport :=
  .sending [StreamTransport.packet 0 0 1 [0x80, 0, 0x20],
    StreamTransport.packet 0 0 1 [0x89, 0, 2, 69, 80, 83, 79, 78, 45, 67, 84, 82, 76],
    StreamTransport.packet 0 0 1 [0x08],
    StreamTransport.packet 0 0 1 [0x81, 0, 2, 2, 1, 0, 1, 0, 0, 0, 0, 0]]

theorem open_service_panics_after_exit :
    ¬ ∀ outcome ∈ (runNew [⟨.initializeLink, 9⟩, ⟨.openService "EPSON-CTRL", 9⟩]
      exitsBeforeOpenReply).1, ∀ message, outcome ≠ .panic message := by
  have hrun : (runNew [⟨.initializeLink, 9⟩, ⟨.openService "EPSON-CTRL", 9⟩]
      exitsBeforeOpenReply).1 =
      [.ok .done, .panic "pending channel is inserted before OpenChannel"] := by
    decide +kernel
  rw [hrun]
  intro h
  exact h _ (List.mem_cons_of_mem _ (List.mem_singleton.2 rfl)) _ rfl

end D4Link

end Reink
