import Reink.Core.Controller
import Reink.Library.Simulation

/-!
# The controller over channels that answer alike

The controller knows of its channel what the requests are answered. Over two kinds of channels that
give related states the same answers, every operation does the same.
-/

namespace Reink

open Program (Simulates)

/-- Related channels answer every request alike and stay related, if the first one is allowed
afterwards. -/
def ControlSimulation {C C' : Type} [ControlChannel C] [ControlChannel C'] (S : C → C' → Prop)
    (A : C → Prop) : Prop :=
  ∀ request, Simulates S A (ControlChannel.request request : Program C ControlError (List UInt8))
    (ControlChannel.request request)

namespace EpsonController

variable {C C' : Type} [ControlChannel C] [ControlChannel C'] {S : C → C' → Prop} {A : C → Prop}
  (hS : ControlSimulation S A)

include hS

/-- The status is one request. -/
theorem readStatus_simulates :
    Simulates S A (readStatus : Program C EpsonError (List UInt8)) readStatus :=
  .bind (.ofExcept _ _) fun request ↦ .mapErr (hS request)

variable [CharTables] (spec : EpsonSpec)

/-- A cell is one request, and its parsed reply. -/
theorem readEepromAddress_simulates (address : UInt16) :
    Simulates S A (readEepromAddress spec address : Program C EpsonError EepromReadReply)
      (readEepromAddress spec address) :=
  .bind (.ofExcept _ _) fun request ↦ .bind (.mapErr (hS request)) fun _ ↦
    .bind (.ofOutcome _ _) fun _ ↦ .bind (.rejectIf _) fun _ ↦ .pure _

/-- Cells are read one by one, up to the first failure. -/
theorem readEeprom_simulates (addresses : List UInt16) :
    Simulates S A (readEeprom spec addresses : Program C EpsonError (List EepromReadReply))
      (readEeprom spec addresses) := by
  induction addresses with
  | nil => exact .pure _
  | cons address addresses ih =>
    exact .bind (readEepromAddress_simulates hS spec address) fun _ ↦ .bind ih fun _ ↦ .pure _

/-- A cell is written, and read back if that is asked for. -/
theorem writeEepromAddress_simulates (address : UInt16) (value : UInt8) (verifyReadBack : Bool) :
    Simulates S A
      (writeEepromAddress spec address value verifyReadBack : Program C EpsonError Unit)
      (writeEepromAddress spec address value verifyReadBack) :=
  .bind (.ofExcept _ _) fun request ↦ .bind (.mapErr (hS request)) fun _ ↦
    .bind (.rejectIf _) fun _ ↦
      .when (.bind (readEepromAddress_simulates hS spec address) fun _ ↦ .rejectIf _)

/-- The rollback goes on behind a failure. -/
theorem rollback_simulates (originals : List (UInt16 × UInt8)) (verifyReadBack : Bool)
    (attempted : List UInt16) :
    Simulates S A
      (rollback spec originals verifyReadBack attempted :
        Program C EpsonError (List (UInt16 × String)))
      (rollback spec originals verifyReadBack attempted) := by
  induction attempted with
  | nil => exact .pure _
  | cons address attempted ih =>
    rw [rollback, rollback]
    split
    · exact ih
    · refine .bind (.attempt (writeEepromAddress_simulates hS spec _ _ _)) fun restored ↦
        .bind ih fun errors ↦ ?_
      rcases restored with error | ⟨⟩ <;> exact .pure _

/-- The loop of the updates, with the rollback behind its first failure. -/
theorem writeUpdates_simulates (originals : Option (List (UInt16 × UInt8)))
    (verifyReadBack : Bool) (attempted : List UInt16) (updates : List (UInt16 × UInt8)) :
    Simulates S A
      (writeUpdates spec originals verifyReadBack attempted updates : Program C EpsonError Unit)
      (writeUpdates spec originals verifyReadBack attempted updates) := by
  induction updates generalizing attempted with
  | nil => exact .pure _
  | cons update updates ih =>
    refine .bind (.attempt (writeEepromAddress_simulates hS spec _ _ _)) fun result ↦ ?_
    rcases result with error | ⟨⟩
    · rcases originals with _ | originals
      · exact .bind (.pure _) fun _ ↦ .throw _
      · exact .bind (rollback_simulates hS spec _ _ _) fun _ ↦ .throw _
    · exact ih _

/-- **A write with its originals** is the same over channels that answer alike. -/
theorem writeEepromWithOriginals_simulates (updates : List (UInt16 × UInt8))
    (originals : Option (List (UInt16 × UInt8))) (options : EepromWriteOptions) :
    Simulates S A
      (writeEepromWithOriginals spec updates originals options : Program C EpsonError Unit)
      (writeEepromWithOriginals spec updates originals options) := by
  have hloop := writeUpdates_simulates hS spec originals options.verifyReadBack [] updates
  unfold writeEepromWithOriginals
  rcases originals with _ | originals
  · exact .bind (.rejectIf _) fun _ ↦ hloop
  · dsimp only
    split
    · exact .throw _
    · exact hloop

end EpsonController

end Reink
