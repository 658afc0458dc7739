import Reink.Core.Controller
import Reink.Core.Record
import Reink.Core.Request

/-!
# Reading over a faithful channel

A channel is faithful to a memory if, as long as it is ready, it answers every read request by a
text with the record of what the memory holds, and is ready again. Reading then succeeds, however
the channel does it, and nothing is said about other requests.
-/

namespace Reink

open EpsonController
open Program (bind_run_ok)

/-- A control channel that shows a memory. -/
structure FaithfulChannel (spec : EpsonSpec) (C : Type) [ControlChannel C] where
  /-- The channel can take a request. -/
  Ready : C → Prop
  /-- What the memory holds. -/
  memory : C → UInt16 → UInt8
  /-- A read request is answered by the record of the memory, which stays as it is. -/
  answers : ∀ {address : UInt16} {request : List UInt8} {c : C}, Ready c →
    encodeEepromRead spec address = .ok request →
      ∃ response c', ControlChannel.request request c = (.ok response, c') ∧
        HoldsRecord spec.readAddressWidth ⟨address, memory c address⟩ response ∧
        Ready c' ∧ memory c' = memory c

/-- The width of a read request can encode the address. -/
def EpsonSpec.CanRead (spec : EpsonSpec) (address : UInt16) : Prop :=
  spec.readAddressWidth = .one → address ≤ 0xff

namespace FaithfulChannel

variable {spec : EpsonSpec} {C : Type} [ControlChannel C] [CharTables]
  (faithful : FaithfulChannel spec C) {c : C}

/-- A read of one address gives what the memory holds there. -/
theorem readEepromAddress_ok {address : UInt16} (hready : faithful.Ready c)
    (haddress : spec.CanRead address) :
    ∃ c', readEepromAddress spec address c = (.ok ⟨address, faithful.memory c address⟩, c') ∧
      faithful.Ready c' ∧ faithful.memory c' = faithful.memory c := by
  obtain ⟨request, hencode, -⟩ := exists_encodeEepromRead haddress
  obtain ⟨response, c', hrequest, hrecord, hready', hmemory⟩ := faithful.answers hready hencode
  refine ⟨c', ?_, hready', hmemory⟩
  rw [readEepromAddress, hencode, Program.ofExcept_ok, Program.pure_bind,
    bind_run_ok (Program.mapErr_eq_ok.2 hrequest),
    bind_run_ok (Program.ofOutcome_eq_ok.2 ⟨parseEepromReadReply_of_holdsRecord hrecord, rfl⟩),
    Program.rejectIf_neg (by simp), Program.pure_bind]
  rfl

/-- **The addresses are read in their order.** By induction on them. -/
theorem readEeprom_ok {addresses : List UInt16} (hready : faithful.Ready c)
    (haddresses : ∀ address ∈ addresses, spec.CanRead address) :
    ∃ c', readEeprom spec addresses c =
        (.ok (addresses.map fun address ↦ ⟨address, faithful.memory c address⟩), c') ∧
      faithful.Ready c' ∧ faithful.memory c' = faithful.memory c := by
  induction addresses generalizing c with
  | nil => exact ⟨c, rfl, hready, rfl⟩
  | cons address addresses ih =>
    obtain ⟨c₁, hread, hready₁, hmemory₁⟩ :=
      faithful.readEepromAddress_ok hready (haddresses address List.mem_cons_self)
    obtain ⟨c₂, hrest, hready₂, hmemory₂⟩ := ih hready₁
      fun address' hmem ↦ haddresses address' (List.mem_cons_of_mem address hmem)
    refine ⟨c₂, ?_, hready₂, hmemory₂.trans hmemory₁⟩
    rw [readEeprom, bind_run_ok hread, bind_run_ok hrest, hmemory₁]
    rfl

end FaithfulChannel

end Reink
