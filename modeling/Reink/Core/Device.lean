import Reink.Core.Controller
import Reink.Core.Record
import Reink.Core.Request
import Reink.Library.Overwrite

/-!
# An EEPROM behind a control channel

What a write of several values relies on, as the laws of `EepromDevice`: the part of the channel's
state that is the memory, what a request can do to it, and that a reply to a read, when the parser
takes it for one, shows it. Nothing is said about when the device answers, what it answers to a
write, or whether it stored the value it was asked to store.
-/

namespace Reink

open Program (Keeps when bind_eq_ok ofExcept_eq_ok rejectIf_eq_ok mapErr_eq_ok ofOutcome_eq_ok)

/-! ### The laws -/

/-- A control channel with an EEPROM behind it. -/
structure EepromDevice (spec : EpsonSpec) (C : Type) [ControlChannel C] [CharTables] where
  /-- What the EEPROM holds. -/
  memory : C → UInt16 → UInt8
  /-- A write request stores its value at its address or changes nothing, whatever the answer. -/
  memory_of_write : ∀ {address : UInt16} {value : UInt8} {request : List UInt8},
    encodeEepromWrite spec address value = .ok request → ∀ c,
      memory (ControlChannel.request request c).2 = memory c ∨
      memory (ControlChannel.request request c).2 = Function.update (memory c) address value
  /-- Any other request changes nothing. -/
  memory_of_other : ∀ {request : List UInt8},
    (∀ address value, encodeEepromWrite spec address value ≠ .ok request) →
      Keeps memory (ControlChannel.request request)
  /-- A reply that parses as one to the read shows what the EEPROM holds. -/
  value_of_reply : ∀ {address : UInt16} {request response : List UInt8} {value : UInt8} {c c' : C},
    encodeEepromRead spec address = .ok request →
    ControlChannel.request request c = (.ok response, c') →
    parseEepromReadReply response spec.readAddressWidth = .ok ⟨address, value⟩ →
      value = memory c' address

namespace EepromDevice

variable {spec : EpsonSpec} {C : Type} [ControlChannel C] [CharTables]
  (device : EepromDevice spec C) {address : UInt16} {value : UInt8} {c c' : C}

open EpsonController

/-! ### Reads -/

/-- A read changes nothing, however it ends. -/
theorem readEepromAddress_keeps (address : UInt16) :
    Keeps device.memory (readEepromAddress spec address) := by
  unfold readEepromAddress
  refine .ofExcept_bind fun request hrequest ↦ ?_
  refine .bind (.mapErr (device.memory_of_other fun _ _ ↦ encodeEepromWrite_ne_of_read hrequest)) ?_
  exact fun response ↦ .bind (.ofOutcome _) fun reply ↦ .bind (.rejectIf _) fun _ ↦ .pure _

/-- A read that succeeds gives what the memory holds at the address asked for. -/
theorem readEepromAddress_ok {reply : EepromReadReply}
    (h : readEepromAddress spec address c = (.ok reply, c')) :
    reply = ⟨address, device.memory c' address⟩ := by
  unfold readEepromAddress at h
  obtain ⟨request, c₀, hencode, hrest⟩ := bind_eq_ok.1 h
  obtain ⟨hrequest, rfl⟩ := ofExcept_eq_ok.1 hencode
  obtain ⟨response, c₁, hresponse, hrest₁⟩ := bind_eq_ok.1 hrest
  obtain ⟨reply', c₂, hdecode, hrest₂⟩ := bind_eq_ok.1 hrest₁
  obtain ⟨hparse, rfl⟩ := ofOutcome_eq_ok.1 hdecode
  obtain ⟨_, c₃, hcheck, hlast⟩ := bind_eq_ok.1 hrest₂
  obtain ⟨haddress, rfl⟩ := rejectIf_eq_ok.1 hcheck
  cases hlast
  obtain rfl : reply.address = address := of_not_not haddress
  rw [← device.value_of_reply hrequest (mapErr_eq_ok.1 hresponse) hparse]

/-! ### Writes -/

/-- A write leaves every other address alone, however it ends. -/
theorem writeEepromAddress_keeps (address : UInt16) (value : UInt8) (verifyReadBack : Bool)
    {x : UInt16} (hx : x ≠ address) :
    Keeps (fun c ↦ device.memory c x) (writeEepromAddress spec address value verifyReadBack) := by
  unfold writeEepromAddress
  refine .ofExcept_bind fun request hrequest ↦ ?_
  refine .bind (.mapErr fun c ↦ ?_) fun response ↦ .bind (.rejectIf _) fun _ ↦ .when ?_
  · show device.memory (ControlChannel.request request c).2 x = device.memory c x
    rcases device.memory_of_write hrequest c with h | h
    · rw [h]
    · rw [h, Function.update_of_ne hx]
  · exact .bind (fun c ↦ congrFun (device.readEepromAddress_keeps address c) x) fun _ ↦ .rejectIf _

/-- The memories before and after a write differ at most at its address. -/
theorem eqOff_of_writeEepromAddress {verifyReadBack : Bool} {o : Outcome EpsonError Unit}
    (h : writeEepromAddress spec address value verifyReadBack c = (o, c')) :
    EqOff [address] (device.memory c') (device.memory c) := by
  intro x hx
  have hkeep := device.writeEepromAddress_keeps address value verifyReadBack
    (List.ne_of_not_mem_cons hx) c
  rw [h] at hkeep
  exact hkeep

/-- A write that is read back has stored its value at its address, and nothing else. -/
theorem writeEepromAddress_ok (h : writeEepromAddress spec address value true c = (.ok (), c')) :
    device.memory c' = Function.update (device.memory c) address value := by
  have hoff := device.eqOff_of_writeEepromAddress h
  have hvalue : device.memory c' address = value := by
    unfold writeEepromAddress at h
    obtain ⟨request, c₀, -, h⟩ := bind_eq_ok.1 h
    obtain ⟨response, c₁, -, h⟩ := bind_eq_ok.1 h
    obtain ⟨_, c₂, -, h⟩ := bind_eq_ok.1 h
    rw [when, if_pos rfl] at h
    obtain ⟨reply, c₃, hread, h⟩ := bind_eq_ok.1 h
    obtain ⟨hverify, rfl⟩ := rejectIf_eq_ok.1 h
    rw [← of_not_not hverify, device.readEepromAddress_ok hread]
  funext x
  by_cases hx : x = address
  · rw [hx, hvalue, Function.update_self]
  · rw [Function.update_of_ne hx]
    exact hoff x (by simpa using hx)

end EepromDevice

/-! ### A device -/

/-- An EEPROM that answers every write as done, and does not store what goes to a locked cell. -/
structure SimulatedEeprom (spec : EpsonSpec) where
  cells : UInt16 → UInt8
  isLocked : UInt16 → Bool

namespace SimulatedEeprom

variable {spec : EpsonSpec}

/-- Store the value, unless the cell is locked. -/
def store (e : SimulatedEeprom spec) (address : UInt16) (value : UInt8) : SimulatedEeprom spec :=
  if e.isLocked address then e else { e with cells := Function.update e.cells address value }

/-- Requests that it does not know are answered by nothing. -/
instance : ControlChannel (SimulatedEeprom spec) where
  request request e :=
    match decodeWrite spec request with
    | some (address, value) => (.ok (Text.ascii ":OK;"), e.store address value)
    | none =>
      match decodeRead spec request with
      | some address => (.ok (record spec.readAddressWidth ⟨address, e.cells address⟩), e)
      | none => (.ok [], e)

variable [CharTables]

/-- The simulated EEPROM obeys the laws. -/
def device (spec : EpsonSpec) : EepromDevice spec (SimulatedEeprom spec) where
  memory := cells
  memory_of_write := by
    intro address value request h e
    simp only [ControlChannel.request, decodeWrite_eq_some.2 h, store]
    split
    · exact .inl rfl
    · exact .inr rfl
  memory_of_other := by
    intro request h e
    have hnone : decodeWrite spec request = none :=
      Option.eq_none_iff_forall_not_mem.2 fun u hu ↦ h u.1 u.2 (decodeWrite_eq_some.1 hu)
    simp only [ControlChannel.request, hnone]
    split <;> rfl
  value_of_reply := by
    intro address request response value e e' hread hrequest hparse
    have hnone : decodeWrite spec request = none :=
      Option.eq_none_iff_forall_not_mem.2 fun u hu ↦
        encodeEepromWrite_ne_of_read hread (decodeWrite_eq_some.1 hu)
    simp only [ControlChannel.request, hnone, decodeRead_eq_some.2 hread] at hrequest
    cases hrequest
    obtain ⟨payload, haddress, -⟩ := encodeEepromRead_eq_ok.1 hread
    have hrecord : HoldsRecord spec.readAddressWidth ⟨address, e.cells address⟩
        (record spec.readAddressWidth ⟨address, e.cells address⟩) :=
      holdsRecord_record (le_of_encodeAddress haddress)
    rw [parseEepromReadReply_of_holdsRecord hrecord] at hparse
    cases hparse
    rfl

end SimulatedEeprom

end Reink
