import Reink.App.EndToEnd
import Reink.App.WritePlan
import Reink.Core.AtomicWrite

/-!
# Dump and restore

A dump over a faithful session is the memory on the model's range, in the order of the addresses.
A restore of it expands the bytes back into updates, one for each address of the range, and writing
these makes any memory equal to the dumped one there.
-/

namespace Reink

open EpsonController
open Program (bind_run_ok)

/-! ### The image of a memory -/

section Image

variable {spec : EpsonSpec} {memory : UInt16 → UInt8} {bytes : List UInt8}

/-- The image of a memory on the model's range. -/
def EpsonSpec.image (spec : EpsonSpec) (memory : UInt16 → UInt8) : EepromImage :=
  ⟨spec.model, spec.memoryLow, spec.addresses.map memory⟩

/-- The addresses count up from the lowest one. -/
theorem EpsonSpec.getElem?_addresses {address : UInt16} (h : spec.Contains address) :
    spec.addresses[address.toNat - spec.memoryLow.toNat]? = some address := by
  obtain ⟨hlow, hhigh⟩ := EpsonSpec.contains_iff.1 h
  rw [EpsonSpec.addresses, List.getElem?_map, List.getElem?_range' (by omega), Option.map_some,
    Nat.one_mul, Nat.add_sub_cancel' hlow, UInt16.ofNat_toNat]

/-- **The image shows the memory on the range, and nothing outside.** -/
theorem EpsonSpec.valueAt_image (hrange : spec.memoryLow ≤ spec.memoryHigh) (address : UInt16) :
    (spec.image memory).valueAt address =
      if spec.Contains address then some (memory address) else none := by
  have hlength : (spec.image memory).bytes.length = spec.imageLength := by
    rw [EpsonSpec.image, List.length_map, EpsonSpec.length_addresses hrange]
  have hsome : ((spec.image memory).valueAt address).isSome ↔ spec.Contains address :=
    EepromImage.isSome_valueAt rfl hlength hrange
  by_cases h : spec.Contains address
  · rw [if_pos h, EepromImage.valueAt_eq, if_pos (show (spec.image memory).startAddress ≤ address
      from h.1)]
    show (spec.addresses.map memory)[address.toNat - spec.memoryLow.toNat]? = _
    rw [List.getElem?_map, EpsonSpec.getElem?_addresses h, Option.map_some]
  · rw [if_neg h, Option.eq_none_iff_forall_ne_some]
    intro value hvalue
    exact h (hsome.1 (by rw [hvalue]; rfl))

/-! ### Restoring an image -/

/-- By induction on the bytes; the sum of an address is taken within the range. -/
theorem restoreFrom_eq {offset : Nat}
    (hfits : spec.memoryLow.toNat + offset + bytes.length ≤ 65536) :
    restoreFrom spec offset bytes =
      .ok (((List.range' (spec.memoryLow.toNat + offset) bytes.length).map UInt16.ofNat).zip
        bytes) := by
  induction bytes generalizing offset with
  | nil => rfl
  | cons value bytes ih =>
    rw [List.length_cons] at hfits
    have hoffset : (UInt16.ofNat offset).toNat = offset := by
      rw [UInt16.toNat_ofNat', Nat.mod_eq_of_lt (by omega)]
    have hsum : spec.memoryLow.checkedAdd (UInt16.ofNat offset) =
        some (UInt16.ofNat (spec.memoryLow.toNat + offset)) := by
      rw [UInt16.checkedAdd, hoffset, if_pos (by omega), UInt16.ofNat_add, UInt16.ofNat_toNat]
    have hfits' : spec.memoryLow.toNat + (offset + 1) + bytes.length ≤ 65536 := by omega
    have hrest := ih hfits'
    rw [restoreFrom, hsum, Outcome.orPanic_some, Outcome.ok_bind, hrest, Outcome.ok_bind,
      List.length_cons, List.range'_succ]
    rfl

/-- **An image of the right length is expanded** into one update for each address of the range. -/
theorem restoreEepromUpdates_eq (hrange : spec.memoryLow ≤ spec.memoryHigh)
    (hlength : bytes.length = spec.imageLength) :
    restoreEepromUpdates spec bytes = .ok (spec.addresses.zip bytes) := by
  have hle := UInt16.le_iff_toNat_le.1 hrange
  have hhigh := spec.memoryHigh.toNat_lt
  have hcount : bytes.length = spec.memoryHigh.toNat + 1 - spec.memoryLow.toNat := by
    rw [hlength, EpsonSpec.imageLength]
    omega
  rw [restoreEepromUpdates, if_neg (not_not.2 hlength), restoreFrom_eq (by omega), hcount]
  rfl

/-- An image of any other length is refused. -/
theorem restoreEepromUpdates_of_length_ne (hlength : bytes.length ≠ spec.imageLength) :
    ∃ message, restoreEepromUpdates spec bytes = .err message :=
  ⟨_, if_pos hlength⟩

/-- The updates that an image of a memory is expanded into. -/
theorem restoreEepromUpdates_image (hrange : spec.memoryLow ≤ spec.memoryHigh) :
    restoreEepromUpdates spec (spec.image memory).bytes =
      .ok (spec.addresses.map fun address ↦ (address, memory address)) := by
  have hlength : (spec.image memory).bytes.length = spec.imageLength := by
    rw [EpsonSpec.image, List.length_map, EpsonSpec.length_addresses hrange]
  rw [restoreEepromUpdates_eq hrange hlength, EpsonSpec.image, List.map_prod_left_eq_zip]

/-- Updates of the addresses of the range, one each, pass the check. -/
theorem validUpdates_of_map_fst (hrange : spec.memoryLow ≤ spec.memoryHigh)
    {updates : List (UInt16 × UInt8)} (h : updates.map Prod.fst = spec.addresses) :
    ValidUpdates spec updates where
  ne_nil := by
    rintro rfl
    have hlength := EpsonSpec.length_addresses hrange
    rw [← h, EpsonSpec.imageLength] at hlength
    cases hlength
  nodup := by
    rw [h]
    exact EpsonSpec.pairwise_addresses.imp UInt16.ne_of_lt
  contains := fun update hmem ↦ EpsonSpec.mem_addresses.1 (h ▸ List.mem_map_of_mem hmem)

theorem validUpdates_addresses (hrange : spec.memoryLow ≤ spec.memoryHigh) :
    ValidUpdates spec (spec.addresses.map fun address ↦ (address, memory address)) := by
  refine validUpdates_of_map_fst hrange ?_
  rw [List.map_map, show Prod.fst ∘ (fun address ↦ (address, memory address)) = id from rfl,
    List.map_id]

/-- What an image is expanded into passes the check. -/
theorem validUpdates_of_restoreEepromUpdates (hrange : spec.memoryLow ≤ spec.memoryHigh)
    {updates : List (UInt16 × UInt8)} (h : restoreEepromUpdates spec bytes = .ok updates) :
    ValidUpdates spec updates := by
  by_cases hlength : bytes.length = spec.imageLength
  · cases (restoreEepromUpdates_eq hrange hlength).symm.trans h
    refine validUpdates_of_map_fst hrange (List.map_fst_zip ?_)
    rw [hlength, EpsonSpec.length_addresses hrange]
  · obtain ⟨message, herror⟩ := restoreEepromUpdates_of_length_ne hlength
    cases herror.symm.trans h

/-- The updates that store a memory on the range are its values there. -/
theorem EpsonSpec.mem_updates_iff {spec : EpsonSpec} {memory : UInt16 → UInt8} {address : UInt16}
    {value : UInt8} :
    (address, value) ∈ spec.addresses.map (fun address ↦ (address, memory address)) ↔
      spec.Contains address ∧ value = memory address := by
  rw [List.mem_map]
  constructor
  · rintro ⟨address, haddress, ⟨⟩⟩
    exact ⟨EpsonSpec.mem_addresses.1 haddress, rfl⟩
  · rintro ⟨hcontains, rfl⟩
    exact ⟨address, EpsonSpec.mem_addresses.2 hcontains, rfl⟩

end Image

/-! ### Dumping -/

section Dump

variable {T : Type} [ByteTransport T] [CharTables] {bound : Nat} {spec : EpsonSpec}
  (faithful : FaithfulSession spec T bound) {session : EpsonD4Session T}

/-- **The dump loop** appends what the memory holds. By induction on the addresses still to be
read. -/
theorem FaithfulSession.dumpLoop_ok {addresses : List UInt16}
    (hready : faithful.Ready (session.control bound)) (hspec : session.spec = spec)
    (haddresses : ∀ address ∈ addresses, spec.CanRead address) (bytes : List UInt8) :
    ∃ link, EpsonD4Session.dumpLoop bound addresses bytes session =
        (.ok (bytes ++ addresses.map (faithful.memory (session.control bound))),
          { session with link := link }) ∧
      faithful.Ready ({ session with link := link }.control bound) ∧
      faithful.memory ({ session with link := link }.control bound) =
        faithful.memory (session.control bound) := by
  induction addresses generalizing session bytes with
  | nil => exact ⟨session.link, by rw [List.map_nil, List.append_nil]; rfl, hready, rfl⟩
  | cons address addresses ih =>
    obtain ⟨hfirst, hrest⟩ := List.forall_mem_cons.1 haddresses
    obtain ⟨link, hread, hready', hmemory⟩ := faithful.readEeprom_ok hready hspec
      (List.forall_mem_singleton.2 hfirst)
    obtain ⟨link', hdump, hready'', hmemory'⟩ :=
      @ih { session with link := link } hready' hspec hrest
        (bytes ++ [faithful.memory (session.control bound) address])
    refine ⟨link', ?_, hready'', hmemory'.trans hmemory⟩
    rw [EpsonD4Session.dumpLoop, bind_run_ok hread, List.map_singleton, List.getLast?_singleton,
      Program.orPanic_some, Program.pure_bind, hdump, hmemory, List.append_assoc, List.map_cons]
    rfl

/-- **Dumping over a faithful session** gives the image of the memory. -/
theorem FaithfulSession.dumpEeprom_ok (hready : faithful.Ready (session.control bound))
    (hspec : session.spec = spec)
    (hwidth : ∀ address, spec.Contains address → spec.CanRead address) :
    ∃ link, EpsonD4Session.dumpEeprom bound session =
        (.ok (spec.image (faithful.memory (session.control bound))),
          { session with link := link }) ∧
      faithful.Ready ({ session with link := link }.control bound) ∧
      faithful.memory ({ session with link := link }.control bound) =
        faithful.memory (session.control bound) := by
  subst hspec
  obtain ⟨link, hdump, hafter⟩ := faithful.dumpLoop_ok hready rfl
    (fun address hmem ↦ hwidth address (EpsonSpec.mem_addresses.1 hmem)) []
  refine ⟨link, ?_, hafter⟩
  rw [EpsonD4Session.dumpEeprom, bind_run_ok hdump]
  rfl

/-- **Dump and restore are inverse.** Over a session whose control channel is faithful to a memory,
the dump succeeds with the image of the memory on the model's range. Its bytes expand into one
update for each address, in ascending order, that the check of a write plan accepts; stored in any
other memory they make it equal to the dumped one on the range, and so does any write of them that a
device has confirmed. An image of any other length is refused. -/
theorem FaithfulSession.dump_restore_inverse (hready : faithful.Ready (session.control bound))
    (hspec : session.spec = spec) (hrange : spec.memoryLow ≤ spec.memoryHigh)
    (hwidth : ∀ address, spec.Contains address →
      ∃ payload, encodeAddress spec.readAddressWidth address = .ok payload) :
    (∃ image session' updates, EpsonD4Session.dumpEeprom bound session = (.ok image, session') ∧
      image.bytes.length = spec.memoryHigh.toNat - spec.memoryLow.toNat + 1 ∧
      (∀ address, image.valueAt address =
        if spec.memoryLow ≤ address ∧ address ≤ spec.memoryHigh then
          some (faithful.memory (session.control bound) address)
        else none) ∧
      restoreEepromUpdates spec image.bytes = .ok updates ∧
      (updates.map Prod.fst).Pairwise (· < ·) ∧
      (∀ address value, (address, value) ∈ updates ↔
        (spec.memoryLow ≤ address ∧ address ≤ spec.memoryHigh) ∧
          value = faithful.memory (session.control bound) address) ∧
      validateEepromUpdates spec updates = .ok () ∧
      (∀ other address, spec.memoryLow ≤ address → address ≤ spec.memoryHigh →
        overwrite other updates address = faithful.memory (session.control bound) address) ∧
      ∀ (C : Type) [ControlChannel C] (device : EepromDevice spec C)
        (originals : List (UInt16 × UInt8)) (atomic : Bool) (c c' : C),
        writeEepromWithOriginals spec updates (some originals) ⟨true, atomic⟩ c = (.ok (), c') →
          ∀ address, spec.memoryLow ≤ address → address ≤ spec.memoryHigh →
            device.memory c' address = faithful.memory (session.control bound) address) ∧
    ∀ bytes : List UInt8, bytes.length ≠ spec.memoryHigh.toNat - spec.memoryLow.toNat + 1 →
      ∃ message, restoreEepromUpdates spec bytes = .err message := by
  refine ⟨?_, fun bytes ↦ restoreEepromUpdates_of_length_ne⟩
  set memory := faithful.memory (session.control bound)
  obtain ⟨link, hdump, -⟩ := faithful.dumpEeprom_ok hready hspec fun address hcontains ↦ by
    obtain ⟨payload, hencode⟩ := hwidth address hcontains
    exact le_of_encodeAddress hencode
  have hvalid : ValidUpdates spec (spec.addresses.map fun address ↦ (address, memory address)) :=
    validUpdates_addresses hrange
  have hstored (other : UInt16 → UInt8) (address : UInt16) (hlow : spec.memoryLow ≤ address)
      (hhigh : address ≤ spec.memoryHigh) :
      overwrite other (spec.addresses.map fun address ↦ (address, memory address)) address =
        memory address :=
    overwrite_of_mem other hvalid.nodup (EpsonSpec.mem_updates_iff.2 ⟨⟨hlow, hhigh⟩, rfl⟩)
  refine ⟨spec.image memory, _, _, hdump, ?_, EpsonSpec.valueAt_image hrange,
    restoreEepromUpdates_image hrange, ?_, fun _ _ ↦ EpsonSpec.mem_updates_iff,
    validateEepromUpdates_eq_ok.2 hvalid, hstored, ?_⟩
  · rw [EpsonSpec.image, List.length_map, EpsonSpec.length_addresses hrange, EpsonSpec.imageLength]
  · rw [List.map_map, show Prod.fst ∘ (fun address ↦ (address, memory address)) = id from rfl,
      List.map_id]
    exact EpsonSpec.pairwise_addresses
  · intro C _ device originals atomic c c' hwrite address hlow hhigh
    -- with the originals given, an atomic write has nothing to look up
    rcases EepromDevice.writeEepromWithOriginals_cases hwrite with ⟨_, hmissing, -⟩ | ⟨-, hloop⟩
    · cases hmissing
    · rw [device.memory_of_writeUpdates hloop, hstored _ address hlow hhigh]

end Dump

/-- A printer with a full memory of 64 KiB. -/
theorem SimulatedPrinter.dump_restore_of_full_range :
    letI := CharTables.ascii
    let spec : EpsonSpec := { EpsonSpec.c90 with readAddressWidth := .two, memoryHigh := 0xffff }
    let p : Printer := ⟨spec, fun a ↦ a.toUInt8 + 1, .v20, 2, 0x100, 0x100, 0, by decide, by decide,
      by decide⟩
    let printer : SimulatedPrinter p := ⟨.idle, [], 1, 0, by decide, by decide⟩
    ∃ session image session' updates,
      EpsonD4Session.connectRecoverable 65536 printer p.spec = .ok session ∧
      EpsonD4Session.dumpEeprom 65536 session = (.ok image, session') ∧
      image.bytes.length = 65536 ∧ image.valueAt 0xffff = some 0x00 ∧
      restoreEepromUpdates spec image.bytes = .ok updates ∧
      validateEepromUpdates spec updates = .ok () := by
  let _ := CharTables.ascii
  intro spec p printer
  have hidle : (SimulatedPrinter.peer p).stage printer = .idle := rfl
  obtain ⟨session, hconnect, hservice⟩ := EpsonD4Session.connectRecoverable_ok hidle rfl
    (le_refl 65536)
  obtain ⟨hready, hspec⟩ := (inService_iff le_rfl).1 hservice
  have hrange : p.spec.memoryLow ≤ p.spec.memoryHigh := by decide
  have hwidth : ∀ address, p.spec.Contains address →
      ∃ payload, encodeAddress p.spec.readAddressWidth address = .ok payload :=
    fun address _ ↦ ⟨_, rfl⟩
  obtain ⟨⟨image, session', updates, hdump, hlength, hvalue, hrestore, -, -, hvalid, -⟩, -⟩ :=
    ((SimulatedPrinter.peer p).faithful le_rfl).dump_restore_inverse hready hspec hrange hwidth
  exact ⟨session, image, session', updates, hconnect, hdump, hlength, hvalue 0xffff, hrestore,
    hvalid⟩

end Reink
