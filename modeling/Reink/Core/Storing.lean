import Reink.Core.Faithful
import Reink.Core.IdentityReply
import Reink.Library.Overwrite

/-!
# Writing over a channel that stores

A channel stores if, as long as it is ready, it confirms every write request, and its memory then
holds the value. Over such a channel that is also faithful to its memory a write of several values
succeeds, each of them read back, and nothing else changes.
-/

namespace Reink

open EpsonController
open Program (bind_run_ok)

/-- A control channel that shows a memory, stores in it, and tells which printer it is. -/
structure StoringChannel (spec : EpsonSpec) (C : Type) [ControlChannel C] extends
    FaithfulChannel spec C where
  identity : PrinterIdentity
  /-- A write request is confirmed, and its value stored. -/
  stores : ∀ {address : UInt16} {value : UInt8} {request : List UInt8} {c : C}, Ready c →
    encodeEepromWrite spec address value = .ok request →
      ∃ response c', ControlChannel.request request c = (.ok response, c') ∧
        Text.contains (Text.ascii ":OK;") response = true ∧
        Ready c' ∧ memory c' = Function.update (memory c) address value
  /-- The request for the identity is answered by it. -/
  identifies : ∀ {request : List UInt8} {c : C}, Ready c →
    encodeCommand (Text.ascii "di") [1] = .ok request →
      ∃ response c', ControlChannel.request request c = (.ok response, c') ∧
        identityOfReply response = .ok identity ∧ Ready c' ∧ memory c' = memory c

/-- Every value can be asked to be written to the address. -/
def EpsonSpec.CanWrite (spec : EpsonSpec) (address : UInt16) : Prop :=
  ∀ value, ∃ request, encodeEepromWrite spec address value = .ok request

/-- With a write key the width of a write request decides. -/
theorem EpsonSpec.canWrite_of_key {spec : EpsonSpec} {writeKey : List UInt8} {address : UInt16}
    (hkey : spec.writeKey = some writeKey) (hlength : writeKey.length ≤ 8)
    (haddress : spec.writeAddressWidth = .one → address ≤ 0xff) : spec.CanWrite address := by
  intro value
  obtain ⟨payload, hpayload, hshort⟩ : ∃ payload,
      encodeAddress spec.writeAddressWidth address = .ok payload ∧ payload.length ≤ 2 := by
    rcases hwidth : spec.writeAddressWidth with _ | _
    · exact ⟨_, if_neg (UInt16.not_lt.2 (haddress hwidth)), by simp⟩
    · exact ⟨_, rfl, by rw [UInt16.length_toLeBytes]⟩
  have hfits : (spec.readKey.toLeBytes ++ [0x42, ~~~0x42, checkByte 0x42] ++
      (payload ++ [value] ++ writeKey)).length < 65536 := by
    simp only [List.length_append, List.length_cons, List.length_nil, UInt16.length_toLeBytes]
    omega
  exact ⟨_, encodeEepromWrite_eq_ok.2 ⟨writeKey, payload, hkey, hpayload, if_pos hfits⟩⟩

namespace StoringChannel

variable {spec : EpsonSpec} {C : Type} [ControlChannel C] (storing : StoringChannel spec C) {c : C}

/-- The identity is asked for and told. -/
theorem requestIdentity_ok (hready : storing.Ready c) :
    ∃ response c', requestIdentity c = (.ok response, c') ∧
      identityOfReply response = .ok storing.identity ∧ storing.Ready c' ∧
      storing.memory c' = storing.memory c := by
  obtain ⟨response, c', hrequest, hreply, hready', hmemory⟩ := storing.identifies hready rfl
  exact ⟨response, c', Program.mapErr_eq_ok.2 hrequest, hreply, hready', hmemory⟩

variable [CharTables]

/-- **One value is written** and, if that is asked for, read back. -/
theorem writeEepromAddress_ok {address : UInt16} (value : UInt8) (verifyReadBack : Bool)
    (hready : storing.Ready c) (hread : spec.CanRead address) (hwrite : spec.CanWrite address) :
    ∃ c', writeEepromAddress spec address value verifyReadBack c = (.ok (), c') ∧
      storing.Ready c' ∧
      storing.memory c' = Function.update (storing.memory c) address value := by
  obtain ⟨request, hencode⟩ := hwrite value
  obtain ⟨response, c₁, hrequest, hok, hready₁, hmemory₁⟩ := storing.stores hready hencode
  have hwritten : writeEepromAddress spec address value verifyReadBack c =
      Program.when verifyReadBack (do
        let reply ← readEepromAddress spec address
        Program.rejectIf (reply.value ≠ value) (.verificationFailed address value reply.value))
        c₁ := by
    rw [writeEepromAddress, hencode, Program.ofExcept_ok, Program.pure_bind,
      bind_run_ok (Program.mapErr_eq_ok.2 hrequest), Program.rejectIf_neg (not_not.2 hok),
      Program.pure_bind]
  rw [hwritten]
  cases verifyReadBack with
  | false => exact ⟨c₁, rfl, hready₁, hmemory₁⟩
  | true =>
    obtain ⟨c₂, hreadBack, hready₂, hmemory₂⟩ :=
      storing.toFaithfulChannel.readEepromAddress_ok hready₁ hread
    refine ⟨c₂, ?_, hready₂, hmemory₂.trans hmemory₁⟩
    rw [Program.when, if_pos rfl, bind_run_ok hreadBack, hmemory₁, Function.update_self,
      Program.rejectIf_neg (by simp)]
    rfl

/-- **The write loop stores every update.** By induction on the updates. -/
theorem writeUpdates_ok (originals : Option (List (UInt16 × UInt8))) (verifyReadBack : Bool)
    (attempted : List UInt16) {updates : List (UInt16 × UInt8)} (hready : storing.Ready c)
    (hupdates : ∀ update ∈ updates, spec.CanRead update.1 ∧ spec.CanWrite update.1) :
    ∃ c', writeUpdates spec originals verifyReadBack attempted updates c = (.ok (), c') ∧
      storing.Ready c' ∧ storing.memory c' = overwrite (storing.memory c) updates := by
  induction updates generalizing c attempted with
  | nil => exact ⟨c, rfl, hready, rfl⟩
  | cons update updates ih =>
    obtain ⟨⟨hread, hwrite⟩, hrest⟩ := List.forall_mem_cons.1 hupdates
    obtain ⟨c₁, hwritten, hready₁, hmemory₁⟩ :=
      storing.writeEepromAddress_ok update.2 verifyReadBack hready hread hwrite
    obtain ⟨c₂, hloop, hready₂, hmemory₂⟩ :=
      ih (attempted ++ [update.1]) hready₁ hrest
    refine ⟨c₂, ?_, hready₂, ?_⟩
    · rw [writeUpdates, bind_run_ok (Program.attempt_eq_ok.2 hwritten)]
      exact hloop
    · rw [hmemory₂, hmemory₁, overwrite_cons]

/-- **A write of several values succeeds**, with originals for all of them. -/
theorem writeEepromWithOriginals_ok {originals updates : List (UInt16 × UInt8)}
    (options : EepromWriteOptions) (hready : storing.Ready c)
    (horiginals : updates.map Prod.fst ⊆ originals.map Prod.fst)
    (hupdates : ∀ update ∈ updates, spec.CanRead update.1 ∧ spec.CanWrite update.1) :
    ∃ c', writeEepromWithOriginals spec updates (some originals) options c = (.ok (), c') ∧
      storing.Ready c' ∧ storing.memory c' = overwrite (storing.memory c) updates := by
  have hnone : updates.find? (fun update ↦
      !originals.any fun original ↦ original.1 = update.1) = none := by
    refine List.find?_eq_none.2 fun update hmem ↦ ?_
    obtain ⟨original, hmem', hsame⟩ := List.mem_map.1 (horiginals (List.mem_map_of_mem hmem))
    simpa using ⟨original.2, by rw [← hsame]; exact hmem'⟩
  obtain ⟨c', hloop, hafter⟩ :=
    storing.writeUpdates_ok (some originals) options.verifyReadBack [] hready hupdates
  refine ⟨c', ?_, hafter⟩
  rw [writeEepromWithOriginals]
  dsimp only
  rw [hnone]
  exact hloop

end StoringChannel

end Reink
