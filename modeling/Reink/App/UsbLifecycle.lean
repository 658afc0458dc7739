import Reink.App.UsbSession
import Reink.Usb.Transport

/-!
# The driver over a whole session

From opening the interface to the last close. A session in between does not touch the interface, so
the driver that opening has detached is given back by the close that follows it, or by the next one.
-/

namespace Reink

/-! ### Closing -/

section Close

variable {H : Type} [UsbHandle H]

/-- A close without an error has given back what was owed. -/
theorem ReadOnlyUsbTransport.detached_of_close_ok {transport : ReadOnlyUsbTransport} {w : UsbRun H}
    (h : (transport.close w).1 = .ok ()) :
    (transport.close w).2.1.detachedKernelDriver = false := by
  rw [close_snd]
  unfold close at h
  rcases hrelease : releaseClaimed transport w with ⟨release, transport', w'⟩
  rcases hreattach : reattachDetached transport' w' with ⟨reattach, transport'', w''⟩
  simp only [hrelease, hreattach] at h ⊢
  have hnone : reattach = none := by
    rcases release with _ | release <;> rcases reattach with _ | reattach <;>
      first | rfl | cases h
  rw [hnone, reattachDetached] at hreattach
  split at hreattach
  case isTrue =>
    split at hreattach <;> cases hreattach
    rfl
  case isFalse hdetached =>
    cases hreattach
    simpa using hdetached

/-- **Opening and closing**, any number of times. What is owed at last has been refused by every
close, the last one included. -/
theorem closes_handsBack {selected : Except UsbOpenError UInt8} {opened : Except UsbError Unit}
    {handoff : UsbDriverHandoff} {handle : H} {transport : ReadOnlyUsbTransport} {w : UsbRun H}
    (h : openDeviceWithPolicy selected opened handoff ⟨handle, []⟩ = (.ok transport, w))
    {v : UsbRun H} (hcalls : v.calls = w.calls) (n : Nat) :
    HandoffSafe handoff (closes (n + 1) transport v).2.calls ∧
      (owed (closes (n + 1) transport v).2.calls = true →
        (closes n transport v).1.detachedKernelDriver = true ∧
          ∃ before error, (closes (n + 1) transport v).2.calls =
            (closes n transport v).2.calls ++ before ++ [.attach (.error error)]) := by
  obtain ⟨⟨interface, htrace⟩, hstart⟩ := openDeviceWithPolicy_ok h
  obtain ⟨closed, hclosed, hinv⟩ := closes_inv hstart hcalls n
  obtain ⟨new, hnew, hinv', -⟩ := close_inv hinv hclosed
  have hlast : (closes (n + 1) transport v).2.calls = w.calls ++ (closed ++ new) := hnew
  refine ⟨hlast ▸ htrace.handoffSafe_append hinv', fun howed ↦ ?_⟩
  obtain ⟨hdetached, before, error, hattach⟩ := hinv.close_of_owed hclosed howed
  exact ⟨hdetached, before, error, hclosed ▸ hattach⟩

/-- The transport knows at any time whether it owes a driver. -/
theorem owed_closes {selected : Except UsbOpenError UInt8} {opened : Except UsbError Unit}
    {handoff : UsbDriverHandoff} {handle : H} {transport : ReadOnlyUsbTransport} {w : UsbRun H}
    (h : openDeviceWithPolicy selected opened handoff ⟨handle, []⟩ = (.ok transport, w))
    {v : UsbRun H} (hcalls : v.calls = w.calls) (n : Nat) :
    owed (closes n transport v).2.calls = (closes n transport v).1.detachedKernelDriver := by
  obtain ⟨closed, hclosed, hinv⟩ := closes_inv (openDeviceWithPolicy_ok h).2 hcalls n
  rw [hclosed]
  exact hinv.owed_eq

/-- What the transport knows of the driver when it is opened. -/
theorem driverHandoff_of_open {selected : Except UsbOpenError UInt8} {opened : Except UsbError Unit}
    {handoff : UsbDriverHandoff} {handle : H} {transport : ReadOnlyUsbTransport} {w : UsbRun H}
    (h : openDeviceWithPolicy selected opened handoff ⟨handle, []⟩ = (.ok transport, w)) :
    transport.driverHandoff =
      (UsbDriverHandoffOutcome.ofPolicy handoff).withDetached transport.detachedKernelDriver := by
  unfold openDeviceWithPolicy at h
  split at h <;> try cases h
  split at h <;> cases h
  rfl

/-- Closes do not change what was requested, nor whether a driver was detached. -/
theorem driverHandoff_closes (n : Nat) (transport : ReadOnlyUsbTransport) (w : UsbRun H) :
    (closes n transport w).1.driverHandoff.requested = transport.driverHandoff.requested ∧
      (closes n transport w).1.driverHandoff.detached = transport.driverHandoff.detached := by
  induction n with
  | zero => exact ⟨rfl, rfl⟩
  | succ n ih =>
    have hreattach : ∀ (t : ReadOnlyUsbTransport) (v : UsbRun H),
        (reattachDetached t v).2.1.driverHandoff.requested = t.driverHandoff.requested ∧
          (reattachDetached t v).2.1.driverHandoff.detached = t.driverHandoff.detached := by
      intro t v
      unfold reattachDetached UsbDriverHandoffOutcome.recordReattach
      split
      · split <;> split <;> exact ⟨rfl, rfl⟩
      · exact ⟨rfl, rfl⟩
    have hrelease : ∀ (t : ReadOnlyUsbTransport) (v : UsbRun H),
        (releaseClaimed t v).2.1.driverHandoff = t.driverHandoff := by
      intro t v
      unfold releaseClaimed
      split
      · dsimp only
        split <;> rfl
      · rfl
    show ((closes n transport w).1.close (closes n transport w).2).2.1.driverHandoff.requested = _ ∧
      ((closes n transport w).1.close (closes n transport w).2).2.1.driverHandoff.detached = _
    rw [close_snd, (hreattach _ _).1, (hreattach _ _).2, hrelease]
    exact ih

/-- **The report on the driver is true** after any number of closes. -/
theorem driverHandoff_reports {selected : Except UsbOpenError UInt8} {opened : Except UsbError Unit}
    {handoff : UsbDriverHandoff} {handle : H} {transport : ReadOnlyUsbTransport} {w : UsbRun H}
    (h : openDeviceWithPolicy selected opened handoff ⟨handle, []⟩ = (.ok transport, w))
    {v : UsbRun H} (hcalls : v.calls = w.calls) (n : Nat) :
    (closes n transport v).1.driverHandoff.requested = decide (handoff = .temporarilyDetach) ∧
      ((closes n transport v).1.driverHandoff.detached = true ↔
        .detach (.ok ()) ∈ (closes n transport v).2.calls) ∧
      ((closes n transport v).1.driverHandoff.reattached = some true ↔
        .attach (.ok ()) ∈ (closes n transport v).2.calls) := by
  obtain ⟨⟨interface, htrace⟩, hstart⟩ := openDeviceWithPolicy_ok h
  obtain ⟨closed, hclosed, hinv⟩ := closes_inv hstart hcalls n
  obtain ⟨hrequested, hdetached⟩ := driverHandoff_closes n transport v
  rw [driverHandoff_of_open h] at hrequested hdetached
  refine ⟨hrequested, ?_, ?_⟩
  · rw [hdetached, hclosed, List.mem_append, or_iff_left (hinv.detach_not_mem _)]
    show transport.detachedKernelDriver = true ↔ _
    rw [← htrace.owed_eq]
    exact ⟨detach_mem_of_owed, fun hmem ↦ owed_of_detach_mem hmem (htrace.attach_not_mem _)⟩
  · rw [hinv.reattached_iff, hclosed, List.mem_append, or_iff_right (htrace.attach_not_mem _)]

end Close

/-! ### Sessions -/

section Sessions

variable {H F α : Type} [BulkHandle H] [FileSystem F] [CharTables] {bound : Nat} {spec : EpsonSpec}
  {operation : SessionOperation α} {files : F} {handoff : UsbDriverHandoff}

/-- Wherever it stands, a session has left the interface and the driver alone. -/
theorem ClaimedTransport.claims_of_sessionStand (claimed : ClaimedTransport H)
    (recordTraffic : Bool) (bound : Nat) (spec : EpsonSpec) (operation : SessionOperation α)
    (files : F) :
    (sessionStand bound (RecordingTransport.newWithRecording claimed recordTraffic) spec operation
      files).1.state.target.inner.Claims claimed.transport claimed.run.calls := by
  refine sessionStand_keeps bound (I := fun recording : RecordingTransport (ClaimedTransport H) ↦
    recording.inner.Claims claimed.transport claimed.run.calls) ?_ ?_ ⟨rfl, rfl⟩
  · intro data recording h
    rw [RecordingTransport.inner_writeAll]
    exact h.writeAll data
  · intro size recording h
    rw [RecordingTransport.inner_read]
    exact h.read size

theorem ClaimedTransport.claims_of_runSession {claimed : ClaimedTransport H} {recordTraffic : Bool}
    {last : SessionEnd (RecordingTransport (ClaimedTransport H)) F α}
    (hrun : runSession bound (RecordingTransport.newWithRecording claimed recordTraffic) spec
      operation files = .ok last) :
    last.target.inner.Claims claimed.transport claimed.run.calls :=
  (runSession_stand hrun).1 ▸
    claimed.claims_of_sessionStand recordTraffic bound spec operation files

end Sessions

namespace ClaimedTransport

variable {H : Type} [BulkHandle H] {selector : UsbInterfaceSelector}
  {inputEndpoint outputEndpoint : UInt8} {selected : Except UsbOpenError UInt8}
  {opened : Except UsbError Unit} {handoff : UsbDriverHandoff} {handle : H} {run : UsbRun H}

/-- A close without an error is one of the interface and of the driver. -/
theorem close_ok {claimed closed : ClaimedTransport H}
    (h : UsbTransport.close claimed = (.ok (), closed)) :
    (claimed.transport.close claimed.run).1 = .ok () := by
  have hresult : Except.mapError (·.display (BulkHandle.errorText H) claimed.selector)
      (claimed.transport.close claimed.run).1 = .ok () := congrArg Prod.fst h
  rcases hclose : (claimed.transport.close claimed.run).1 with error | ⟨⟩
  · rw [hclose] at hresult
    cases hresult
  · rfl

theorem open_of_openWithPolicy_ok {claimed : ClaimedTransport H}
    (h : openWithPolicy selector inputEndpoint outputEndpoint selected opened handoff handle =
      (.ok claimed, run)) :
    openDeviceWithPolicy selected opened handoff ⟨handle, []⟩ =
      (.ok claimed.transport, claimed.run) := by
  unfold openWithPolicy at h
  split at h <;> cases h
  assumption

/-- An open that failed owes nothing, or says that it could not give the driver back. -/
theorem handsBack_of_openWithPolicy_error {error : String}
    (h : openWithPolicy selector inputEndpoint outputEndpoint selected opened handoff handle =
      (.error error, run)) :
    HandoffSafe handoff run.calls ∧
      (owed run.calls = true → ∃ error, .attach (.error error) ∈ run.calls) := by
  unfold openWithPolicy at h
  split at h <;> cases h
  case h_2 hopen =>
    rcases openDeviceWithPolicy_error hopen with hnone | ⟨interface, htrace⟩
    · rw [hnone]
      exact ⟨⟨attachesOwed_of_not_mem (by simp), fun _ ↦ by simp, Nat.zero_le 1⟩,
        fun howed ↦ absurd howed Bool.false_ne_true⟩
    · refine ⟨htrace.handoffSafe, fun howed ↦ ?_⟩
      obtain ⟨_, reattach, -, hmem⟩ := htrace.reported_of_owed howed
      exact ⟨reattach, hmem⟩

end ClaimedTransport

/-! ### A simulated device -/

/-- A device whose endpoints lead to a transport, with a driver that may not come back. -/
structure SimulatedDevice (T : Type) where
  target : T
  driverActive : Bool
  attaches : Bool

instance {T : Type} [ByteTransport T] : BulkHandle (SimulatedDevice T) where
  kernelDriverActive _ device := (.ok device.driverActive, device)
  detachKernelDriver _ device := (.ok (), { device with driverActive := false })
  attachKernelDriver _ device :=
    if device.attaches then (.ok (), { device with driverActive := true })
    else (.error .noDevice, device)
  claimInterface _ device := (.ok (), device)
  releaseInterface _ device := (.ok (), device)
  writeBulk _ data device :=
    let (result, target) := ByteTransport.writeAll data device.target
    ((result.map fun () ↦ data.length).mapError fun _ ↦ .io, { device with target := target })
  readBulk _ size device :=
    let (result, target) := ByteTransport.read size device.target
    (result.mapError fun _ ↦ .io, { device with target := target })
  length_le_of_readBulk := by
    intro _ size device device' bytes h
    rcases hread : ByteTransport.read size device.target with ⟨error | bytes', target⟩ <;>
      simp only [hread] at h <;> cases h
    exact ByteTransport.length_le_of_read hread
  errorText _ := "Input/Output Error"

/-- The simulated C90 on USB. -/
def SimulatedDevice.c90 (attaches : Bool) : SimulatedDevice (SimulatedPrinter .c90) :=
  ⟨.c90, true, attaches⟩

end Reink
