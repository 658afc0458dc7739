import Mathlib.Data.List.Induction

/-!
# Handing off a kernel driver

Opening a transport may detach the driver of its interface, and closing it, or failing to open it,
attaches the driver again. What the USB library answers to any of the calls is arbitrary.

Whether the transport owes a driver can be read off the calls that were made and what they
answered, `owed`. What opening can do is one of the traces of `ClaimTrace`, and what a close does
is determined by the two flags of the transport. The flags agree with the calls,
`TransportInv`, and everything about a run of closes follows from that.
-/

namespace Reink

/-! ### The library -/

/-- The errors of the USB library. -/
inductive UsbError where
  | io
  | invalidParam
  | access
  | noDevice
  | notFound
  | busy
  | timeout
  | overflow
  | pipe
  | interrupted
  | noMem
  | notSupported
  | badDescriptor
  | other
deriving DecidableEq, Repr

/-- The open device, and the calls on it. -/
class UsbHandle (H : Type) where
  kernelDriverActive : UInt8 → H → Except UsbError Bool × H
  detachKernelDriver : UInt8 → H → Except UsbError Unit × H
  attachKernelDriver : UInt8 → H → Except UsbError Unit × H
  claimInterface : UInt8 → H → Except UsbError Unit × H
  releaseInterface : UInt8 → H → Except UsbError Unit × H

/-- A call and what it answered. -/
inductive UsbCall where
  | active (answer : Except UsbError Bool)
  | detach (answer : Except UsbError Unit)
  | attach (answer : Except UsbError Unit)
  | claim (answer : Except UsbError Unit)
  | release (answer : Except UsbError Unit)

/-- The device, and the calls made on it so far. -/
structure UsbRun (H : Type) where
  handle : H
  calls : List UsbCall

/-- One call. -/
def UsbRun.call {H α : Type} (f : H → Except UsbError α × H)
    (label : Except UsbError α → UsbCall) (w : UsbRun H) : Except UsbError α × UsbRun H :=
  ((f w.handle).1, ⟨(f w.handle).2, w.calls ++ [label (f w.handle).1]⟩)

/-! ### Opening and closing -/

/-- What to do about an active driver. -/
inductive UsbDriverHandoff where
  | refuse
  | temporarilyDetach
deriving DecidableEq, Repr

/-- What was done about it. -/
structure UsbDriverHandoffOutcome where
  requested : Bool
  detached : Bool
  reattached : Option Bool
deriving DecidableEq, Repr

namespace UsbDriverHandoffOutcome

/-- Nothing has been done yet. -/
def ofPolicy (policy : UsbDriverHandoff) : UsbDriverHandoffOutcome :=
  ⟨policy = .temporarilyDetach, false, none⟩

/-- Record whether the driver was detached. -/
def withDetached (outcome : UsbDriverHandoffOutcome) (detached : Bool) : UsbDriverHandoffOutcome :=
  { outcome with detached := detached }

/-- Record whether a detached driver was attached again. -/
def recordReattach (outcome : UsbDriverHandoffOutcome) (succeeded : Bool) :
    UsbDriverHandoffOutcome :=
  if outcome.detached then { outcome with reattached := some succeeded } else outcome

end UsbDriverHandoffOutcome

/-- Why the device could not be opened. -/
inductive UsbOpenError where
  | descriptor (error : UsbError)
  | interfaceNotFound
  | openDevice (error : UsbError)
  | kernelDriverQuery (error : UsbError)
  | kernelDriverActive (interface : UInt8)
  | detachKernelDriver (error : UsbError)
  | claim (error : UsbError)
  | claimAndReattach (claim reattach : UsbError)
  | release (error : UsbError)
  | reattachKernelDriver (error : UsbError)
  | releaseAndReattach (release reattach : UsbOpenError)

/-- What closing needs to know of a transport. -/
structure ReadOnlyUsbTransport where
  interface : UInt8
  claimed : Bool
  detachedKernelDriver : Bool
  driverHandoff : UsbDriverHandoffOutcome

variable {H : Type} [UsbHandle H]

/-- Claims the interface. The driver that was detached for it is attached again if that fails. -/
def claimDetached (interface : UInt8) (detached : Bool) (w : UsbRun H) :
    Except UsbOpenError Bool × UsbRun H :=
  match w.call (UsbHandle.claimInterface interface) .claim with
  | (.ok (), w) => (.ok detached, w)
  | (.error claim, w) =>
    if detached then
      match w.call (UsbHandle.attachKernelDriver interface) .attach with
      | (.ok (), w) => (.error (.claim claim), w)
      | (.error reattach, w) => (.error (.claimAndReattach claim reattach), w)
    else (.error (.claim claim), w)

/-- Claim the interface, and detach its driver where the policy allows it. -/
def claimInterfaceWithPolicy (interface : UInt8) (handoff : UsbDriverHandoff) (w : UsbRun H) :
    Except UsbOpenError Bool × UsbRun H :=
  match w.call (UsbHandle.kernelDriverActive interface) .active with
  | (.ok true, w) =>
    if handoff = .refuse then (.error (.kernelDriverActive interface), w)
    else
      match w.call (UsbHandle.detachKernelDriver interface) .detach with
      | (.ok (), w) => claimDetached interface true w
      | (.error error, w) => (.error (.detachKernelDriver error), w)
  | (.ok false, w) | (.error .notSupported, w) => claimDetached interface false w
  | (.error error, w) => (.error (.kernelDriverQuery error), w)

/-- Opens the device that was selected, or not, with what the library answers to that. -/
def openDeviceWithPolicy (selected : Except UsbOpenError UInt8) (opened : Except UsbError Unit)
    (handoff : UsbDriverHandoff) (w : UsbRun H) :
    Except UsbOpenError ReadOnlyUsbTransport × UsbRun H :=
  match selected, opened with
  | .error error, _ => (.error error, w)
  | .ok _, .error error => (.error (.openDevice error), w)
  | .ok interface, .ok () =>
    match claimInterfaceWithPolicy interface handoff w with
    | (.error error, w) => (.error error, w)
    | (.ok detached, w) =>
      (.ok
        { interface := interface
          claimed := true
          detachedKernelDriver := detached
          driverHandoff := (UsbDriverHandoffOutcome.ofPolicy handoff).withDetached detached }, w)

/-- The interface is released by the first close. -/
def releaseClaimed (transport : ReadOnlyUsbTransport) (w : UsbRun H) :
    Option UsbOpenError × ReadOnlyUsbTransport × UsbRun H :=
  if transport.claimed then
    let transport := { transport with claimed := false }
    match w.call (UsbHandle.releaseInterface transport.interface) .release with
    | (.ok (), w) => (none, transport, w)
    | (.error error, w) => (some (.release error), transport, w)
  else (none, transport, w)

/-- A driver that is detached is attached again. -/
def reattachDetached (transport : ReadOnlyUsbTransport) (w : UsbRun H) :
    Option UsbOpenError × ReadOnlyUsbTransport × UsbRun H :=
  if transport.detachedKernelDriver then
    match w.call (UsbHandle.attachKernelDriver transport.interface) .attach with
    | (.ok (), w) =>
      (none, { transport with
        detachedKernelDriver := false
        driverHandoff := transport.driverHandoff.recordReattach true }, w)
    | (.error error, w) =>
      (some (.reattachKernelDriver error), { transport with
        driverHandoff := transport.driverHandoff.recordReattach false }, w)
  else (none, transport, w)

/-- Attempts both cleanup operations. -/
def ReadOnlyUsbTransport.close (transport : ReadOnlyUsbTransport) (w : UsbRun H) :
    Except UsbOpenError Unit × ReadOnlyUsbTransport × UsbRun H :=
  let (release, transport, w) := releaseClaimed transport w
  let (reattach, transport, w) := reattachDetached transport w
  match release, reattach with
  | none, none => (.ok (), transport, w)
  | some error, none | none, some error => (.error error, transport, w)
  | some release, some reattach => (.error (.releaseAndReattach release reattach), transport, w)

/-- So many closes, one after the other. Dropping the transport is one more, and what a close
returns is not used by the next. -/
def closes : Nat → ReadOnlyUsbTransport → UsbRun H → ReadOnlyUsbTransport × UsbRun H
  | 0, transport, w => (transport, w)
  | n + 1, transport, w => let (transport, w) := closes n transport w; (transport.close w).2

/-! ### What the calls say -/

/-- Whether the transport owes a driver after the call, if it owed one before it or not. -/
def UsbCall.owes : Bool → UsbCall → Bool
  | _, .detach (.ok ()) => true
  | _, .attach (.ok ()) => false
  | owed, _ => owed

/-- A detach has succeeded, and no attach since. -/
def owed (calls : List UsbCall) : Bool := calls.foldl UsbCall.owes false

/-- A driver is attached only when one is owed. -/
def AttachesOwed (calls : List UsbCall) : Prop :=
  ∀ n answer, calls[n]? = some (.attach answer) → owed (calls.take n) = true

section Calls

variable {calls : List UsbCall} {call : UsbCall}

@[simp] theorem owed_snoc : owed (calls ++ [call]) = call.owes (owed calls) := by
  rw [owed, List.foldl_append]
  rfl

theorem attachesOwed_of_not_mem (h : ∀ answer, .attach answer ∉ calls) : AttachesOwed calls :=
  fun _ answer hn ↦ absurd (List.mem_of_getElem? hn) (h answer)

theorem attachesOwed_snoc : AttachesOwed (calls ++ [call]) ↔
    AttachesOwed calls ∧ ∀ answer, call = .attach answer → owed calls = true := by
  constructor
  · refine fun h ↦ ⟨fun n answer hn ↦ ?_, fun answer hcall ↦ ?_⟩
    · have hlt := (List.getElem?_eq_some_iff.1 hn).1
      have howed := h n answer (by rw [List.getElem?_append_left hlt, hn])
      rwa [List.take_append_of_le_length (Nat.le_of_lt hlt)] at howed
    · have howed := h calls.length answer (by rw [List.getElem?_concat_length, hcall])
      rwa [List.take_left] at howed
  · rintro ⟨h, hlast⟩ n answer hn
    rcases Nat.lt_or_ge n calls.length with hlt | hge
    · rw [List.getElem?_append_left hlt] at hn
      rw [List.take_append_of_le_length (Nat.le_of_lt hlt)]
      exact h n answer hn
    · have hlt := (List.getElem?_eq_some_iff.1 hn).1
      rw [List.length_append, List.length_singleton] at hlt
      obtain rfl : n = calls.length := by omega
      rw [List.getElem?_concat_length] at hn
      rw [List.take_left]
      exact hlast answer (Option.some.inj hn)

/-- What is owed has been detached. -/
theorem detach_mem_of_owed (h : owed calls = true) : .detach (.ok ()) ∈ calls := by
  induction calls using List.reverseRecOn with
  | nil => cases h
  | append_singleton calls call ih =>
    rw [owed_snoc] at h
    rw [List.mem_append, List.mem_singleton]
    rcases call with answer | answer | answer | answer | answer
    case detach =>
      rcases answer with error | ⟨⟩
      · exact .inl (ih h)
      · exact .inr rfl
    case attach =>
      rcases answer with error | ⟨⟩
      · exact .inl (ih h)
      · cases h
    all_goals exact .inl (ih h)

/-- What has been detached and not attached again is owed. -/
theorem owed_of_detach_mem (h : .detach (.ok ()) ∈ calls) (hno : .attach (.ok ()) ∉ calls) :
    owed calls = true := by
  induction calls using List.reverseRecOn with
  | nil => exact absurd h List.not_mem_nil
  | append_singleton calls call ih =>
    rw [List.mem_append, List.mem_singleton] at h hno
    rw [not_or] at hno
    rw [owed_snoc]
    rcases call with answer | answer | answer | answer | answer
    case detach =>
      rcases answer with error | ⟨⟩
      · exact ih (h.resolve_right (by simp)) hno.1
      · rfl
    case attach =>
      rcases answer with error | ⟨⟩
      · exact ih (h.resolve_right (by simp)) hno.1
      · exact absurd rfl hno.2
    all_goals exact ih (h.resolve_right (by simp)) hno.1

end Calls

/-! ### What opening can do -/

/-- The calls that claiming an interface can make, and what comes of them. -/
inductive ClaimTrace (interface : UInt8) :
    UsbDriverHandoff → List UsbCall → Except UsbOpenError Bool → Prop where
  | refused : ClaimTrace interface .refuse [.active (.ok true)]
      (.error (.kernelDriverActive interface))
  | queryFailed (handoff) (error) : ClaimTrace interface handoff [.active (.error error)]
      (.error (.kernelDriverQuery error))
  | detachFailed (error) : ClaimTrace interface .temporarilyDetach
      [.active (.ok true), .detach (.error error)] (.error (.detachKernelDriver error))
  | claimed (handoff) (answer) : ClaimTrace interface handoff
      [.active answer, .claim (.ok ())] (.ok false)
  | claimedDetached : ClaimTrace interface .temporarilyDetach
      [.active (.ok true), .detach (.ok ()), .claim (.ok ())] (.ok true)
  | claimFailed (handoff) (answer) (claim) : ClaimTrace interface handoff
      [.active answer, .claim (.error claim)] (.error (.claim claim))
  | reattached (claim) : ClaimTrace interface .temporarilyDetach
      [.active (.ok true), .detach (.ok ()), .claim (.error claim), .attach (.ok ())]
      (.error (.claim claim))
  | notReattached (claim reattach) : ClaimTrace interface .temporarilyDetach
      [.active (.ok true), .detach (.ok ()), .claim (.error claim), .attach (.error reattach)]
      (.error (.claimAndReattach claim reattach))

/-- Claiming with a detached driver ends a trace as it goes on from the detach. -/
theorem claimDetached_true (interface : UInt8) (handle : H) :
    ClaimTrace interface .temporarilyDetach
      (claimDetached interface true
        ⟨handle, [.active (.ok true), .detach (.ok ())]⟩).2.calls
      (claimDetached interface true
        ⟨handle, [.active (.ok true), .detach (.ok ())]⟩).1 := by
  rcases hclaim : UsbHandle.claimInterface interface handle with ⟨claim | ⟨⟩, handle₁⟩
  case ok =>
    simp only [claimDetached, UsbRun.call, hclaim]
    exact .claimedDetached
  rcases hattach : UsbHandle.attachKernelDriver interface handle₁ with ⟨reattach | ⟨⟩, handle₂⟩
  · simp only [claimDetached, UsbRun.call, hclaim, hattach]
    exact .notReattached claim reattach
  · simp only [claimDetached, UsbRun.call, hclaim, hattach]
    exact .reattached claim

theorem claimDetached_false (interface : UInt8) (handoff : UsbDriverHandoff)
    (answer : Except UsbError Bool) (handle : H) :
    ClaimTrace interface handoff
      (claimDetached interface false ⟨handle, [.active answer]⟩).2.calls
      (claimDetached interface false ⟨handle, [.active answer]⟩).1 := by
  rcases hclaim : UsbHandle.claimInterface interface handle with ⟨claim | ⟨⟩, handle₁⟩
  · simp only [claimDetached, UsbRun.call, hclaim]
    exact .claimFailed handoff answer claim
  · simp only [claimDetached, UsbRun.call, hclaim]
    exact .claimed handoff answer

theorem claimInterfaceWithPolicy_trace (interface : UInt8) (handoff : UsbDriverHandoff)
    (handle : H) : ClaimTrace interface handoff
      (claimInterfaceWithPolicy interface handoff ⟨handle, []⟩).2.calls
      (claimInterfaceWithPolicy interface handoff ⟨handle, []⟩).1 := by
  rcases hactive : UsbHandle.kernelDriverActive interface handle with ⟨error | ⟨_ | _⟩, handle₁⟩
  case error =>
    by_cases hsupported : error = .notSupported
    · subst hsupported
      simp only [claimInterfaceWithPolicy, UsbRun.call, hactive]
      exact claimDetached_false interface handoff _ handle₁
    · simp only [claimInterfaceWithPolicy, UsbRun.call, hactive]
      exact .queryFailed handoff error
  case ok.false =>
    simp only [claimInterfaceWithPolicy, UsbRun.call, hactive]
    exact claimDetached_false interface handoff _ handle₁
  case ok.true =>
    cases handoff with
    | refuse =>
      simp only [claimInterfaceWithPolicy, UsbRun.call, hactive]
      exact .refused
    | temporarilyDetach =>
      rcases hdetach : UsbHandle.detachKernelDriver interface handle₁ with ⟨error | ⟨⟩, handle₂⟩
      · simp only [claimInterfaceWithPolicy, UsbRun.call, hactive, hdetach]
        exact .detachFailed error
      · simp only [claimInterfaceWithPolicy, UsbRun.call, hactive, hdetach]
        exact claimDetached_true interface handle₂

namespace ClaimTrace

variable {interface : UInt8} {handoff : UsbDriverHandoff} {calls : List UsbCall}
variable {result : Except UsbOpenError Bool}

theorem attachesOwed (h : ClaimTrace interface handoff calls result) : AttachesOwed calls := by
  cases h with
  | reattached claim | notReattached claim reattach =>
    show AttachesOwed ([_, _, _] ++ [_])
    exact attachesOwed_snoc.2 ⟨attachesOwed_of_not_mem (by simp), fun _ _ ↦ rfl⟩
  | _ => exact attachesOwed_of_not_mem (by simp)

/-- Nothing is detached where that is refused. -/
theorem detach_not_mem (h : ClaimTrace interface .refuse calls result)
    (answer : Except UsbError Unit) : .detach answer ∉ calls := by
  cases h <;> simp

/-- A claim that fails leaves no driver detached but where it says so. -/
theorem reported_of_owed {error : UsbOpenError}
    (h : ClaimTrace interface handoff calls (.error error))
    (howed : owed calls = true) : ∃ claim reattach, error = .claimAndReattach claim reattach ∧
      .attach (.error reattach) ∈ calls := by
  cases h with
  | notReattached claim reattach => exact ⟨claim, reattach, rfl, by simp⟩
  | _ => cases howed

/-- A claim that succeeds reports whether a driver is detached. -/
theorem owed_eq {detached : Bool} (h : ClaimTrace interface handoff calls (.ok detached)) :
    owed calls = detached := by
  cases h <;> rfl

/-- Nothing is attached by a claim that succeeds. -/
theorem attach_not_mem {detached : Bool} (h : ClaimTrace interface handoff calls (.ok detached))
    (answer : Except UsbError Unit) : .attach answer ∉ calls := by
  cases h <;> simp

end ClaimTrace

/-! ### What closing keeps -/

/-- The call releases the interface. -/
def UsbCall.isRelease : UsbCall → Bool
  | .release _ => true
  | _ => false

/-- The flags and the outcome of the transport agree with the calls that opened it and with those
of its closes. -/
structure TransportInv (opened : List UsbCall) (transport : ReadOnlyUsbTransport)
    (closed : List UsbCall) : Prop where
  owed_eq : owed (opened ++ closed) = transport.detachedKernelDriver
  attachesOwed : AttachesOwed (opened ++ closed)
  detached : transport.detachedKernelDriver = true →
    transport.driverHandoff.detached = true ∧ .attach (.ok ()) ∉ closed
  reattached_iff : transport.driverHandoff.reattached = some true ↔ .attach (.ok ()) ∈ closed
  released : closed.countP UsbCall.isRelease + transport.claimed.toNat = 1
  detach_not_mem : ∀ answer, .detach answer ∉ closed

namespace TransportInv

variable {opened closed : List UsbCall} {transport : ReadOnlyUsbTransport}

theorem release (h : TransportInv opened transport closed) (hclaimed : transport.claimed = true)
    (answer : Except UsbError Unit) :
    TransportInv opened { transport with claimed := false } (closed ++ [.release answer]) where
  owed_eq := by
    rw [← List.append_assoc, owed_snoc]
    exact h.owed_eq
  attachesOwed := by
    rw [← List.append_assoc, attachesOwed_snoc]
    exact ⟨h.attachesOwed, by simp⟩
  detached := fun hdetached ↦ ⟨(h.detached hdetached).1, by simp [(h.detached hdetached).2]⟩
  reattached_iff := by simp [h.reattached_iff]
  released := by
    have hreleased := h.released
    rw [hclaimed] at hreleased
    simpa [UsbCall.isRelease] using hreleased
  detach_not_mem := by simp [h.detach_not_mem]

theorem reattach_ok (h : TransportInv opened transport closed)
    (hdetached : transport.detachedKernelDriver = true) :
    TransportInv opened { transport with
      detachedKernelDriver := false
      driverHandoff := transport.driverHandoff.recordReattach true }
      (closed ++ [.attach (.ok ())]) where
  owed_eq := by
    rw [← List.append_assoc, owed_snoc]
    rfl
  attachesOwed := by
    rw [← List.append_assoc, attachesOwed_snoc]
    exact ⟨h.attachesOwed, fun _ _ ↦ h.owed_eq.trans hdetached⟩
  detached := fun hfalse ↦ absurd hfalse Bool.false_ne_true
  reattached_iff := by
    simp [UsbDriverHandoffOutcome.recordReattach, (h.detached hdetached).1]
  released := by simpa [UsbCall.isRelease] using h.released
  detach_not_mem := by simp [h.detach_not_mem]

theorem reattach_error (h : TransportInv opened transport closed)
    (hdetached : transport.detachedKernelDriver = true) (error : UsbError) :
    TransportInv opened { transport with
      driverHandoff := transport.driverHandoff.recordReattach false }
      (closed ++ [.attach (.error error)]) where
  owed_eq := by
    rw [← List.append_assoc, owed_snoc]
    exact h.owed_eq
  attachesOwed := by
    rw [← List.append_assoc, attachesOwed_snoc]
    exact ⟨h.attachesOwed, fun _ _ ↦ h.owed_eq.trans hdetached⟩
  detached := fun _ ↦ by
    simp [UsbDriverHandoffOutcome.recordReattach, (h.detached hdetached).1,
      (h.detached hdetached).2]
  reattached_iff := by
    simp [UsbDriverHandoffOutcome.recordReattach, (h.detached hdetached).1,
      (h.detached hdetached).2]
  released := by simpa [UsbCall.isRelease] using h.released
  detach_not_mem := by simp [h.detach_not_mem]

end TransportInv

section Close

variable {opened closed : List UsbCall} {transport : ReadOnlyUsbTransport} {w : UsbRun H}

theorem releaseClaimed_inv (h : TransportInv opened transport closed)
    (hcalls : w.calls = opened ++ closed) :
    ∃ new, (releaseClaimed transport w).2.2.calls = opened ++ (closed ++ new) ∧
      TransportInv opened (releaseClaimed transport w).2.1 (closed ++ new) ∧
      (releaseClaimed transport w).2.1.detachedKernelDriver = transport.detachedKernelDriver := by
  by_cases hclaimed : transport.claimed = true
  case neg =>
    rw [releaseClaimed, if_neg hclaimed]
    refine ⟨[], ?_, ?_, rfl⟩
    · rw [List.append_nil, hcalls]
    · rwa [List.append_nil]
  rw [releaseClaimed, if_pos hclaimed]
  rcases hrelease : UsbHandle.releaseInterface transport.interface w.handle with
    ⟨error | ⟨⟩, handle⟩
  all_goals
    simp only [UsbRun.call, hrelease, hcalls, List.append_assoc]
    exact ⟨_, rfl, h.release hclaimed _, trivial⟩

/-- A driver that is owed is attached, or that is tried. -/
theorem reattachDetached_inv (h : TransportInv opened transport closed)
    (hcalls : w.calls = opened ++ closed) :
    ∃ new, (reattachDetached transport w).2.2.calls = opened ++ (closed ++ new) ∧
      TransportInv opened (reattachDetached transport w).2.1 (closed ++ new) ∧
      (transport.detachedKernelDriver = true → ∃ answer, new = [.attach answer]) := by
  by_cases hdetached : transport.detachedKernelDriver = true
  case neg =>
    rw [reattachDetached, if_neg hdetached]
    refine ⟨[], ?_, ?_, fun h ↦ absurd h hdetached⟩
    · rw [List.append_nil, hcalls]
    · rwa [List.append_nil]
  rw [reattachDetached, if_pos hdetached]
  rcases hattach : UsbHandle.attachKernelDriver transport.interface w.handle with
    ⟨error | ⟨⟩, handle⟩
  case error =>
    simp only [UsbRun.call, hattach, hcalls, List.append_assoc]
    exact ⟨_, rfl, h.reattach_error hdetached error, fun _ ↦ ⟨_, rfl⟩⟩
  case ok =>
    simp only [UsbRun.call, hattach, hcalls, List.append_assoc]
    exact ⟨_, rfl, h.reattach_ok hdetached, fun _ ↦ ⟨_, rfl⟩⟩

theorem close_snd : (transport.close w).2 =
    (reattachDetached (releaseClaimed transport w).2.1 (releaseClaimed transport w).2.2).2 := by
  unfold ReadOnlyUsbTransport.close
  rcases releaseClaimed transport w with ⟨release | release, transport', w'⟩
  all_goals
    rcases hreattach : reattachDetached transport' w' with ⟨reattach | reattach, transport'', w''⟩
    all_goals simp only [hreattach]

theorem close_inv (h : TransportInv opened transport closed)
    (hcalls : w.calls = opened ++ closed) :
    ∃ new, (transport.close w).2.2.calls = opened ++ (closed ++ new) ∧
      TransportInv opened (transport.close w).2.1 (closed ++ new) ∧
      (transport.detachedKernelDriver = true →
        ∃ before answer, new = before ++ [.attach answer]) := by
  rw [close_snd]
  obtain ⟨before, hcalls', hinv, hsame⟩ := releaseClaimed_inv h hcalls
  obtain ⟨new, hcalls'', hinv', hretry⟩ := reattachDetached_inv hinv hcalls'
  rw [List.append_assoc] at hcalls'' hinv'
  refine ⟨before ++ new, hcalls'', hinv', fun hdetached ↦ ?_⟩
  obtain ⟨answer, rfl⟩ := hretry (hsame.trans hdetached)
  exact ⟨before, answer, rfl⟩

/-- A driver that is owed after a close has been refused by it. -/
theorem TransportInv.close_of_owed {opened closed : List UsbCall} {transport : ReadOnlyUsbTransport}
    {w : UsbRun H} (h : TransportInv opened transport closed) (hcalls : w.calls = opened ++ closed)
    (howed : owed (transport.close w).2.2.calls = true) :
    transport.detachedKernelDriver = true ∧
      ∃ before error, (transport.close w).2.2.calls =
        opened ++ closed ++ before ++ [.attach (.error error)] := by
  obtain ⟨new, hcalls', hinv, hretry⟩ := close_inv h hcalls
  have hdetached : transport.detachedKernelDriver = true := by
    by_contra hnot
    -- without a driver to give back there is no call that could detach one
    have hsame : (transport.close w).2.1.detachedKernelDriver = false := by
      rw [close_snd, reattachDetached]
      have hkept : (releaseClaimed transport w).2.1.detachedKernelDriver = false := by
        obtain ⟨_, _, _, hkept⟩ := releaseClaimed_inv h hcalls
        rw [hkept]
        simpa using hnot
      rw [if_neg (by simp [hkept])]
      exact hkept
    rw [hcalls', hinv.owed_eq, hsame] at howed
    cases howed
  obtain ⟨before, answer, rfl⟩ := hretry hdetached
  refine ⟨hdetached, before, ?_⟩
  rw [hcalls', ← List.append_assoc, ← List.append_assoc, owed_snoc] at howed
  rcases answer with error | ⟨⟩
  · exact ⟨error, by rw [hcalls', ← List.append_assoc, ← List.append_assoc]⟩
  · cases howed

/-- After a close the interface is not claimed. -/
theorem claimed_of_close : (transport.close w).2.1.claimed = false := by
  have hreattach : ∀ (t : ReadOnlyUsbTransport) (v : UsbRun H),
      (reattachDetached t v).2.1.claimed = t.claimed := by
    intro t v
    unfold reattachDetached
    split
    · split <;> rfl
    · rfl
  rw [close_snd, hreattach]
  unfold releaseClaimed
  split
  · dsimp only
    split <;> rfl
  · rename_i hclaimed
    simpa using hclaimed

theorem closes_inv (h : TransportInv opened transport []) (hcalls : w.calls = opened) (n : Nat) :
    ∃ closed, (closes n transport w).2.calls = opened ++ closed ∧
      TransportInv opened (closes n transport w).1 closed := by
  induction n with
  | zero => exact ⟨[], by rw [List.append_nil]; exact hcalls, h⟩
  | succ n ih =>
    obtain ⟨closed, hcalls', hinv⟩ := ih
    obtain ⟨new, hcalls'', hinv', -⟩ := close_inv hinv hcalls'
    exact ⟨closed ++ new, hcalls'', hinv'⟩

end Close

/-! ### The result -/

/-- An open that fails has made at most the calls of a claim that fails. -/
theorem openDeviceWithPolicy_error {selected : Except UsbOpenError UInt8}
    {opened : Except UsbError Unit} {handoff : UsbDriverHandoff} {handle : H}
    {error : UsbOpenError} {w : UsbRun H}
    (h : openDeviceWithPolicy selected opened handoff ⟨handle, []⟩ = (.error error, w)) :
    w.calls = [] ∨ ∃ interface, ClaimTrace interface handoff w.calls (.error error) := by
  rcases selected with error' | interface
  · obtain ⟨-, rfl⟩ := Prod.mk.inj h
    exact .inl rfl
  rcases opened with error' | ⟨⟩
  · obtain ⟨-, rfl⟩ := Prod.mk.inj h
    exact .inl rfl
  have htrace := claimInterfaceWithPolicy_trace interface handoff handle
  rcases hclaim : claimInterfaceWithPolicy interface handoff ⟨handle, []⟩ with
    ⟨error' | detached, w'⟩
  · simp only [openDeviceWithPolicy, hclaim, Prod.mk.injEq, Except.error.injEq] at h
    obtain ⟨rfl, rfl⟩ := h
    rw [hclaim] at htrace
    exact .inr ⟨interface, htrace⟩
  · simp [openDeviceWithPolicy, hclaim] at h

/-- An open that succeeds has made the calls of a claim that succeeds, and the transport knows
whether a driver is detached. -/
theorem openDeviceWithPolicy_ok {selected : Except UsbOpenError UInt8}
    {opened : Except UsbError Unit} {handoff : UsbDriverHandoff} {handle : H}
    {transport : ReadOnlyUsbTransport} {w : UsbRun H}
    (h : openDeviceWithPolicy selected opened handoff ⟨handle, []⟩ = (.ok transport, w)) :
    (∃ interface, ClaimTrace interface handoff w.calls (.ok transport.detachedKernelDriver)) ∧
      TransportInv w.calls transport [] := by
  rcases selected with error' | interface
  · cases (Prod.mk.inj h).1
  rcases opened with error' | ⟨⟩
  · cases (Prod.mk.inj h).1
  have htrace := claimInterfaceWithPolicy_trace interface handoff handle
  rcases hclaim : claimInterfaceWithPolicy interface handoff ⟨handle, []⟩ with
    ⟨error' | detached, w'⟩
  · simp [openDeviceWithPolicy, hclaim] at h
  · simp only [openDeviceWithPolicy, hclaim, Prod.mk.injEq, Except.ok.injEq] at h
    obtain ⟨rfl, rfl⟩ := h
    rw [hclaim] at htrace
    refine ⟨⟨interface, htrace⟩, ⟨?_, ?_, fun hdetached ↦ ⟨hdetached, List.not_mem_nil⟩, ?_,
      rfl, fun _ ↦ List.not_mem_nil⟩⟩
    · rw [List.append_nil]
      exact htrace.owed_eq
    · rw [List.append_nil]
      exact htrace.attachesOwed
    · simp [UsbDriverHandoffOutcome.ofPolicy, UsbDriverHandoffOutcome.withDetached]

/-- A driver is attached only when one is owed, none is detached where that is refused, and the
interface is released at most once. -/
structure HandoffSafe (handoff : UsbDriverHandoff) (calls : List UsbCall) : Prop where
  attachesOwed : AttachesOwed calls
  refused : handoff = .refuse → ∀ answer, .detach answer ∉ calls
  released : calls.countP UsbCall.isRelease ≤ 1

theorem ClaimTrace.countP_isRelease {interface : UInt8} {handoff : UsbDriverHandoff}
    {calls : List UsbCall} {result : Except UsbOpenError Bool}
    (h : ClaimTrace interface handoff calls result) : calls.countP UsbCall.isRelease = 0 := by
  cases h <;> rfl

theorem ClaimTrace.handoffSafe {interface : UInt8} {handoff : UsbDriverHandoff}
    {calls : List UsbCall} {result : Except UsbOpenError Bool}
    (h : ClaimTrace interface handoff calls result) : HandoffSafe handoff calls where
  attachesOwed := h.attachesOwed
  refused := by
    rintro rfl
    exact h.detach_not_mem
  released := h.countP_isRelease ▸ Nat.zero_le 1

/-- The calls of an open and of its closes. -/
theorem ClaimTrace.handoffSafe_append {interface : UInt8} {handoff : UsbDriverHandoff}
    {opened closed : List UsbCall} {detached : Bool} {transport : ReadOnlyUsbTransport}
    (h : ClaimTrace interface handoff opened (.ok detached))
    (hinv : TransportInv opened transport closed) : HandoffSafe handoff (opened ++ closed) where
  attachesOwed := hinv.attachesOwed
  refused := by
    rintro rfl answer hmem
    exact (List.mem_append.1 hmem).elim (h.detach_not_mem answer) (hinv.detach_not_mem answer)
  released := by
    rw [List.countP_append, h.countP_isRelease, Nat.zero_add]
    exact Nat.le.intro hinv.released

/-- What is owed was detached in opening, and no close has attached it. -/
theorem TransportInv.owed_iff {interface : UInt8} {handoff : UsbDriverHandoff}
    {opened closed : List UsbCall} {detached : Bool} {transport : ReadOnlyUsbTransport}
    (h : TransportInv opened transport closed)
    (htrace : ClaimTrace interface handoff opened (.ok detached)) :
    owed (opened ++ closed) = true ↔ .detach (.ok ()) ∈ opened ∧ .attach (.ok ()) ∉ closed := by
  constructor
  · intro howed
    refine ⟨?_, (h.detached (h.owed_eq.symm.trans howed)).2⟩
    exact (List.mem_append.1 (detach_mem_of_owed howed)).resolve_right (h.detach_not_mem _)
  · rintro ⟨hdetach, hno⟩
    refine owed_of_detach_mem (List.mem_append_left _ hdetach) fun hmem ↦ ?_
    exact (List.mem_append.1 hmem).elim (htrace.attach_not_mem _) hno

/-- What a close does about the driver: one that is owed is attached, or that is tried, and where
one is owed still, the attempt of this close was refused. -/
structure Undoes (calls new : List UsbCall) : Prop where
  attaches : owed calls = true → ∃ before answer, new = before ++ [.attach answer]
  refused : owed (calls ++ new) = true → ∃ before error, new = before ++ [.attach (.error error)]

/-- **One more close**, after any number of them. -/
theorem closes_undoes {opened : List UsbCall} {transport : ReadOnlyUsbTransport} {w : UsbRun H}
    (h : TransportInv opened transport []) (hcalls : w.calls = opened) (n : Nat) :
    ∃ closed new, (closes n transport w).2.calls = opened ++ closed ∧
      (closes (n + 1) transport w).2.calls = opened ++ closed ++ new ∧
      TransportInv opened (closes n transport w).1 closed ∧
      Undoes (opened ++ closed) new ∧ (closed ++ new).countP UsbCall.isRelease = 1 := by
  obtain ⟨closed, hclosed, hinv⟩ := closes_inv h hcalls n
  obtain ⟨new, hnew, hinv', hretry⟩ := close_inv hinv hclosed
  rw [← List.append_assoc] at hnew
  refine ⟨closed, new, hclosed, hnew, hinv, ⟨fun howed ↦ ?_, fun howed ↦ ?_⟩, ?_⟩
  · exact hretry (hinv.owed_eq.symm.trans howed)
  · obtain ⟨-, before, error, hattach⟩ := hinv.close_of_owed hclosed (hnew ▸ howed)
    rw [hnew, List.append_assoc _ before, List.append_cancel_left_eq] at hattach
    exact ⟨before, error, hattach⟩
  · have hreleased := hinv'.released
    rwa [claimed_of_close] at hreleased

/-- **A hand-off is undone exactly once**, whatever the library answers. A failed open has given
the driver back or reports that it could not. After an open, and over any number of closes, a driver
is attached only when the transport owes one; every close attaches one that is owed, or has tried
to and was refused; the outcome says that the driver is back exactly when a close has attached it;
and the first close releases the interface, once. -/
theorem driverHandoff_undone (selected : Except UsbOpenError UInt8)
    (opened : Except UsbError Unit) (handoff : UsbDriverHandoff) (handle : H) :
    (∀ error w, openDeviceWithPolicy selected opened handoff ⟨handle, []⟩ = (.error error, w) →
      HandoffSafe handoff w.calls ∧
      (owed w.calls = true → ∃ claim reattach, error = .claimAndReattach claim reattach ∧
        .attach (.error reattach) ∈ w.calls)) ∧
    ∀ transport w, openDeviceWithPolicy selected opened handoff ⟨handle, []⟩ = (.ok transport, w) →
      ∀ n, ∃ closed new, (closes n transport w).2.calls = w.calls ++ closed ∧
        (closes (n + 1) transport w).2.calls = w.calls ++ closed ++ new ∧
        HandoffSafe handoff (w.calls ++ closed) ∧
        Undoes (w.calls ++ closed) new ∧
        (owed (w.calls ++ closed) = true ↔
          .detach (.ok ()) ∈ w.calls ∧ .attach (.ok ()) ∉ closed) ∧
        ((closes n transport w).1.driverHandoff.reattached = some true ↔
          .attach (.ok ()) ∈ closed) ∧
        ((∃ error, .attach (.error error) ∈ closed) → .attach (.ok ()) ∉ closed →
          ∃ before answer, new = before ++ [.attach answer]) ∧
        (closed ++ new).countP UsbCall.isRelease = 1 := by
  refine ⟨fun error w h ↦ ?_, fun transport w h n ↦ ?_⟩
  · rcases openDeviceWithPolicy_error h with hnone | ⟨interface, htrace⟩
    · rw [hnone]
      exact ⟨⟨attachesOwed_of_not_mem (by simp), fun _ ↦ by simp, Nat.zero_le 1⟩,
        fun howed ↦ absurd howed Bool.false_ne_true⟩
    · exact ⟨htrace.handoffSafe, htrace.reported_of_owed⟩
  obtain ⟨⟨interface, htrace⟩, hstart⟩ := openDeviceWithPolicy_ok h
  obtain ⟨closed, new, hcalls, hcalls', hinv, hundoes, hreleased⟩ := closes_undoes hstart rfl n
  refine ⟨closed, new, hcalls, hcalls', htrace.handoffSafe_append hinv, hundoes,
    hinv.owed_iff htrace, hinv.reattached_iff, ?_, hreleased⟩
  rintro ⟨error, hfailed⟩ hno
  -- a failed attempt shows that a driver was owed, and it still is
  obtain ⟨position, hposition⟩ := List.getElem?_of_mem (List.mem_append_right w.calls hfailed)
  have hdetach : .detach (.ok ()) ∈ w.calls ++ closed :=
    List.mem_of_mem_take (detach_mem_of_owed (hinv.attachesOwed position _ hposition))
  refine hundoes.attaches ((hinv.owed_iff htrace).2 ⟨?_, hno⟩)
  exact (List.mem_append.1 hdetach).resolve_right (hinv.detach_not_mem _)

/-- An interface whose driver is active, and comes back only after some refusals. -/
structure RefusedDriver where
  refusals : Nat

instance : UsbHandle RefusedDriver where
  kernelDriverActive _ device := (.ok true, device)
  detachKernelDriver _ device := (.ok (), device)
  attachKernelDriver _ device :=
    if device.refusals = 0 then (.ok (), device) else (.error .busy, ⟨device.refusals - 1⟩)
  claimInterface _ device := (.ok (), device)
  releaseInterface _ device := (.ok (), device)

/-- The driver is refused by the first close and attached by the second. -/
theorem driverHandoff_undone_of_refused :
    ∃ transport w closed new,
      openDeviceWithPolicy (.ok 0) (.ok ()) .temporarilyDetach ⟨(⟨1⟩ : RefusedDriver), []⟩ =
        (.ok transport, w) ∧
      (closes 1 transport w).2.calls = w.calls ++ closed ∧
      (closes 2 transport w).2.calls = w.calls ++ closed ++ new ∧
      .detach (.ok ()) ∈ w.calls ∧ .attach (.error .busy) ∈ closed ∧
      owed (w.calls ++ closed) = true ∧ (∃ before answer, new = before ++ [.attach answer]) ∧
      owed (w.calls ++ closed ++ new) = false := by
  obtain ⟨transport, w, hopen, hcalls⟩ : ∃ transport w, openDeviceWithPolicy (.ok 0) (.ok ())
      .temporarilyDetach ⟨(⟨1⟩ : RefusedDriver), []⟩ = (.ok transport, w) ∧
      (closes 1 transport w).2.calls =
        w.calls ++ [.release (.ok ()), .attach (.error .busy)] ∧
      w.calls = [.active (.ok true), .detach (.ok ()), .claim (.ok ())] ∧
      owed (closes 2 transport w).2.calls = false := ⟨_, _, rfl, rfl, rfl, rfl⟩
  obtain ⟨hfirst, hopened, hback⟩ := hcalls
  obtain ⟨closed, new, hclosed, hnew, -, hundoes, howed, -⟩ :=
    (driverHandoff_undone (.ok 0) (.ok ()) .temporarilyDetach (⟨1⟩ : RefusedDriver)).2 transport w
      hopen 1
  obtain rfl : [.release (.ok ()), .attach (.error .busy)] = closed :=
    List.append_cancel_left (hfirst.symm.trans hclosed)
  have hdetach : .detach (.ok ()) ∈ w.calls := by simp [hopened]
  have howes := howed.2 ⟨hdetach, by simp⟩
  exact ⟨transport, w, _, new, hopen, hclosed, hnew, hdetach, by simp, howes,
    hundoes.attaches howes, hnew ▸ hback⟩

end Reink
