import Reink.Platform.Journal
import Reink.Usb.DriverHandoff

/-!
# The claimed interface as a transport

Transfers go to the two bulk endpoints of the interface. They touch neither the claim nor the
driver, so that what a close has to undo is what opening has done.
-/

namespace Reink

/-- The open device, with its bulk endpoints. -/
class BulkHandle (H : Type) extends UsbHandle H where
  /-- How many of the bytes were taken. -/
  writeBulk : UInt8 → List UInt8 → H → Except UsbError Nat × H
  readBulk : UInt8 → Nat → H → Except UsbError (List UInt8) × H
  length_le_of_readBulk : ∀ {endpoint : UInt8} {size : Nat} {handle handle' : H}
    {bytes : List UInt8}, readBulk endpoint size handle = (.ok bytes, handle') →
      bytes.length ≤ size
  /-- The displayed text of an error of the library. -/
  errorText : UsbError → String

/-- A transport that knows what became of the driver of its interface. -/
class HandoffTransport (T : Type) extends UsbTransport T where
  driverHandoffOutcome : T → UsbDriverHandoffOutcome

instance {T : Type} [HandoffTransport T] : HandoffTransport (Journaled T) where
  driverHandoffOutcome journal := HandoffTransport.driverHandoffOutcome journal.inner

/-- A physical USB location reported by libusb. -/
structure UsbDeviceLocation where
  busNumber : UInt8
  address : UInt8
deriving DecidableEq, Repr

/-- An explicit USB device selection. -/
structure UsbDeviceSelector where
  vendorId : UInt16
  productId : UInt16
  location : Option UsbDeviceLocation
deriving DecidableEq, Repr

/-- The selector of one device at its place. -/
def UsbDeviceSelector.atLocation (vendorId productId : UInt16) (busNumber address : UInt8) :
    UsbDeviceSelector :=
  ⟨vendorId, productId, some ⟨busNumber, address⟩⟩

/-- An interface and its alternate setting. -/
structure UsbInterfaceSelector where
  number : UInt8
  alternateSetting : UInt8
deriving DecidableEq, Repr

/-- The derived debug text. -/
def UsbInterfaceSelector.debug (selector : UsbInterfaceSelector) : String :=
  "UsbInterfaceSelector \x7b number: " ++ toString selector.number ++ ", alternate_setting: " ++
    toString selector.alternateSetting ++ " \x7d"

/-- The transport error of a USB error. -/
def transportError (errorText : UsbError → String) (operation : String) (error : UsbError) :
    TransportError :=
  let kind : TransportErrorKind :=
    match error with
    | .access => .permissionDenied
    | .noDevice => .deviceUnavailable
    | .timeout => .timeout
    | .notSupported => .unsupported
    | _ => .io
  ⟨kind, operation, errorText error⟩

namespace UsbOpenError

variable (errorText : UsbError → String)

/-- The text for a driver that could not be attached again. -/
def reattachText (error : UsbError) : String :=
  "reattaching the detached USB kernel driver failed: " ++ errorText error ++
    "; reconnect the printer, power-cycle it if needed, then reboot the host before retrying"

/-- The displayed text, for an interface that was asked for. -/
def display (selector : UsbInterfaceSelector) : UsbOpenError → String
  | descriptor error => "USB descriptor read failed: " ++ errorText error
  | interfaceNotFound => "USB printer interface was not found: " ++ selector.debug
  | openDevice error => "opening USB device failed: " ++ errorText error
  | kernelDriverQuery error => "querying USB kernel driver failed: " ++ errorText error
  | kernelDriverActive interface => "USB interface " ++ toString interface ++
      " is owned by an active kernel driver and the selected restrictive policy will not detach it"
  | detachKernelDriver error => "detaching USB kernel driver failed: " ++ errorText error ++
      "; reconnect the printer, power-cycle it if needed, then reboot the host before retrying"
  | claim error => "claiming USB interface failed: " ++ errorText error ++
      "; reconnect the printer, power-cycle it if needed, then reboot the host before retrying"
  | claimAndReattach error reattach => "claiming USB interface failed: " ++ errorText error ++
      "; " ++ reattachText errorText reattach
  | release error => "releasing USB interface failed: " ++ errorText error ++
      "; reconnect the printer, power-cycle it if needed, then reboot the host before retrying"
  | reattachKernelDriver error => reattachText errorText error
  | releaseAndReattach first second => first.display selector ++ "; " ++ second.display selector

end UsbOpenError

/-- A claimed printer interface. -/
structure ClaimedTransport (H : Type) where
  selector : UsbInterfaceSelector
  inputEndpoint : UInt8
  outputEndpoint : UInt8
  transport : ReadOnlyUsbTransport
  run : UsbRun H

namespace ClaimedTransport

variable {H : Type} [BulkHandle H]

/-- The transport after a bulk transfer. -/
def withHandle (claimed : ClaimedTransport H) (handle : H) : ClaimedTransport H :=
  { claimed with run := { claimed.run with handle := handle } }

instance : ByteTransport (ClaimedTransport H) where
  -- how many bytes were taken is not looked at
  writeAll data claimed :=
    match BulkHandle.writeBulk claimed.outputEndpoint data claimed.run.handle with
    | (.ok _, handle) => (.ok (), claimed.withHandle handle)
    | (.error error, handle) =>
      (.error (transportError (BulkHandle.errorText H) "write USB bulk endpoint" error),
        claimed.withHandle handle)
  read size claimed :=
    if size = 0 then (.ok [], claimed)
    else
      match BulkHandle.readBulk claimed.inputEndpoint size claimed.run.handle with
      | (.ok bytes, handle) => (.ok bytes, claimed.withHandle handle)
      | (.error error, handle) =>
        (.error (transportError (BulkHandle.errorText H) "read USB bulk endpoint" error),
          claimed.withHandle handle)
  length_le_of_read := by
    intro size claimed claimed' bytes h
    split at h
    · cases h
      exact Nat.zero_le _
    · split at h <;> cases h
      exact BulkHandle.length_le_of_readBulk ‹_›

instance : HandoffTransport (ClaimedTransport H) where
  close claimed :=
    let (result, transport, run) := claimed.transport.close claimed.run
    (result.mapError (·.display (BulkHandle.errorText H) claimed.selector),
      { claimed with transport := transport, run := run })
  driverHandoffOutcome claimed := claimed.transport.driverHandoff

/-- Opens the interface that was selected, or not, with its endpoints. -/
def openWithPolicy (selector : UsbInterfaceSelector) (inputEndpoint outputEndpoint : UInt8)
    (selected : Except UsbOpenError UInt8) (opened : Except UsbError Unit)
    (handoff : UsbDriverHandoff) (handle : H) : Except String (ClaimedTransport H) × UsbRun H :=
  match openDeviceWithPolicy selected opened handoff ⟨handle, []⟩ with
  | (.ok transport, run) => (.ok ⟨selector, inputEndpoint, outputEndpoint, transport, run⟩, run)
  | (.error error, run) => (.error (error.display (BulkHandle.errorText H) selector), run)

/-- The interface and the driver are as they were left. -/
def Claims (transport : ReadOnlyUsbTransport) (calls : List UsbCall)
    (claimed : ClaimedTransport H) : Prop :=
  claimed.transport = transport ∧ claimed.run.calls = calls

variable {transport : ReadOnlyUsbTransport} {calls : List UsbCall} {claimed : ClaimedTransport H}

theorem Claims.writeAll (data : List UInt8) (h : claimed.Claims transport calls) :
    (ByteTransport.writeAll data claimed).2.Claims transport calls := by
  simp only [ByteTransport.writeAll]
  split <;> exact h

theorem Claims.read (size : Nat) (h : claimed.Claims transport calls) :
    (ByteTransport.read size claimed).2.Claims transport calls := by
  simp only [ByteTransport.read]
  split
  · exact h
  · split <;> exact h

end ClaimedTransport

end Reink
