import Reink.Core.Database
import Mathlib.Data.String.Basic

/-!
# Printer candidates

What a scan finds without opening a device: printer interfaces of libusb, and on Windows the
interfaces of the stock driver. The bundled models with the vendor and the product of a candidate
are its hints. They tell nothing of what is behind it.
-/

namespace Reink

/-! ### Backends -/

/-- The concrete device-access surface used by a printer candidate. -/
inductive PrinterBackend where
  | libUsb
  | windowsNativeStockDriver
deriving DecidableEq, Repr

/-- Application capabilities attached to a concrete backend. -/
structure BackendCapabilities where
  d4Read : Bool
  usbDeviceId : Bool
  persistentMutation : Bool
  experimentalMutation : Bool
deriving DecidableEq, Repr

/-- What the backend can do. -/
def PrinterBackend.capabilities : PrinterBackend → BackendCapabilities
  | libUsb => ⟨true, true, true, false⟩
  | windowsNativeStockDriver => ⟨true, false, true, true⟩

/-- A present Windows interface. Its path is the token that opens it. -/
structure WindowsNativePrinterCandidate where
  vendorId : UInt16
  productId : UInt16
  interfaceNumber : Option UInt8
  devicePath : List UInt16
deriving DecidableEq, Repr

/-- What the stock driver can do. -/
def WindowsNativePrinterCandidate.capabilities (_ : WindowsNativePrinterCandidate) :
    BackendCapabilities := PrinterBackend.windowsNativeStockDriver.capabilities

/-- A USB printer interface discovered without opening or claiming its device. -/
structure UsbPrinterCandidate where
  vendorId : UInt16
  productId : UInt16
  busNumber : UInt8
  deviceAddress : UInt8
  interfaceNumber : UInt8
  alternateSetting : UInt8
deriving DecidableEq, Repr

/-- How a candidate is reached. -/
inductive DescriptorCandidateBackend where
  | libUsb
  | windowsNative (candidate : WindowsNativePrinterCandidate)
deriving DecidableEq, Repr

namespace DescriptorCandidateBackend

/-- A write may be started over the backend. -/
def permitsPersistentMutation : DescriptorCandidateBackend → Bool
  | libUsb => true
  | windowsNative candidate => candidate.capabilities.persistentMutation

/-- A write over the backend needs the acknowledgement. -/
def experimentalMutation : DescriptorCandidateBackend → Bool
  | libUsb => false
  | windowsNative candidate => candidate.capabilities.experimentalMutation

end DescriptorCandidateBackend

/-- Descriptor-only information on a printer for one session of the window. -/
structure DescriptorCandidate where
  aliasName : String
  backend : DescriptorCandidateBackend
  vendorId : UInt16
  productId : UInt16
  busNumber : Option UInt8
  deviceAddress : Option UInt8
  interfaceNumber : Option UInt8
  alternateSetting : Option UInt8
  modelHints : List String
deriving DecidableEq, Repr

namespace DescriptorCandidate

/-- A write may be started on the candidate. -/
def permitsPersistentMutation (candidate : DescriptorCandidate) : Bool :=
  candidate.backend.permitsPersistentMutation

/-- A write on the candidate needs the acknowledgement. -/
def experimentalMutation (candidate : DescriptorCandidate) : Bool :=
  candidate.backend.experimentalMutation

end DescriptorCandidate

/-! ### The models -/

/-- A database with the names of its models, in the order of its map. -/
structure ModelCatalog where
  database : ModelDatabase
  models : List String
  sorted : models.Pairwise (· < ·)
  mem_models : ∀ model, model ∈ models ↔ (database.get model).isSome
  valid : ∀ model spec, database.get model = some spec → spec.Valid

namespace ModelCatalog

variable (catalog : ModelCatalog)

/-- The specification of the model. -/
def get (model : String) : Option EpsonSpec := catalog.database.get model

/-- The models of the vendor and the product. -/
def modelHintsForUsbCandidate (vendorId productId : UInt16) : List String :=
  catalog.models.filter fun model ↦
    (catalog.get model).any fun spec ↦ spec.vendorId = vendorId ∧ spec.productId = some productId

variable {catalog}

end ModelCatalog

/-! ### The scan -/

section Scan

variable (catalog : ModelCatalog)

/-- The list entry of a device that the USB library has found. -/
def libUsbCandidate (index : Nat) (candidate : UsbPrinterCandidate) : DescriptorCandidate where
  aliasName := "usb-" ++ toString (index + 1)
  backend := .libUsb
  vendorId := candidate.vendorId
  productId := candidate.productId
  busNumber := some candidate.busNumber
  deviceAddress := some candidate.deviceAddress
  interfaceNumber := some candidate.interfaceNumber
  alternateSetting := some candidate.alternateSetting
  modelHints := catalog.modelHintsForUsbCandidate candidate.vendorId candidate.productId

/-- The list entry of a device of the stock driver. -/
def windowsNativeDescriptor (index : Nat) (candidate : WindowsNativePrinterCandidate) :
    DescriptorCandidate where
  aliasName := "windows-native-" ++ toString (index + 1)
  backend := .windowsNative candidate
  vendorId := candidate.vendorId
  productId := candidate.productId
  busNumber := none
  deviceAddress := none
  interfaceNumber := candidate.interfaceNumber
  alternateSetting := none
  modelHints := catalog.modelHintsForUsbCandidate candidate.vendorId candidate.productId

/-- The candidates of what the drivers list. Outside Windows there is no second list. -/
def scanDescriptorCandidates (libusb : Except String (List UsbPrinterCandidate))
    (native : Option (Except String (List WindowsNativePrinterCandidate))) :
    Except String (List DescriptorCandidate) :=
  match native with
  | none => libusb.map (·.mapIdx (libUsbCandidate catalog))
  | some native =>
    let found := match libusb with
      | .ok candidates => candidates.mapIdx (libUsbCandidate catalog)
      | .error _ => []
    match native, libusb with
    | .error error, _ => .error error
    | .ok attached, libusb =>
      let candidates := found ++ attached.mapIdx (windowsNativeDescriptor catalog)
      match libusb with
      | .error error => if candidates = [] then .error error else .ok candidates
      | .ok _ => .ok candidates

variable {catalog}

end Scan

end Reink
