import Reink.App.CounterReset
import Reink.App.Restore
import Reink.Library.Checked
import Reink.Usb.HardwareId

/-!
# What the user types and chooses

The parsers of the dialogs, the confirmations, the check of an image that is chosen for a restore,
and the texts in which values are shown.
-/

namespace Reink

open Text (utf8 upperHexadecimal)

/-! ### Numbers -/

/-- A number in decimal, or in hexadecimal after `0x`. -/
def parseInput {α : Type} (fromStrRadix : List UInt8 → Nat → Option α)
    (empty hexadecimal decimal : String) (value : String) : Except String α :=
  let value := trim value.toList
  if value = [] then .error empty
  else
    match (value.dropPrefix? ['0', 'x']).orElse fun () ↦ value.dropPrefix? ['0', 'X'] with
    | some digits => Except.okOr hexadecimal (fromStrRadix (utf8 (String.ofList digits)) 16)
    | none => Except.okOr decimal (fromStrRadix (utf8 (String.ofList value)) 10)

/-- The address that was typed in. -/
def parseU16Input (value : String) : Except String UInt16 :=
  parseInput Text.u16FromStrRadix "Enter an EEPROM address."
    "Invalid hexadecimal EEPROM address." "Invalid decimal EEPROM address." value

/-- The byte that was typed in. -/
def parseU8Input (value : String) : Except String UInt8 :=
  parseInput Text.u8FromStrRadix "Enter an EEPROM byte value."
    "Invalid hexadecimal EEPROM byte value." "Invalid decimal EEPROM byte value." value

example : parseU16Input "0x00FF" = .ok 0xff ∧ parseU16Input " 255" = .ok 255 ∧
    parseU8Input "256" = .error "Invalid decimal EEPROM byte value." := by decide +kernel

/-! ### Confirmations -/

/-- The confirmation is the required one, to the letter. -/
def confirmationMatches (provided required : String) : Bool := provided = required

/-- The confirmation of a write. -/
def eepromWriteConfirmation : String := "I_CONFIRM_THIS_WILL_WRITE_EEPROM"

/-- The confirmation of a restore. -/
def eepromRestoreConfirmation : String := "I_CONFIRM_THIS_WILL_RESTORE_EEPROM"

/-- The confirmation of a reset. -/
def eepromCounterResetConfirmation : String := "I_CONFIRM_THIS_WILL_RESET_DECLARED_COUNTERS"

/-- The acknowledgement that the stock driver asks for. -/
def windowsNativeExperimentalMutationAcknowledgement : String :=
  "I_ACKNOWLEDGE_WINDOWS_NATIVE_MUTATION_IS_EXPERIMENTAL"

/-- The check that it was given. -/
def requireNativeExperimentalMutationAcknowledgement (acknowledged : Bool) : Except String Unit :=
  if acknowledged then .ok ()
  else .error ("experimental Windows native USBPRINT mutation requires the exact " ++
    "per-operation acknowledgement")

/-! ### Images for a restore -/

/-- What the file system tells of a file. -/
structure FileMetadata where
  isFile : Bool
  len : UInt64
deriving DecidableEq, Repr

/-- What the system answers, one after the other, on a file that is chosen. -/
structure RestoreImageFile where
  metadata : Except String FileMetadata
  opened : Except String Unit
  openedMetadata : Except String FileMetadata
  contents : Except String (List UInt8)

/-- An image of the right size, and how many bytes it would write. -/
structure ValidatedRestoreImage where
  bytes : List UInt8
  updateCount : Nat
deriving DecidableEq, Repr

/-- The checked image of a restore, or why it was refused. -/
structure RestoreImagePreflight where
  path : String
  result : Except String ValidatedRestoreImage

/-- The size of the image, which must be that of the memory range. -/
def validateRestoreImageSize (spec : EpsonSpec) (actualSize : UInt64) : Except String Nat :=
  if actualSize.toNat ≠ spec.imageLength then
    .error ("EEPROM restore image has " ++ toString actualSize ++ " bytes; model " ++ spec.model ++
      " requires exactly " ++ toString spec.imageLength ++ " bytes for " ++
      EpsonError.showAddress spec.memoryLow ++ "..=" ++ EpsonError.showAddress spec.memoryHigh)
  else .ok spec.imageLength

/-- An answer of the system, with words in front of its error. -/
def systemAnswer {α : Type} (message : String) (answer : Except String α) : Outcome String α :=
  Outcome.ofExcept (answer.mapError (message ++ ·))

/-- The checks of a chosen image, before and after it is opened. One byte more is read than it may
have. -/
def checkRestoreImage (file : RestoreImageFile) (path : String) (spec : EpsonSpec) :
    Outcome String ValidatedRestoreImage := do
  let metadata ← systemAnswer ("Could not stat selected restore image " ++ path ++ ": ")
    file.metadata
  if ¬ metadata.isFile then
    .err ("Selected restore image " ++ path ++ " is not a regular file")
  else
    let expectedLength ← Outcome.ofExcept (validateRestoreImageSize spec metadata.len)
    systemAnswer ("Could not open selected restore image " ++ path ++ ": ") file.opened
    let openedMetadata ← systemAnswer
      ("Could not stat selected restore image " ++ path ++ " after opening it: ")
      file.openedMetadata
    if ¬ openedMetadata.isFile then
      .err ("Selected restore image " ++ path ++ " changed to a non-regular file")
    else
      let _ ← Outcome.ofExcept (validateRestoreImageSize spec openedMetadata.len)
      let contents ← systemAnswer ("Could not read selected restore image " ++ path ++ ": ")
        file.contents
      let bytes := contents.take (expectedLength + 1)
      let updates ← restoreEepromUpdates spec bytes
      return ⟨bytes, updates.length⟩

/-- Check the chosen image before the dialog opens. -/
def preflightRestoreImage (file : RestoreImageFile) (path : String) (spec : EpsonSpec) :
    Outcome Empty RestoreImagePreflight :=
  match checkRestoreImage file path spec with
  | .ok image => .ok ⟨path, .ok image⟩
  | .err error => .ok ⟨path, .error error⟩
  | .panic message => .panic message
  | .running => .running

/-! ### Values -/

/-- The values at their addresses, sixteen of them at most. -/
def formatCurrentValues (values : List (UInt16 × UInt8)) : String :=
  let visible := String.intercalate ", " ((values.take 16).map fun (address, value) ↦
    "0x" ++ upperHexadecimal 4 address.toNat ++ "=0x" ++ upperHexadecimal 2 value.toNat)
  if values.length > 16 then
    visible ++ ", … (" ++ toString values.length ++ " byte(s) total)"
  else if values = [] then "none"
  else visible

/-- The status response as it is shown: text only, and cut. -/
def displayStatusResponse (bytes : List UInt8) : String :=
  if Text.IsUtf8 bytes then
    let trimmed := trim (Text.ofBytes bytes).toList
    String.ofList (trimmed.take 1024) ++ if trimmed.length > 1024 then "… (truncated)" else ""
  else "Binary status response is not shown."

/-! ### What the checks make sure of -/

section Checks

variable {spec : EpsonSpec}

/-- **An image that passes** is expanded into as many updates as are shown. -/
theorem restore_of_checkRestoreImage {file : RestoreImageFile} {path : String}
    {image : ValidatedRestoreImage} (h : checkRestoreImage file path spec = .ok image) :
    ∃ updates, restoreEepromUpdates spec image.bytes = .ok updates ∧
      updates.length = image.updateCount := by
  obtain ⟨metadata, -, h⟩ := Outcome.bind_eq_ok.1 h
  split at h
  · cases h
  obtain ⟨expectedLength, -, h⟩ := Outcome.bind_eq_ok.1 h
  obtain ⟨_, -, h⟩ := Outcome.bind_eq_ok.1 h
  obtain ⟨openedMetadata, -, h⟩ := Outcome.bind_eq_ok.1 h
  split at h
  · cases h
  obtain ⟨_, -, h⟩ := Outcome.bind_eq_ok.1 h
  obtain ⟨contents, -, h⟩ := Outcome.bind_eq_ok.1 h
  obtain ⟨updates, hupdates, h⟩ := Outcome.bind_eq_ok.1 h
  cases h
  exact ⟨updates, hupdates, rfl⟩

/-- A restore image is refused or expanded; an address never overflows. -/
theorem restoreEepromUpdates_returned (hrange : spec.memoryLow ≤ spec.memoryHigh)
    (bytes : List UInt8) : (restoreEepromUpdates spec bytes).Returned := by
  by_cases hlength : bytes.length = spec.imageLength
  · rw [restoreEepromUpdates_eq hrange hlength]
    exact Outcome.returned_ok _
  · obtain ⟨message, herror⟩ := restoreEepromUpdates_of_length_ne hlength
    rw [herror]
    exact Outcome.returned_err _

/-- A file that is chosen is refused or accepted. -/
theorem checkRestoreImage_returned (hrange : spec.memoryLow ≤ spec.memoryHigh)
    (file : RestoreImageFile) (path : String) : (checkRestoreImage file path spec).Returned := by
  refine .bind (Outcome.returned_ofExcept _) fun metadata ↦ ?_
  split
  · trivial
  refine .bind (Outcome.returned_ofExcept _) fun expectedLength ↦
    .bind (Outcome.returned_ofExcept _) fun _ ↦
      .bind (Outcome.returned_ofExcept _) fun openedMetadata ↦ ?_
  split
  · trivial
  exact .bind (Outcome.returned_ofExcept _) fun _ ↦ .bind (Outcome.returned_ofExcept _)
    fun contents ↦ .bind (restoreEepromUpdates_returned hrange _) fun _ ↦ trivial

/-- What is shown of the file. -/
theorem exists_preflightRestoreImage (hrange : spec.memoryLow ≤ spec.memoryHigh)
    (file : RestoreImageFile) (path : String) :
    ∃ preflight, preflightRestoreImage file path spec = .ok preflight := by
  have hreturned := checkRestoreImage_returned hrange file path
  rcases hchecked : checkRestoreImage file path spec with image | error | message | _
  · exact ⟨_, by rw [preflightRestoreImage, hchecked]⟩
  · exact ⟨_, by rw [preflightRestoreImage, hchecked]⟩
  · rw [hchecked] at hreturned
    exact hreturned.elim
  · rw [hchecked] at hreturned
    exact hreturned.elim

end Checks

end Reink
