import Reink.Cli.Mutation

/-!
# What the commands do to a printer

With a printer that stores what it is told to, a command that has passed its gate succeeds: its
updates are stored, and the memory as it was is on file. Restoring that file gives it back.
-/

namespace Reink

/-- Storing a memory where it has been overwritten gives it back. -/
theorem overwrite_image {spec : EpsonSpec} {memory : UInt16 → UInt8}
    {updates : List (UInt16 × UInt8)} (hrange : spec.memoryLow ≤ spec.memoryHigh)
    (hupdates : ValidUpdates spec updates) :
    overwrite (overwrite memory updates)
      (spec.addresses.map fun address ↦ (address, memory address)) = memory := by
  funext address
  by_cases hcontains : spec.Contains address
  · exact overwrite_of_mem _ (validUpdates_addresses hrange).nodup
      (EpsonSpec.mem_updates_iff.2 ⟨hcontains, rfl⟩)
  · rw [overwrite_of_notMem, overwrite_of_notMem]
    · intro hmem
      obtain ⟨update, hupdate, rfl⟩ := List.mem_map.1 hmem
      exact hcontains (hupdates.contains update hupdate)
    · rw [List.map_map, show Prod.fst ∘ (fun address ↦ (address, memory address)) = id from rfl,
        List.map_id]
      exact fun hmem ↦ hcontains (EpsonSpec.mem_addresses.1 hmem)

section Effect

variable {p : Printer} {T F : Type} [UsbTransport T] [FileSystem F] [CharTables]
  {peer : WritablePeer p T} {t : T} {bound : Nat} {confirmation : Option String}
  {builtin : Except String ModelDatabase} {model : String} {kind : MutationKind}
  {source : UpdateSource F} {backupFile : String} {files files' : F}
  {updates : List (UInt16 × UInt8)}

variable (peer)

/-- Behind its gate a command stores updates that the model has room for. -/
theorem runMutation_of_gate (hidle : peer.stage t = .idle) (hquiet : peer.outbox t = [])
    (hbound : 65536 ≤ bound) (hspec : p.spec.Writable)
    (hclose : ∀ t : T, (UsbTransport.close t).1 = .ok ())
    (hidentity : peer.identity.detectedModel = some model) (hupdates : ValidUpdates p.spec updates)
    (hgate : mutationGate kind confirmation builtin model source backupFile files =
      .ok (p.spec, updates))
    (hfile : writeNewBinaryFile backupFile (p.spec.image (peer.memory t)).bytes kind.backupKind
      files = (.ok (), files')) :
    ∃ t', runMutation bound confirmation builtin model kind source backupFile (.ok t) files =
        .ok (.ok (), some (UsbTransport.drop (UsbTransport.close t').2), files') ∧
      peer.memory t' = overwrite (peer.memory t) updates ∧ peer.stage t' = .ended := by
  obtain ⟨t', hrun, hafter⟩ := WritablePeer.runSession_mutateEeprom_ok kind
    (verifyRequestedModel · model) hidle hquiet hbound hspec hupdates
    (verifyRequestedModel_eq_ok.2 hidentity) hfile
  obtain ⟨recording, hrecorded, hinner⟩ := runSession_alongside RecordingTransport.simulation bound
    (show (RecordingTransport.new t).inner = t from rfl) hrun trivial
  obtain rfl : recording.inner = t' := hinner
  refine ⟨recording.inner, ?_, hafter⟩
  rw [runMutation, hgate]
  exact withUsbEpsonSession_eq_ok.2 ⟨recording, hrecorded, hclose _, rfl⟩

/-- **A command that writes has its effect.** With a printer that identifies itself as the model and
can be written, a backup that can be saved, and a transport that can be closed, a command that has
passed its gate succeeds. The updates are stored in their order and nothing else has changed, the
image of the memory before is on file, and the printer has left the conversation. -/
theorem runMutation_stores (hidle : peer.stage t = .idle) (hquiet : peer.outbox t = [])
    (hbound : 65536 ≤ bound) (hspec : p.spec.Writable)
    (hclose : ∀ t : T, (UsbTransport.close t).1 = .ok ())
    (hidentity : peer.identity.detectedModel = some model) (hsource : CommandSource kind source)
    (hgate : mutationGate kind confirmation builtin model source backupFile files =
      .ok (p.spec, updates))
    (hfile : writeNewBinaryFile backupFile (p.spec.image (peer.memory t)).bytes kind.backupKind
      files = (.ok (), files')) :
    ∃ t', runMutation bound confirmation builtin model kind source backupFile (.ok t) files =
        .ok (.ok (), some (UsbTransport.drop (UsbTransport.close t').2), files') ∧
      peer.memory t' = overwrite (peer.memory t) updates ∧ peer.stage t' = .ended := by
  have hupdates : ValidUpdates p.spec updates :=
    hsource.validUpdates hspec.range (mutationGate_eq_ok.1 hgate).2.2.2
  exact runMutation_of_gate peer hidle hquiet hbound hspec hclose hidentity hupdates hgate hfile

omit [UsbTransport T] [FileSystem F] [CharTables] in
/-- Two cells of the simulated C90 are written, the second one with the value of the other. -/
theorem runMutation_stores_of_c90 :
    letI := CharTables.ascii
    let printer := WritablePrinter.idle .c90 fun address ↦ address.toUInt8
    let updates : List (UInt16 × UInt8) := [(0x0d, 0x0c), (0x0c, 0x55)]
    ∃ left, usbEepromWriteOutput 65536 (some "I_CONFIRM_THIS_WILL_WRITE_EEPROM") (.ok .c90) "C90"
        updates "backup.bin" (.ok printer) (⟨[]⟩ : MemoryFiles) =
          .ok (.ok (), some left, ⟨[("backup.bin", [0x0c, 0x0d])]⟩) ∧
      left.memory 0x0c = 0x55 ∧ left.memory 0x0d = 0x0c ∧ left.memory 0x0e = 0x0e := by
  let _ := CharTables.ascii
  intro printer updates
  have hgate : mutationGate .usbEepromWrite (some "I_CONFIRM_THIS_WILL_WRITE_EEPROM") (.ok .c90)
      "C90" (fun spec _ ↦ do
        Outcome.ofExcept (Cli.validateEepromUpdates spec updates)
        return updates) "backup.bin" (⟨[]⟩ : MemoryFiles) =
          .ok (IdentifiedPrinter.c90.spec, updates) := by
    decide +kernel
  have hfile : writeNewBinaryFile "backup.bin"
      (IdentifiedPrinter.c90.spec.image printer.memory).bytes MutationKind.usbEepromWrite.backupKind
        (⟨[]⟩ : MemoryFiles) = (.ok (), ⟨[("backup.bin", [0x0c, 0x0d])]⟩) := by
    decide +kernel
  obtain ⟨left, hrun, hmemory, -⟩ := runMutation_stores (WritablePrinter.peer .c90)
    (t := printer) rfl rfl le_rfl IdentifiedPrinter.writable_c90 (fun _ ↦ rfl) (by decide +kernel)
    (.write updates) hgate hfile
  have hleft : left.memory = overwrite printer.memory updates := hmemory
  refine ⟨left, hrun, ?_, ?_, ?_⟩ <;> rw [hleft] <;> decide

/-- **Restoring its backup undoes a command.** With such a printer and transport, where both files
can be saved and are kept as they were written, a command that has passed its gate succeeds; and in
any later session with the printer as the command has left it, restoring the file that the command
saved succeeds and gives the whole memory back. -/
theorem usbEepromRestoreOutput_undoes (hbound : 65536 ≤ bound) (hspec : p.spec.Writable)
    (hclose : ∀ t : T, (UsbTransport.close t).1 = .ok ()) (hkeeps : KeepsNewFiles F)
    (hidentity : peer.identity.detectedModel = some model)
    (hidle : peer.stage t = .idle) (hquiet : peer.outbox t = [])
    (hsource : CommandSource kind source)
    (hgate : mutationGate kind confirmation builtin model source backupFile files =
      .ok (p.spec, updates))
    (hfile : writeNewBinaryFile backupFile (p.spec.image (peer.memory t)).bytes kind.backupKind
      files = (.ok (), files')) {rollbackFile : String} {files'' : F}
    (hpath : validateNewFilePath rollbackFile MutationKind.usbEepromRestore.backupKind files' =
      .ok ())
    (hrollback : writeNewBinaryFile rollbackFile
      (p.spec.image (overwrite (peer.memory t) updates)).bytes
      MutationKind.usbEepromRestore.backupKind files' = (.ok (), files'')) :
    ∃ t₁, runMutation bound confirmation builtin model kind source backupFile (.ok t) files =
        .ok (.ok (), some (UsbTransport.drop (UsbTransport.close t₁).2), files') ∧
      peer.memory t₁ = overwrite (peer.memory t) updates ∧
      ∀ t₂, peer.stage t₂ = .idle → peer.outbox t₂ = [] → peer.memory t₂ = peer.memory t₁ →
        ∃ t₃, usbEepromRestoreOutput bound (some MutationKind.usbEepromRestore.confirmation) builtin
            model backupFile rollbackFile (.ok t₂) files' =
              .ok (.ok (), some (UsbTransport.drop (UsbTransport.close t₃).2), files'') ∧
          peer.memory t₃ = peer.memory t := by
  have hupdates : ValidUpdates p.spec updates :=
    hsource.validUpdates hspec.range (mutationGate_eq_ok.1 hgate).2.2.2
  obtain ⟨t₁, hrun, hmemory₁, -⟩ := runMutation_of_gate peer hidle hquiet hbound hspec hclose
    hidentity hupdates hgate hfile
  refine ⟨t₁, hrun, hmemory₁, fun t₂ hidle₂ hquiet₂ hmemory₂ ↦ ?_⟩
  have hmodel := (mutationGate_eq_ok.1 hgate).2.2.1
  have himage : readRestoreImage backupFile p.spec files' =
      .ok (p.spec.addresses.map fun address ↦ (address, peer.memory t address)) := by
    rw [readRestoreImage, hkeeps _ _ _ _ _ hfile]
    exact restoreEepromUpdates_image hspec.range
  have hgate₂ : mutationGate .usbEepromRestore (some MutationKind.usbEepromRestore.confirmation)
      builtin model (fun spec files ↦ readRestoreImage backupFile spec files) rollbackFile files' =
        .ok (p.spec, p.spec.addresses.map fun address ↦ (address, peer.memory t address)) :=
    mutationGate_eq_ok.2 ⟨rfl, hpath, hmodel, himage⟩
  have himageUpdates : ValidUpdates p.spec
      (p.spec.addresses.map fun address ↦ (address, peer.memory t address)) :=
    (CommandSource.restore backupFile).validUpdates hspec.range himage
  rw [← hmemory₁, ← hmemory₂] at hrollback
  obtain ⟨t₃, hrun₃, hmemory₃, -⟩ := runMutation_of_gate peer hidle₂ hquiet₂ hbound hspec hclose
    hidentity himageUpdates hgate₂ hrollback
  refine ⟨t₃, hrun₃, ?_⟩
  rw [hmemory₃, hmemory₂, hmemory₁, overwrite_image hspec.range hupdates]

omit [UsbTransport T] [FileSystem F] [CharTables] in
/-- The two cells of the simulated C90 are given back. -/
theorem usbEepromRestoreOutput_undoes_of_c90 :
    letI := CharTables.ascii
    let updates : List (UInt16 × UInt8) := [(0x0d, 0x0c), (0x0c, 0x55)]
    let memory : UInt16 → UInt8 := fun address ↦ address.toUInt8
    let files : MemoryFiles := ⟨[("backup.bin", [0x0c, 0x0d])]⟩
    ∃ left, usbEepromRestoreOutput 65536 (some "I_CONFIRM_THIS_WILL_RESTORE_EEPROM") (.ok .c90)
        "C90" "backup.bin" "rollback.bin"
        (.ok (WritablePrinter.idle .c90 (overwrite memory updates))) files = .ok (.ok (), some left,
          ⟨[("rollback.bin", [0x55, 0x0c]), ("backup.bin", [0x0c, 0x0d])]⟩) ∧
      left.memory = memory := by
  let _ := CharTables.ascii
  intro updates memory files
  have hgate : mutationGate .usbEepromWrite (some "I_CONFIRM_THIS_WILL_WRITE_EEPROM") (.ok .c90)
      "C90" (fun spec _ ↦ do
        Outcome.ofExcept (Cli.validateEepromUpdates spec updates)
        return updates) "backup.bin" (⟨[]⟩ : MemoryFiles) =
        .ok (IdentifiedPrinter.c90.spec, updates) := by
    decide +kernel
  have hfile : writeNewBinaryFile "backup.bin" (IdentifiedPrinter.c90.spec.image memory).bytes
      MutationKind.usbEepromWrite.backupKind (⟨[]⟩ : MemoryFiles) = (.ok (), files) := by
    decide +kernel
  have hpath : validateNewFilePath "rollback.bin" MutationKind.usbEepromRestore.backupKind files =
      .ok () := by
    decide +kernel
  have hrollback : writeNewBinaryFile "rollback.bin"
      (IdentifiedPrinter.c90.spec.image (overwrite memory updates)).bytes
      MutationKind.usbEepromRestore.backupKind files =
        (.ok (), ⟨[("rollback.bin", [0x55, 0x0c]), ("backup.bin", [0x0c, 0x0d])]⟩) := by
    decide +kernel
  obtain ⟨t₁, -, hmemory, hrestore⟩ := usbEepromRestoreOutput_undoes (WritablePrinter.peer .c90)
    (t := WritablePrinter.idle .c90 memory) le_rfl IdentifiedPrinter.writable_c90 (fun _ ↦ rfl)
    MemoryFiles.keepsNewFiles (by decide +kernel) rfl rfl (.write updates) hgate hfile hpath
    hrollback
  exact hrestore (WritablePrinter.idle .c90 (overwrite memory updates)) rfl rfl hmemory.symm

end Effect

end Reink
