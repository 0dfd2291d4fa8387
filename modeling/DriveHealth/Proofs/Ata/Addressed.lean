import DriveHealth.ErrorLog.Report

/-!
Addresses of user data. The text of a data command tells where the data lies and how many sectors
there are, and the text of its failure tells the same place as long as the drive returns the
address registers as they were written. A 28-bit command takes both from the low half of its
registers alone.
-/
namespace DriveHealth.Ata

namespace Opcode

/-- A command that is told by name, address and count moves or checks user data. -/
theorem isDataTransfer_of_dataName {c : Opcode} {name : String} (h : c.dataName? = some name) :
    c.isDataTransfer = true := by
  have hall : ∀ e ∈ dataNames, isDataTransfer e.1 = true := by decide
  obtain ⟨before, after, hsplit, -⟩ := List.lookup_eq_some_iff.mp h
  exact hall (c, name) (by rw [hsplit]; exact List.mem_append_right _ List.mem_cons_self)

theorem isStreaming_iff_mem {c : Opcode} :
    c.isStreaming = true ↔ c ∈ [0x2A, 0x2B, 0x3A, 0x3B] := by
  simp only [isStreaming, Bool.or_eq_true, beq_iff_eq, List.mem_cons, List.not_mem_nil, or_false,
    or_assoc]

/-- Streams are read and written by 48-bit commands only. -/
theorem isExtended_of_isStreaming {c : Opcode} (h : c.isStreaming = true) :
    c.isExtended = true := by
  have hall : ([0x2A, 0x2B, 0x3A, 0x3B] : List Opcode).all isExtended = true := by decide
  exact List.all_eq_true.mp hall c (isStreaming_iff_mem.mp h)

end Opcode

namespace Failure

/-- What the text of a failure tells before the address. -/
def conditionsText (f : Failure) : String :=
  "Status: " ++ conditions f.statusConditions f.status ++
    (if f.errorValid then ", Error: " ++ conditions f.errorConditions f.error else "")

/-- What it tells behind the address. -/
def deviceText (f : Failure) : String :=
  "  Device: " ++ Text.hexCaps 2 f.device.toNat ++
    (if f.transportSpecific = 0 then ""
      else "  Transport Specific: " ++ Text.hexCaps 2 f.transportSpecific.toNat)

/-- The text of the failure has an address in it, and it is this one. -/
def TellsAddress (f : Failure) (address : String) : Prop :=
  f.text = f.conditionsText ++ ("  " ++ address) ++ f.deviceText

theorem text_eq (f : Failure) : f.text = f.conditionsText ++
    (if f.command.isDataTransfer then "  " ++ f.address else "") ++ f.deviceText := by
  unfold text conditionsText deviceText
  simp only [String.append_assoc]

/-- No two addresses are told. -/
theorem tellsAddress_iff {f : Failure} (h : f.command.isDataTransfer = true) {address : String} :
    f.TellsAddress address ↔ address = f.address := by
  rw [TellsAddress, text_eq, if_pos h]
  constructor
  · intro heq
    have hlist := congrArg String.toList heq
    simp only [String.toList_append, List.append_cancel_left_eq, List.append_cancel_right_eq]
      at hlist
    exact (String.toList_inj.mp hlist).symm
  · rintro rfl
    rfl

/-- A failure that came back with the address and device registers as the command wrote them. -/
structure Returns (f : Failure) (r : Registers) : Prop where
  command_eq : f.command = r.command
  commandDevice_eq : f.commandDevice = r.device
  lba_eq : f.lba = r.lba
  device_eq : f.device = r.device

theorem Returns.address_eq {f : Failure} {r : Registers} (h : f.Returns r) :
    f.address = r.address := by
  unfold Failure.address Registers.address
  rw [h.command_eq, h.commandDevice_eq, h.lba_eq, h.device_eq]
  rfl

end Failure

namespace Registers

/-- The number of sectors that a count register of so many bits asks for. A zero asks for one more
than the register can hold. -/
def asked (bits count : Nat) : Nat := if count % 2 ^ bits = 0 then 2 ^ bits else count % 2 ^ bits

/-- The width of the count register. -/
def countBits (r : Registers) : Nat := if r.command.isExtended then 16 else 8

theorem sectorCount_eq (r : Registers) : r.sectorCount = asked r.countBits r.count.toNat := by
  unfold sectorCount countBits asked countLow
  cases r.command.isExtended with
  | false => simp only [Bool.false_eq_true, if_false, Nat.reducePow]
  | true =>
    have hlt : r.count.toNat % 65536 = r.count.toNat := Nat.mod_eq_of_lt r.count.toNat_lt
    have hzero : r.count = 0 ↔ r.count.toNat = 0 := by
      rw [← UInt16.toNat_inj, UInt16.toNat_zero]
    simp only [if_true, Nat.reducePow, hlt, hzero]

/-- Registers of one command that differ in what its 28-bit form does not use at most: the features,
the high byte of the count, the address above its low 24 bits, and the device register but for the
mode and the head. -/
structure SameLow (r s : Registers) : Prop where
  command_eq : r.command = s.command
  countLow_eq : r.countLow = s.countLow
  lba_eq : r.lba % 2 ^ 24 = s.lba % 2 ^ 24
  lbaMode_eq : r.lbaMode = s.lbaMode
  head_eq : r.head = s.head

namespace SameLow

variable {r s : Registers}

theorem address_eq (h : r.SameLow s) (hnarrow : s.command.isExtended = false) :
    r.address = s.address := by
  have hlba := h.lba_eq
  have hhead : r.device.toNat % 16 = s.device.toNat % 16 := h.head_eq
  have hcylinder : r.lba / 256 % 65536 = s.lba / 256 % 65536 := by omega
  have hsector : r.lba % 256 = s.lba % 256 := by omega
  unfold address lba28 Address.lba28 Address.place
  simp only [h.command_eq, hnarrow, h.lbaMode_eq, hlba, hhead, hcylinder, hsector,
    Bool.false_eq_true, if_false]

theorem sectorCount_eq (h : r.SameLow s) (hnarrow : s.command.isExtended = false) :
    r.sectorCount = s.sectorCount := by
  unfold sectorCount
  rw [h.command_eq, hnarrow, h.countLow_eq]
  rfl

end SameLow
end Registers

namespace Command

open Registers

/-- What is told of the stream of a stream command. -/
def streamText (r : Registers) : String :=
  if r.command ∈ ([0x2A, 0x2B, 0x3A, 0x3B] : List Opcode) then
    " Stream ID: " ++ Text.decimal (r.features.toNat % 8)
  else ""

theorem text_of_dataName {r : Registers} {name : String}
    (h : r.command.dataName? = some name) : text r =
      name ++ " - " ++ r.address ++ " Count: " ++
        Text.decimal (asked r.countBits r.count.toNat) ++ streamText r := by
  rw [text, h]
  dsimp only
  rw [transfer, sectorCount_eq, streamText, streamId]
  by_cases hstream : r.command.isStreaming = true
  · rw [if_pos hstream, if_pos (Opcode.isStreaming_iff_mem.mp hstream), String.append_assoc]
  · rw [if_neg hstream, if_neg (mt Opcode.isStreaming_iff_mem.mpr hstream), String.append_empty]

theorem text_eq_of_sameLow {r s : Registers} {name : String} (h : r.SameLow s)
    (hname : s.command.dataName? = some name) (hnarrow : s.command.isExtended = false) :
    text r = text s := by
  have hstream : ¬ s.command.isStreaming = true := by
    intro hstream
    rw [Opcode.isExtended_of_isStreaming hstream] at hnarrow
    cases hnarrow
  rw [text, text, h.command_eq, hname]
  dsimp only
  rw [transfer, transfer, h.command_eq, if_neg hstream, if_neg hstream, h.address_eq hnarrow,
    h.sectorCount_eq hnarrow]

end Command

/-- An error record with the address and device registers of the command that is to blame. -/
theorem returns_of_failing {e : ErrorLog.Entry} {c : ErrorLog.CommandRecord}
    (h : e.failing? = some c)
    (hlba : e.error.lba = c.lba) (hdevice : e.error.device = c.device) :
    e.failure.Returns c.registers where
  command_eq := by
    rw [ErrorLog.Entry.failure, h]
    rfl
  commandDevice_eq := by
    rw [ErrorLog.Entry.failure, h]
    rfl
  lba_eq := hlba
  device_eq := hdevice

/-- Wherever user data is addressed, the command and its failure tell the same place, and 28-bit
commands do not depend on what only the 48-bit registers hold. -/
theorem addresses_agree (r : Registers) :
    (r.command.isDataTransfer = true → ∀ f : Failure, f.Returns r →
      ∀ address, f.TellsAddress address ↔ address = r.address) ∧
    (∀ (e : ErrorLog.Entry) (c : ErrorLog.CommandRecord), e.failing? = some c →
      c.registers = r → e.error.lba = r.lba → e.error.device = r.device →
      e.failure.Returns r) ∧
    (∀ name, r.command.dataName? = some name → r.command.isDataTransfer = true ∧
      Command.text r = name ++ " - " ++ r.address ++ " Count: " ++
        Text.decimal (Registers.asked r.countBits r.count.toNat) ++ Command.streamText r) ∧
    (∀ name, r.command.dataName? = some name → r.command.isExtended = false →
      ∀ s : Registers, s.SameLow r → Command.text s = Command.text r) := by
  refine ⟨?_, ?_, ?_, ?_⟩
  · intro htransfer f hreturns address
    have hfailed : f.command.isDataTransfer = true := by rwa [hreturns.command_eq]
    rw [Failure.tellsAddress_iff hfailed, hreturns.address_eq]
  · rintro e c hfailing rfl hlba hdevice
    exact returns_of_failing hfailing hlba hdevice
  · intro name hname
    exact ⟨Opcode.isDataTransfer_of_dataName hname, Command.text_of_dataName hname⟩
  · intro name hname hnarrow s hlow
    exact Command.text_eq_of_sameLow hlow hname hnarrow

end DriveHealth.Ata
