import DriveHealth.Ata.Command
import DriveHealth.Ata.Failure
import DriveHealth.Proofs.Text.Lines

/-!
The texts of ATA commands and of their failures are single lines, whatever the registers hold.
-/
namespace DriveHealth.Ata

open Text

@[simp] theorem Timer.oneLine_period (value : Nat) : OneLine (Timer.period value) := by
  unfold Timer.period Timer.seconds
  repeat' with_reducible apply oneLine_ite
  all_goals simp -failIfUnchanged
  all_goals and_intros <;> exact oneLine_ofList (by decide)

namespace SetFeatures

theorem oneLine_names : ∀ e ∈ names, OneLine e.2 := by
  simp only [names, List.forall_mem_cons]
  and_intros <;> first | exact List.forall_mem_nil _ | exact oneLine_ofList (by decide)

theorem oneLine_sataNames : ∀ e ∈ sataNames, OneLine e.2 := by
  simp only [sataNames, List.forall_mem_cons]
  and_intros <;> first | exact List.forall_mem_nil _ | exact oneLine_ofList (by decide)

@[simp] theorem oneLine_sataName (count : UInt8) : OneLine (sataName count) := by
  unfold sataName
  cases h : sataNames.lookup count with
  | some s => exact oneLine_lookup oneLine_sataNames h
  | none => exact oneLine_ofList (by decide)

@[simp] theorem oneLine_transferMode (count : UInt8) : OneLine (transferMode count) := by
  unfold transferMode
  dsimp only
  repeat' with_reducible apply oneLine_ite
  all_goals simp -failIfUnchanged
  all_goals and_intros <;> exact oneLine_ofList (by decide)

@[simp] theorem oneLine_powerCondition (lba : Nat) (count : UInt8) :
    OneLine (powerCondition lba count) := by
  unfold powerCondition
  split <;> simp -failIfUnchanged
  all_goals and_intros <;> exact oneLine_ofList (by decide)

@[simp] theorem oneLine_statisticsNotification (count : UInt8) :
    OneLine (statisticsNotification count) := by
  unfold statisticsNotification
  repeat' with_reducible apply oneLine_ite
  all_goals simp -failIfUnchanged
  all_goals and_intros <;> exact oneLine_ofList (by decide)

@[simp] theorem oneLine_switched (count : UInt8) {what : String} (h : OneLine what) :
    OneLine (switched count what) := by
  unfold switched
  simp only [oneLine_append, h, and_true]
  apply oneLine_ite <;> exact oneLine_ofList (by decide)

@[simp] theorem oneLine_name (subcommand count : UInt8) : OneLine (name subcommand count) := by
  unfold name
  cases h : names.lookup subcommand with
  | some s => exact oneLine_lookup oneLine_names h
  | none =>
    dsimp only
    repeat' with_reducible apply oneLine_ite
    all_goals simp -failIfUnchanged (disch := exact oneLine_ofList (by decide)) <;> and_intros
    all_goals exact oneLine_ofList (by decide)

end SetFeatures

namespace LogAddress

theorem oneLine_names : ∀ e ∈ names, OneLine e.2 := by
  simp only [names, List.forall_mem_cons]
  and_intros <;> first | exact List.forall_mem_nil _ | exact oneLine_ofList (by decide)

@[simp] theorem oneLine_name (address : UInt8) : OneLine (name address) := by
  unfold name
  cases h : names.lookup address with
  | some s => exact oneLine_lookup oneLine_names h
  | none =>
    dsimp only
    repeat' with_reducible apply oneLine_ite
    all_goals exact oneLine_ofList (by decide)

end LogAddress

@[simp] theorem Address.oneLine_block (lba : Nat) : OneLine (Address.block lba) := by
  unfold Address.block
  simp only [oneLine_append, oneLine_decimal, and_true]
  exact oneLine_ofList (by decide)

@[simp] theorem Address.oneLine_place (lba : Nat) (device : UInt8) :
    OneLine (Address.place lba device) := by
  unfold Address.place
  simp
  and_intros <;> exact oneLine_ofList (by decide)

@[simp] theorem Registers.oneLine_address (r : Registers) : OneLine r.address := by
  unfold Registers.address
  split_ifs <;> simp

namespace Command

variable {name : String} (r : Registers)

section Transfer

@[simp] theorem oneLine_transfer (h : OneLine name) : OneLine (transfer name r) := by
  unfold transfer
  apply oneLine_ite <;> simp [h]
  all_goals and_intros <;> exact oneLine_ofList (by decide)

@[simp] theorem oneLine_dataSetManagement (h : OneLine name) :
    OneLine (dataSetManagement name r) := by
  unfold dataSetManagement
  simp only [oneLine_append, h, oneLine_decimal, true_and, and_true]
  apply oneLine_ite <;> exact oneLine_ofList (by decide)

@[simp] theorem oneLine_uncorrectableMode (n : Nat) : OneLine (uncorrectableMode n) := by
  unfold uncorrectableMode
  split <;> exact oneLine_ofList (by decide)

@[simp] theorem oneLine_writeUncorrectable : OneLine (writeUncorrectable r) := by
  unfold writeUncorrectable
  simp
  and_intros <;> exact oneLine_ofList (by decide)

@[simp] theorem oneLine_logName (address : Nat) : OneLine (logName address) := by
  unfold logName
  simp
  and_intros <;> exact oneLine_ofList (by decide)

@[simp] theorem oneLine_log (h : OneLine name) : OneLine (log name r) := by
  unfold log
  simp [h]
  and_intros <;> exact oneLine_ofList (by decide)

@[simp] theorem oneLine_elementStatus : OneLine (elementStatus r) := by
  unfold elementStatus
  simp
  and_intros <;> exact oneLine_ofList (by decide)

@[simp] theorem oneLine_queued (h : OneLine name) : OneLine (queued name r) := by
  unfold queued
  simp only [oneLine_append, h, true_and]
  and_intros
  all_goals try with_reducible apply oneLine_ite
  all_goals simp -failIfUnchanged
  all_goals exact oneLine_ofList (by decide)

@[simp] theorem oneLine_zoneAction (n : Nat) : OneLine (zoneAction n) := by
  unfold zoneAction
  split <;> exact oneLine_ofList (by decide)

@[simp] theorem oneLine_zoneIn : OneLine (zoneIn r) := by
  unfold zoneIn
  dsimp only
  apply oneLine_ite <;> simp
  all_goals and_intros <;> exact oneLine_ofList (by decide)

@[simp] theorem oneLine_zoneOut : OneLine (zoneOut r) := by
  unfold zoneOut
  simp only [oneLine_append, oneLine_zoneAction]
  and_intros
  all_goals try with_reducible apply oneLine_ite
  all_goals simp -failIfUnchanged
  all_goals exact oneLine_ofList (by decide)

@[simp] theorem oneLine_queuedNonDataSubcommand : OneLine (queuedNonDataSubcommand r) := by
  unfold queuedNonDataSubcommand
  split <;> simp -failIfUnchanged
  all_goals and_intros <;> exact oneLine_ofList (by decide)

@[simp] theorem oneLine_queuedNonData : OneLine (queuedNonData r) := by
  unfold queuedNonData
  simp
  and_intros <;> exact oneLine_ofList (by decide)

@[simp] theorem oneLine_sendSubcommand (n : Nat) : OneLine (sendSubcommand n) := by
  unfold sendSubcommand
  split <;> exact oneLine_ofList (by decide)

@[simp] theorem oneLine_receiveSubcommand (n : Nat) : OneLine (receiveSubcommand n) := by
  unfold receiveSubcommand
  split <;> exact oneLine_ofList (by decide)

@[simp] theorem oneLine_queuedSend : OneLine (queuedSend r) := by
  unfold queuedSend queuedBlocks
  simp
  and_intros <;> exact oneLine_ofList (by decide)

@[simp] theorem oneLine_queuedReceive : OneLine (queuedReceive r) := by
  unfold queuedReceive queuedBlocks
  simp
  and_intros <;> exact oneLine_ofList (by decide)

@[simp] theorem oneLine_seek : OneLine (seek r) := by
  unfold seek
  dsimp only
  repeat' with_reducible apply oneLine_ite
  all_goals simp -failIfUnchanged
  all_goals and_intros <;> exact oneLine_ofList (by decide)

end Transfer

namespace Smart

@[simp] theorem oneLine_offlineTest (n : Nat) : OneLine (offlineTest n) := by
  unfold offlineTest
  split
  all_goals try with_reducible apply oneLine_ite
  all_goals exact oneLine_ofList (by decide)

@[simp] theorem oneLine_switched {what : String} (h : OneLine what) (on count : Nat) :
    OneLine (switched what on count) := by
  unfold switched
  repeat' with_reducible apply oneLine_ite
  all_goals simp [h]
  all_goals and_intros <;> exact oneLine_ofList (by decide)

@[simp] theorem oneLine_log (h : OneLine name) : OneLine (log name r) := by
  unfold log
  simp [h]
  and_intros <;> exact oneLine_ofList (by decide)

@[simp] theorem oneLine_subcommand : OneLine (subcommand r) := by
  unfold subcommand
  split
  case h_13 =>
    simp only [oneLine_append, oneLine_hexCaps, and_true]
    and_intros
    all_goals try with_reducible apply oneLine_ite
    all_goals exact oneLine_ofList (by decide)
  all_goals simp -failIfUnchanged (disch := exact oneLine_ofList (by decide))
  all_goals exact oneLine_ofList (by decide)

@[simp] theorem oneLine_text : OneLine (text r) := by
  unfold text
  apply oneLine_ite <;> simp
  all_goals and_intros <;> exact oneLine_ofList (by decide)

end Smart

section Management

@[simp] theorem oneLine_microcode (h : OneLine name) : OneLine (microcode name r) := by
  unfold microcode
  split <;> simp [h]
  all_goals and_intros <;> exact oneLine_ofList (by decide)

theorem oneLine_securityProtocols : ∀ e ∈ securityProtocols, OneLine e.2 := by
  simp only [securityProtocols, List.forall_mem_cons]
  and_intros <;> first | exact List.forall_mem_nil _ | exact oneLine_ofList (by decide)

@[simp] theorem oneLine_securityProtocol (n : Nat) : OneLine (securityProtocol n) := by
  unfold securityProtocol
  cases h : securityProtocols.lookup n with
  | some s => exact oneLine_lookup oneLine_securityProtocols h
  | none =>
    dsimp only
    repeat' with_reducible apply oneLine_ite
    all_goals exact oneLine_ofList (by decide)

@[simp] theorem oneLine_trustedStart (h : OneLine name) : OneLine (trustedStart name r) := by
  unfold trustedStart
  simp [h]
  and_intros <;> exact oneLine_ofList (by decide)

@[simp] theorem oneLine_trusted (h : OneLine name) : OneLine (trusted name r) := by
  unfold trusted
  simp [h]
  exact oneLine_ofList (by decide)

@[simp] theorem oneLine_trustedNonData : OneLine (trustedNonData r) := by
  unfold trustedNonData
  simp only [oneLine_append]
  refine ⟨oneLine_trustedStart r (oneLine_ofList (by decide)), ?_⟩
  apply oneLine_ite <;> exact oneLine_ofList (by decide)

@[simp] theorem oneLine_configurationOverlay (n : Nat) : OneLine (configurationOverlay n) := by
  unfold configurationOverlay
  split <;> exact oneLine_ofList (by decide)

@[simp] theorem oneLine_setMaxAddress : OneLine (setMaxAddress r) := by
  unfold setMaxAddress
  split <;> simp -failIfUnchanged <;> and_intros
  all_goals try with_reducible apply oneLine_ite
  all_goals exact oneLine_ofList (by decide)

@[simp] theorem oneLine_cacheSubcommand (n : Nat) : OneLine (cacheSubcommand n) := by
  unfold cacheSubcommand
  split <;> exact oneLine_ofList (by decide)

@[simp] theorem oneLine_sanitizeStep (h : OneLine name) (key letters : Nat) :
    OneLine (sanitizeStep name key letters) := by
  unfold sanitizeStep
  simp only [oneLine_append, h, and_true]
  refine ⟨oneLine_ofList (by decide), ?_⟩
  apply oneLine_ite <;> exact oneLine_ofList (by decide)

@[simp] theorem oneLine_sanitize : OneLine (sanitize r) := by
  unfold sanitize
  split <;> simp -failIfUnchanged (disch := exact oneLine_ofList (by decide)) <;> and_intros
  all_goals try with_reducible apply oneLine_ite
  all_goals exact oneLine_ofList (by decide)

@[simp] theorem oneLine_setFeatures : OneLine (setFeatures r) := by
  unfold setFeatures
  apply oneLine_ite <;> simp <;> exact oneLine_ofList (by decide)

end Management

@[simp] theorem oneLine_byRange : OneLine (byRange r) := by
  unfold byRange vendorSpecific
  dsimp only
  repeat' with_reducible apply oneLine_ite
  all_goals simp -failIfUnchanged
  all_goals and_intros <;> exact oneLine_ofList (by decide)

theorem oneLine_names : ∀ e ∈ names, OneLine e.2 := by
  simp only [names, List.forall_mem_cons]
  and_intros <;> first | exact List.forall_mem_nil _ | exact oneLine_ofList (by decide)

theorem oneLine_dataNames : ∀ e ∈ Opcode.dataNames, OneLine e.2 := by
  simp only [Opcode.dataNames, List.forall_mem_cons]
  and_intros <;> first | exact List.forall_mem_nil _ | exact oneLine_ofList (by decide)

@[simp] theorem oneLine_byRegisters : OneLine (byRegisters r) := by
  unfold byRegisters initializeParameters sectorConfiguration idleImmediate
  split
  all_goals try with_reducible apply oneLine_ite
  all_goals simp -failIfUnchanged (disch := exact oneLine_ofList (by decide)) <;> and_intros
  all_goals exact oneLine_ofList (by decide)

/-- The text of a command is one line. -/
theorem oneLine_text : OneLine (text r) := by
  unfold text
  cases hdata : r.command.dataName? with
  | some name => exact oneLine_transfer r (oneLine_lookup oneLine_dataNames hdata)
  | none =>
    cases hname : names.lookup r.command with
    | some name => exact oneLine_lookup oneLine_names hname
    | none => exact oneLine_byRegisters r

end Command

namespace Failure

variable (f : Failure)

theorem oneLine_of_mem_present {l : List (Bool × String)} (h : ∀ e ∈ l, OneLine e.2) {s : String}
    (hs : s ∈ present l) : OneLine s := by
  obtain ⟨e, he, rfl⟩ := List.mem_map.mp hs
  exact h e (List.mem_of_mem_filter he)

theorem oneLine_conditions {l : List String} (h : ∀ s ∈ l, OneLine s) (register : UInt8) :
    OneLine (conditions l register) := by
  unfold conditions
  apply oneLine_ite
  · simp only [oneLine_append, oneLine_hexCaps, true_and]
    exact oneLine_ofList (by decide)
  · exact oneLine_intercalate (oneLine_ofList (by decide)) h

theorem oneLine_statusConditions : ∀ s ∈ f.statusConditions, OneLine s := by
  intro s hs
  refine oneLine_of_mem_present ?_ hs
  simp only [List.forall_mem_cons]
  and_intros <;> first | exact List.forall_mem_nil _ | exact oneLine_ofList (by decide)

theorem oneLine_errorConditions : ∀ s ∈ f.errorConditions, OneLine s := by
  intro s hs
  refine oneLine_of_mem_present ?_ hs
  simp only [List.forall_mem_cons]
  and_intros <;> first | exact List.forall_mem_nil _ | exact oneLine_ofList (by decide)

@[simp] theorem oneLine_address : OneLine f.address := by
  unfold address
  split_ifs <;> simp

/-- The text of a failure is one line. -/
theorem oneLine_text : OneLine f.text := by
  have hstatus := oneLine_conditions f.oneLine_statusConditions f.status
  have herror := oneLine_conditions f.oneLine_errorConditions f.error
  unfold text
  simp only [oneLine_append, hstatus, oneLine_hexCaps]
  and_intros
  all_goals try with_reducible apply oneLine_ite
  all_goals simp -failIfUnchanged [herror]
  all_goals exact oneLine_ofList (by decide)

end Failure
end DriveHealth.Ata
