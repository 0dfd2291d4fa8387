import DriveHealth.Node.Probe
import DriveHealth.Proofs.Transport.ReadsOnly

/-!
The calls by which a node is read. A command that reads is named by its operation code, or inside
ATA PASS-THROUGH(16) by the registers of the ATA command. Every request but MODE SELECT makes such
calls only, and so does the probe of a drive that is opened.
-/
namespace DriveHealth.Node

open Program Transport

/-- Whether a call sends data to the drive. -/
def Call.sends : Call → Bool
  | .command c => match c.phase with
    | .toDrive _ => true
    | _ => false
  | _ => false

/-- INQUIRY, LOG SENSE, MODE SENSE(6), MODE SENSE(10) and REQUEST SENSE. -/
def queryOpcodes : List UInt8 := [0x12, 0x4D, 0x1A, 0x5A, 0x03]

/-- The SMART commands that read data, thresholds, a log and the status. -/
def smartSubcommands : List UInt8 := [0xD0, 0xD1, 0xD5, 0xDA]

/-- IDENTIFY DEVICE, READ LOG EXT, or a SMART command that reads, with its signature. -/
inductive AtaReads (cdb : List UInt8) : Prop
  | identify : cdb[14]? = some 0xEC → AtaReads cdb
  | readLog : cdb[14]? = some 0x2F → AtaReads cdb
  | smart (subcommand : UInt8) : cdb[14]? = some 0xB0 → cdb[3]? = some 0 →
      cdb[4]? = some subcommand → subcommand ∈ smartSubcommands →
      cdb[10]? = some 0x4F → cdb[12]? = some 0xC2 → AtaReads cdb

/-- ATA PASS-THROUGH(16), without data or with data in, around a command that reads. -/
structure PassesThrough (cdb : List UInt8) : Prop where
  length_eq : cdb.length = 16
  opcode_eq : cdb[0]? = some 0x85
  protocol_eq : ∃ b : UInt8, cdb[1]? = some b ∧ (b >>> 1 = 3 ∨ b >>> 1 = 4)
  reads : AtaReads cdb

/-- The calls that leave a drive as it is. -/
inductive Reads : Call → Prop
  | openFile (path : String) (writable : Bool) : Reads (.openFile path writable)
  | clock : Reads .clock
  | pause (milliseconds : Nat) : Reads (.pause milliseconds)
  | query (c : Command) (opcode : UInt8) : c.cdb[0]? = some opcode → opcode ∈ queryOpcodes →
      (Call.command c).sends = false → Reads (.command c)
  | passThrough (c : Command) : PassesThrough c.cdb → (Call.command c).sends = false →
      Reads (.command c)
  /-- Get Log Page and Identify. -/
  | admin (c : AdminCommand) : c.opcode = 0x02 ∨ c.opcode = 0x06 → Reads (.admin c)

theorem Reads.sends_eq {c : Call} (h : Reads c) : c.sends = false := by
  cases h with
  | openFile path writable => rfl
  | clock => rfl
  | pause milliseconds => rfl
  | query c opcode _ _ hsends => exact hsends
  | passThrough c _ hsends => exact hsends
  | admin c _ => rfl

/-- A conversation with the kernel in which a drive is only read. -/
abbrev OnlyReads {α : Type} (p : Exchange α) : Prop := Asks Reads p

section Commands

theorem onlyReads_runScsi {c : Command} (h : Reads (.command c)) : OnlyReads (runScsi c) := by
  refine (asks_perform h).bind fun r => ?_
  cases r with
  | error e => exact Asks.done _
  | ok completion => exact Asks.done _

theorem onlyReads_receive {cdb : List UInt8} (opcode : UInt8) (hcdb : cdb[0]? = some opcode)
    (hopcode : opcode ∈ queryOpcodes) (buffer : Bytes) (timeout : Nat) :
    OnlyReads (receive cdb buffer timeout) :=
  (onlyReads_runScsi (Reads.query _ opcode hcdb hopcode rfl)).bind fun _ => Asks.done _

theorem onlyReads_receiveAdmin {opcode : UInt8} (h : opcode = 0x02 ∨ opcode = 0x06)
    (nsid dword10 dword11 : UInt32) (buffer : Bytes) :
    OnlyReads (receiveAdmin opcode nsid dword10 dword11 buffer) := by
  refine (asks_perform (Reads.admin _ h)).bind fun r => ?_
  cases r with
  | error e => exact Asks.done _
  | ok completion =>
    dsimp only
    split
    · exact Asks.done _
    · exact Asks.done _

/-- The ATA commands that read. -/
inductive AtaCommand.Reads (c : AtaCommand) : Prop
  | identify : c.command = 0xEC → AtaCommand.Reads c
  | readLog : c.command = 0x2F → AtaCommand.Reads c
  | smart : c.command = 0xB0 → AtaCommand.high c.features = 0 →
      AtaCommand.low c.features ∈ smartSubcommands → c.lbaByte 1 = 0x4F → c.lbaByte 2 = 0xC2 →
      AtaCommand.Reads c

theorem AtaCommand.Reads.passesThrough {c : AtaCommand} (h : c.Reads) (protocol : AtaProtocol)
    (returnRegisters : Bool) : PassesThrough (c.cdb protocol returnRegisters) where
  length_eq := rfl
  opcode_eq := rfl
  protocol_eq := by
    refine ⟨protocol.code * 2 + (if c.extended then 1 else 0), rfl, ?_⟩
    cases protocol <;> cases c.extended <;> decide
  reads := by
    cases h with
    | identify hcommand => exact AtaReads.identify (congrArg some hcommand)
    | readLog hcommand => exact AtaReads.readLog (congrArg some hcommand)
    | smart hcommand hhigh hlow hmid hupper =>
      exact AtaReads.smart _ (congrArg some hcommand) (congrArg some hhigh) rfl hlow
        (congrArg some hmid) (congrArg some hupper)

theorem reads_identify : AtaCommand.identify.Reads := .identify rfl

theorem reads_readLog (log : UInt8) (page : Nat) (feature count : UInt16) :
    (AtaCommand.readLog log page feature count).Reads :=
  .readLog rfl

/-- The upper bytes of the address of a SMART command are its signature. -/
theorem reads_smart (subcommand : UInt16) (hhigh : AtaCommand.high subcommand = 0)
    (hlow : AtaCommand.low subcommand ∈ smartSubcommands) (count : UInt16) (log : UInt8) :
    (AtaCommand.smart subcommand count log).Reads := by
  have hlog := log.toNat_lt
  have hmid : (0xC24F00 + log.toNat) / 256 ^ 1 = 0xC24F := by omega
  have hupper : (0xC24F00 + log.toNat) / 256 ^ 2 = 0xC2 := by omega
  refine .smart rfl hhigh hlow ?_ ?_
  · rw [AtaCommand.lbaByte, AtaCommand.smart, hmid]
    rfl
  · rw [AtaCommand.lbaByte, AtaCommand.smart, hupper]
    rfl

theorem onlyReads_runAta {c : AtaCommand} (h : c.Reads) (protocol : AtaProtocol)
    (returnRegisters : Bool) {phase : DataPhase} (hphase : ∀ data, phase ≠ .toDrive data)
    (timeout : Nat) : OnlyReads (runAta c protocol returnRegisters phase timeout) := by
  have hsends : (Call.command ⟨c.cdb protocol returnRegisters, phase, timeout⟩).sends = false := by
    cases phase with
    | absent => rfl
    | fromDrive buffer => rfl
    | toDrive data => exact absurd rfl (hphase data)
  refine (asks_perform (Reads.passThrough _ (h.passesThrough _ _) hsends)).bind fun r => ?_
  cases r with
  | error e => exact Asks.done _
  | ok completion => exact Asks.done _

theorem onlyReads_receiveAta {c : AtaCommand} (h : c.Reads) (buffer : Bytes) (timeout : Nat) :
    OnlyReads (receiveAta c buffer timeout) :=
  (onlyReads_runAta h .pioIn false (fun _ => DataPhase.noConfusion) timeout).bind
    fun _ => Asks.done _

end Commands

section Requests

theorem onlyReads_readChunks (log : UInt8) (feature : UInt16) (page : Nat) (l : List Bytes) :
    OnlyReads (AtaLog.readChunks log feature page l) := by
  induction l generalizing page with
  | nil => exact Asks.done _
  | cons chunk rest ih =>
    refine (onlyReads_receiveAta (reads_readLog log page feature _) chunk logTimeout).bind
      fun r => ?_
    cases r with
    | error e => exact Asks.done _
    | ok first => exact (ih _).bind fun _ => Asks.done _

theorem onlyReads_ataLog (log : UInt8) (page feature : UInt16) (hint : UInt32) (buffer : Bytes) :
    OnlyReads (AtaLog.read log page feature hint buffer) := by
  unfold AtaLog.read
  split
  · exact Asks.done _
  · exact onlyReads_readChunks log feature _ _

theorem onlyReads_smart {subcommand : UInt16} (hhigh : AtaCommand.high subcommand = 0)
    (hlow : AtaCommand.low subcommand ∈ smartSubcommands) (log : UInt8) (buffer : Bytes) :
    OnlyReads (Smart.read subcommand log buffer) := by
  unfold Smart.read
  split
  · exact Asks.done _
  · exact onlyReads_receiveAta (reads_smart subcommand hhigh hlow _ log) buffer defaultTimeout

theorem onlyReads_smartLog (log : UInt8) (buffer : Bytes) :
    OnlyReads (Smart.read Smart.readLog log buffer) :=
  onlyReads_smart (by decide) (by decide) log buffer

theorem onlyReads_askStatus : OnlyReads Smart.askStatus := by
  have hreads := reads_smart Smart.returnStatus (by decide) (by decide) 0 0
  refine (onlyReads_runAta hreads .nonData true (fun _ => DataPhase.noConfusion) _).bind
    fun r => ?_
  cases r with
  | error e => exact Asks.done _
  | ok x => obtain ⟨completion, _ | registers⟩ := x <;> exact Asks.done _

theorem onlyReads_sctStatus (f : AtaFeatures) (buffer : Bytes) :
    OnlyReads (SctStatus.read f buffer) := by
  refine Asks.bind ?_ fun _ => Asks.done _
  split
  · exact onlyReads_ataLog _ _ _ _ _
  · exact onlyReads_smartLog _ _

theorem onlyReads_logSense (page subpage : UInt8) (buffer : Bytes) :
    OnlyReads (ScsiLog.sense page subpage buffer) :=
  (onlyReads_receive 0x4D rfl (by decide) _ _).bind fun _ => Asks.done _

theorem onlyReads_modeSense (form : ModeForm) (page : UInt8) (control : PageControl)
    (buffer : Bytes) : OnlyReads (Mode.sense form page control buffer) := by
  refine Asks.bind ?_ fun _ => Asks.done _
  cases form with
  | six => exact onlyReads_receive 0x1A rfl (by decide) _ _
  | ten => exact onlyReads_receive 0x5A rfl (by decide) _ _

theorem onlyReads_requestSense (buffer : Bytes) : OnlyReads (RequestSense.ask buffer) :=
  (onlyReads_receive 0x03 rfl (by decide) _ _).bind fun _ => Asks.done _

theorem onlyReads_nvmeLog (log : UInt8) (nsid : UInt32) (buffer : Bytes) :
    OnlyReads (NvmeLog.read log nsid buffer) := by
  unfold NvmeLog.read
  dsimp only
  split
  · exact Asks.done _
  · exact onlyReads_receiveAdmin (.inl rfl) _ _ _ _

/-- MODE SELECT is the only request that is answered by other calls. -/
theorem onlyReads_answer (f : AtaFeatures) {r : Request} (h : Scsi.isModeSelect r = false) :
    OnlyReads (answer f r) := by
  cases r with
  | readLog log page feature hint buffer => exact onlyReads_ataLog log page feature hint buffer
  | smartReadLog log buffer => exact onlyReads_smartLog log buffer
  | smartReadData buffer =>
    exact (onlyReads_smart (by decide) (by decide) _ _).bind fun _ => Asks.done _
  | smartReadThresholds buffer =>
    exact (onlyReads_smart (by decide) (by decide) _ _).bind fun _ => Asks.done _
  | returnStatus => exact onlyReads_askStatus
  | sctStatus buffer => exact onlyReads_sctStatus f buffer
  | logSense page subpage buffer => exact onlyReads_logSense page subpage buffer
  | logSenseSize page subpage =>
    exact (onlyReads_logSense page subpage _).bind fun _ => Asks.done _
  | modeSense form page control buffer => exact onlyReads_modeSense form page control buffer
  | modeSelect form data save => cases h
  | requestSense buffer => exact onlyReads_requestSense buffer
  | nvmeLog log nsid buffer => exact onlyReads_nvmeLog log nsid buffer
  | clock => exact asks_perform Reads.clock
  | pause milliseconds => exact asks_perform (Reads.pause milliseconds)

/-- A session that sends no MODE SELECT only reads the node. -/
theorem onlyReads_exchange {α : Type} {p : Session α} (h : Scsi.ReadsOnly p) (f : AtaFeatures) :
    OnlyReads (exchange f p) :=
  h.interpret fun _ => onlyReads_answer f

end Requests

section Open

theorem onlyReads_ataFarm (f : AtaFeatures) : OnlyReads (Probe.Ata.farm f) := by
  unfold Probe.Ata.farm
  split
  · have hread : OnlyReads (exchange f ErrorLog.Directory.readGeneral.run) :=
      onlyReads_exchange ErrorLog.Directory.readsOnly_readGeneral f
    refine hread.bind fun r => ?_
    cases r with
    | ok d => exact Asks.done _
    | error e => exact Asks.done _
  · exact Asks.done _

theorem onlyReads_scsiSerial : OnlyReads Probe.Scsi.serial := by
  refine (onlyReads_receive 0x12 rfl (by decide) _ _).bind fun r => ?_
  cases r with
  | error e => exact Asks.done _
  | ok x => exact Asks.done _

theorem onlyReads_scsiFarm : OnlyReads Probe.Scsi.farm := by
  refine (onlyReads_logSense 0x00 0xFF (.zeros 1024)).bind fun r => ?_
  cases r with
  | error e => exact Asks.done _
  | ok x => exact Asks.done _

theorem onlyReads_identify (inquiry : Bytes) : OnlyReads (Probe.identify inquiry) := by
  refine (onlyReads_receiveAta reads_identify _ _).bind fun r => ?_
  cases r with
  | ok page => exact (onlyReads_ataFarm _).bind fun _ => Asks.done _
  | error e =>
    exact onlyReads_scsiSerial.bind fun _ => onlyReads_scsiFarm.bind fun _ => Asks.done _

theorem onlyReads_probe (path : String) : OnlyReads (probe path) := by
  unfold probe
  split
  · refine (onlyReads_receiveAdmin (.inr rfl) _ _ _ _).bind fun r => ?_
    cases r with
    | error e => exact Asks.done _
    | ok page => exact Asks.done _
  · refine (onlyReads_receive 0x12 rfl (by decide) _ _).bind fun r => ?_
    cases r with
    | error e => exact Asks.done _
    | ok x =>
      dsimp only
      split
      · exact Asks.done _
      · exact (onlyReads_identify x.1).bind fun _ => Asks.done _

theorem onlyReads_openFile (path : String) : OnlyReads (openFile path) := by
  refine (asks_perform (Reads.openFile path true)).bind fun r => ?_
  cases r with
  | ok a => exact Asks.done _
  | error e => exact asks_perform (Reads.openFile path false)

theorem onlyReads_openDrive (path : String) : OnlyReads (openDrive path) := by
  refine (onlyReads_openFile path).bind fun r => ?_
  cases r with
  | error e => exact Asks.done _
  | ok a => exact (onlyReads_probe path).bind fun _ => Asks.done _

end Open

end DriveHealth.Node
