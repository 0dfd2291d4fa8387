import DriveHealth.Node.Probe
import DriveHealth.Proofs.ErrorLog.Requests
import DriveHealth.Proofs.Node.LogRead
import DriveHealth.Proofs.Transport.Requests

/-!
The lengths that commands tell a target, beside those that the kernel is told of their data phases
in words of 32 bits. A command whose field is too short for its data is not sent, or its data phase
is cut, with two exceptions: the count of a SMART command is a single byte, and a transfer of more
sectors tells no more than the lower byte of their number; and the read of an NVMe log tells whole
words of four bytes, with a field that is wider than what the kernel is told.
-/
namespace DriveHealth.Node

open Program Transport

/-- The data of ATA PASS-THROUGH(16) in sectors, as the count registers tell them. A command with
one byte for each register has only the lower one. -/
def passThroughLength (cdb : List UInt8) : Nat :=
  if cdb.getD 2 0 &&& 0x03 = 0 then 0
  else if cdb.getD 1 0 &&& 0x01 = 1 then wordAt cdb 5 6 * sector
  else (cdb.getD 6 0).toNat * sector

/-- The length of the data phase that a target reads out of a command. -/
def toldLength? (cdb : List UInt8) : Option Nat :=
  match cdb.head? with
  | some 0x85 => some (passThroughLength cdb)
  | some 0x12 => some (wordAt cdb 3 4)
  | some 0x03 | some 0x15 | some 0x1A => some (cdb.getD 4 0).toNat
  | some 0x4D | some 0x55 | some 0x5A => some (wordAt cdb 7 8)
  | _ => none

/-- Identify sends a page of 4096 bytes, and Get Log Page as many words as it is told, plus one. -/
def toldAdminLength? (c : AdminCommand) : Option Nat :=
  if c.opcode = 0x06 then some 4096
  else if c.opcode = 0x02 then
    some (4 * (c.dword10.toNat / 65536 + 65536 * (c.dword11.toNat % 65536) + 1))
  else none

/-- The target reads the length out of a call, the kernel is told it, and the data is just so
long. -/
def Tells (n : Nat) : Call → Prop
  | .command c => toldLength? c.cdb = some n ∧ c.phase.length.toNat = n ∧ c.phase.size = n
  | .admin c => toldAdminLength? c = some n ∧ c.length.toNat = n ∧ c.buffer.size = n
  | _ => True

/-- The target, the kernel and the buffer agree on the length of the data phase. -/
def Fits (c : Call) : Prop := ∃ n, Tells n c

theorem fits_of_tells {α : Type} {p : Exchange α} {n : Nat} (h : Asks (Tells n) p) :
    Asks Fits p :=
  h.mono fun _ htells => ⟨n, htells⟩

section Commands

theorem asks_runScsi {P : Call → Prop} {c : Command} (h : P (.command c)) :
    Asks P (runScsi c) := by
  refine (asks_perform h).bind fun r => ?_
  cases r <;> exact Asks.done _

theorem asks_runAta {P : Call → Prop} {c : AtaCommand} {protocol : AtaProtocol}
    {returnRegisters : Bool} {phase : DataPhase} {timeout : Nat}
    (h : P (.command ⟨c.cdb protocol returnRegisters, phase, timeout⟩)) :
    Asks P (runAta c protocol returnRegisters phase timeout) := by
  refine (asks_perform h).bind fun r => ?_
  cases r <;> exact Asks.done _

theorem DataPhase.toNat_length (phase : DataPhase) : phase.length.toNat = phase.size % 2 ^ 32 := by
  cases phase with
  | absent => rfl
  | fromDrive buffer => exact toNat_lengthWord buffer
  | toDrive data => exact toNat_lengthWord data

theorem wordAt_lt (cdb : List UInt8) (i j : Nat) : wordAt cdb i j < 2 ^ 16 := by
  have hi := (cdb.getD i 0).toNat_lt
  have hj := (cdb.getD j 0).toNat_lt
  unfold wordAt
  omega

theorem passThroughLength_lt (cdb : List UInt8) : passThroughLength cdb < 2 ^ 32 := by
  have hlow := (cdb.getD 6 0).toNat_lt
  have hboth := wordAt_lt cdb 5 6
  unfold passThroughLength sector
  split
  · omega
  · split <;> omega

/-- No length field of a SCSI command is wider than what the kernel is told. -/
theorem toldLength_lt {cdb : List UInt8} {n : Nat} (h : toldLength? cdb = some n) :
    n < 2 ^ 32 := by
  have hsectors := passThroughLength_lt cdb
  have hbyte := (cdb.getD 4 0).toNat_lt
  have hinquiry := wordAt_lt cdb 3 4
  have hword := wordAt_lt cdb 7 8
  unfold toldLength? at h
  split at h <;> cases h <;> omega

/-- The kernel is told as much of the length as the target is. -/
theorem tells_command {c : Command} {n : Nat} (htold : toldLength? c.cdb = some n)
    (hsize : c.phase.size = n) : Tells n (.command c) := by
  have hlength : c.phase.length.toNat = n := by
    rw [DataPhase.toNat_length, hsize, Nat.mod_eq_of_lt (toldLength_lt htold)]
  exact ⟨htold, hlength, hsize⟩

theorem tells_receive {n : Nat} {cdb : List UInt8} (hcdb : toldLength? cdb = some n)
    {buffer : Bytes} (hsize : buffer.size = n) (timeout : Nat) :
    Asks (Tells n) (receive cdb buffer timeout) := by
  have hask : Tells n (.command ⟨cdb, .fromDrive buffer, timeout⟩) := tells_command hcdb hsize
  exact (asks_runScsi hask).bind fun _ => Asks.done _

theorem tells_send {cdb : List UInt8} {data : Bytes} (hcdb : toldLength? cdb = some data.size)
    (timeout : Nat) : Asks (Tells data.size) (send cdb data timeout) := by
  have hask : Tells data.size (.command ⟨cdb, .toDrive data, timeout⟩) := tells_command hcdb rfl
  exact (asks_runScsi hask).bind fun _ => Asks.done _

theorem tells_receiveAdmin {n : Nat} {opcode : UInt8} {nsid dword10 dword11 : UInt32}
    {buffer : Bytes} (htold : toldAdminLength? ⟨opcode, nsid, dword10, dword11, buffer,
      defaultTimeout⟩ = some n) (hsize : buffer.size = n) (hlt : n < 2 ^ 32) :
    Asks (Tells n) (receiveAdmin opcode nsid dword10 dword11 buffer) := by
  have hlength : (lengthWord buffer).toNat = n := by
    rw [toNat_lengthWord, hsize, Nat.mod_eq_of_lt hlt]
  have hask : Tells n (.admin ⟨opcode, nsid, dword10, dword11, buffer, defaultTimeout⟩) :=
    ⟨htold, hlength, hsize⟩
  refine (asks_perform hask).bind fun r => ?_
  cases r with
  | error e => exact Asks.done _
  | ok completion =>
    dsimp only
    split <;> exact Asks.done _

/-- The sectors that the count registers of a command hold. -/
def AtaCommand.sectors (c : AtaCommand) : Nat :=
  if c.extended then c.count.toNat else c.count.toNat % 256

theorem toldLength_pioIn (c : AtaCommand) (returnRegisters : Bool) :
    toldLength? (c.cdb .pioIn returnRegisters) = some (c.sectors * sector) := by
  have hlow : (AtaCommand.low c.count).toNat = c.count.toNat % 256 := UInt8.toNat_ofNat'
  have hdata : AtaCommand.transferFlags .pioIn returnRegisters &&& 0x03 ≠ 0 := by
    cases returnRegisters <;> decide
  have htold : toldLength? (c.cdb .pioIn returnRegisters) =
      some (passThroughLength (c.cdb .pioIn returnRegisters)) := rfl
  have hbit : AtaProtocol.pioIn.code * 2 + (if c.extended then 1 else 0) &&& 0x01 = 1 ↔
      c.extended = true := by
    cases c.extended <;> decide
  rw [htold, passThroughLength, AtaCommand.sectors]
  simp only [AtaCommand.cdb, wordAt, List.getD_cons_succ, List.getD_cons_zero, if_neg hdata,
    AtaCommand.toNat_high_low, hbit]
  split
  · rfl
  · rw [hlow]

theorem tells_receiveAta {c : AtaCommand} {buffer : Bytes}
    (hsize : buffer.size = c.sectors * sector) (timeout : Nat) :
    Asks (Tells (c.sectors * sector)) (receiveAta c buffer timeout) := by
  have hask : Tells (c.sectors * sector)
      (.command ⟨c.cdb .pioIn false, .fromDrive buffer, timeout⟩) :=
    tells_command (toldLength_pioIn c false) hsize
  exact (asks_runAta hask).bind fun _ => Asks.done _

end Commands

section Requests

theorem fits_readChunks (log : UInt8) (feature : UInt16) {greatest : Nat}
    (hgreatest : greatest ≤ AtaLog.greatestCount) (page : Nat) {l : List Bytes}
    (hl : ∀ chunk ∈ l, AtaLog.HoldsSectors greatest chunk) :
    Asks Fits (AtaLog.readChunks log feature page l) := by
  induction l generalizing page with
  | nil => exact Asks.done _
  | cons chunk rest ih =>
    obtain ⟨⟨n, hsize, _, hle⟩, hrest⟩ := List.forall_mem_cons.mp hl
    have hlt : n < UInt16.size := Nat.lt_succ_of_le (Nat.le_trans hle hgreatest)
    have hsectors : (AtaCommand.readLog log page feature
        (.ofNat (chunk.size / sector))).sectors = n := by
      rw [AtaLog.sectors_of_size hsize]
      exact UInt16.toNat_ofNat_of_lt' hlt
    have hask := tells_receiveAta (by rwa [hsectors]) logTimeout
    refine Asks.bind_except (fits_of_tells hask) (fun first => ?_) fun e => Asks.done _
    exact (ih _ hrest).bind fun _ => Asks.done _

theorem fits_ataLog (log : UInt8) (page feature : UInt16) (hint : UInt32) (buffer : Bytes) :
    Asks Fits (AtaLog.read log page feature hint buffer) := by
  unfold AtaLog.read
  split
  · exact Asks.done _
  · rename_i hwhole
    obtain ⟨hpos, hle⟩ := AtaLog.limit_bounds hint
    rw [AtaLog.perCommand_eq_limit]
    exact fits_readChunks log feature hle _
      (AtaLog.holdsSectors_chunks hpos (Decidable.not_not.mp hwhole))

/-- A SMART command tells the lower byte of the number of its sectors. -/
theorem sectors_smart (subcommand : UInt16) (sectors : Nat) (log : UInt8) :
    (AtaCommand.smart subcommand (.ofNat sectors) log).sectors = sectors % 256 := by
  show (UInt16.ofNat sectors).toNat % 256 = _
  rw [UInt16.toNat_ofNat']
  omega

/-- The most bytes that a SMART command can tell. -/
def greatestSmart : Nat := 255 * sector

theorem tells_smart (subcommand : UInt16) (log : UInt8) {buffer : Bytes}
    (hsize : buffer.size ≤ greatestSmart) :
    Asks (Tells buffer.size) (Smart.read subcommand log buffer) := by
  unfold Smart.read
  split
  · exact Asks.done _
  · rename_i hwhole
    rw [not_or, Decidable.not_not] at hwhole
    have hsectors : (AtaCommand.smart subcommand (.ofNat (buffer.size / sector)) log).sectors *
        sector = buffer.size := by
      rw [sectors_smart]
      unfold greatestSmart sector at *
      omega
    have hask := tells_receiveAta hsectors.symm defaultTimeout
    rwa [hsectors] at hask

/-- One sector can be told. -/
theorem size_take_sector_le (buffer : Bytes) : (buffer.take sector).size ≤ greatestSmart := by
  rw [Bytes.size_take]
  unfold greatestSmart
  omega

theorem tells_smartPage (subcommand : UInt16) (buffer : Bytes) :
    Asks (Tells (min sector buffer.size)) (Smart.readPage subcommand buffer) := by
  have hask := tells_smart subcommand 0 (size_take_sector_le buffer)
  rw [Bytes.size_take] at hask
  exact hask.bind fun _ => Asks.done _

theorem tells_askStatus : Asks (Tells 0) Smart.askStatus := by
  refine (asks_runAta ⟨rfl, rfl, rfl⟩).bind fun r => ?_
  match r with
  | .error e => exact Asks.done _
  | .ok (_, some registers) => exact Asks.done _
  | .ok (_, none) => exact Asks.done _

theorem fits_sctStatus (f : AtaFeatures) (buffer : Bytes) :
    Asks Fits (SctStatus.read f buffer) := by
  refine Asks.bind ?_ fun _ => Asks.done _
  split
  · exact fits_ataLog _ _ _ _ _
  · exact fits_of_tells (tells_smart _ _ (size_take_sector_le buffer))

theorem size_take_min (buffer : Bytes) (greatest : Nat) :
    (buffer.take (min buffer.size greatest)).size = min buffer.size greatest := by
  rw [Bytes.size_take]
  omega

theorem tells_logSense (page subpage : UInt8) (buffer : Bytes) :
    Asks (Tells (min buffer.size ScsiLog.greatestLength)) (ScsiLog.sense page subpage buffer) := by
  have hlt : min buffer.size ScsiLog.greatestLength < 65536 :=
    Nat.lt_succ_of_le (Nat.min_le_right _ _)
  have htold : toldLength? ([0x4D, 0, 0x40 ||| (page &&& 0x3F), subpage, 0, 0, 0] ++
      Bytes.beDigits 2 (min buffer.size ScsiLog.greatestLength) ++ [0]) =
      some (min buffer.size ScsiLog.greatestLength) := congrArg some (toNat_bytes hlt)
  exact (tells_receive htold (size_take_min _ _) _).bind fun _ => Asks.done _

theorem toldLength_modeSense (form : ModeForm) (page : UInt8) (control : PageControl) {n : Nat}
    (h : n ≤ Mode.greatestLength form) :
    toldLength? (Mode.senseCdb form page control n) = some n := by
  cases form with
  | six => exact congrArg some (UInt8.toNat_ofNat_of_lt' (Nat.lt_succ_of_le h))
  | ten => exact congrArg some (toNat_bytes (Nat.lt_succ_of_le h))

theorem tells_modeSense (form : ModeForm) (page : UInt8) (control : PageControl)
    (buffer : Bytes) : Asks (Tells (min buffer.size (Mode.greatestLength form)))
      (Mode.sense form page control buffer) :=
  (tells_receive (toldLength_modeSense form page control (Nat.min_le_right _ _))
    (size_take_min _ _) _).bind fun _ => Asks.done _

theorem tells_requestSense (buffer : Bytes) :
    Asks (Tells (min buffer.size RequestSense.greatestLength)) (RequestSense.ask buffer) := by
  have hlt : min buffer.size RequestSense.greatestLength < 256 :=
    Nat.lt_of_le_of_lt (Nat.min_le_right _ _) (by decide)
  have htold : toldLength?
      [0x03, 0, 0, 0, .ofNat (min buffer.size RequestSense.greatestLength), 0] =
      some (min buffer.size RequestSense.greatestLength) :=
    congrArg some (UInt8.toNat_ofNat_of_lt' hlt)
  exact (tells_receive htold (size_take_min _ _) _).bind fun _ => Asks.done _

theorem toldLength_modeSelect (form : ModeForm) (save : Bool) {n : Nat}
    (h : n ≤ Mode.greatestLength form) : toldLength? (Mode.selectCdb form save n) = some n := by
  cases form with
  | six => exact congrArg some (UInt8.toNat_ofNat_of_lt' (Nat.lt_succ_of_le h))
  | ten => exact congrArg some (toNat_bytes (Nat.lt_succ_of_le h))

theorem tells_modeSelect (form : ModeForm) (data : Bytes) (save : Bool) :
    Asks (Tells data.size) (Mode.select form data save) := by
  unfold Mode.select
  split
  · exact Asks.done _
  · rename_i hle
    exact tells_send (toldLength_modeSelect form save (Nat.not_lt.mp hle)) defaultTimeout

/-- The bytes of the words that are asked for by a read of an NVMe log. -/
def wholeWords (buffer : Bytes) : Nat := 4 * (buffer.size / 4 % 2 ^ 32)

/-- The number of words is told less one, in two halves. -/
theorem toldAdminLength_log (log : UInt8) {nsid : UInt32} {buffer : Bytes} {timeout words : Nat}
    (hsome : words ≠ 0) (hwords : words < 2 ^ 32) :
    toldAdminLength? ⟨NvmeLog.opcode, nsid,
      .ofNat ((words - 1) % 65536 * 65536 + log.toNat), .ofNat ((words - 1) / 65536), buffer,
      timeout⟩ = some (4 * words) := by
  have hlog := log.toNat_lt
  have hread : (UInt32.ofNat ((words - 1) % 65536 * 65536 + log.toNat)).toNat / 65536 +
      65536 * ((UInt32.ofNat ((words - 1) / 65536)).toNat % 65536) + 1 = words := by
    rw [UInt32.toNat_ofNat', UInt32.toNat_ofNat']
    omega
  exact congrArg (fun n => some (4 * n)) hread

theorem tells_nvmeLog (log : UInt8) (nsid : UInt32) {buffer : Bytes}
    (h : wholeWords buffer ≠ 0 → wholeWords buffer = buffer.size ∧ buffer.size < 2 ^ 32) :
    Asks (Tells buffer.size) (NvmeLog.read log nsid buffer) := by
  unfold NvmeLog.read
  dsimp only
  split
  · exact Asks.done _
  · rename_i hsome
    obtain ⟨hwords, hlt⟩ := h (Nat.mul_ne_zero (by decide) hsome)
    refine tells_receiveAdmin ?_ rfl hlt
    rw [toldAdminLength_log log hsome (Nat.mod_lt _ (by decide)), ← wholeWords]
    exact congrArg some hwords

/-- The requests that are sent although a length does not fit its field: SMART transfers of more
sectors than a byte counts, and NVMe logs that are not told in words or whose length the kernel is
not told as a whole. -/
def Misfits : Request → Prop
  | .smartReadLog _ buffer => buffer.size % sector = 0 ∧ greatestSmart < buffer.size
  | .nvmeLog _ _ buffer =>
    wholeWords buffer ≠ 0 ∧ (wholeWords buffer ≠ buffer.size ∨ 2 ^ 32 ≤ buffer.size)
  | _ => False

/-- The length of the data phase of a request that takes one command at most. -/
def dataLength? : Request → Option Nat
  | .smartReadLog _ buffer | .nvmeLog _ _ buffer => some buffer.size
  | .smartReadData buffer | .smartReadThresholds buffer => some (min sector buffer.size)
  | .returnStatus => some 0
  | .logSense _ _ buffer => some (min buffer.size ScsiLog.greatestLength)
  | .logSenseSize _ _ => some 4
  | .modeSense form _ _ buffer => some (min buffer.size (Mode.greatestLength form))
  | .modeSelect _ data _ => some data.size
  | .requestSense buffer => some (min buffer.size RequestSense.greatestLength)
  | .readLog _ _ _ _ _ | .sctStatus _ | .clock | .pause _ => none

theorem tells_answer (f : AtaFeatures) {r : Request} (h : ¬ Misfits r) {n : Nat}
    (hn : dataLength? r = some n) : Asks (Tells n) (answer f r) := by
  cases r with
  | smartReadLog log buffer =>
    cases hn
    show Asks _ (Smart.read Smart.readLog log buffer)
    by_cases hwhole : buffer.size % sector = 0
    · exact tells_smart _ _ (Nat.not_lt.mp fun hlt => h ⟨hwhole, hlt⟩)
    · rw [Smart.read, if_pos (.inl hwhole)]
      exact Asks.done _
  | nvmeLog log nsid buffer =>
    cases hn
    refine tells_nvmeLog log nsid fun hsome => ?_
    have hfits : ¬(wholeWords buffer ≠ buffer.size ∨ 2 ^ 32 ≤ buffer.size) :=
      fun hmisfits => h ⟨hsome, hmisfits⟩
    rwa [not_or, not_not, Nat.not_le] at hfits
  | smartReadData buffer => cases hn; exact tells_smartPage _ _
  | smartReadThresholds buffer => cases hn; exact tells_smartPage _ _
  | returnStatus => cases hn; exact tells_askStatus
  | logSense page subpage buffer => cases hn; exact tells_logSense page subpage buffer
  | logSenseSize page subpage =>
    cases hn
    have hask := tells_logSense page subpage (.zeros 4)
    rw [Bytes.size_zeros] at hask
    exact hask.bind fun _ => Asks.done _
  | modeSense form page control buffer => cases hn; exact tells_modeSense form page control buffer
  | modeSelect form data save => cases hn; exact tells_modeSelect form data save
  | requestSense buffer => cases hn; exact tells_requestSense buffer
  | readLog log page feature hint buffer => cases hn
  | sctStatus buffer => cases hn
  | clock => cases hn
  | pause milliseconds => cases hn

theorem fits_answer (f : AtaFeatures) {r : Request} (h : ¬ Misfits r) :
    Asks Fits (answer f r) := by
  cases hn : dataLength? r with
  | some n => exact fits_of_tells (tells_answer f h hn)
  | none =>
    cases r <;> cases hn
    · exact fits_ataLog _ _ _ _ _
    · exact fits_sctStatus f _
    · exact asks_perform ⟨0, trivial⟩
    · exact asks_perform ⟨0, trivial⟩

/-- A session that makes no other requests has the length of all data told. -/
theorem fits_exchange {α : Type} (f : AtaFeatures) {p : Session α}
    (h : Asks (fun r => ¬ Misfits r) p) : Asks Fits (exchange f p) :=
  h.interpret fun _ hr => fits_answer f hr

end Requests

section Open

theorem fits_inquiry (vital : Bool) (page : UInt8) {n : Nat} (h : n < 256) (timeout : Nat) :
    Asks Fits (receive (Probe.Scsi.inquiryCdb vital page n) (.zeros n) timeout) := by
  have htold : toldLength? (Probe.Scsi.inquiryCdb vital page n) = some n := by
    have hlow : (UInt8.ofNat n).toNat = n := UInt8.toNat_ofNat_of_lt' h
    show some (256 * 0 + (UInt8.ofNat n).toNat) = some n
    rw [hlow, Nat.mul_zero, Nat.zero_add]
  exact fits_of_tells (tells_receive htold (Bytes.size_zeros n) timeout)

theorem fits_ataFarm (f : AtaFeatures) : Asks Fits (Probe.Ata.farm f) := by
  unfold Probe.Ata.farm
  split
  · have hread : Asks Fits (exchange f ErrorLog.Directory.readGeneral.run) :=
      fits_exchange f (ErrorLog.Directory.asks_readGeneral fun _ _ => not_false)
    exact Asks.bind_except hread (fun _ => Asks.done _) fun _ => Asks.done _
  · exact Asks.done _

theorem fits_scsiSerial : Asks Fits Probe.Scsi.serial :=
  Asks.bind_except (fits_inquiry true 0x80 (by decide) _) (fun _ => Asks.done _)
    fun _ => Asks.done _

theorem fits_scsiFarm : Asks Fits Probe.Scsi.farm :=
  Asks.bind_except (fits_of_tells (tells_logSense 0x00 0xFF (.zeros 1024)))
    (fun _ => Asks.done _) fun _ => Asks.done _

theorem fits_identify (inquiry : Bytes) : Asks Fits (Probe.identify inquiry) := by
  have hidentify : Asks Fits (receiveAta .identify (.zeros sector) defaultTimeout) :=
    fits_of_tells (tells_receiveAta (Bytes.size_zeros sector) _)
  refine Asks.bind_except hidentify (fun page => ?_) fun _ => ?_
  · exact (fits_ataFarm _).bind fun _ => Asks.done _
  · exact fits_scsiSerial.bind fun _ => fits_scsiFarm.bind fun _ => Asks.done _

theorem fits_probe (path : String) : Asks Fits (probe path) := by
  unfold probe
  split
  · have hidentify : Asks Fits (receiveAdmin 0x06 0 1 0 (.zeros 4096)) :=
      fits_of_tells (tells_receiveAdmin rfl (Bytes.size_zeros 4096) (by decide))
    exact Asks.bind_except hidentify (fun _ => Asks.done _) fun _ => Asks.done _
  · refine Asks.bind_except (fits_inquiry false 0 (by decide) _) (fun x => ?_)
      fun _ => Asks.done _
    dsimp only
    split
    · exact Asks.done _
    · exact (fits_identify x.1).bind fun _ => Asks.done _

theorem fits_openDrive (path : String) : Asks Fits (openDrive path) := by
  have hopen : Asks Fits (openFile path) := by
    refine (asks_perform ⟨0, trivial⟩).bind fun r => ?_
    cases r with
    | ok a => exact Asks.done _
    | error e => exact asks_perform ⟨0, trivial⟩
  exact Asks.bind_except hopen (fun _ => (fits_probe path).bind fun _ => Asks.done _)
    fun _ => Asks.done _

end Open
end DriveHealth.Node
