import DriveHealth.Proofs.Capture.Alignment

/-!
The log transfers of a check and of the error log on a captured drive. A check asks for 64 bytes of
the exceptions log, and the error log asks for single sectors, whatever the alignment is. So the
alignment shows in what they find exactly if the logs do, as soon as it does not divide the length.
-/
namespace DriveHealth.Capture.Device

open Transport Program

variable {alignment length : Nat}

namespace Shows

variable {d e : Device} (h : Shows alignment length d e) (hrefuses : ¬Takes alignment length)
  {buffer : Bytes} (hsize : buffer.size = length)
include h hrefuses

theorem find?_log {key : Key} (hkey : key.isLog = true) : e.find? key = none := by
  rw [h.find?_eq, if_pos ⟨hkey, hrefuses⟩]

theorem fetch_log {key : Key} (hkey : key.isLog = true) :
    e.fetch key = (.error .unsupported, e.remember (.page key)) := by
  unfold Device.fetch
  rw [h.find?_log hrefuses hkey]

include hsize

theorem misaligned_of_refuses : d.misaligned buffer.size = true := by
  rw [← Bool.not_eq_false, misaligned_eq_false_iff, h.alignment_eq, hsize]
  exact hrefuses

/-- A log transfer that the first drive refuses for its length finds no page on the second. -/
theorem logSense_refused (page subpage : UInt8) :
    d.logSense page subpage buffer = (.error (d.misalignedError buffer.size), d) ∧
      e.logSense page subpage buffer =
        (.error .unsupported, e.remember (.page (.scsiLog page subpage))) := by
  unfold logSense
  rw [h.misaligned_of_refuses hrefuses hsize, h.misaligned_eq, h.fetch_log hrefuses rfl]
  exact ⟨rfl, rfl⟩

theorem readLog_refused (log : UInt8) (page feature : UInt16) :
    d.readLog log page feature buffer = (.error (d.misalignedError buffer.size), d) ∧
      e.readLog log page feature buffer =
        (.error .unsupported, e.remember (.page (.ataLog log feature))) := by
  unfold readLog Device.fill
  rw [h.misaligned_of_refuses hrefuses hsize, h.misaligned_eq, h.fetch_log hrefuses rfl]
  exact ⟨rfl, rfl⟩

end Shows

section Check

open Check

theorem run_readLog_of_error {d d' : Device} {x : TransportError}
    (h : d.logSense Scsi.logPage 0 (.zeros Scsi.logBuffer) = (.error x, d')) :
    d.run Scsi.readLog = (.unavailable, d') := by
  have hanswer : answer (.logSense Scsi.logPage 0 (.zeros Scsi.logBuffer)) d = (.error x, d') := h
  refine (run_perform_bind d _ _).trans ?_
  rw [hanswer]
  rfl

/-- An exceptions log that is refused is as good as one that is not there. -/
theorem alike_readLog : Alike alignment Scsi.logBuffer Scsi.readLog := by
  by_cases htakes : Takes alignment Scsi.logBuffer
  · exact alike_of_asks (Scsi.asks_readLog (serves_logSense htakes (Bytes.size_zeros _) _ _))
  · intro d e hshows
    obtain ⟨hfirst, hsecond⟩ :=
      hshows.logSense_refused htakes (Bytes.size_zeros _) Scsi.logPage 0
    rw [run_readLog_of_error hfirst, run_readLog_of_error hsecond]
    exact ⟨rfl, hshows.alignment_eq, hshows.manifest_eq, hshows.find?_eq⟩

theorem alike_scsiCheck (options : Options) :
    Alike alignment Scsi.logBuffer (Scsi.check options) := by
  rw [Scsi.check_eq]
  exact alike_readLog.bind fun _ _ _ =>
    alike_of_asks (Scsi.asks_afterLog (fun r h => serves_of_isPlain r (r.isPlain_of_isSense h))
      serves_modeSelect options _)

theorem alike_check (d : Drive) (options : Options) :
    Alike alignment Scsi.logBuffer (d.check options) := by
  unfold Drive.check
  cases d.kind with
  | ata =>
    refine (alike_of_asks (Ata.asks_checkSmart serves_of_isPlain d)).bind fun _ _ _ => ?_
    split
    · exact (alike_scsiCheck options).bind fun _ _ _ => alike_of_asks (Asks.done _)
    · exact alike_of_asks (Asks.done _)
  | scsi => exact alike_scsiCheck options
  | nvme => exact alike_of_asks (Nvme.asks_check serves_of_isPlain)

end Check

section ErrorLog

open ErrorLog

theorem run_readGeneral_of_error {d d' : Device} {x : TransportError}
    (h : d.readLog Directory.address 0 0 (.zeros sector) = (.error x, d')) :
    d.run Directory.readGeneral.run = (.error (.transport x), d') := by
  have hanswer : answer (.readLog Directory.address 0 0 0 (.zeros sector)) d = (.error x, d') := h
  refine (run_perform_bind d _ _).trans ?_
  rw [hanswer]
  rfl

/-- Without a directory there is no extended log. -/
theorem run_extendedCandidate_of_error (drive : Drive) {d d' : Device} {x : TransportError}
    (h : d.readLog Directory.address 0 0 (.zeros sector) = (.error x, d')) :
    d.run (extendedCandidate drive) =
      ([], if drive.features.gplSupported = true then d' else d) := by
  unfold extendedCandidate
  by_cases hgeneral : drive.features.gplSupported = true
  · rw [if_pos hgeneral, if_pos hgeneral, run_bind, run_readGeneral_of_error h]
    rfl
  · rw [if_neg hgeneral, if_neg hgeneral]
    rfl

theorem comprehensive_of_ends {drive : Drive} {t : Trace Request Request.Reply}
    {l : List (Source × UInt16)} (h : Ends (comprehensiveCandidate drive) t l) :
    ∀ c ∈ l, c.1 = .comprehensive := by
  unfold comprehensiveCandidate at h
  split at h
  · obtain ⟨u, v, dir, rfl, _, hdone⟩ := ends_bind_iff.mp h
    cases dir with
    | error e =>
      obtain ⟨rfl, rfl⟩ := ends_done_iff.mp hdone
      simp
    | ok dir =>
      obtain ⟨rfl, rfl⟩ := ends_done_iff.mp hdone
      split <;> simp
  · obtain ⟨rfl, rfl⟩ := ends_done_iff.mp h
    exact List.forall_mem_nil _

theorem alike_extendedCandidate (hrefuses : ¬Takes alignment sector) (drive : Drive) :
    Alike alignment sector (extendedCandidate drive) := by
  intro d e hshows
  obtain ⟨hfirst, hsecond⟩ :=
    hshows.readLog_refused hrefuses (Bytes.size_zeros _) Directory.address 0 0
  rw [run_extendedCandidate_of_error drive hfirst, run_extendedCandidate_of_error drive hsecond]
  refine ⟨rfl, ?_⟩
  split
  · exact ⟨hshows.alignment_eq, hshows.manifest_eq, hshows.find?_eq⟩
  · exact hshows

/-- A drive that refuses the directory is not asked for its extended log. -/
theorem not_extended_of_refuses (hrefuses : ¬Takes alignment sector) (drive : Drive)
    {d e : Device} (h : Shows alignment sector d e) :
    ∀ c ∈ (d.run (candidates drive)).1, c.1 ≠ .extended := by
  obtain ⟨hfirst, -⟩ := h.readLog_refused hrefuses (Bytes.size_zeros _) Directory.address 0 0
  unfold candidates
  rw [run_bind, run_bind, run_extendedCandidate_of_error drive hfirst]
  intro c hc hextended
  rcases List.mem_append.mp hc with hlisted | hsummary
  · have hcomprehensive := comprehensive_of_ends (ends_conversation answer _ _) c hlisted
    rw [hextended] at hcomprehensive
    cases hcomprehensive
  · rw [List.mem_singleton.mp hsummary] at hextended
    cases hextended

theorem alike_errorLog (drive : Drive) : Alike alignment sector (ErrorLog.read drive) := by
  by_cases htakes : Takes alignment sector
  · exact alike_of_asks (asks_read serves_of_isPlain
      (fun _ _ => serves_readLog htakes (Bytes.size_zeros _) _ _ _ _) drive)
  · have hcandidates : Alike alignment sector (candidates drive) :=
      (alike_extendedCandidate htakes drive).bind fun _ _ _ =>
        (alike_of_asks (asks_comprehensiveCandidate serves_of_isPlain drive)).bind
          fun _ _ _ => alike_of_asks (Asks.done _)
    unfold ErrorLog.read
    split
    · refine hcandidates.bind fun d e hshows => alike_of_asks ?_
      refine asks_readFirst serves_of_isPlain fun c hc hextended => ?_
      exact absurd hextended (not_extended_of_refuses htakes drive hshows c hc)
    · exact alike_of_asks (Asks.done _)

end ErrorLog

/-- The length of a transfer by READ LOG EXT or LOG SENSE. A capture checks the alignment of these
alone; SMART READ LOG reads a log too, but at any length. -/
def transferLength? : Request → Option Nat
  | .readLog _ _ _ _ buffer | .logSense _ _ buffer => some buffer.size
  | _ => none

/-- What a session finds in a captured drive. -/
def found {α : Type} (d : Device) (p : Drive → Session α) : α := (d.run (p d.drive)).1

/-- All transfers of a session whose alignment is checked, those by READ LOG EXT and LOG SENSE, are
of one length, and the alignment shows in what the session finds exactly if it does not divide this
length and the logs show in it. -/
structure FeelsAlignment {α : Type} (d : Device) (p : Drive → Session α) (length : Nat) :
    Prop where
  /-- The length of a SMART READ LOG is left open. -/
  lengths : ∀ a, ∀ e ∈ conversation answer (p (d.aligned a).drive) (d.aligned a),
    ∀ n, transferLength? e.1 = some n → n = length
  taken : ∀ a, Takes a length → (d.aligned a).found p = (d.aligned 0).found p
  refused : ∀ a, ¬Takes a length → (d.aligned a).found p = (d.aligned 0).withoutLogs.found p
  same_iff : (∀ a, (d.aligned a).found p = (d.aligned 0).found p) ↔
    (d.aligned 0).withoutLogs.found p = (d.aligned 0).found p

theorem shows_taken (d : Device) (h : Takes alignment length) :
    Shows alignment length (d.aligned alignment) (d.aligned 0) := by
  refine ⟨rfl, rfl, fun key => ?_⟩
  rw [if_neg fun hhidden => hhidden.2 h]
  rfl

theorem shows_refused (d : Device) (h : ¬Takes alignment length) :
    Shows alignment length (d.aligned alignment) (d.aligned 0).withoutLogs := by
  refine ⟨rfl, rfl, fun key => ?_⟩
  rw [find?_withoutLogs]
  by_cases hlog : key.isLog = true
  · rw [if_pos hlog, if_pos ⟨hlog, h⟩]
  · rw [if_neg hlog, if_neg fun hhidden => hlog hhidden.1]
    rfl

theorem feelsAlignment {α : Type} {d : Device} {p : Drive → Session α}
    (hdrive : ∀ a, p (d.aligned a).drive = p d.drive)
    (halike : ∀ a, Alike a length (p d.drive))
    (hasks : Asks (fun r => ∀ n, transferLength? r = some n → n = length) (p d.drive))
    (hpositive : 0 < length) : FeelsAlignment d p length := by
  have htaken : ∀ a, Takes a length → (d.aligned a).found p = (d.aligned 0).found p := by
    intro a htakes
    unfold found
    rw [hdrive, hdrive]
    exact (halike a _ _ (shows_taken d htakes)).1.symm
  have hrefused : ∀ a, ¬Takes a length →
      (d.aligned a).found p = (d.aligned 0).withoutLogs.found p := by
    intro a hrefuses
    have hhidden : (d.aligned 0).withoutLogs.drive = (d.aligned 0).drive := rfl
    unfold found
    rw [hhidden, hdrive, hdrive]
    exact (halike a _ _ (shows_refused d hrefuses)).1.symm
  refine ⟨?_, htaken, hrefused, ?_, ?_⟩
  · intro a
    rw [hdrive]
    exact hasks.of_ends (ends_conversation answer _ _)
  · intro hsame
    -- An alignment above the length does not divide it.
    have hrefuses : ¬Takes (length + 1) length := by
      rintro (hzero | hdvd)
      · cases hzero
      · exact absurd (Nat.le_of_dvd hpositive hdvd) (Nat.not_succ_le_self length)
    rw [← hrefused _ hrefuses, hsame]
  · intro hlogs a
    by_cases htakes : Takes a length
    · exact htaken a htakes
    · rw [hrefused a htakes, hlogs]

theorem transferLength?_of_isPlain {r : Request} (h : r.isPlain = true) :
    transferLength? r = none := by
  cases r <;> first | rfl | cases h

/-- A check asks for 64 bytes of one log, and the error log for single sectors, whatever the
alignment of the drive is. -/
theorem check_errorLog_feelsAlignment (d : Device) (options : Check.Options) :
    FeelsAlignment d (fun drive => drive.check options) Check.Scsi.logBuffer ∧
      FeelsAlignment d ErrorLog.read sector := by
  have hplain : ∀ {length : Nat}, ∀ r : Request, r.isPlain = true →
      ∀ n, transferLength? r = some n → n = length := by
    intro length r hr n hn
    rw [transferLength?_of_isPlain hr] at hn
    cases hn
  have hsize : ∀ {length : Nat} n, some (Bytes.zeros length).size = some n → n = length := by
    intro length n hn
    rw [← Option.some.inj hn, Bytes.size_zeros]
  constructor
  · refine feelsAlignment (fun _ => rfl) (fun _ => alike_check _ options) ?_ (by decide)
    exact Check.asks_check hplain (fun _ _ _ => nofun) hsize d.drive options
  · refine feelsAlignment (fun _ => rfl) (fun _ => alike_errorLog _) ?_ (by decide)
    exact ErrorLog.asks_read hplain (fun _ _ => hsize) d.drive

/-- A drive whose exceptions log tells that it is about to fail. -/
def aboutToFail : Device where
  manifest := { identity := {}, kind := .scsi }
  pages := [(.scsiLog 0x2F 0, .ofList [0x2F, 0, 0, 8, 0, 0, 3, 4, 0x5D, 0x10, 0, 0])]

/-- The failure is not seen if log transfers must be whole sectors. -/
theorem not_check_errorLog_same : ¬ ∀ (d : Device) (options : Check.Options) (a : Nat),
    (d.aligned a).found (fun drive => drive.check options) =
        (d.aligned 0).found (fun drive => drive.check options) ∧
      (d.aligned a).found ErrorLog.read = (d.aligned 0).found ErrorLog.read := by
  intro h
  have hsame := congrArg CheckResult.status (h aboutToFail ⟨0⟩ 512).1
  revert hsame
  decide +kernel

end DriveHealth.Capture.Device
