import DriveHealth.Proofs.Farm.Transfers
import Mathlib.Data.List.Basic

/-!
What a pull finds on a captured ATA drive. A log counts only if the capture has as much of it as a
transfer of the planned length takes, and then its first bytes are the datasets, whole or cut into
frames. Each planned log is requested once, whatever became of the logs before it.
-/
namespace DriveHealth.Farm.Pull.Ata

open Capture Program

/-- The first bytes of a log, if the capture has as much of it as a transfer of them takes. -/
def firstBytes? (d : Device) (log : UInt8) (feature : UInt16) (length : Nat) : Option Bytes :=
  match d.find? (.ataLog log feature) with
  | some page =>
    if bufferSize length d.drive.dmaAlignment ≤ page.size then some (page.take length) else none
  | none => none

theorem firstBytes?_of_find? {d : Device} {log : UInt8} {feature : UInt16} {page : Bytes}
    (h : d.find? (.ataLog log feature) = some page) (length : Nat) :
    firstBytes? d log feature length =
      if bufferSize length d.drive.dmaAlignment ≤ page.size then some (page.take length)
      else none := by
  rw [firstBytes?, h]

def LogRead.key (l : LogRead) : Key := .ataLog l.log l.feature

/-- The datasets of a planned read on a captured drive. -/
def captured (d : Device) (l : LogRead) : List Dataset :=
  match firstBytes? d l.log l.feature l.length with
  | some data => l.datasets ⟨data, 0, 0⟩
  | none => []

/-- What the transfer of a planned read is answered. -/
def reply (d : Device) (l : LogRead) : Except TransportError Bytes :=
  match d.find? l.key with
  | some page => Device.cut page 0 (.zeros (bufferSize l.length d.drive.dmaAlignment))
  | none => .error .unsupported

section Run

variable (d : Device) (hint : UInt32) (l : LogRead)

theorem run_readLog : d.run (Session.readLog l.log 0 l.feature hint
    (.zeros (bufferSize l.length d.drive.dmaAlignment))) =
      (reply d l, d.remember (.page l.key)) := by
  have hstart : (0 : UInt16).toNat * Transport.sector = 0 := Nat.zero_mul _
  have hread : d.run (Session.readLog l.log 0 l.feature hint
      (.zeros (bufferSize l.length d.drive.dmaAlignment))) =
      d.readLog l.log 0 l.feature (.zeros (bufferSize l.length d.drive.dmaAlignment)) := rfl
  rw [hread]
  unfold Device.readLog Device.fill Device.fetch reply LogRead.key
  rw [Bytes.size_zeros, misaligned_bufferSize, hstart]
  cases d.find? (.ataLog l.log l.feature) <;> rfl

theorem take_reply : (reply d l).toOption.map (fun data => data.take l.length) =
    firstBytes? d l.log l.feature l.length := by
  unfold reply firstBytes? LogRead.key
  cases d.find? (.ataLog l.log l.feature) with
  | none => rfl
  | some page =>
    dsimp only
    unfold Device.cut
    rw [Bytes.size_zeros, Nat.zero_add]
    by_cases hlong : bufferSize l.length d.drive.dmaAlignment ≤ page.size
    · have htake := Bytes.take_slice page (le_bufferSize d l.length)
      rw [if_neg (Nat.not_lt.mpr hlong), if_pos hlong]
      exact congrArg some htake
    · rw [if_pos (Nat.not_le.mp hlong), if_neg hlong]
      rfl

/-- A planned read gives its datasets, and the log is requested once. -/
theorem run_pull (hroom : bufferSize l.length d.drive.dmaAlignment < addressSpace) :
    d.run (l.pull d.drive.dmaAlignment hint) =
      (.ok (captured d l), d.rememberAll [.page l.key]) := by
  unfold LogRead.pull captured
  rw [buffer_of_lt hroom, ← take_reply]
  dsimp only
  rw [Device.run_bind, run_timed, run_readLog]
  cases reply d l with
  | error e => rfl
  | ok data => rfl

theorem run_pullAll {reads : List LogRead}
    (hroom : ∀ l ∈ reads, bufferSize l.length d.drive.dmaAlignment < addressSpace) :
    d.run (pullAll d.drive.dmaAlignment hint reads) =
      (.ok (reads.flatMap (captured d)), d.rememberAll (reads.map fun l => .page l.key)) := by
  induction reads generalizing d with
  | nil => rfl
  | cons l rest ih =>
    obtain ⟨hfirst, hrest⟩ := List.forall_mem_cons.mp hroom
    -- The rest is read from a drive that differs only in what it remembers.
    have hothers := ih (d.rememberAll [.page l.key]) hrest
    rw [Device.drive_rememberAll, Device.rememberAll_append] at hothers
    unfold pullAll
    rw [Device.run_bind, run_pull d hint l hfirst]
    dsimp only
    rw [Device.run_bind, hothers]
    rfl

end Run

section Plan

variable {c : FarmCapabilities} {reads : List LogRead}

theorem reads_of_disc (hplan : plan c .disc = .ok reads) :
    reads = (if c.farm then farmReads else []) ++ (if c.timeSeries then [discSeries] else []) ++
      [workload] := by
  rw [plan] at hplan
  split at hplan
  · exact (Except.ok.inj hplan).symm
  · cases hplan

theorem reads_of_flash (hplan : plan c .flash = .ok reads) :
    c.timeSeries = true ∧ reads = [flashSeries, workload] := by
  rw [plan] at hplan
  split at hplan
  · rename_i hseries
    exact ⟨hseries, (Except.ok.inj hplan).symm⟩
  · split at hplan <;> cases hplan

/-- The logs that a pull requests, in order. -/
def requested (c : FarmCapabilities) : Copy → List Key
  | .disc =>
    (if c.farm then [.ataLog 0xA6 0, .ataLog 0xA6 3, .ataLog 0xA6 2] else []) ++
      (if c.timeSeries then [.ataLog 0xC6 0] else []) ++ [.ataLog 0xC6 2]
  | .flash => [.ataLog 0xC6 1, .ataLog 0xC6 2]

theorem keys_of_plan {copy : Copy} (hplan : plan c copy = .ok reads) :
    reads.map LogRead.key = requested c copy := by
  cases copy with
  | disc =>
    rw [reads_of_disc hplan]
    unfold requested
    cases c.farm <;> cases c.timeSeries <;> rfl
  | flash =>
    rw [(reads_of_flash hplan).2]
    rfl

end Plan

section Contents

variable (d : Device)

theorem slice_of_firstBytes? {log : UInt8} {feature : UInt16} {length : Nat} {data : Bytes}
    (h : firstBytes? d log feature length = some data) : data.slice 0 length = data := by
  unfold firstBytes? at h
  split at h
  · split at h
    · cases h
      exact Bytes.slice_take _ _
    · cases h
  · cases h

theorem contents_captured (l : LogRead) :
    (captured d l).map (fun e => (e.kind, e.payload)) = l.parts.flatMap fun p =>
      ((firstBytes? d l.log l.feature l.length).map fun data =>
        (p.kind, data.slice p.offset p.length)).toList := by
  unfold captured
  cases firstBytes? d l.log l.feature l.length with
  | none => simp
  | some data =>
    unfold LogRead.datasets Part.dataset
    rw [List.map_map, List.map_eq_flatMap]
    rfl

theorem contents_whole (log : UInt8) (feature : UInt16) (kind : Kind) (length : Nat) :
    (captured d (whole log feature kind length)).map (fun e => (e.kind, e.payload)) =
      ((firstBytes? d log feature length).map fun b => (kind, b)).toList := by
  rw [contents_captured]
  unfold whole
  cases hdata : firstBytes? d log feature length with
  | none => rfl
  | some data =>
    have hwhole := slice_of_firstBytes? d hdata
    simp [hwhole]

/-- Frames of the time series, if all of it was captured. -/
def frames? (d : Device) (feature : UInt16) (first count : Nat) : Option Bytes :=
  (firstBytes? d 0xC6 feature (27 * 98304)).map fun series =>
    series.slice (first * 98304) (count * 98304)

/-- The kinds of a copy in the order in which they are read. -/
def readOrder : Copy → List Kind
  | .disc => [.current, .factory, .save, .timeSeries, .longSave, .sticky, .workloadTrace]
  | .flash => [.current, .save, .timeSeries, .longSave, .sticky, .factory, .workloadTrace]

/-- Whether the capabilities offer a kind of a copy. -/
def offers (c : FarmCapabilities) : Copy → Kind → Bool
  | _, .workloadTrace => true
  | .flash, _ => c.timeSeries
  | .disc, .timeSeries | .disc, .longSave | .disc, .sticky => c.timeSeries
  | .disc, _ => c.farm

/-- Where the logs hold a kind. -/
def stored? (d : Device) : Copy → Kind → Option Bytes
  | _, .workloadTrace => firstBytes? d 0xC6 2 2097152
  | .disc, .current => firstBytes? d 0xA6 0 98304
  | .disc, .factory => firstBytes? d 0xA6 3 98304
  | .disc, .save => firstBytes? d 0xA6 2 98304
  | .disc, .timeSeries => frames? d 0 0 16
  | .disc, .longSave => frames? d 0 16 2
  | .disc, .sticky => frames? d 0 18 6
  | .flash, .current => frames? d 1 0 1
  | .flash, .save => frames? d 1 1 1
  | .flash, .timeSeries => frames? d 1 2 16
  | .flash, .longSave => frames? d 1 18 2
  | .flash, .sticky => frames? d 1 20 6
  | .flash, .factory => frames? d 1 26 1

/-- What a pull of a copy gives for a kind. -/
def payload? (d : Device) (copy : Copy) (k : Kind) : Option Bytes :=
  if offers d.drive.farm copy k then stored? d copy k else none

/-- The kinds as far as they are stored. -/
def entries (d : Device) (copy : Copy) (kinds : List Kind) : List (Kind × Bytes) :=
  kinds.filterMap fun k => (stored? d copy k).map fun b => (k, b)

theorem contents_series (feature : UInt16) (cuts : List (Kind × Nat × Nat)) (copy : Copy)
    (hstored : ∀ c ∈ cuts, stored? d copy c.1 = frames? d feature c.2.1 c.2.2) :
    (captured d (series feature (cuts.map fun c => frames c.1 c.2.1 c.2.2))).map
        (fun e => (e.kind, e.payload)) =
      entries d copy (cuts.map Prod.fst) := by
  unfold entries
  rw [contents_captured, List.filterMap_map, List.filterMap_eq_flatMap_toList]
  unfold series
  dsimp only
  rw [List.flatMap_map]
  refine List.flatMap_congr fun c hc => ?_
  rw [Function.comp_apply, hstored c hc, frames?, Option.map_map]
  rfl

theorem contents_farmReads : (farmReads.flatMap (captured d)).map (fun e => (e.kind, e.payload)) =
    entries d .disc [.current, .factory, .save] := by
  unfold farmReads entries
  rw [List.filterMap_eq_flatMap_toList]
  simp only [List.flatMap_cons, List.flatMap_nil, List.map_append, contents_whole]
  rfl

theorem contents_workload (copy : Copy) :
    (captured d workload).map (fun e => (e.kind, e.payload)) =
      entries d copy [.workloadTrace] := by
  unfold workload entries
  rw [contents_whole, List.filterMap_eq_flatMap_toList, List.flatMap_singleton]
  rfl

theorem entries_append (copy : Copy) (k l : List Kind) :
    entries d copy (k ++ l) = entries d copy k ++ entries d copy l := by
  unfold entries
  exact List.filterMap_append

theorem contents_disc {reads : List LogRead} (hplan : plan d.drive.farm .disc = .ok reads) :
    (reads.flatMap (captured d)).map (fun e => (e.kind, e.payload)) =
      entries d .disc ((readOrder .disc).filter (offers d.drive.farm .disc)) := by
  have hseries : (captured d discSeries).map (fun e => (e.kind, e.payload)) =
      entries d .disc [.timeSeries, .longSave, .sticky] := by
    refine contents_series d 0 [(.timeSeries, 0, 16), (.longSave, 16, 2), (.sticky, 18, 6)] .disc ?_
    simp [stored?]
  have hoffered : (readOrder .disc).filter (offers d.drive.farm .disc) =
      (if d.drive.farm.farm then [.current, .factory, .save] else []) ++
        (if d.drive.farm.timeSeries then [.timeSeries, .longSave, .sticky] else []) ++
        [.workloadTrace] := by
    unfold readOrder offers
    cases d.drive.farm.farm <;> cases d.drive.farm.timeSeries <;> rfl
  rw [reads_of_disc hplan, hoffered, entries_append, entries_append, List.flatMap_append,
    List.flatMap_append, List.map_append, List.map_append, List.flatMap_singleton,
    contents_workload d .disc]
  -- Both sides are the same three runs of kinds, and the two capabilities decide which are there.
  cases d.drive.farm.farm <;> cases d.drive.farm.timeSeries <;>
    simp [contents_farmReads, hseries, entries]

theorem contents_flash {reads : List LogRead} (hplan : plan d.drive.farm .flash = .ok reads) :
    (reads.flatMap (captured d)).map (fun e => (e.kind, e.payload)) =
      entries d .flash ((readOrder .flash).filter (offers d.drive.farm .flash)) := by
  have hseries : (captured d flashSeries).map (fun e => (e.kind, e.payload)) =
      entries d .flash [.current, .save, .timeSeries, .longSave, .sticky, .factory] := by
    refine contents_series d 1 [(.current, 0, 1), (.save, 1, 1), (.timeSeries, 2, 16),
      (.longSave, 18, 2), (.sticky, 20, 6), (.factory, 26, 1)] .flash ?_
    simp [stored?]
  obtain ⟨htimeSeries, rfl⟩ := reads_of_flash hplan
  have hoffered : (readOrder .flash).filter (offers d.drive.farm .flash) =
      [.current, .save, .timeSeries, .longSave, .sticky, .factory] ++ [.workloadTrace] := by
    unfold readOrder offers
    rw [htimeSeries]
    rfl
  rw [hoffered, entries_append, List.flatMap_cons, List.flatMap_singleton, List.map_append,
    hseries, contents_workload d .flash]

end Contents

/-- Parts that lie one behind the other. -/
def Adjoin : Nat → List Part → Prop
  | _, [] => True
  | off, p :: r => p.offset = off ∧ Adjoin (off + p.length) r

theorem join_slices (b : Bytes) {off : Nat} {parts : List Part} (h : Adjoin off parts) :
    Bytes.join (parts.map fun p => b.slice p.offset p.length) =
      b.slice off (parts.map Part.length).sum := by
  induction parts generalizing off with
  | nil =>
    have hnone : b.slice off 0 = ByteArray.empty := by
      rw [Bytes.slice, ByteArray.extract_eq_empty_iff]
      omega
    exact hnone.symm
  | cons p r ih =>
    obtain ⟨rfl, hrest⟩ := h
    rw [List.map_cons, Bytes.join, ih hrest, Bytes.slice_append_slice, List.map_cons,
      List.sum_cons]

/-- The datasets of a captured drive. -/
structure Retrieved (d : Device) (copy : Copy) (l : List Dataset) : Prop where
  /-- The length of a transfer. -/
  rounded : ∀ length, IsLeast {n | d.drive.dmaAlignment ∣ n ∧ length ≤ n}
    (bufferSize length d.drive.dmaAlignment)
  exactly : Exactly (readOrder copy) (payload? d copy) l
  /-- The datasets of a flash copy are the whole time series, cut up. -/
  partition : copy = .flash → ∀ series, firstBytes? d 0xC6 1 (27 * 98304) = some series →
    Bytes.join ((l.filter fun e => e.kind != .workloadTrace).map Dataset.payload) = series

section Retrieved

variable {d : Device} {options : PullOptions} {reads : List LogRead}

theorem exactly_of_plan {copy : Copy} (hplan : plan d.drive.farm copy = .ok reads) :
    Exactly (readOrder copy) (payload? d copy) (reads.flatMap (captured d)) := by
  have hcontents : (reads.flatMap (captured d)).map (fun e => (e.kind, e.payload)) =
      entries d copy ((readOrder copy).filter (offers d.drive.farm copy)) := by
    cases copy with
    | disc => exact contents_disc d hplan
    | flash => exact contents_flash d hplan
  have hdistinct : (readOrder copy).Nodup := by cases copy <;> decide
  have hkinds : ∀ k, k ∈ readOrder copy := by
    intro k
    cases copy <;> cases k <;> decide
  exact exactly_of_contents hdistinct (fun k _ => hkinds k) hcontents

theorem kind_of_mem_captured {l : LogRead} {e : Dataset} (h : e ∈ captured d l) :
    e.kind ∈ l.parts.map Part.kind := by
  unfold captured at h
  split at h
  · obtain ⟨p, hp, rfl⟩ := List.mem_map.mp h
    exact List.mem_map_of_mem hp
  · cases h

theorem join_flash {series : Bytes} (hplan : plan d.drive.farm .flash = .ok reads)
    (hseries : firstBytes? d 0xC6 1 (27 * 98304) = some series) :
    Bytes.join (((reads.flatMap (captured d)).filter fun e => e.kind != .workloadTrace).map
      Dataset.payload) = series := by
  obtain ⟨_, rfl⟩ := reads_of_flash hplan
  have hkept : ∀ e ∈ captured d flashSeries, (e.kind != .workloadTrace) = true := by
    have hkinds : ∀ k ∈ flashSeries.parts.map Part.kind, (k != .workloadTrace) = true := by decide
    exact fun e he => hkinds e.kind (kind_of_mem_captured he)
  have hdropped : ∀ e ∈ captured d workload, ¬(e.kind != .workloadTrace) = true := by
    have hkinds : ∀ k ∈ workload.parts.map Part.kind, ¬(k != .workloadTrace) = true := by decide
    exact fun e he => hkinds e.kind (kind_of_mem_captured he)
  have hdatasets : captured d flashSeries = flashSeries.datasets ⟨series, 0, 0⟩ := by
    have hfirst : firstBytes? d flashSeries.log flashSeries.feature flashSeries.length =
        some series := hseries
    rw [captured, hfirst]
  have hadjoin : Adjoin 0 flashSeries.parts := ⟨rfl, rfl, rfl, rfl, rfl, rfl, trivial⟩
  have hsum : (flashSeries.parts.map Part.length).sum = 27 * 98304 := rfl
  have hpayloads : (flashSeries.datasets ⟨series, 0, 0⟩).map Dataset.payload =
      flashSeries.parts.map fun p => series.slice p.offset p.length := by
    rw [LogRead.datasets, List.map_map]
    rfl
  rw [List.flatMap_cons, List.flatMap_singleton, List.filter_append,
    List.filter_eq_self.mpr hkept, List.filter_eq_nil_iff.mpr hdropped, List.append_nil,
    hdatasets, hpayloads, join_slices series hadjoin, hsum]
  exact slice_of_firstBytes? d hseries

end Retrieved

/-- A pull of a captured ATA drive gives what its logs hold, and requests each log once. -/
theorem pull_frames (d : Device) (options : PullOptions) (hkind : d.drive.kind = .ata)
    (hsupported : ¬Unsupported d.drive options)
    (hroom : ∀ reads, plan d.drive.farm options.copy = .ok reads → ∀ l ∈ reads,
      bufferSize l.length d.drive.dmaAlignment < addressSpace) :
    ∃ l, d.run (Farm.pull d.drive options) =
        (.ok l, d.rememberAll ((requested d.drive.farm options.copy).map .page)) ∧
      Retrieved d options.copy l := by
  obtain ⟨reads, hplan⟩ := plan_of_supported hkind hsupported
  have hrun : d.run (Farm.pull d.drive options) =
      (.ok (reads.flatMap (captured d)),
        d.rememberAll ((requested d.drive.farm options.copy).map .page)) := by
    unfold Farm.pull
    rw [hkind]
    dsimp only
    unfold pull
    rw [hplan]
    dsimp only
    rw [run_pullAll d options.hint (hroom reads hplan), ← keys_of_plan hplan, List.map_map]
    rfl
  refine ⟨_, hrun, ?_, exactly_of_plan hplan, ?_⟩
  · exact bufferSize_isLeast d.dmaAlignment_pos
  · intro hflash series hseries
    rw [hflash] at hplan
    exact join_flash hplan hseries

/-- The factory log holds its dataset, but less than a transfer of it takes. -/
def shortFactory : Device where
  manifest :=
    { identity := {}, kind := .ata, farm := { farm := true }
      restrictions := { alignment := 65536 } }
  pages := [(.ataLog 0xA6 0, .fill 131072 1), (.ataLog 0xA6 3, .fill 98304 2)]

theorem pull_frames_shortFactory :
    ∃ l, shortFactory.run (Farm.pull shortFactory.drive {}) =
        (.ok l, shortFactory.rememberAll [.page (.ataLog 0xA6 0), .page (.ataLog 0xA6 3),
          .page (.ataLog 0xA6 2), .page (.ataLog 0xC6 2)]) ∧
      (∃ e ∈ l, e.kind = .current ∧ e.payload = (Bytes.fill 131072 1).take 98304) ∧
      ∀ e ∈ l, e.kind ≠ .factory := by
  have hsupported : ¬Unsupported shortFactory.drive {} := by
    intro h
    cases h with
    | nvme h => cases h
    | ata _ h _ => cases h
    | flash _ h _ => cases h
    | scsi h _ => cases h
  have hroom : ∀ reads, plan shortFactory.drive.farm .disc = .ok reads → ∀ l ∈ reads,
      bufferSize l.length shortFactory.drive.dmaAlignment < addressSpace := by
    intro reads hplan
    cases hplan
    decide
  have hcurrent : payload? shortFactory .disc .current =
      some ((Bytes.fill 131072 1).take 98304) := by
    have hpage : shortFactory.find? (.ataLog 0xA6 0) = some (.fill 131072 1) := rfl
    have hlong : bufferSize 98304 shortFactory.drive.dmaAlignment ≤
        (Bytes.fill 131072 1).size := by
      rw [Bytes.size_fill]
      decide
    exact (if_pos rfl).trans ((firstBytes?_of_find? hpage 98304).trans (if_pos hlong))
  have hfactory : payload? shortFactory .disc .factory = none := by
    have hpage : shortFactory.find? (.ataLog 0xA6 3) = some (.fill 98304 2) := rfl
    have hshort : ¬bufferSize 98304 shortFactory.drive.dmaAlignment ≤
        (Bytes.fill 98304 2).size := by
      rw [Bytes.size_fill]
      decide
    exact (if_pos rfl).trans ((firstBytes?_of_find? hpage 98304).trans (if_neg hshort))
  obtain ⟨l, hrun, hretrieved⟩ := pull_frames shortFactory {} rfl hsupported hroom
  refine ⟨l, hrun, (hretrieved.exactly.payload _ _).mpr hcurrent, ?_⟩
  intro e he hkind
  have hpayload := (hretrieved.exactly.payload .factory e.payload).mp ⟨e, he, hkind, rfl⟩
  rw [hfactory] at hpayload
  cases hpayload

end DriveHealth.Farm.Pull.Ata
