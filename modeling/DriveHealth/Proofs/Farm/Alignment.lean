import DriveHealth.Proofs.Capture.LogTransfers
import DriveHealth.Proofs.Farm.Atomic
import DriveHealth.Proofs.Farm.CapturedFrames
import DriveHealth.Proofs.Farm.CapturedSubpages

/-!
The alignment of a captured drive, as a pull feels it. A pull rounds each transfer up to the
alignment. Of a subpage as much arrives as there is, so a SCSI drive gives the same datasets at
every alignment. A log of an ATA drive has to fill the rounded transfer, so a log that has all the
bytes of its datasets is missed if it ends before the transfer does.
-/
namespace DriveHealth.Farm.Pull

open Capture Program

namespace Ata

/-- The reads of a pull, none if it is refused. -/
def reads (c : FarmCapabilities) (copy : Copy) : List LogRead := (plan c copy).toOption.getD []

/-- The capture has as much of a log as a transfer of it takes. -/
def Covered (d : Device) (l : LogRead) : Prop :=
  ∃ page, d.find? l.key = some page ∧ bufferSize l.length d.drive.dmaAlignment ≤ page.size

/-- The kinds and payloads of a planned read. -/
def entriesOf (d : Device) (l : LogRead) : List (Kind × Bytes) :=
  (captured d l).map fun e => (e.kind, e.payload)

end Ata

/-- The kinds and payloads that a pull of a captured drive gives. -/
def contents (d : Device) (options : PullOptions) : Except Error (List (Kind × Bytes)) :=
  (d.found fun drive => Farm.pull drive options).map fun l => l.map fun e => (e.kind, e.payload)

/-- There is room for every buffer of a pull. -/
structure Roomy (d : Device) (options : PullOptions) : Prop where
  log : d.drive.kind = .ata → ∀ l ∈ Ata.reads d.drive.farm options.copy,
    bufferSize l.length d.drive.dmaAlignment < addressSpace
  subpage : d.drive.kind = .scsi → ∀ g ∈ Scsi.plan d.drive.farm, ∀ s ∈ g.subpages,
    Scsi.HasRoom d s

namespace Ata

variable {d e : Device} {l : LogRead} {c : FarmCapabilities} {copy : Copy}

theorem reads_of_plan {planned : List LogRead} (h : plan c copy = .ok planned) :
    reads c copy = planned := by
  unfold reads
  rw [h]
  rfl

theorem covered_iff_isSome (d : Device) (l : LogRead) :
    Covered d l ↔ (firstBytes? d l.log l.feature l.length).isSome = true := by
  unfold Covered firstBytes? LogRead.key
  cases hpage : d.find? (.ataLog l.log l.feature) with
  | none => simp
  | some page =>
    by_cases hlong : bufferSize l.length d.drive.dmaAlignment ≤ page.size
    · simp [hlong]
    · simp [hlong]

/-- A log of the length of its datasets fills the transfer only if that needs no rounding. -/
theorem covered_iff_dvd {page : Bytes} (hpage : d.find? l.key = some page)
    (hsize : page.size = l.length) : Covered d l ↔ d.drive.dmaAlignment ∣ l.length := by
  obtain ⟨⟨hdvd, hlong⟩, hleast⟩ := bufferSize_isLeast d.dmaAlignment_pos l.length
  constructor
  · rintro ⟨other, hother, hcovered⟩
    rw [hpage] at hother
    cases hother
    have hexact : bufferSize l.length d.drive.dmaAlignment = l.length := by omega
    rwa [hexact] at hdvd
  · intro hwhole
    refine ⟨page, hpage, ?_⟩
    rw [hsize]
    exact hleast ⟨hwhole, Nat.le_refl _⟩

theorem firstBytes?_of_covered (h : Covered d l) : ∃ page, d.find? l.key = some page ∧
    firstBytes? d l.log l.feature l.length = some (page.take l.length) := by
  obtain ⟨page, hpage, hlong⟩ := h
  refine ⟨page, hpage, ?_⟩
  rw [firstBytes?_of_find? hpage, if_pos hlong]

theorem firstBytes?_of_not_covered (h : ¬Covered d l) :
    firstBytes? d l.log l.feature l.length = none := by
  rw [covered_iff_isSome] at h
  exact Option.not_isSome_iff_eq_none.mp h

/-- Two captures with the same log give the same datasets if it fills both transfers or none. -/
theorem entriesOf_congr (hfind : e.find? l.key = d.find? l.key)
    (h : Covered e l ↔ Covered d l) : entriesOf e l = entriesOf d l := by
  have hbytes : firstBytes? e l.log l.feature l.length =
      firstBytes? d l.log l.feature l.length := by
    by_cases hcovered : Covered e l
    · obtain ⟨page, hpage, hfirst⟩ := firstBytes?_of_covered hcovered
      obtain ⟨other, hother, hsecond⟩ := firstBytes?_of_covered (h.mp hcovered)
      rw [hfind, hother] at hpage
      cases hpage
      rw [hfirst, hsecond]
    · rw [firstBytes?_of_not_covered hcovered,
        firstBytes?_of_not_covered fun hd => hcovered (h.mpr hd)]
  unfold entriesOf captured
  rw [hbytes]

/-- A planned read gives all of its kinds, or none if the capture ends before the transfer. -/
theorem exists_mem_entriesOf_iff {k : Kind} :
    (∃ b, (k, b) ∈ entriesOf d l) ↔ Covered d l ∧ k ∈ l.parts.map Part.kind := by
  rw [covered_iff_isSome]
  unfold entriesOf captured
  cases firstBytes? d l.log l.feature l.length with
  | none => simp
  | some data => simp [LogRead.datasets, Part.dataset]

/-- The reads that a copy may take. -/
def offered : Copy → List LogRead
  | .disc => farmReads ++ [discSeries, workload]
  | .flash => [flashSeries, workload]

theorem reads_subset (c : FarmCapabilities) (copy : Copy) : reads c copy ⊆ offered copy := by
  intro l hl
  cases hplan : plan c copy with
  | error e =>
    rw [reads, hplan] at hl
    cases hl
  | ok planned =>
    rw [reads_of_plan hplan] at hl
    cases copy with
    | disc =>
      rw [reads_of_disc hplan] at hl
      grind [offered]
    | flash =>
      rw [(reads_of_flash hplan).2] at hl
      exact hl

/-- Each kind of a copy is in one log. -/
theorem eq_of_mem_kinds {m : LogRead} {k : Kind} (hl : l ∈ reads c copy) (hm : m ∈ reads c copy)
    (hkl : k ∈ l.parts.map Part.kind) (hkm : k ∈ m.parts.map Part.kind) : l = m := by
  have hdistinct : ∀ copy, ∀ l ∈ offered copy, ∀ m ∈ offered copy,
      ∀ k ∈ l.parts.map Part.kind, k ∈ m.parts.map Part.kind → l = m := by
    intro copy
    cases copy <;> decide
  exact hdistinct copy l (reads_subset c copy hl) m (reads_subset c copy hm) k hkl hkm

theorem exists_kind_of_mem_reads (hl : l ∈ reads c copy) : ∃ k, k ∈ l.parts.map Part.kind := by
  have hparts : ∀ copy, ∀ l ∈ offered copy, l.parts.map Part.kind ≠ [] := by
    intro copy
    cases copy <;> decide
  exact List.exists_mem_of_ne_nil _ (hparts copy l (reads_subset c copy hl))

/-- Two captures with the same logs give the same datasets exactly if each log fills both transfers
or none. -/
theorem flatMap_entriesOf_eq_iff (c : FarmCapabilities) (copy : Copy)
    (hfind : ∀ key, e.find? key = d.find? key) :
    (reads c copy).flatMap (entriesOf e) = (reads c copy).flatMap (entriesOf d) ↔
      ∀ l ∈ reads c copy, (Covered e l ↔ Covered d l) := by
  -- A log that only one capture gives leaves its kinds out on the other side.
  have hcovered : ∀ {d e : Device}, (reads c copy).flatMap (entriesOf e) =
      (reads c copy).flatMap (entriesOf d) → ∀ l ∈ reads c copy, Covered e l → Covered d l := by
    intro d e hsame l hl hcovered
    obtain ⟨k, hk⟩ := exists_kind_of_mem_reads hl
    obtain ⟨b, hb⟩ := exists_mem_entriesOf_iff.mpr ⟨hcovered, hk⟩
    have hmem : (k, b) ∈ (reads c copy).flatMap (entriesOf d) := by
      rw [← hsame]
      exact List.mem_flatMap.mpr ⟨l, hl, hb⟩
    obtain ⟨m, hm, hkm⟩ := List.mem_flatMap.mp hmem
    obtain ⟨hother, hkinds⟩ := exists_mem_entriesOf_iff.mp ⟨b, hkm⟩
    rwa [eq_of_mem_kinds hl hm hk hkinds]
  constructor
  · intro hsame l hl
    exact ⟨hcovered hsame l hl, hcovered hsame.symm l hl⟩
  · intro h
    exact List.flatMap_congr fun l hl => entriesOf_congr (hfind _) (h l hl)

/-- What a pull of a captured ATA drive gives, or how it is refused. -/
theorem contents_eq {options : PullOptions} (hkind : d.drive.kind = .ata)
    (hroom : Roomy d options) :
    contents d options = (plan d.drive.farm options.copy).map fun planned =>
      planned.flatMap (entriesOf d) := by
  unfold contents Device.found Farm.pull
  dsimp only
  rw [hkind]
  dsimp only
  unfold pull
  cases hplan : plan d.drive.farm options.copy with
  | error e => rfl
  | ok planned =>
    have hlogs := hroom.log hkind
    rw [reads_of_plan hplan] at hlogs
    dsimp only
    rw [run_pullAll d options.hint hlogs]
    dsimp only [Except.map]
    rw [List.map_flatMap]
    rfl

end Ata

namespace Scsi

/-- What a pull of a captured SCSI drive gives does not mention the alignment. -/
theorem contents_eq {d : Device} {options : PullOptions} (hkind : d.drive.kind = .scsi)
    (hroom : Roomy d options) :
    contents d options = if d.drive.farm.any = true then
      .ok ((plan d.drive.farm).flatMap fun g => (arrived d g).map fun e => (e.kind, e.payload))
      else .error unsupported := by
  unfold contents Device.found Farm.pull
  dsimp only
  rw [hkind]
  dsimp only
  unfold pull
  by_cases hany : d.drive.farm.any = true
  · rw [if_pos hany, if_pos hany, run_pullAll_arrived d (hroom.subpage hkind)]
    dsimp only [Except.map]
    rw [List.map_flatMap]
  · rw [if_neg hany, if_neg hany]
    rfl

end Scsi

/-- How a pull at one alignment compares with a pull at another. -/
structure AlignmentFelt (d : Device) (options : PullOptions) (a b : Nat) : Prop where
  same : d.drive.kind ≠ .ata →
    contents (d.aligned a) options = contents (d.aligned b) options
  /-- Only a log that fills one of the two transfers makes a difference. -/
  same_iff : d.drive.kind = .ata →
    (contents (d.aligned a) options = contents (d.aligned b) options ↔
      ∀ l ∈ Ata.reads d.drive.farm options.copy,
        (Ata.Covered (d.aligned a) l ↔ Ata.Covered (d.aligned b) l))
  /-- A log is pulled exactly if it fills the transfer. -/
  pulled_iff : d.drive.kind = .ata → ∀ l ∈ Ata.reads d.drive.farm options.copy,
    ∀ p ∈ l.parts, (∃ found payload, contents (d.aligned a) options = .ok found ∧
      (p.kind, payload) ∈ found) ↔ Ata.Covered (d.aligned a) l
  /-- A log of the length of its datasets fills it if and only if nothing is rounded. -/
  nominal : ∀ l page, d.find? l.key = some page → page.size = l.length →
    (Ata.Covered (d.aligned a) l ↔ (d.aligned a).drive.dmaAlignment ∣ l.length)

theorem contents_of_nvme {d : Device} (options : PullOptions) (hkind : d.drive.kind = .nvme) :
    contents d options = .error (.notSupported "FARM logs are not available on NVMe devices") := by
  unfold contents Device.found Farm.pull
  dsimp only
  rw [hkind]
  rfl

section Aligned

variable {d : Device} {options : PullOptions} {a b : Nat}

/-- A drive that is not read by whole logs gives the same at every alignment. -/
theorem contents_aligned_of_ne_ata (hkind : d.drive.kind ≠ .ata)
    (ha : Roomy (d.aligned a) options) (hb : Roomy (d.aligned b) options) :
    contents (d.aligned a) options = contents (d.aligned b) options := by
  cases hother : d.drive.kind with
  | ata => exact absurd hother hkind
  | scsi =>
    have hpulled : ∀ n, Roomy (d.aligned n) options → contents (d.aligned n) options = _ :=
      fun n hroom => Scsi.contents_eq (d := d.aligned n) hother hroom
    rw [hpulled a ha, hpulled b hb]
    rfl
  | nvme =>
    have hrefused : ∀ n, contents (d.aligned n) options = _ :=
      fun n => contents_of_nvme (d := d.aligned n) options hother
    rw [hrefused a, hrefused b]

theorem contents_aligned_eq_iff (hkind : d.drive.kind = .ata)
    (ha : Roomy (d.aligned a) options) (hb : Roomy (d.aligned b) options) :
    contents (d.aligned a) options = contents (d.aligned b) options ↔
      ∀ l ∈ Ata.reads d.drive.farm options.copy,
        (Ata.Covered (d.aligned a) l ↔ Ata.Covered (d.aligned b) l) := by
  have hpulled : ∀ n, Roomy (d.aligned n) options → contents (d.aligned n) options =
      (Ata.plan d.drive.farm options.copy).map fun planned =>
        planned.flatMap (Ata.entriesOf (d.aligned n)) :=
    fun n hroom => Ata.contents_eq (d := d.aligned n) hkind hroom
  have hfind : ∀ key, (d.aligned a).find? key = (d.aligned b).find? key := fun _ => rfl
  rw [hpulled a ha, hpulled b hb, ← Ata.flatMap_entriesOf_eq_iff d.drive.farm options.copy hfind]
  cases hplan : Ata.plan d.drive.farm options.copy with
  | error e => simp [Ata.reads, hplan, Except.map, Except.toOption]
  | ok planned => simp [Ata.reads_of_plan hplan, Except.map]

/-- All kinds of a log are pulled, or none. -/
theorem exists_mem_contents_iff (hkind : d.drive.kind = .ata) (hroom : Roomy d options)
    {l : Ata.LogRead} (hl : l ∈ Ata.reads d.drive.farm options.copy) {p : Ata.Part}
    (hp : p ∈ l.parts) :
    (∃ found payload, contents d options = .ok found ∧ (p.kind, payload) ∈ found) ↔
      Ata.Covered d l := by
  have hpart : p.kind ∈ l.parts.map Ata.Part.kind := List.mem_map_of_mem hp
  rw [Ata.contents_eq hkind hroom]
  cases hplan : Ata.plan d.drive.farm options.copy with
  | error e =>
    rw [Ata.reads, hplan] at hl
    cases hl
  | ok planned =>
    rw [Ata.reads_of_plan hplan] at hl
    constructor
    · rintro ⟨found, payload, hfound, hmem⟩
      obtain rfl := Except.ok.inj hfound
      obtain ⟨m, hm, hkm⟩ := List.mem_flatMap.mp hmem
      obtain ⟨hcovered, hkinds⟩ := Ata.exists_mem_entriesOf_iff.mp ⟨payload, hkm⟩
      rw [← Ata.reads_of_plan hplan] at hl hm
      rwa [Ata.eq_of_mem_kinds hl hm hpart hkinds]
    · intro hcovered
      obtain ⟨payload, hmem⟩ := Ata.exists_mem_entriesOf_iff.mpr ⟨hcovered, hpart⟩
      exact ⟨_, payload, rfl, List.mem_flatMap.mpr ⟨l, hl, hmem⟩⟩

end Aligned

/-- A pull of a captured drive feels the alignment only where that makes a transfer longer than the
log that was captured. -/
theorem pull_alignmentFelt (d : Device) (options : PullOptions) (a b : Nat)
    (ha : Roomy (d.aligned a) options) (hb : Roomy (d.aligned b) options) :
    AlignmentFelt d options a b where
  same hkind := contents_aligned_of_ne_ata hkind ha hb
  same_iff hkind := contents_aligned_eq_iff hkind ha hb
  pulled_iff hkind _ hl _ hp := exists_mem_contents_iff (d := d.aligned a) hkind ha hl hp
  nominal _ _ hpage hsize := Ata.covered_iff_dvd (d := d.aligned a) hpage hsize

/-- No capture holds a log that an alignment within reason leaves no room for. -/
theorem roomy_of_dmaAlignment_lt {d : Device} (options : PullOptions)
    (h : d.drive.dmaAlignment < 2 ^ 46) : Roomy d options where
  log _ l hl := by
    have hlengths : ∀ copy, ∀ l ∈ Ata.offered copy, l.length < 2 ^ 32 := by
      intro copy
      cases copy <;> decide
    exact Combined.bufferSize_lt (hlengths _ l (Ata.reads_subset _ _ hl)) h
  subpage _ _ _ _ _ _ _ := Combined.bufferSize_lt (Nat.mod_lt _ (by decide)) h

/-- A log that has exactly the bytes of its dataset. -/
def currentOnly : Device where
  manifest := { identity := {}, kind := .ata, farm := { farm := true } }
  pages := [(.ataLog 0xA6 0, .fill 98304 1)]

theorem roomy_currentOnly :
    Roomy (currentOnly.aligned 65536) {} ∧ Roomy (currentOnly.aligned 0) {} :=
  ⟨roomy_of_dmaAlignment_lt {} (by decide), roomy_of_dmaAlignment_lt {} (by decide)⟩

/-- Its transfer takes 131072 bytes at one alignment and 98304 at another. -/
theorem not_covered_alike_currentOnly : ¬ ∀ l ∈ Ata.reads currentOnly.drive.farm .disc,
    (Ata.Covered (currentOnly.aligned 65536) l ↔ Ata.Covered (currentOnly.aligned 0) l) := by
  intro h
  have hplanned : Ata.whole Ata.farmLog 0 .current Ata.frame ∈
      Ata.reads currentOnly.drive.farm .disc := List.mem_cons_self
  have hcovered : ∀ a, Ata.Covered (currentOnly.aligned a)
      (Ata.whole Ata.farmLog 0 .current Ata.frame) ↔
        (currentOnly.aligned a).drive.dmaAlignment ∣ Ata.frame :=
    fun _ => Ata.covered_iff_dvd rfl (Bytes.size_fill _ _)
  have hboth := h _ hplanned
  rw [hcovered, hcovered] at hboth
  revert hboth
  decide

theorem pull_alignmentFelt_currentOnly :
    Roomy (currentOnly.aligned 65536) {} ∧ Roomy (currentOnly.aligned 0) {} ∧
      contents (currentOnly.aligned 65536) {} ≠ contents (currentOnly.aligned 0) {} := by
  obtain ⟨hfirst, hsecond⟩ := roomy_currentOnly
  refine ⟨hfirst, hsecond, fun hsame => not_covered_alike_currentOnly ?_⟩
  exact ((pull_alignmentFelt currentOnly {} 65536 0 hfirst hsecond).same_iff rfl).mp hsame

/-- A log that has all the bytes of its dataset is missed at an alignment that does not divide their
number. -/
theorem not_pull_same : ¬ ∀ (d : Device) (options : PullOptions) (a b : Nat),
    Roomy (d.aligned a) options → Roomy (d.aligned b) options →
    contents (d.aligned a) options = contents (d.aligned b) options := by
  intro h
  obtain ⟨hfirst, hsecond⟩ := roomy_currentOnly
  have hsame := h currentOnly {} 65536 0 hfirst hsecond
  exact not_covered_alike_currentOnly ((contents_aligned_eq_iff rfl hfirst hsecond).mp hsame)

end DriveHealth.Farm.Pull
