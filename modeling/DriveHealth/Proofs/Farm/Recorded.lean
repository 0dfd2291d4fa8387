import DriveHealth.Proofs.Farm.Allocated
import DriveHealth.Proofs.Farm.Atomic
import DriveHealth.Proofs.Farm.CapturedSubpages

/-!
What has to arrive for a dataset to be recorded. A dataset of an ATA drive is as long as it was
planned. A dataset of a SCSI drive is recorded as soon as the drive answers for one of its subpages,
also if it answers that no bytes have come, so a dataset is empty exactly if all its subpages came
empty. The sink is opened exactly if the drive has answered for some log.
-/
namespace DriveHealth.Farm

namespace Pull

open Program
open DriveHealth.Scsi (DriveTrace)

/-- The subpages that a drive has answered for, with the bytes that it has counted. -/
def countOf? : (r : Request) × r.Reply → Option (UInt8 × Nat)
  | ⟨.logSense _ subpage _, .ok (_, n)⟩ => some (subpage, n)
  | _ => none

def counts (t : DriveTrace) : List (UInt8 × Nat) := t.filterMap countOf?

/-- A transfer leaves the buffer as long as it was, and counts no more bytes than it holds. -/
structure Filled (t : DriveTrace) : Prop where
  readLog : ∀ log page feature hint buffer data,
    (⟨.readLog log page feature hint buffer, .ok data⟩ : (r : Request) × r.Reply) ∈ t →
      data.size = buffer.size
  logSense : ∀ page subpage buffer data n,
    (⟨.logSense page subpage buffer, .ok (data, n)⟩ : (r : Request) × r.Reply) ∈ t →
      data.size = buffer.size ∧ n ≤ buffer.size

section Traces

variable {t u : DriveTrace}

theorem counts_append (t u : DriveTrace) : counts (t ++ u) = counts t ++ counts u :=
  List.filterMap_append

theorem Filled.left (h : Filled (t ++ u)) : Filled t where
  readLog _ _ _ _ _ _ hmem := h.readLog _ _ _ _ _ _ (List.mem_append_left u hmem)
  logSense _ _ _ _ _ hmem := h.logSense _ _ _ _ _ (List.mem_append_left u hmem)

theorem Filled.right (h : Filled (t ++ u)) : Filled u where
  readLog _ _ _ _ _ _ hmem := h.readLog _ _ _ _ _ _ (List.mem_append_right t hmem)
  logSense _ _ _ _ _ hmem := h.logSense _ _ _ _ _ (List.mem_append_right t hmem)

end Traces

namespace Ata

variable {alignment : Nat} {hint : UInt32} {t : DriveTrace}

/-- A read has parts, all of which lie inside the bytes that it asks for, and none is empty. -/
def Inside (l : LogRead) : Prop :=
  l.parts ≠ [] ∧ ∀ p ∈ l.parts, p.length ≠ 0 ∧ p.offset + p.length ≤ l.length

instance (l : LogRead) : Decidable (Inside l) :=
  inferInstanceAs (Decidable (_ ∧ _))

theorem inside_of_plan {c : FarmCapabilities} {copy : Copy} {reads : List LogRead}
    (h : plan c copy = .ok reads) : ∀ l ∈ reads, Inside l := by
  have hall : ∀ l ∈ farmReads ++ [discSeries, flashSeries, workload], Inside l := by decide
  exact fun l hl => hall l (Combined.subset_of_plan h hl)

theorem size_of_answered {l : LogRead} {datasets : List Dataset} (hinside : Inside l)
    (h : Answered alignment hint l t datasets) (hfilled : Filled t) :
    ∀ e ∈ datasets, e.payload.size ≠ 0 := by
  cases h with
  | failed start e => exact List.forall_mem_nil _
  | read start stop data =>
    have hsize : data.size = bufferSize l.length alignment := by
      have hbuffer := hfilled.readLog l.log 0 l.feature hint _ data
        (List.mem_cons_of_mem _ List.mem_cons_self)
      rwa [Bytes.size_zeros] at hbuffer
    have hlong := length_le_bufferSize l.length alignment
    intro e he
    obtain ⟨p, hp, rfl⟩ := List.mem_map.mp he
    obtain ⟨hlength, hstop⟩ := hinside.2 p hp
    show ((data.take l.length).slice p.offset p.length).size ≠ 0
    rw [Bytes.slice, Bytes.take, ByteArray.size_extract, ByteArray.size_extract]
    omega

theorem nonempty_of_each {reads : List LogRead} {parts : List (List Dataset)}
    (h : Each (Answered alignment hint) reads t parts) (hinside : ∀ l ∈ reads, Inside l)
    (hfilled : Filled t) : ∀ e ∈ parts.flatten, e.payload.size ≠ 0 := by
  induction h with
  | nil => exact List.forall_mem_nil _
  | cons hfirst _ ih =>
    obtain ⟨hown, hothers⟩ := List.forall_mem_cons.mp hinside
    rw [List.flatten_cons]
    exact List.forall_mem_append.mpr
      ⟨size_of_answered hown hfirst hfilled.left, ih hothers hfilled.right⟩

theorem Answered.ne_nil_of_delivered {l : LogRead} {datasets : List Dataset}
    (h : Answered alignment hint l t datasets) (hparts : l.parts ≠ [])
    (hdelivered : ∃ e ∈ t, Delivered e) : datasets ≠ [] := by
  cases h with
  | failed start e =>
    obtain ⟨e, he, harrived⟩ := hdelivered
    simp only [List.mem_cons, List.not_mem_nil, or_false] at he
    rcases he with rfl | rfl <;> cases harrived
  | read start stop data => exact fun hnone => hparts (List.map_eq_nil_iff.mp hnone)

end Ata

namespace Scsi

variable {alignment : Nat} {t : DriveTrace}

/-- A reading is empty exactly if the drive has counted no bytes. -/
theorem counts_of_answered {subpage : UInt8} {readings : List Reading}
    (h : Answered alignment subpage t readings) (hfilled : Filled t) :
    (∀ c ∈ counts t, c.1 = subpage) ∧
      (counts t).map (fun c => c.2 == 0) = readings.map fun r => r.data.size == 0 := by
  cases h with
  | sizeFailed e => exact ⟨List.forall_mem_nil _, rfl⟩
  | empty => exact ⟨List.forall_mem_nil _, rfl⟩
  | failed start e _ => exact ⟨List.forall_mem_nil _, rfl⟩
  | @read size start stop n data hsize =>
    have hfull : data.size = bufferSize size alignment := by
      have hbuffer := (hfilled.logSense logPage subpage _ data n
        (List.mem_cons_of_mem _ (List.mem_cons_of_mem _ List.mem_cons_self))).1
      rwa [Bytes.size_zeros] at hbuffer
    have hlong := length_le_bufferSize size alignment
    have htaken : (data.take (min n size)).size = min n size := by
      rw [Bytes.take, ByteArray.size_extract]
      omega
    have hempty : (n == 0) = ((data.take (min n size)).size == 0) := by
      rw [htaken, Bool.eq_iff_iff, beq_iff_eq, beq_iff_eq]
      omega
    exact ⟨List.forall_mem_singleton.mpr rfl, congrArg (fun b => [b]) hempty⟩

/-- The readings of a run of subpages are empty where the drive has counted no bytes. -/
theorem counts_of_each {subpages : List UInt8} {parts : List (List Reading)}
    (h : Each (Answered alignment) subpages t parts) (hfilled : Filled t) :
    (∀ c ∈ counts t, c.1 ∈ subpages) ∧
      (counts t).map (fun c => c.2 == 0) = parts.flatten.map fun r => r.data.size == 0 := by
  induction h with
  | nil => exact ⟨List.forall_mem_nil _, rfl⟩
  | @cons subpage rest t u readings parts hfirst _ ih =>
    obtain ⟨hown, hempty⟩ := counts_of_answered hfirst hfilled.left
    obtain ⟨hrest, hothers⟩ := ih hfilled.right
    rw [counts_append, List.flatten_cons, List.map_append, List.map_append, hempty, hothers]
    refine ⟨fun c hc => ?_, rfl⟩
    rcases List.mem_append.mp hc with hfirst | hother
    · rw [hown c hfirst]
      exact List.mem_cons_self
    · exact List.mem_cons_of_mem subpage (hrest c hother)

/-- Whether all of some parts are empty, none if there are no parts. -/
def emptiness? : List Bool → Option Bool
  | [] => none
  | b :: rest => some ((b :: rest).all id)

theorem emptiness?_eq_some_iff {l : List Bool} {b : Bool} :
    emptiness? l = some b ↔ l ≠ [] ∧ l.all id = b := by
  cases l with
  | nil => simp [emptiness?]
  | cons c rest => simp [emptiness?]

/-- Whether the bytes that came for some subpages are none, unless none of them was answered. -/
def empty? (t : DriveTrace) (l : List UInt8) : Option Bool :=
  emptiness? (((counts t).filter fun c => c.1 ∈ l).map fun c => c.2 == 0)

/-- The kinds of datasets, and whether their payloads are empty. -/
def shapes (l : List Dataset) : List (Kind × Bool) := l.map fun e => (e.kind, e.payload.size == 0)

theorem shapes_joined (kind : Kind) (l : List Reading) :
    shapes (joined kind l) =
      ((emptiness? (l.map fun r => r.data.size == 0)).map fun b => (kind, b)).toList := by
  cases l with
  | nil => rfl
  | cons r rest =>
    have hempty : ((Bytes.join ((r :: rest).map Reading.data)).size == 0) =
        (((r :: rest).map fun r => r.data.size == 0).all id) := by
      rw [Bytes.size_join, Bool.eq_iff_iff, beq_iff_eq, List.sum_eq_zero_iff_forall_eq_nat]
      simp
    show [(kind, (Bytes.join ((r :: rest).map Reading.data)).size == 0)] = _
    rw [hempty]
    rfl

theorem counts_of_gathered {g : Group} {datasets : List Dataset}
    (h : Gathered alignment g t datasets) (hfilled : Filled t) :
    (∀ c ∈ counts t, c.1 ∈ g.subpages) ∧
      shapes datasets = ((emptiness? ((counts t).map fun c => c.2 == 0)).map fun b =>
        (g.kind, b)).toList := by
  obtain ⟨parts, heach⟩ := h
  obtain ⟨hnames, hempty⟩ := counts_of_each heach hfilled
  exact ⟨hnames, hempty ▸ shapes_joined g.kind parts.flatten⟩

/-- Where no subpage belongs to two groups, each dataset is told by what came of its own. -/
theorem shapes_of_each {groups : List Group} {parts : List (List Dataset)}
    (h : Each (Gathered alignment) groups t parts) (hfilled : Filled t)
    (hdisjoint : groups.Pairwise fun g k => g.subpages.Disjoint k.subpages) :
    (∀ c ∈ counts t, ∃ g ∈ groups, c.1 ∈ g.subpages) ∧
      shapes parts.flatten =
        groups.flatMap fun g => ((empty? t g.subpages).map fun b => (g.kind, b)).toList := by
  induction h with
  | nil => exact ⟨List.forall_mem_nil _, rfl⟩
  | @cons g rest t u datasets parts hfirst _ ih =>
    obtain ⟨hapart, hdisjoint⟩ := List.pairwise_cons.mp hdisjoint
    obtain ⟨hown, hempty⟩ := counts_of_gathered hfirst hfilled.left
    obtain ⟨hrest, hothers⟩ := ih hfilled.right hdisjoint
    have hinside : (counts (t ++ u)).filter (fun c => c.1 ∈ g.subpages) = counts t := by
      rw [counts_append, List.filter_append, List.filter_eq_self.mpr, List.filter_eq_nil_iff.mpr,
        List.append_nil]
      · intro c hc hmem
        obtain ⟨k, hk, hother⟩ := hrest c hc
        exact hapart k hk (of_decide_eq_true hmem) hother
      · intro c hc
        exact decide_eq_true (hown c hc)
    have houtside : ∀ k ∈ rest, (counts (t ++ u)).filter (fun c => c.1 ∈ k.subpages) =
        (counts u).filter fun c => c.1 ∈ k.subpages := by
      intro k hk
      rw [counts_append, List.filter_append, List.filter_eq_nil_iff.mpr, List.nil_append]
      intro c hc hmem
      exact hapart k hk (hown c hc) (of_decide_eq_true hmem)
    constructor
    · intro c hc
      rw [counts_append] at hc
      rcases List.mem_append.mp hc with hfirst | hother
      · exact ⟨g, List.mem_cons_self, hown c hfirst⟩
      · obtain ⟨k, hk, hmem⟩ := hrest c hother
        exact ⟨k, List.mem_cons_of_mem g hk, hmem⟩
    · have htail : (rest.flatMap fun k =>
          ((empty? (t ++ u) k.subpages).map fun b => (k.kind, b)).toList) =
          rest.flatMap fun k => ((empty? u k.subpages).map fun b => (k.kind, b)).toList := by
        refine List.flatMap_congr fun k hk => ?_
        rw [empty?, houtside k hk, empty?]
      rw [List.flatMap_cons, htail, ← hothers, empty?, hinside, ← hempty]
      exact List.map_append

/-- No subpage belongs to two kinds. -/
theorem disjoint_subpages {j k : Kind} (h : j ≠ k) : (subpages j).Disjoint (subpages k) := by
  have hother : ∀ s ∈ subpages j, s ∉ subpages k := by
    cases j <;> cases k <;> first | exact absurd rfl h | decide +kernel
  exact fun s hj hk => hother s hj hk

theorem mem_shapes_iff {l : List Dataset} {k : Kind} {b : Bool} :
    (k, b) ∈ shapes l ↔ ∃ e ∈ l, e.kind = k ∧ (e.payload.size == 0) = b := by
  simp [shapes]

theorem empty?_eq_some_iff {l : List UInt8} {b : Bool} :
    empty? t l = some b ↔ (∃ c ∈ counts t, c.1 ∈ l) ∧
      (b = true ↔ ∀ c ∈ counts t, c.1 ∈ l → c.2 = 0) := by
  have hall : (((counts t).filter fun c => c.1 ∈ l).map fun c => c.2 == 0).all id = true ↔
      ∀ c ∈ counts t, c.1 ∈ l → c.2 = 0 := by
    simp [imp_iff_not_or]
  have hany : ((counts t).filter fun c => c.1 ∈ l).map (fun c => c.2 == 0) ≠ [] ↔
      ∃ c ∈ counts t, c.1 ∈ l := by
    simp
  rw [empty?, emptiness?_eq_some_iff, hany, ← hall, eq_comm, Bool.eq_iff_iff]

theorem mem_shapes_of_each {c : FarmCapabilities} {parts : List (List Dataset)}
    (h : Each (Gathered alignment) (plan c) t parts) (hfilled : Filled t) {k : Kind} {b : Bool} :
    (∃ e ∈ parts.flatten, e.kind = k ∧ (e.payload.size == 0) = b) ↔
      offers c k = true ∧ empty? t (subpages k) = some b := by
  have hdisjoint : (plan c).Pairwise fun g k => g.subpages.Disjoint k.subpages := by
    rw [plan_eq, List.pairwise_map]
    have hdistinct : readOrder.Nodup := by decide
    exact (hdistinct.filter _).imp disjoint_subpages
  rw [← mem_shapes_iff, (shapes_of_each h hfilled hdisjoint).2, plan_eq, List.flatMap_map]
  simp only [List.mem_flatMap, List.mem_filter, Option.mem_toList, Option.map_eq_some_iff,
    Prod.mk.injEq]
  constructor
  · rintro ⟨j, ⟨_, hoffers⟩, b, hb, rfl, rfl⟩
    exact ⟨hoffers, hb⟩
  · rintro ⟨hoffers, hb⟩
    exact ⟨k, ⟨mem_readOrder_of_offers hoffers, hoffers⟩, b, hb, rfl, rfl⟩

theorem Answered.ne_nil_of_delivered {subpage : UInt8} {readings : List Reading}
    (h : Answered alignment subpage t readings) (hdelivered : ∃ e ∈ t, Delivered e) :
    readings ≠ [] := by
  obtain ⟨e, he, harrived⟩ := hdelivered
  cases h with
  | read start stop n data _ => exact List.cons_ne_nil _ _
  | _ =>
    simp only [List.mem_cons, List.not_mem_nil, or_false] at he
    rcases he with rfl | rfl | rfl <;> cases harrived

theorem Gathered.ne_nil_of_delivered {g : Group} {datasets : List Dataset}
    (h : Gathered alignment g t datasets) (hdelivered : ∃ e ∈ t, Delivered e) :
    datasets ≠ [] := by
  obtain ⟨parts, heach⟩ := h
  have hread := heach.flatten_ne_nil (fun _ h => h.ne_nil_of_delivered) hdelivered
  cases hparts : parts.flatten with
  | nil => exact absurd hparts hread
  | cons r rest => exact List.cons_ne_nil _ _

end Scsi

variable {d : Drive} {options : PullOptions} {t : DriveTrace} {datasets : List Dataset}

/-- What the drive has delivered gives a dataset. -/
theorem Gathers.ne_nil_of_delivered (h : Gathers d options t datasets)
    (hdelivered : ∃ e ∈ t, Delivered e) : datasets ≠ [] := by
  cases h with
  | ata _ hplan heach =>
    refine heach.flatten_ne_nil (fun hl h => h.ne_nil_of_delivered ?_) hdelivered
    exact (Ata.inside_of_plan hplan _ hl).1
  | scsi _ heach => exact heach.flatten_ne_nil (fun _ h => h.ne_nil_of_delivered) hdelivered

theorem Gathers.ata_nonempty (h : Gathers d options t datasets) (hfilled : Filled t)
    (hkind : d.kind = .ata) : ∀ e ∈ datasets, e.payload.size ≠ 0 := by
  cases h with
  | scsi hscsi _ =>
    rw [hkind] at hscsi
    cases hscsi
  | ata _ hplan heach => exact Ata.nonempty_of_each heach (Ata.inside_of_plan hplan) hfilled

theorem Gathers.scsi_mem_iff (h : Gathers d options t datasets) (hfilled : Filled t)
    (hkind : d.kind = .scsi) {k : Kind} {b : Bool} :
    (∃ e ∈ datasets, e.kind = k ∧ (e.payload.size == 0) = b) ↔
      Scsi.offers d.farm k = true ∧ Scsi.empty? t (Scsi.subpages k) = some b := by
  cases h with
  | ata hata _ _ =>
    rw [hkind] at hata
    cases hata
  | scsi _ heach => exact Scsi.mem_shapes_of_each heach hfilled

/-- What has to arrive for the datasets of a drive. -/
structure Arrived (d : Drive) (t : DriveTrace) (datasets : List Dataset) : Prop where
  ata_nonempty : d.kind = .ata → ∀ e ∈ datasets, e.payload.size ≠ 0
  scsi_recorded_iff : d.kind = .scsi → ∀ k, (∃ e ∈ datasets, e.kind = k) ↔
    Scsi.offers d.farm k = true ∧ ∃ c ∈ counts t, c.1 ∈ Scsi.subpages k
  scsi_empty_iff : d.kind = .scsi → ∀ e ∈ datasets, (e.payload.size = 0 ↔
    ∀ c ∈ counts t, c.1 ∈ Scsi.subpages e.kind → c.2 = 0)
  /-- A drive that has counted bytes for every subpage it answered leaves no dataset empty. -/
  nonempty : (∀ c ∈ counts t, c.2 ≠ 0) → ∀ e ∈ datasets, e.payload.size ≠ 0
  delivered_iff : datasets ≠ [] ↔ ∃ e ∈ t, Delivered e

theorem Gathers.scsi_recorded_iff (h : Gathers d options t datasets) (hfilled : Filled t)
    (hkind : d.kind = .scsi) (k : Kind) : (∃ e ∈ datasets, e.kind = k) ↔
      Scsi.offers d.farm k = true ∧ ∃ c ∈ counts t, c.1 ∈ Scsi.subpages k := by
  constructor
  · intro ⟨e, he, hk⟩
    obtain ⟨hoffers, hempty⟩ := (h.scsi_mem_iff hfilled hkind).mp ⟨e, he, hk, rfl⟩
    exact ⟨hoffers, (Scsi.empty?_eq_some_iff.mp hempty).1⟩
  · intro ⟨hoffers, hcounted⟩
    have hempty : Scsi.empty? t (Scsi.subpages k) =
        some (decide (∀ c ∈ counts t, c.1 ∈ Scsi.subpages k → c.2 = 0)) :=
      Scsi.empty?_eq_some_iff.mpr ⟨hcounted, decide_eq_true_iff⟩
    obtain ⟨e, he, hk, _⟩ := (h.scsi_mem_iff hfilled hkind).mpr ⟨hoffers, hempty⟩
    exact ⟨e, he, hk⟩

theorem Gathers.scsi_empty_iff (h : Gathers d options t datasets) (hfilled : Filled t)
    (hkind : d.kind = .scsi) {e : Dataset} (he : e ∈ datasets) : e.payload.size = 0 ↔
      ∀ c ∈ counts t, c.1 ∈ Scsi.subpages e.kind → c.2 = 0 := by
  have hempty := ((h.scsi_mem_iff hfilled hkind).mp ⟨e, he, rfl, rfl⟩).2
  rw [← (Scsi.empty?_eq_some_iff.mp hempty).2, beq_iff_eq]

theorem Gathers.arrived (h : Gathers d options t datasets) (hfilled : Filled t) :
    Arrived d t datasets where
  ata_nonempty := h.ata_nonempty hfilled
  scsi_recorded_iff hkind := h.scsi_recorded_iff hfilled hkind
  scsi_empty_iff hkind _ he := h.scsi_empty_iff hfilled hkind he
  nonempty hcounted e he := by
    have hgathers := h
    cases hgathers with
    | ata hkind _ _ => exact h.ata_nonempty hfilled hkind e he
    | scsi hkind _ =>
      obtain ⟨_, c, hc, hmem⟩ := (h.scsi_recorded_iff hfilled hkind e.kind).mp ⟨e, he, rfl⟩
      intro hempty
      exact hcounted c hc ((h.scsi_empty_iff hfilled hkind he).mp hempty c hc hmem)
  delivered_iff := ⟨h.exists_delivered, h.ne_nil_of_delivered⟩

end Pull

namespace Combined

open Program Pull
open DriveHealth.Scsi (DriveTrace)

/-- The sink is opened exactly if the drive has delivered a log, be it an empty one. -/
structure Recorded (d : Drive) (t : CombinedTrace) (datasets : List Dataset)
    (r : Except Error Summary) : Prop where
  arrived : Arrived d (driven t) datasets
  opened_iff : opened t ≠ [] ↔ ∃ e ∈ driven t, Delivered e
  nothing_delivered : (∀ e ∈ driven t, ¬Delivered e) → r = .error nothingRead

/-- Whatever the drive replies, a dataset is recorded for what it has answered, and is empty where
it has answered with no bytes. -/
theorem pull_recorded {d : Drive} {options : PullOptions} {t : CombinedTrace}
    {datasets : List Dataset} {r : Except Error Summary} (h : Ends (pull d options) t r)
    (hpull : Ends (Farm.pull d options) (driven t) (.ok datasets)) (hfilled : Filled (driven t)) :
    Recorded d t datasets r := by
  obtain ⟨pulled, hpulled⟩ := pulled_of_ends h
  obtain ⟨_, rfl, _⟩ := hpulled.ends.unique hpull (v := []) (w := []) rfl
  have harrived := (gathers_of_ok hpull).arrived hfilled
  refine ⟨harrived, ?_, ?_⟩
  · rw [← harrived.delivered_iff]
    rcases hpulled.opened_cases with ⟨⟨first, rest, hread⟩, hopened⟩ | ⟨hnone, hopened⟩
    · cases hread
      rw [hopened]
      exact ⟨fun _ => List.cons_ne_nil _ _, fun _ => List.cons_ne_nil _ _⟩
    · rw [hopened]
      cases datasets with
      | nil => exact ⟨fun hne => absurd rfl hne, fun hne => absurd rfl hne⟩
      | cons first rest => exact absurd rfl (hnone first rest)
  · intro hundelivered
    cases datasets with
    | nil => exact hpulled.eq_of_nil
    | cons first rest =>
      obtain ⟨e, he, hdelivered⟩ := harrived.delivered_iff.mp (List.cons_ne_nil first rest)
      exact absurd hdelivered (hundelivered e he)

/-- Once there is a dataset, the file is asked for and written, whatever becomes of it. -/
theorem exists_ends_of_datasets {d : Drive} {options : PullOptions} {t : DriveTrace}
    {first : Dataset} {rest : List Dataset}
    (h : Ends (Farm.pull d options) t (.ok (first :: rest))) :
    ∃ u r, Ends (pull d options) u r ∧ driven u = t ∧ opened u = [d.identity] := by
  have hemission := ends_conversation answerCaptured
    (ofEmission (Emission.emit d.kind d.identity (inEmissionOrder (first :: rest))))
    (partOfGroup, {})
  have hopening : Ends (openSink d.identity) [⟨.openSink d.identity, .ok ()⟩] (.ok ()) :=
    ends_perform_iff.mpr rfl
  have hemitted : Ends (emitTo d (first :: rest)) _ _ :=
    ends_bind_iff.mpr ⟨_, _, _, rfl, hopening, hemission⟩
  have hpulled := ends_ofSession_iff.mpr ⟨t, h, rfl⟩
  have hfollows := follows_of_emitTo hemitted
  refine ⟨_, _, ends_bind_iff.mpr ⟨_, _, _, rfl, hpulled, hemitted⟩, ?_, ?_⟩
  · rw [driven_append, driven_map_driveEvent, hfollows.driven_eq_nil, List.append_nil]
  · rw [opened_append, opened_map_driveEvent, List.nil_append]
    rcases hfollows.opened_cases with ⟨_, hopened⟩ | ⟨hnone, _⟩
    · exact hopened
    · exact absurd rfl (hnone first rest)

/-- A drive that has a log to read. -/
def hollow : Drive :=
  { (default : Drive) with kind := .scsi, farm := { farm := true }, dmaAlignment := 512 }

/-- It tells the size of the log and answers for it, but no bytes come. -/
def hollowTrace : DriveTrace :=
  [Scsi.sizeEvent 0x03 (.ok 20), clockEvent 0,
    Scsi.senseEvent 512 0x03 20 (.ok (.zeros (bufferSize 20 512), 0)), clockEvent 0]

theorem filled_hollowTrace : Filled hollowTrace := by
  unfold hollowTrace Scsi.senseEvent
  generalize Bytes.zeros (bufferSize 20 512) = buffer
  constructor
  · intro log page feature hint buffer data hmem
    simp only [List.mem_cons, List.not_mem_nil, or_false] at hmem
    rcases hmem with h | h | h | h <;> cases h
  · intro page subpage buffer data n hmem
    simp only [List.mem_cons, List.not_mem_nil, or_false] at hmem
    rcases hmem with h | h | h | h <;> cases h
    exact ⟨rfl, Nat.zero_le _⟩

theorem ends_hollow : ∃ e, Ends (Farm.pull hollow {}) hollowTrace (.ok [e]) := by
  have hplan : Farm.pull hollow {} = Scsi.pullAll 512 [⟨.current, [0x03]⟩] := rfl
  rw [hplan, Scsi.pullAll, Scsi.pullSubpages]
  refine ⟨?dataset, ?ends⟩
  rotate_left
  refine Ends.ask _ _ _ _ _ (Ends.ask _ _ _ _ _ ?_)
  refine Ends.ask _ _ _ _ _ (Ends.ask _ _ _ _ _ ?_)
  exact Ends.done _

theorem counts_hollowTrace : ∀ c ∈ counts hollowTrace, c.2 = 0 :=
  List.forall_mem_singleton.mpr rfl

theorem pull_recorded_hollow : ∃ t datasets r, Ends (pull hollow {}) t r ∧
    Ends (Farm.pull hollow {}) (driven t) (.ok datasets) ∧ Filled (driven t) ∧
      opened t ≠ [] ∧ ∃ e ∈ datasets, e.payload.size = 0 := by
  obtain ⟨e, hpull⟩ := ends_hollow
  obtain ⟨t, r, h, hdriven, hopened⟩ := exists_ends_of_datasets hpull
  rw [← hdriven] at hpull
  have hfilled : Filled (driven t) := hdriven ▸ filled_hollowTrace
  have hrecorded := pull_recorded h hpull hfilled
  have hempty := hrecorded.arrived.scsi_empty_iff rfl e List.mem_cons_self
  refine ⟨t, [e], r, h, hpull, hfilled, hopened ▸ List.cons_ne_nil _ _, e, List.mem_cons_self, ?_⟩
  refine hempty.mpr fun c hc _ => ?_
  rw [hdriven] at hc
  exact counts_hollowTrace c hc

/-- A transfer that brings no bytes still makes a dataset. -/
theorem not_pull_nonempty : ¬ ∀ (d : Drive) (options : PullOptions) (t : DriveTrace)
    (datasets : List Dataset), Ends (Farm.pull d options) t (.ok datasets) → Filled t →
      ∀ e ∈ datasets, e.payload.size ≠ 0 := by
  intro h
  obtain ⟨e, hpull⟩ := ends_hollow
  have hempty := (gathers_of_ok hpull).scsi_empty_iff filled_hollowTrace rfl List.mem_cons_self
  exact h hollow {} hollowTrace [e] hpull filled_hollowTrace e List.mem_cons_self
    (hempty.mpr fun c hc _ => counts_hollowTrace c hc)

end Combined
end DriveHealth.Farm
