import DriveHealth.Proofs.Farm.Transfers
import Mathlib.Data.List.Basic

/-!
What a pull finds on a captured SCSI drive. The pages of the subpages of a kind are laid one behind
the other as they were captured, without the bytes that round a transfer. A subpage that is missing
or empty leaves the bytes of the others where they are.
-/
namespace DriveHealth.Farm.Pull.Scsi

open Capture Program

/-- The captured page of a subpage, unless it is empty. -/
def captured? (d : Device) (s : UInt8) : Option Bytes :=
  (d.find? (.scsiLog 0x3D s)).filter fun page => page.size ≠ 0

/-- The pages of a run of subpages, as far as they are captured. -/
def pages (d : Device) (l : List UInt8) : List Bytes := l.filterMap (captured? d)

/-- A page whose length is a word of 32 bits, and for which there is room. -/
structure Fits (d : Device) (s : UInt8) : Prop where
  word : ∀ page, d.find? (.scsiLog 0x3D s) = some page → page.size < 2 ^ 32
  room : ∀ page, d.find? (.scsiLog 0x3D s) = some page →
    bufferSize page.size d.drive.dmaAlignment < addressSpace

theorem fits_of_pages {d : Device} (h : ∀ p ∈ d.pages, p.2.size < 2 ^ 32 ∧
    bufferSize p.2.size d.drive.dmaAlignment < addressSpace) (s : UInt8) : Fits d s := by
  have hmem : ∀ page, d.find? (.scsiLog 0x3D s) = some page →
      ((.scsiLog 0x3D s, page) : Key × Bytes) ∈ d.pages := by
    intro page hpage
    obtain ⟨before, after, hsplit, _⟩ := List.lookup_eq_some_iff.mp hpage
    rw [hsplit]
    exact List.mem_append_right before List.mem_cons_self
  exact ⟨fun page hpage => (h _ (hmem page hpage)).1, fun page hpage => (h _ (hmem page hpage)).2⟩

/-- What is asked for a subpage: its length, and then its page unless there is none. -/
def asks (d : Device) (s : UInt8) : List Asked :=
  .size (.scsiLog 0x3D s) :: (captured? d s).toList.map fun _ => .page (.scsiLog 0x3D s)

/-- What arrives of a subpage, whose length is told in a word of 32 bits. -/
def delivered? (d : Device) (s : UInt8) : Option Bytes :=
  (d.find? (.scsiLog 0x3D s)).bind fun page =>
    if page.size % 2 ^ 32 = 0 then none else some (page.take (page.size % 2 ^ 32))

/-- There is room for what arrives of a subpage. -/
def HasRoom (d : Device) (s : UInt8) : Prop :=
  ∀ page, d.find? (.scsiLog 0x3D s) = some page →
    bufferSize (page.size % 2 ^ 32) d.drive.dmaAlignment < addressSpace

theorem HasRoom.rememberAll {d : Device} {s : UInt8} (h : HasRoom d s) (l : List Asked) :
    HasRoom (d.rememberAll l) s :=
  h

theorem Fits.hasRoom {d : Device} {s : UInt8} (h : Fits d s) : HasRoom d s := by
  intro page hpage
  rw [Nat.mod_eq_of_lt (h.word page hpage)]
  exact h.room page hpage

/-- A page whose length is a word arrives as it was captured. -/
theorem Fits.delivered?_eq {d : Device} {s : UInt8} (h : Fits d s) :
    delivered? d s = captured? d s := by
  unfold delivered? captured?
  cases hpage : d.find? (.scsiLog 0x3D s) with
  | none => rfl
  | some page =>
    have hwhole : page.take page.size = page := ByteArray.extract_zero_size
    rw [Option.bind_some, Nat.mod_eq_of_lt (h.word page hpage), hwhole]
    by_cases hempty : page.size = 0 <;> simp [Option.filter, hempty]

/-- What is asked for a subpage of which something arrives, or nothing. -/
def asksFor (s : UInt8) (page? : Option Bytes) : List Asked :=
  .size (.scsiLog 0x3D s) :: page?.toList.map fun _ => .page (.scsiLog 0x3D s)

def reading (page : Bytes) : Reading := ⟨page, 0, 0⟩

/-- The dataset of a group on a captured drive, none if there are no pages. -/
def gathered (d : Device) (g : Group) : List Dataset :=
  joined g.kind ((pages d g.subpages).map reading)

/-- The dataset of what arrives of a group. -/
def arrived (d : Device) (g : Group) : List Dataset :=
  joined g.kind ((g.subpages.filterMap (delivered? d)).map reading)

section Run

variable (d : Device) {s : UInt8} {page buffer : Bytes} {n : Nat}

/-- Behind the bytes that arrived the buffer is cut off. -/
theorem take_deliver (hpage : n ≤ page.size) (hbuffer : n ≤ buffer.size) :
    (Device.deliver page buffer).1.take (min (Device.deliver page buffer).2 n) = page.take n := by
  have hcount : min (min page.size buffer.size) n = n := by omega
  have hinside : n ≤ (page.extract 0 (min page.size buffer.size)).size := by
    rw [ByteArray.size_extract]
    omega
  have hcut : (page.extract 0 (min page.size buffer.size)).extract 0 n = page.extract 0 n := by
    rw [ByteArray.extract_extract]
    congr 1
    omega
  unfold Device.deliver Bytes.take
  dsimp only
  rw [hcount, Bytes.extract_append_left _ hinside, hcut]

theorem run_readSubpage (hpage : d.find? (.scsiLog 0x3D s) = some page) (hn : n ≤ page.size) :
    d.run (readSubpage s n (.zeros (bufferSize n d.drive.dmaAlignment))) =
      (some (reading (page.take n)), d.remember (.page (.scsiLog 0x3D s))) := by
  have hfits : n ≤ (Bytes.zeros (bufferSize n d.drive.dmaAlignment)).size := by
    rw [Bytes.size_zeros]
    exact le_bufferSize d n
  have hsense : d.logSense logPage s (.zeros (bufferSize n d.drive.dmaAlignment)) =
      (.ok (Device.deliver page (.zeros (bufferSize n d.drive.dmaAlignment))),
        d.remember (.page (.scsiLog 0x3D s))) := by
    unfold Device.logSense Device.fetch logPage
    rw [Bytes.size_zeros, misaligned_bufferSize, hpage]
    rfl
  have hask : d.run ((Session.logSense logPage s
      (.zeros (bufferSize n d.drive.dmaAlignment))).bind fun r =>
        .done (r.map fun reply => reply.1.take (min reply.2 n))) =
      (.ok (page.take n), d.remember (.page (.scsiLog 0x3D s))) := by
    have hanswer : d.run (Session.logSense logPage s
        (.zeros (bufferSize n d.drive.dmaAlignment))) =
        d.logSense logPage s (.zeros (bufferSize n d.drive.dmaAlignment)) := rfl
    rw [Device.run_bind, hanswer, hsense]
    dsimp only [Except.map]
    rw [take_deliver hn hfits]
    rfl
  unfold readSubpage
  rw [run_timed, hask]
  rfl

theorem run_logSenseSize (s : UInt8) : d.run (Session.logSenseSize logPage s) =
    (match d.find? (.scsiLog 0x3D s) with
      | some page => .ok (page.size % 2 ^ 32)
      | none => .error .unsupported,
      d.remember (.size (.scsiLog 0x3D s))) :=
  rfl

theorem run_pullSubpage (hroom : HasRoom d s) : d.run (pullSubpage d.drive.dmaAlignment s) =
    (.ok ((delivered? d s).map reading), d.rememberAll (asksFor s (delivered? d s))) := by
  unfold pullSubpage delivered?
  rw [Device.run_bind, run_logSenseSize]
  cases hpage : d.find? (.scsiLog 0x3D s) with
  | none => rfl
  | some page =>
    rw [Option.bind_some]
    dsimp only
    by_cases hempty : page.size % 2 ^ 32 = 0
    · rw [if_pos hempty, hempty]
      rfl
    · rw [if_neg hempty]
      split
      · rename_i herror
        cases herror
      · rename_i hzero
        exact absurd (Except.ok.inj hzero) hempty
      · rename_i size _ hsize
        obtain rfl := Except.ok.inj hsize
        have hread : (d.remember (.size (.scsiLog 0x3D s))).run (readSubpage s
            (page.size % 2 ^ 32) (.zeros (bufferSize (page.size % 2 ^ 32) d.drive.dmaAlignment))) =
            (some (reading (page.take (page.size % 2 ^ 32))),
              d.rememberAll [.size (.scsiLog 0x3D s), .page (.scsiLog 0x3D s)]) :=
          run_readSubpage (d.remember (.size (.scsiLog 0x3D s))) hpage (Nat.mod_le _ _)
        rw [buffer_of_lt (hroom page hpage)]
        dsimp only
        rw [Device.run_bind, hread]
        rfl

theorem run_pullSubpages (kind : Kind) (start : Option Dataset) {l : List UInt8}
    (hroom : ∀ s ∈ l, HasRoom d s) :
    d.run (pullSubpages d.drive.dmaAlignment kind start l) =
      (.ok (((l.filterMap (delivered? d)).map reading).foldl (fun d r => some (extend kind d r))
        start), d.rememberAll (l.flatMap fun s => asksFor s (delivered? d s))) := by
  induction l generalizing d start with
  | nil => rfl
  | cons s rest ih =>
    obtain ⟨hfirst, hrest⟩ := List.forall_mem_cons.mp hroom
    -- What has been gathered so far differs by the page of the first subpage, so it stays general.
    have hothers : ∀ start, (d.rememberAll (asksFor s (delivered? d s))).run
        (pullSubpages d.drive.dmaAlignment kind start rest) =
        (.ok (((rest.filterMap (delivered? d)).map reading).foldl
            (fun d r => some (extend kind d r)) start),
          d.rememberAll ((s :: rest).flatMap fun s => asksFor s (delivered? d s))) := by
      intro start
      have hrun := ih (d.rememberAll (asksFor s (delivered? d s))) start
        fun t ht => (hrest t ht).rememberAll _
      rw [Device.rememberAll_append] at hrun
      exact hrun
    unfold pullSubpages
    rw [Device.run_bind, run_pullSubpage d hfirst, List.filterMap_cons]
    cases hpage : delivered? d s with
    | none =>
      rw [hpage] at hothers
      exact hothers start
    | some page =>
      rw [hpage] at hothers
      exact hothers (some (extend kind start (reading page)))

theorem run_pullAll_arrived {groups : List Group}
    (hroom : ∀ g ∈ groups, ∀ s ∈ g.subpages, HasRoom d s) :
    d.run (pullAll d.drive.dmaAlignment groups) =
      (.ok (groups.flatMap (arrived d)), d.rememberAll (groups.flatMap fun g =>
        g.subpages.flatMap fun s => asksFor s (delivered? d s))) := by
  induction groups generalizing d with
  | nil => rfl
  | cons g rest ih =>
    obtain ⟨hfirst, hrest⟩ := List.forall_mem_cons.mp hroom
    have hothers := ih (d.rememberAll (g.subpages.flatMap fun s => asksFor s (delivered? d s)))
      fun h hh s hs => (hrest h hh s hs).rememberAll _
    rw [Device.drive_rememberAll, Device.rememberAll_append] at hothers
    unfold pullAll
    rw [Device.run_bind, run_pullSubpages d g.kind none hfirst]
    dsimp only
    rw [Device.run_bind, hothers, toList_foldl_extend]
    rfl

theorem run_pullAll {groups : List Group} (hfits : ∀ g ∈ groups, ∀ s ∈ g.subpages, Fits d s) :
    d.run (pullAll d.drive.dmaAlignment groups) =
      (.ok (groups.flatMap (gathered d)),
        d.rememberAll (groups.flatMap fun g => g.subpages.flatMap (asks d))) := by
  have hpages : groups.flatMap (arrived d) = groups.flatMap (gathered d) := by
    refine List.flatMap_congr fun g hg => ?_
    unfold arrived gathered pages
    rw [List.filterMap_congr fun s hs => (hfits g hg s hs).delivered?_eq]
  have hasked : (groups.flatMap fun g =>
      g.subpages.flatMap fun s => asksFor s (delivered? d s)) =
      groups.flatMap fun g => g.subpages.flatMap (asks d) := by
    refine List.flatMap_congr fun g hg => List.flatMap_congr fun s hs => ?_
    rw [(hfits g hg s hs).delivered?_eq]
    rfl
  rw [run_pullAll_arrived d fun g hg s hs => (hfits g hg s hs).hasRoom, hpages, hasked]

end Run

/-- The subpages that belong to a kind. -/
def subpages : Kind → List UInt8
  | .current => [0x03]
  | .factory => [0x04]
  | .timeSeries =>
    [0x10, 0x11, 0x12, 0x13, 0x14, 0x15, 0x16, 0x17, 0x18, 0x19, 0x1A, 0x1B, 0x1C, 0x1D, 0x1E, 0x1F]
  | .longSave => [0xC0, 0xC1]
  | .sticky => [0xC2, 0xC3, 0xC4, 0xC5, 0xC6, 0xC7]
  | .save | .workloadTrace => []

/-- Whether the capabilities offer a kind. -/
def offers (c : FarmCapabilities) : Kind → Bool
  | .current => c.farm
  | .factory => c.factory
  | .timeSeries => c.timeSeries
  | .longSave => c.longSaved
  | .sticky => c.sticky
  | .save | .workloadTrace => false

def readOrder : List Kind := [.current, .factory, .timeSeries, .longSave, .sticky]

theorem mem_readOrder_of_offers {c : FarmCapabilities} {k : Kind} (h : offers c k = true) :
    k ∈ readOrder := by
  cases k with
  | save => cases h
  | workloadTrace => cases h
  | _ => decide

theorem plan_eq (c : FarmCapabilities) :
    plan c = (readOrder.filter (offers c)).map fun k => ⟨k, subpages k⟩ := by
  obtain ⟨farm, factory, timeSeries, longSaved, sticky⟩ := c
  cases farm <;> cases factory <;> cases timeSeries <;> cases longSaved <;> cases sticky <;> rfl

/-- The pages of a kind in one, if there are any. -/
def stored? (d : Device) (k : Kind) : Option Bytes :=
  if pages d (subpages k) = [] then none else some (Bytes.join (pages d (subpages k)))

/-- What a pull gives for a kind. -/
def payload? (d : Device) (k : Kind) : Option Bytes :=
  if offers d.drive.farm k then stored? d k else none

/-- The datasets of a captured drive. -/
structure Concatenated (d : Device) (l : List Dataset) : Prop where
  exactly : Exactly readOrder (payload? d) l
  ascending : ∀ k, (subpages k).Pairwise (· < ·)
  /-- A subpage adds its own page in its own place, or nothing. -/
  own_bytes : ∀ e ∈ l, ∀ before s after, subpages e.kind = before ++ s :: after →
    e.payload = Bytes.join (pages d before) ++ (captured? d s).getD .empty ++
      Bytes.join (pages d after)

section Contents

variable (d : Device)

theorem contents_gathered (k : Kind) :
    (gathered d ⟨k, subpages k⟩).map (fun e => (e.kind, e.payload)) =
      ((stored? d k).map fun b => (k, b)).toList := by
  unfold gathered stored?
  cases hpages : pages d (subpages k) with
  | nil => rfl
  | cons page rest =>
    have hdata : ((page :: rest).map reading).map Reading.data = page :: rest := by
      rw [List.map_map]
      exact List.map_id _
    show [(k, Bytes.join (((page :: rest).map reading).map Reading.data))] = _
    rw [if_neg (List.cons_ne_nil page rest), hdata]
    rfl

theorem exactly_gathered :
    Exactly readOrder (payload? d) ((plan d.drive.farm).flatMap (gathered d)) := by
  refine exactly_of_contents (by decide) (fun k => mem_readOrder_of_offers) ?_
  rw [plan_eq, List.flatMap_map, List.map_flatMap, List.filterMap_eq_flatMap_toList]
  exact List.flatMap_congr fun k _ => contents_gathered d k

variable {d}

theorem payload_eq {k : Kind} {b : Bytes} (h : payload? d k = some b) :
    b = Bytes.join (pages d (subpages k)) := by
  unfold payload? stored? at h
  split at h
  · split at h
    · cases h
    · exact (Option.some.inj h).symm
  · cases h

theorem pages_append_cons (before : List UInt8) (s : UInt8) (after : List UInt8) :
    pages d (before ++ s :: after) = pages d before ++ (captured? d s).toList ++ pages d after := by
  unfold pages
  rw [List.filterMap_append, List.filterMap_cons]
  cases captured? d s <;> simp

theorem join_pages_append_cons (before : List UInt8) (s : UInt8) (after : List UInt8) :
    Bytes.join (pages d (before ++ s :: after)) =
      Bytes.join (pages d before) ++ (captured? d s).getD .empty ++
        Bytes.join (pages d after) := by
  have hpage : Bytes.join (captured? d s).toList = (captured? d s).getD .empty := by
    cases captured? d s with
    | none => rfl
    | some page => exact ByteArray.append_empty
  rw [pages_append_cons, Bytes.join_append, Bytes.join_append, hpage]

end Contents

/-- A pull of a captured SCSI drive lays the pages of each kind together. -/
theorem pull_subpages (d : Device) (options : PullOptions) (hkind : d.drive.kind = .scsi)
    (hany : d.drive.farm.any = true)
    (hfits : ∀ k, offers d.drive.farm k = true → ∀ s ∈ subpages k, Fits d s) :
    ∃ l, d.run (Farm.pull d.drive options) =
        (.ok l, d.rememberAll ((readOrder.filter (offers d.drive.farm)).flatMap fun k =>
          (subpages k).flatMap (asks d))) ∧
      Concatenated d l := by
  have hgroups : ∀ g ∈ plan d.drive.farm, ∀ s ∈ g.subpages, Fits d s := by
    rw [plan_eq]
    intro g hg
    obtain ⟨k, hk, rfl⟩ := List.mem_map.mp hg
    exact hfits k (List.mem_filter.mp hk).2
  have hrun : d.run (Farm.pull d.drive options) =
      (.ok ((plan d.drive.farm).flatMap (gathered d)),
        d.rememberAll ((readOrder.filter (offers d.drive.farm)).flatMap fun k =>
          (subpages k).flatMap (asks d))) := by
    have hasked : ((plan d.drive.farm).flatMap fun g => g.subpages.flatMap (asks d)) =
        (readOrder.filter (offers d.drive.farm)).flatMap fun k =>
          (subpages k).flatMap (asks d) := by
      rw [plan_eq, List.flatMap_map]
    unfold Farm.pull
    rw [hkind]
    dsimp only
    unfold pull
    rw [if_pos hany, run_pullAll d hgroups, hasked]
  have hexactly := exactly_gathered d
  refine ⟨_, hrun, hexactly, ?_, ?_⟩
  · intro k
    cases k <;> decide
  · intro e he before s after hsplit
    have hpayload := payload_eq ((hexactly.payload e.kind e.payload).mp ⟨e, he, rfl, rfl⟩)
    rw [hsplit] at hpayload
    exact hpayload.trans (join_pages_append_cons before s after)

/-- A time series with a subpage that is missing and one that is empty. -/
def gappedSeries : Device where
  manifest :=
    { identity := {}, kind := .scsi, farm := { timeSeries := true }
      restrictions := { alignment := 4096 } }
  pages := [(.scsiLog 0x3D 0x10, .fill 100 1), (.scsiLog 0x3D 0x12, .empty),
    (.scsiLog 0x3D 0x13, .fill 50 3)]

theorem pull_subpages_gappedSeries :
    ∃ l, (gappedSeries.run (Farm.pull gappedSeries.drive {})).1 = .ok l ∧
      ∃ e ∈ l, e.kind = .timeSeries ∧ e.payload = Bytes.join [.fill 100 1, .fill 50 3] := by
  have hpages : ∀ p ∈ gappedSeries.pages, p.2.size < 2 ^ 32 ∧
      bufferSize p.2.size gappedSeries.drive.dmaAlignment < addressSpace := by
    simp only [gappedSeries, List.forall_mem_cons, Bytes.size_fill, ByteArray.size_empty]
    decide
  have hpayload : payload? gappedSeries .timeSeries =
      some (Bytes.join [.fill 100 1, .fill 50 3]) := rfl
  obtain ⟨l, hrun, hconcatenated⟩ :=
    pull_subpages gappedSeries {} rfl rfl fun _ _ s _ => fits_of_pages hpages s
  exact ⟨l, congrArg Prod.fst hrun, (hconcatenated.exactly.payload _ _).mpr hpayload⟩

end DriveHealth.Farm.Pull.Scsi
