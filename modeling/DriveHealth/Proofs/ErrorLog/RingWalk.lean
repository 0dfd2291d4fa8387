import DriveHealth.ErrorLog.Read
import DriveHealth.Proofs.Bytes
import DriveHealth.Proofs.ErrorLog.Pages
import DriveHealth.Proofs.ErrorLog.Ring

/-!
The walk over the ring of an error log that is read page by page as the walk goes, against a walk
over the log as a whole. On a drive that does not change both give the same entries, meet the
same unreadable page, and judge the same pages by their checksums.
-/
namespace DriveHealth.ErrorLog

open Program

/-- The entries in the order in which they are met, counted from one. -/
def numbered (l : List Entry) : List NumberedEntry :=
  l.zipIdx.map fun x => ⟨.ofNat (x.2 + 1), x.1⟩

section Spec

variable (source : Source) (page : Nat → Except TransportError Bytes)

/-- The number of slots that are walked over. -/
def slotCount (h : Header) (capacity : Nat) : Nat :=
  if h.index = 0 ∨ capacity = 0 then 0 else min capacity h.errorCount.toNat

/-- The slots that are walked over, from the latest one backwards. -/
def slots (h : Header) (capacity : Nat) : List Nat :=
  (List.range (slotCount h capacity)).map fun k : Nat =>
    (((h.index.toNat : Int) - 1 - (k : Int)) % capacity).toNat

def pageOfSlot (slot : Nat) : Except TransportError Bytes := page (slot / source.entriesPerPage)

def isReadable (slot : Nat) : Bool := (pageOfSlot source page slot).isOk

/-- The slots that come before the first unreadable page. -/
def readSlots (h : Header) (capacity : Nat) : List Nat :=
  (slots h capacity).takeWhile (isReadable source page)

def slotBytes (slot : Nat) : Bytes :=
  match pageOfSlot source page slot with
  | .ok p => p.slice (Entry.start source.isExtended (slot % source.entriesPerPage))
      (Entry.length source.isExtended)
  | .error _ => .empty

/-- The entries of slots, without the slots that are all zero. -/
def usedEntries (l : List Nat) : List Entry :=
  ((l.map (slotBytes source page)).filter fun b => !b.isZero).map
    (Entry.ofBytes source.isExtended)

/-- A log that is what a walk over all of its pages gives. -/
structure WalkedPlainly (pages : UInt16) (first : Bytes) (log : ErrorLog) : Prop where
  source_eq : log.source = source
  header_eq : log.header = Header.ofPage source.isExtended first
  entries_eq : log.entries =
    numbered (usedEntries source page (readSlots source page log.header (source.capacity pages)))
  numbers_eq : log.entries.map (fun e => e.number.toNat) = List.range' 1 log.entries.length
  slots_nodup : (slots log.header (source.capacity pages)).Nodup
  truncated_iff : log.truncated = true ↔
    ∃ slot ∈ slots log.header (source.capacity pages), isReadable source page slot = false
  /-- The first page counts as well. -/
  checksum_iff : log.checksumValid = true ↔ first.byteSum % 256 = 0 ∧
    ∀ slot ∈ readSlots source page log.header (source.capacity pages),
      ∀ p, pageOfSlot source page slot = .ok p → p.byteSum % 256 = 0

end Spec

/-- Numbers go on where those of the entries so far end. -/
theorem foldl_collect (l : List (Option Entry)) (found : List NumberedEntry) :
    (l.foldl Walk.collect found).reverse = found.reverse ++
      ((l.filterMap id).zipIdx found.length).map fun x => ⟨.ofNat (x.2 + 1), x.1⟩ := by
  induction l generalizing found with
  | nil => simp
  | cons o r ih =>
    rw [List.foldl_cons, ih]
    cases o with
    | none => rfl
    | some e =>
      simp [Walk.collect]

theorem foldl_collect_nil (l : List (Option Entry)) :
    (l.foldl Walk.collect []).reverse = numbered (l.filterMap id) := by
  rw [foldl_collect, numbered]
  rfl

section Walk

variable {source : Source} {page : Nat → Except TransportError Bytes}

theorem start_add_length_le (extended : Bool) {slot : Nat} (h : slot < 5)
    (hext : extended = true → slot < 4) :
    Entry.start extended slot + Entry.length extended ≤ 512 := by
  cases extended with
  | false =>
    simp only [Entry.start, Entry.firstStart, Entry.length, Bool.false_eq_true, if_false]
    omega
  | true =>
    have hlt := hext rfl
    simp only [Entry.start, Entry.firstStart, Entry.length, if_true]
    omega

/-- Every slot of a full page lies on the page. -/
theorem entryOf?_eq {p : Bytes} (hsize : p.size = 512) (slot : Nat) :
    Walk.entryOf? source p slot = Entry.ofBytes? source.isExtended
      (p.slice (Entry.start source.isExtended (slot % source.entriesPerPage))
        (Entry.length source.isExtended)) := by
  have hfit : Entry.start source.isExtended (slot % source.entriesPerPage) +
      Entry.length source.isExtended ≤ p.size := by
    rw [hsize]
    cases source with
    | extended =>
      have hlt : slot % 4 < 4 := Nat.mod_lt slot (by decide)
      exact start_add_length_le true (hlt.trans (by decide)) fun _ => hlt
    | comprehensive =>
      exact start_add_length_le false (Nat.mod_lt slot (by decide)) (fun h => by cases h)
    | summary =>
      exact start_add_length_le false (Nat.mod_lt slot (by decide)) (fun h => by cases h)
  unfold Walk.entryOf? Entry.inPage?
  rw [if_pos hfit]

/-- The entry in a slot, if its page can be read and the slot is used. -/
def entryAt (source : Source) (page : Nat → Except TransportError Bytes) (slot : Nat) :
    Option Entry :=
  Entry.ofBytes? source.isExtended (slotBytes source page slot)

theorem filterMap_entryAt (l : List Nat) :
    (l.map (entryAt source page)).filterMap id = usedEntries source page l := by
  induction l with
  | nil => rfl
  | cons slot r ih =>
    unfold usedEntries at ih ⊢
    rw [List.map_cons, List.map_cons]
    by_cases hzero : (slotBytes source page slot).isZero = true
    · have hentry : id (entryAt source page slot) = none := by
        rw [id, entryAt, Entry.ofBytes?, if_pos hzero]
      rw [List.filterMap_cons_none hentry, ih, List.filter_cons_of_neg (by simpa using hzero)]
    · have hentry : id (entryAt source page slot) =
          some (Entry.ofBytes source.isExtended (slotBytes source page slot)) := by
        rw [id, entryAt, Entry.ofBytes?, if_neg hzero]
      rw [List.filterMap_cons_some hentry, ih, List.filter_cons_of_pos (by simpa using hzero),
        List.map_cons]

/-- What a visit of slots leaves, when the drive does not change. -/
structure Visited (source : Source) (page : Nat → Except TransportError Bytes)
    (l : List Nat) (found : List NumberedEntry) (read : List Nat) (w : Walk) : Prop where
  entries_eq : w.entries = (((l.takeWhile (isReadable source page)).map
    (entryAt source page)).foldl Walk.collect found).reverse
  truncated_iff : w.truncated = true ↔ ∃ slot ∈ l, isReadable source page slot = false
  reflects : w.pages.Reflects page
    (((l.takeWhile (isReadable source page)).map (· / source.entriesPerPage)).reverse ++ read)

theorem Visited.stop {l read : List Nat} {found : List NumberedEntry} {c : Pages} {slot : Nat}
    (hslot : isReadable source page slot = false) (hc : c.Reflects page read) :
    Visited source page (slot :: l) found read ⟨found.reverse, true, c⟩ := by
  have hnone : (slot :: l).takeWhile (isReadable source page) = [] :=
    List.takeWhile_cons_of_neg (by rw [hslot]; exact Bool.false_ne_true)
  refine ⟨?_, ?_, ?_⟩
  · rw [hnone]
    rfl
  · exact iff_of_true rfl ⟨slot, List.mem_cons_self, hslot⟩
  · rw [hnone]
    exact hc

theorem Visited.cons {l read : List Nat} {found : List NumberedEntry} {w : Walk} {slot : Nat}
    (hslot : isReadable source page slot = true)
    (h : Visited source page l (Walk.collect found (entryAt source page slot))
      (slot / source.entriesPerPage :: read) w) :
    Visited source page (slot :: l) found read w := by
  have hsome : (slot :: l).takeWhile (isReadable source page) =
      slot :: l.takeWhile (isReadable source page) :=
    List.takeWhile_cons_of_pos hslot
  refine ⟨?_, ?_, ?_⟩
  · rw [h.entries_eq, hsome, List.map_cons, List.foldl_cons]
  · rw [h.truncated_iff]
    simp [hslot]
  · rw [hsome, List.map_cons, List.reverse_cons, List.append_assoc]
    exact h.reflects

/-- The page of a slot, and that a summary log has but one. -/
structure InRing (source : Source) (slot : Nat) : Prop where
  page_eq : (Walk.pageOf source slot).toNat = slot / source.entriesPerPage
  summary : source = .summary → Walk.pageOf source slot = 0

variable {σ : Type} {handler : (r : Request) → σ → r.Reply × σ} {capacity : Nat}

theorem run_visit (hserves : Serves handler page source)
    (hsize : ∀ i p, page i = .ok p → p.size = 512)
    (hring : ∀ slot < capacity, InRing source slot) {n slot : Nat} (hslot : slot < capacity)
    {found : List NumberedEntry} {c : Pages} {read : List Nat} (hc : c.Reflects page read)
    (s : σ) :
    Visited source page (Walk.slotsFrom capacity n slot) found read
      (run handler (Walk.visit source capacity n slot found c) s).1 := by
  induction n generalizing slot found c read s with
  | zero =>
    exact {
      entries_eq := rfl
      truncated_iff := by simp [Walk.visit, Walk.slotsFrom, run]
      reflects := hc
    }
  | succ n ih =>
    have hin := hring slot hslot
    rw [Walk.visit, run_bind, Walk.slotsFrom]
    cases hpage : pageOfSlot source page slot with
    | error e =>
      have hpage' : page (Walk.pageOf source slot).toNat = .error e := by rwa [hin.page_eq]
      have hslot' : isReadable source page slot = false := by
        rw [isReadable, hpage]
        rfl
      rw [Pages.run_page_error hserves hin.summary hc hpage' s]
      exact Visited.stop hslot' hc
    | ok p =>
      have hpage' : page (Walk.pageOf source slot).toNat = .ok p := by rwa [hin.page_eq]
      have hslot' : isReadable source page slot = true := by
        rw [isReadable, hpage]
        rfl
      have hentry : Walk.entryOf? source p slot = entryAt source page slot := by
        rw [entryOf?_eq (hsize _ p hpage'), entryAt, slotBytes, hpage]
      obtain ⟨c', hrun, hc'⟩ := Pages.run_page_ok hserves hin.summary hc hpage' s
      rw [hin.page_eq] at hc'
      rw [hrun]
      refine Visited.cons hslot' ?_
      rw [← hentry]
      exact ih (Walk.previous_lt hslot) hc' _

end Walk

section Slots

variable {h : Header} {capacity : Nat}

theorem firstSlot_lt (hindex : h.index.toNat ≤ capacity) (hpos : h.index.toNat ≠ 0) :
    Walk.firstSlot h capacity = h.index.toNat - 1 ∧ h.index.toNat - 1 < capacity := by
  have hlt : h.index.toNat - 1 < capacity := by omega
  have hmax : max h.index.toNat 1 = h.index.toNat := by omega
  have hmax' : max capacity 1 = capacity := by omega
  rw [Walk.firstSlot, hmax, hmax', Nat.mod_eq_of_lt hlt]
  exact ⟨rfl, hlt⟩

/-- An index of zero stands for an empty ring. -/
theorem visits_eq_zero (hzero : h.index.toNat = 0) : Walk.visits h capacity = 0 :=
  if_pos (.inl (UInt16.toNat_inj.mp hzero))

/-- The slots of the plain walk are those that the walk goes through. -/
theorem slots_eq (hindex : h.index.toNat ≤ capacity) :
    slots h capacity =
      Walk.slotsFrom capacity (Walk.visits h capacity) (Walk.firstSlot h capacity) := by
  have hcount : slotCount h capacity = Walk.visits h capacity := rfl
  unfold slots
  rw [hcount]
  by_cases hzero : h.index.toNat = 0
  · rw [visits_eq_zero hzero]
    rfl
  · obtain ⟨hfirst, hlt⟩ := firstSlot_lt hindex hzero
    rw [hfirst, Walk.slotsFrom_eq_map hlt]
    refine List.map_congr_left fun k _ => ?_
    have hcast : ((h.index.toNat - 1 : Nat) : Int) = (h.index.toNat : Int) - 1 := by omega
    rw [Walk.back, hcast]

theorem slotCount_le (h : Header) (capacity : Nat) : slotCount h capacity ≤ capacity := by
  unfold slotCount
  split
  · exact Nat.zero_le capacity
  · exact Nat.min_le_left _ _

theorem nodup_slots (hindex : h.index.toNat ≤ capacity) : (slots h capacity).Nodup := by
  by_cases hzero : h.index.toNat = 0
  · have hnone : slotCount h capacity = 0 := visits_eq_zero hzero
    rw [slots, hnone]
    exact List.nodup_nil
  · obtain ⟨hfirst, hlt⟩ := firstSlot_lt hindex hzero
    rw [slots_eq hindex, hfirst]
    exact Walk.nodup_slotsFrom hlt (slotCount_le h capacity)

end Slots

section Log

variable {source : Source} {page : Nat → Except TransportError Bytes} {pages : UInt16}

theorem capacity_le (source : Source) (pages : UInt16) : source.capacity pages ≤ 5 * 65535 := by
  have hlt := pages.toNat_lt
  cases source <;> simp only [Source.capacity, Source.entriesPerPage] <;> omega

theorem inRing_of_lt_capacity {slot : Nat} (h : slot < source.capacity pages) :
    InRing source slot := by
  have hlt := pages.toNat_lt
  refine ⟨?_, ?_⟩
  · have hpage : slot / source.entriesPerPage < 2 ^ 16 := by
      cases source <;> simp only [Source.capacity, Source.entriesPerPage] at h ⊢ <;> omega
    exact UInt16.toNat_ofNat_of_lt' hpage
  · rintro rfl
    have hzero : slot / 5 = 0 := Nat.div_eq_of_lt h
    unfold Walk.pageOf Source.entriesPerPage
    rw [hzero]
    rfl

variable (source page) in
theorem length_usedEntries_le (l : List Nat) : (usedEntries source page l).length ≤ l.length := by
  unfold usedEntries
  rw [List.length_map]
  exact (List.length_filter_le _ _).trans (List.length_map _).le

theorem length_numbered (l : List Entry) : (numbered l).length = l.length := by
  rw [numbered, List.length_map, List.length_zipIdx]

/-- As long as there are fewer than 2^32 entries the numbers do not wrap. -/
theorem map_number_numbered {l : List Entry} (h : l.length < 2 ^ 32) :
    (numbered l).map (fun e => e.number.toNat) = List.range' 1 l.length := by
  refine List.ext_getElem ?_ ?_
  · rw [List.length_map, length_numbered, List.length_range']
  · intro i hi hi'
    rw [List.length_range'] at hi'
    have hlt : i + 1 < 2 ^ 32 := by omega
    have hnumber : (UInt32.ofNat (i + 1)).toNat = i + 1 := UInt32.toNat_ofNat_of_lt' hlt
    simp only [numbered, List.getElem_map, List.getElem_zipIdx, List.getElem_range', Nat.zero_add,
      hnumber]
    omega

variable (source page) in
theorem length_readSlots_le (h : Header) (capacity : Nat) :
    (readSlots source page h capacity).length ≤ capacity := by
  have hslots : (slots h capacity).length = slotCount h capacity := by
    rw [slots, List.length_map, List.length_range]
  have hprefix : (readSlots source page h capacity).length ≤ (slots h capacity).length :=
    (List.takeWhile_sublist (isReadable source page)).length_le
  exact hprefix.trans (hslots.le.trans (slotCount_le h capacity))

/-- The pages of the slots that were read, and the first page, have their checksums. -/
theorem checksum_iff_of_reflects {c : Pages} {first : Bytes} {l : List Nat}
    (hfirst : page 0 = .ok first)
    (hc : c.Reflects page ((l.map (· / source.entriesPerPage)).reverse ++ [0])) :
    c.checksumValid = true ↔ first.byteSum % 256 = 0 ∧
      ∀ slot ∈ l, ∀ p, pageOfSlot source page slot = .ok p → p.byteSum % 256 = 0 := by
  rw [hc.checksum_iff]
  simp only [Bytes.checksumOk_iff]
  constructor
  · intro hall
    refine ⟨hall 0 (by simp) first hfirst, ?_⟩
    intro slot hslot p hp
    refine hall (slot / source.entriesPerPage) ?_ p hp
    rw [List.mem_append, List.mem_reverse]
    exact .inl (List.mem_map_of_mem hslot)
  · rintro ⟨hzero, hslots⟩ i hi p hp
    rw [List.mem_append, List.mem_reverse, List.mem_singleton] at hi
    rcases hi with hmem | rfl
    · obtain ⟨slot, hslot, rfl⟩ := List.mem_map.mp hmem
      exact hslots slot hslot p hp
    · rw [hfirst] at hp
      cases hp
      exact hzero

variable {σ : Type} {handler : (r : Request) → σ → r.Reply × σ}

/-- A walk over the slots of a log leaves what a walk over the whole log gives. -/
theorem visited_ofHeader (hserves : Serves handler page source)
    (hsize : ∀ i p, page i = .ok p → p.size = 512) {h : Header}
    (hindex : h.index.toNat ≤ source.capacity pages) {c : Pages} {read : List Nat}
    (hc : c.Reflects page read) (s : σ) :
    Visited source page (slots h (source.capacity pages)) [] read
      (run handler (Walk.ofHeader source h (source.capacity pages) c) s).1 := by
  rw [slots_eq hindex]
  unfold Walk.ofHeader
  by_cases hzero : h.index.toNat = 0
  · rw [visits_eq_zero hzero]
    exact {
      entries_eq := rfl
      truncated_iff := by simp [Walk.visit, Walk.slotsFrom, run]
      reflects := hc
    }
  · obtain ⟨hfirst, hlt⟩ := firstSlot_lt hindex hzero
    rw [hfirst]
    exact run_visit hserves hsize (fun _ => inRing_of_lt_capacity) hlt hc s

theorem walkedPlainly_of_visited {first : Bytes} {w : Walk} (hfirst : page 0 = .ok first)
    {h : Header} (hheader : h = Header.ofPage source.isExtended first)
    (hindex : h.index.toNat ≤ source.capacity pages)
    (hw : Visited source page (slots h (source.capacity pages)) [] [0] w) :
    WalkedPlainly source page pages first
      ⟨source, h, w.pages.checksumValid, w.truncated, w.entries⟩ := by
  have hentries : w.entries = numbered (usedEntries source page
      (readSlots source page h (source.capacity pages))) := by
    rw [hw.entries_eq, foldl_collect_nil, filterMap_entryAt, readSlots]
  have hlength : (usedEntries source page
      (readSlots source page h (source.capacity pages))).length < 2 ^ 32 := by
    have hused := length_usedEntries_le source page
      (readSlots source page h (source.capacity pages))
    have hread := length_readSlots_le source page h (source.capacity pages)
    have hcapacity := capacity_le source pages
    omega
  exact {
    source_eq := rfl
    header_eq := hheader
    entries_eq := hentries
    numbers_eq := by
      show w.entries.map (fun e => e.number.toNat) = List.range' 1 w.entries.length
      rw [hentries, map_number_numbered hlength, length_numbered]
    slots_nodup := nodup_slots hindex
    truncated_iff := hw.truncated_iff
    checksum_iff := checksum_iff_of_reflects hfirst hw.reflects
  }

/-- Reading a log page by page gives what a walk over the whole log gives. -/
theorem readSource_walkedPlainly (hserves : Serves handler page source)
    (hsize : ∀ i p, page i = .ok p → p.size = 512) (pages : UInt16) (s : σ) :
    (∀ e, page 0 = .error e →
      (run handler (readSource source pages) s).1 = .error (.transport e)) ∧
    ∀ first, page 0 = .ok first →
      (source.capacity pages < (Header.ofPage source.isExtended first).index.toNat →
        (run handler (readSource source pages) s).1 = .error (indexTooLarge source
          (Header.ofPage source.isExtended first).index.toNat (source.capacity pages))) ∧
      ((Header.ofPage source.isExtended first).index.toNat ≤ source.capacity pages →
        ∃ log, (run handler (readSource source pages) s).1 = .ok log ∧
          WalkedPlainly source page pages first log) := by
  have hempty := Pages.Reflects.empty page
  refine ⟨?_, ?_⟩
  · intro e he
    rw [readSource, run_bind, Pages.run_page_error hserves (fun _ => rfl) hempty he s]
    rfl
  · intro first hfirst
    obtain ⟨c, hrun, hc⟩ := Pages.run_page_ok hserves (fun _ => rfl) hempty hfirst s
    refine ⟨?_, ?_⟩
    · intro hlarge
      rw [readSource, run_bind, hrun]
      simp only [if_pos hlarge]
      rfl
    · intro hindex
      rw [readSource, run_bind, hrun]
      simp only [if_neg (Nat.not_lt.mpr hindex), run_bind]
      exact ⟨_, rfl, walkedPlainly_of_visited hfirst rfl hindex
        (visited_ofHeader hserves hsize hindex hc _)⟩

end Log

/-- A page that counts two errors, of which the latest is in its first slot. -/
def twoErrors : Bytes :=
  .ofList ([1, 0, 1, 0] ++ List.replicate 496 1 ++ [2, 0] ++ List.replicate 10 0)

theorem size_twoErrors : twoErrors.size = 512 := by
  decide +kernel

theorem header_twoErrors : Header.ofPage true twoErrors = ⟨1, 1, 2⟩ := by
  decide +kernel

/-- A log of which only the first page can be read. -/
def onlyPage : Nat → Except TransportError Bytes
  | 0 => .ok twoErrors
  | _ => .error .unsupported

def serveOnlyPage : (r : Request) → Unit → r.Reply × Unit
  | .readLog _ i _ _ _, s => (onlyPage i.toNat, s)
  | .smartReadLog _ _, s | .smartReadData _, s | .smartReadThresholds _, s | .sctStatus _, s
  | .nvmeLog _ _ _, s | .returnStatus, s | .logSense _ _ _, s | .logSenseSize _ _, s
  | .modeSense _ _ _ _, s | .modeSelect _ _ _, s | .requestSense _, s =>
    (.error .unsupported, s)
  | .clock, s => (Nat.zero, s)
  | .pause _, s => ((), s)

/-- The second slot of the walk lies on the last page, which cannot be read. -/
theorem readSource_walkedPlainly_cut :
    ∃ log, (run serveOnlyPage (readSource .extended 2) ()).1 = .ok log ∧
      log.truncated = true ∧ log.entries.map (fun e => e.number.toNat) = [1] := by
  have hsize : ∀ i p, onlyPage i = .ok p → p.size = 512 := by
    intro i p hp
    cases i with
    | zero => exact Except.ok.inj hp ▸ size_twoErrors
    | succ i => cases hp
  have hlength : (usedEntries .extended onlyPage
      (readSlots .extended onlyPage ⟨1, 1, 2⟩ 8)).length = 1 := by
    decide +kernel
  have hserves : Serves serveOnlyPage onlyPage .extended := fun _ _ => rfl
  have hindex : (Header.ofPage true twoErrors).index.toNat ≤ Source.extended.capacity 2 := by
    rw [header_twoErrors]
    decide
  obtain ⟨_, hread⟩ := readSource_walkedPlainly hserves hsize 2 ()
  obtain ⟨log, hrun, hlog⟩ := (hread twoErrors rfl).2 hindex
  have hheader : log.header = ⟨1, 1, 2⟩ := hlog.header_eq.trans header_twoErrors
  refine ⟨log, hrun, hlog.truncated_iff.mpr ⟨7, ?_, rfl⟩, ?_⟩
  · rw [hheader]
    decide
  · have hentries := hlog.entries_eq
    rw [hheader] at hentries
    have hcount : log.entries.length = 1 := by
      rw [hentries, length_numbered]
      exact hlength
    rw [hlog.numbers_eq, hcount]
    rfl

end DriveHealth.ErrorLog
