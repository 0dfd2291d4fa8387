import DriveHealth.Proofs.ErrorLog.RingWalk
import Mathlib.Data.List.Perm.Subperm

/-!
What reading one log asks of a drive, whatever the drive replies. The first page is asked for
first, and any other page when the walk comes to the first of its slots. A page that was read is
kept, so no page is asked for twice, and a page that is refused is the last that is asked for.
-/
namespace DriveHealth.ErrorLog

open Program

/-- A page that is asked for, with the reply of the drive. -/
structure PageLoad where
  index : UInt16
  reply : Except TransportError Bytes

namespace PageLoad

/-- The comprehensive log is read from its start up to the page. -/
def event (source : Source) (l : PageLoad) : (r : Request) × r.Reply :=
  match source with
  | .extended => ⟨.readLog 3 l.index 0 0 (.zeros 512), l.reply⟩
  | .comprehensive => ⟨.smartReadLog 2 (.zeros ((l.index.toNat + 1) * 512)), l.reply⟩
  | .summary => ⟨.smartReadLog 1 (.zeros 512), l.reply⟩

def isOk (l : PageLoad) : Bool := Except.isOk l.reply

end PageLoad

/-- The page that the bytes of a reply hold. -/
def pageIn (source : Source) (index : UInt16) (data : Bytes) : Bytes :=
  match source with
  | .comprehensive => data.slice (index.toNat * 512) 512
  | .extended | .summary => data

namespace Pages

variable {source : Source} {c : Pages} {i : UInt16} {t : Trace Request Request.Reply}

/-- A page that the log can have is asked for once. -/
theorem load_of_fetch (hi : source = .summary → i = 0) {r : Except Error Bytes}
    (h : Ends (fetch source i).run t r) : ∃ reply, t = [PageLoad.event source ⟨i, reply⟩] ∧
      r = Session.ofTransport (Except.map (pageIn source i) reply) := by
  cases source with
  | extended =>
    obtain ⟨reply, u, rfl, hrest⟩ := ends_ask_iff.mp h
    obtain ⟨rfl, rfl⟩ := ends_done_iff.mp hrest
    exact ⟨reply, rfl, by cases reply <;> rfl⟩
  | comprehensive =>
    rw [fetch_comprehensive] at h
    obtain ⟨reply, u, rfl, hrest⟩ := ends_ask_iff.mp h
    obtain ⟨rfl, rfl⟩ := ends_done_iff.mp hrest
    exact ⟨reply, rfl, rfl⟩
  | summary =>
    obtain rfl := hi rfl
    obtain ⟨reply, u, rfl, hrest⟩ := ends_ask_iff.mp h
    obtain ⟨rfl, rfl⟩ := ends_done_iff.mp hrest
    exact ⟨reply, rfl, by cases reply <;> rfl⟩

/-- The conversations in which a page is looked up. -/
inductive Turned (source : Source) (c : Pages) (i : UInt16) :
    Trace Request Request.Reply → Except Error Bytes × Pages → Prop
  | kept {p : Bytes} : c.find? i = some p → Turned source c i [] (.ok p, c)
  | read {data : Bytes} : c.find? i = none →
      Turned source c i [PageLoad.event source ⟨i, .ok data⟩]
        (.ok (pageIn source i data), c.add i (pageIn source i data))
  | refused {e : TransportError} : c.find? i = none →
      Turned source c i [PageLoad.event source ⟨i, .error e⟩] (.error (.transport e), c)
  | absent : c.find? i = none → source = .summary → i ≠ 0 →
      Turned source c i [] (.error (noSuchPage i), c)

theorem turned_of_ends {r : Except Error Bytes × Pages} (h : Ends (page source c i) t r) :
    Turned source c i t r := by
  unfold page at h
  cases hfind : c.find? i with
  | some p =>
    rw [hfind] at h
    obtain ⟨rfl, rfl⟩ := ends_done_iff.mp h
    exact .kept hfind
  | none =>
    rw [hfind] at h
    obtain ⟨u, v, result, rfl, hfetch, hrest⟩ := ends_bind_iff.mp h
    by_cases hi : source = .summary → i = 0
    · obtain ⟨reply, rfl, rfl⟩ := load_of_fetch hi hfetch
      cases reply with
      | ok data =>
        obtain ⟨rfl, rfl⟩ := ends_done_iff.mp hrest
        exact .read hfind
      | error e =>
        obtain ⟨rfl, rfl⟩ := ends_done_iff.mp hrest
        exact .refused hfind
    · obtain ⟨rfl, hne⟩ := Classical.not_imp.mp hi
      have habsent : (fetch .summary i).run = .done (.error (noSuchPage i)) := by
        rw [fetch, if_neg hne]
        rfl
      rw [habsent] at hfetch
      obtain ⟨rfl, rfl⟩ := ends_done_iff.mp hfetch
      obtain ⟨rfl, rfl⟩ := ends_done_iff.mp hrest
      exact .absent hfind rfl hne

/-- What looking up a page costs, and what it leaves. -/
structure Thrifty (source : Source) (c : Pages) (i : UInt16) (t : Trace Request Request.Reply)
    (r : Except Error Bytes × Pages) : Prop where
  /-- A page that is kept is not asked for. -/
  of_kept : ∀ p, c.find? i = some p → t = [] ∧ r = (.ok p, c)
  length_le : t.length ≤ 1
  /-- A page of the comprehensive log is the last sector of one read from the start. -/
  of_comprehensive : source = .comprehensive → c.find? i = none →
    ∃ reply, t = [⟨.smartReadLog 2 (.zeros ((i.toNat + 1) * 512)), reply⟩] ∧
      ∀ before last : Bytes, reply = .ok (before ++ last) → before.size = i.toNat * 512 →
        last.size = 512 → r.1 = .ok last ∧ r.2.find? i = some last
  /-- A page that is not had changes nothing. -/
  of_error : ∀ e, r.1 = .error e → r.2 = c

theorem Turned.thrifty {r : Except Error Bytes × Pages} (h : Turned source c i t r) :
    Thrifty source c i t r := by
  cases h with
  | kept hp =>
    refine ⟨?_, Nat.zero_le 1, ?_, fun _ _ => rfl⟩
    · intro q hq
      rw [hp] at hq
      cases hq
      exact ⟨rfl, rfl⟩
    · intro _ hnone
      rw [hp] at hnone
      cases hnone
  | @read data hnone =>
    refine ⟨?_, Nat.le_refl 1, ?_, nofun⟩
    · intro q hq
      rw [hnone] at hq
      cases hq
    · rintro rfl _
      refine ⟨.ok data, rfl, ?_⟩
      rintro before last heq hbefore hlast
      cases heq
      have hpage : pageIn .comprehensive i (before ++ last) = last := by
        unfold pageIn
        rw [← hbefore, Bytes.slice_append_right before last 512 (Nat.le_refl _), Nat.sub_self,
          ← hlast, Bytes.slice_size]
      rw [hpage, find?_add, if_pos rfl]
      exact ⟨rfl, rfl⟩
  | @refused e hnone =>
    refine ⟨?_, Nat.le_refl 1, ?_, fun _ _ => rfl⟩
    · intro q hq
      rw [hnone] at hq
      cases hq
    · rintro rfl _
      exact ⟨.error e, rfl, nofun⟩
  | absent hnone hsource _ =>
    refine ⟨?_, Nat.zero_le 1, ?_, fun _ _ => rfl⟩
    · intro q hq
      rw [hnone] at hq
      cases hq
    · rintro rfl _
      cases hsource

end Pages

/-- A visit of slots in turn, when some pages were read before: which slots were come to, which
pages were asked for, and whether one was refused. -/
inductive Visits (source : Source) :
    List Nat → List UInt16 → List Nat → List PageLoad → Bool → Prop
  | nil {read : List UInt16} : Visits source [] read [] [] false
  | kept {slot : Nat} {l visited : List Nat} {read : List UInt16} {loads : List PageLoad}
      {cut : Bool} : Walk.pageOf source slot ∈ read → Visits source l read visited loads cut →
      Visits source (slot :: l) read (slot :: visited) loads cut
  | read {slot : Nat} {l visited : List Nat} {read : List UInt16} {loads : List PageLoad}
      {cut : Bool} {data : Bytes} : Walk.pageOf source slot ∉ read →
      Visits source l (Walk.pageOf source slot :: read) visited loads cut →
      Visits source (slot :: l) read (slot :: visited)
        (⟨Walk.pageOf source slot, .ok data⟩ :: loads) cut
  | refused {slot : Nat} {l : List Nat} {read : List UInt16} {e : TransportError} :
      Walk.pageOf source slot ∉ read →
      Visits source (slot :: l) read [slot] [⟨Walk.pageOf source slot, .error e⟩] true

section Visit

variable {source : Source} {capacity : Nat}

/-- The pages that are kept are those that were read. -/
def Pages.Knows (c : Pages) (read : List UInt16) : Prop :=
  ∀ i, (c.find? i).isSome = true ↔ i ∈ read

theorem Pages.Knows.add {c : Pages} {read : List UInt16} (h : c.Knows read) (i : UInt16)
    (p : Bytes) : (c.add i p).Knows (i :: read) := by
  intro j
  rw [Pages.find?_add, List.mem_cons, ← h j]
  by_cases hj : j = i
  · simp [hj]
  · simp [hj]

theorem visits_of_ends (hring : ∀ slot < capacity, InRing source slot) {n slot : Nat}
    (hslot : slot < capacity) {found : List NumberedEntry} {c : Pages} {read : List UInt16}
    (hc : c.Knows read) {t : Trace Request Request.Reply} {w : Walk}
    (h : Ends (Walk.visit source capacity n slot found c) t w) :
    ∃ visited loads, t = loads.map (PageLoad.event source) ∧
      Visits source (Walk.slotsFrom capacity n slot) read visited loads w.truncated := by
  induction n generalizing slot found c read t with
  | zero =>
    obtain ⟨rfl, rfl⟩ := ends_done_iff.mp h
    exact ⟨[], [], rfl, .nil⟩
  | succ n ih =>
    obtain ⟨u, v, ⟨r, c'⟩, rfl, hpage, hrest⟩ := ends_bind_iff.mp h
    cases Pages.turned_of_ends hpage with
    | kept hp =>
      have hmem : Walk.pageOf source slot ∈ read := by
        rw [← hc, hp]
        rfl
      obtain ⟨visited, loads, rfl, hvisits⟩ := ih (Walk.previous_lt hslot) hc hrest
      exact ⟨slot :: visited, loads, rfl, .kept hmem hvisits⟩
    | @read data hnone =>
      have hnew : Walk.pageOf source slot ∉ read := by
        rw [← hc, hnone]
        exact Bool.false_ne_true
      obtain ⟨visited, loads, rfl, hvisits⟩ :=
        ih (Walk.previous_lt hslot) (hc.add _ _) hrest
      exact ⟨slot :: visited, ⟨_, .ok data⟩ :: loads, rfl, .read hnew hvisits⟩
    | @refused e hnone =>
      have hnew : Walk.pageOf source slot ∉ read := by
        rw [← hc, hnone]
        exact Bool.false_ne_true
      obtain ⟨rfl, rfl⟩ := ends_done_iff.mp hrest
      exact ⟨[slot], [⟨_, .error e⟩], rfl, .refused hnew⟩
    | absent _ hsource hne => exact absurd ((hring slot hslot).summary hsource) hne

end Visit

namespace Visits

variable {source : Source} {l visited : List Nat} {read : List UInt16} {loads : List PageLoad}
  {cut : Bool}

/-- No page is asked for that was read before, and none twice. -/
theorem nodup (h : Visits source l read visited loads cut) :
    (loads.map PageLoad.index).Nodup ∧ ∀ i ∈ loads.map PageLoad.index, i ∉ read := by
  induction h with
  | nil => exact ⟨List.nodup_nil, List.forall_mem_nil _⟩
  | kept _ _ ih => exact ih
  | read hnew _ ih =>
    obtain ⟨hnodup, hfresh⟩ := ih
    refine ⟨List.nodup_cons.mpr ⟨?_, hnodup⟩, List.forall_mem_cons.mpr ⟨hnew, ?_⟩⟩
    · intro hmem
      exact hfresh _ hmem List.mem_cons_self
    · intro i hi hread
      exact hfresh i hi (List.mem_cons_of_mem _ hread)
  | refused hnew => exact ⟨List.nodup_singleton _, List.forall_mem_singleton.mpr hnew⟩

/-- A page is asked for when a slot of it is come to. -/
theorem mem_iff (h : Visits source l read visited loads cut) {i : UInt16} (hi : i ∉ read) :
    i ∈ loads.map PageLoad.index ↔ ∃ slot ∈ visited, Walk.pageOf source slot = i := by
  induction h with
  | nil => simp
  | kept hmem _ ih =>
    have hne : ¬ Walk.pageOf source _ = i := fun heq => hi (heq ▸ hmem)
    rw [ih hi, List.exists_mem_cons_iff, or_iff_right hne]
  | @read slot l visited read loads cut data hnew _ ih =>
    rw [List.map_cons, List.mem_cons, List.exists_mem_cons_iff]
    by_cases heq : i = Walk.pageOf source slot
    · exact iff_of_true (.inl heq) (.inl heq.symm)
    · have hi' : i ∉ Walk.pageOf source slot :: read := by
        rw [List.mem_cons, not_or]
        exact ⟨heq, hi⟩
      rw [ih hi', or_iff_right heq, or_iff_right (Ne.symm heq)]
  | refused _ => simp [eq_comm]

theorem length_le (h : Visits source l read visited loads cut) :
    loads.length ≤ visited.length := by
  induction h with
  | nil => exact Nat.le_refl 0
  | kept _ _ ih => exact Nat.le_succ_of_le ih
  | read _ _ ih => exact Nat.succ_le_succ ih
  | refused _ => exact Nat.le_refl 1

theorem isPrefix (h : Visits source l read visited loads cut) : visited <+: l := by
  induction h with
  | nil => exact List.prefix_refl []
  | kept _ _ ih => exact List.cons_prefix_cons.mpr ⟨rfl, ih⟩
  | read _ _ ih => exact List.cons_prefix_cons.mpr ⟨rfl, ih⟩
  | refused _ => exact List.cons_prefix_cons.mpr ⟨rfl, List.nil_prefix⟩

theorem eq_of_whole (h : Visits source l read visited loads cut) (hcut : cut = false) :
    visited = l := by
  induction h with
  | nil => rfl
  | kept _ _ ih => rw [ih hcut]
  | read _ _ ih => rw [ih hcut]
  | refused _ => cases hcut

theorem cut_iff (h : Visits source l read visited loads cut) :
    cut = true ↔ ∃ load ∈ loads, load.isOk = false := by
  induction h with
  | nil => simp
  | kept _ _ ih => exact ih
  | read _ _ ih => simp [ih, PageLoad.isOk, Except.isOk, Except.toBool]
  | refused _ => simp [PageLoad.isOk, Except.isOk, Except.toBool]

/-- Behind a page that is refused no other is asked for. -/
theorem last_of_refused (h : Visits source l read visited loads cut)
    {before after : List PageLoad} {load : PageLoad} (hloads : loads = before ++ load :: after)
    (hload : load.isOk = false) : after = [] := by
  induction h generalizing before with
  | nil => simp at hloads
  | kept _ _ ih => exact ih hloads
  | read _ _ ih =>
    rcases List.append_eq_cons_iff.mp hloads.symm with ⟨rfl, hfirst⟩ | ⟨rest, rfl, hrest⟩
    · obtain ⟨rfl, rfl⟩ := List.cons.inj hfirst
      cases hload
    · exact ih hrest
  | refused _ =>
    rcases List.append_eq_cons_iff.mp hloads.symm with ⟨rfl, hfirst⟩ | ⟨rest, rfl, hrest⟩
    · exact (List.cons.inj hfirst).2
    · simp at hrest

/-- The slot on a page that is refused is the last that is come to, and the first on its page. -/
theorem visited_of_refused (h : Visits source l read visited loads cut) {load : PageLoad}
    (hmem : load ∈ loads) (hload : load.isOk = false) :
    ∃ before slot, visited = before ++ [slot] ∧ Walk.pageOf source slot = load.index ∧
      ∀ s ∈ before, Walk.pageOf source s ≠ load.index := by
  induction h with
  | nil => cases hmem
  | kept hread hrest ih =>
    obtain ⟨before, slot, rfl, hslot, hbefore⟩ := ih hmem
    refine ⟨_ :: before, slot, rfl, hslot, List.forall_mem_cons.mpr ⟨?_, hbefore⟩⟩
    intro heq
    exact hrest.nodup.2 _ (List.mem_map_of_mem hmem) (heq ▸ hread)
  | read _ hrest ih =>
    rcases List.mem_cons.mp hmem with rfl | hmem
    · cases hload
    obtain ⟨before, slot, rfl, hslot, hbefore⟩ := ih hmem
    refine ⟨_ :: before, slot, rfl, hslot, List.forall_mem_cons.mpr ⟨?_, hbefore⟩⟩
    intro heq
    exact hrest.nodup.2 _ (List.mem_map_of_mem hmem) (heq ▸ List.mem_cons_self)
  | @refused slot _ _ _ _ =>
    obtain rfl := List.mem_singleton.mp hmem
    exact ⟨[], slot, rfl, rfl, List.forall_mem_nil _⟩

/-- A page is asked for only if a slot ahead lies on it. -/
theorem exists_slot (h : Visits source l read visited loads cut) {i : UInt16}
    (hi : i ∈ loads.map PageLoad.index) : ∃ slot ∈ l, Walk.pageOf source slot = i := by
  obtain ⟨slot, hslot, hpage⟩ := (h.mem_iff (h.nodup.2 i hi)).mp hi
  exact ⟨slot, h.isPrefix.subset hslot, hpage⟩

end Visits

section Slots

variable {source : Source} {pages : UInt16}

theorem lt_of_mem_slots {h : Header} {capacity slot : Nat} (hslot : slot ∈ slots h capacity) :
    slot < capacity := by
  obtain ⟨k, hk, rfl⟩ := List.mem_map.mp hslot
  rw [List.mem_range] at hk
  have hpos := hk.trans_le (slotCount_le h capacity)
  have hlt := Int.emod_lt_of_pos ((h.index.toNat : Int) - 1 - k) (by omega : (0 : Int) < capacity)
  omega

/-- Every slot lies on a page that the log has. -/
theorem toNat_pageOf_lt {slot : Nat} (h : slot < source.capacity pages) :
    (Walk.pageOf source slot).toNat < max 1 pages.toNat := by
  rw [(inRing_of_lt_capacity h).page_eq]
  cases source <;> simp only [Source.capacity, Source.entriesPerPage] at h ⊢ <;> omega

/-- Different indices below a bound are no more than the bound. -/
theorem length_le_of_toNat_lt {l : List UInt16} {n : Nat} (hnodup : l.Nodup)
    (hlt : ∀ i ∈ l, i.toNat < n) : l.length ≤ n := by
  have hmap : (l.map UInt16.toNat).Nodup :=
    hnodup.map fun i j => UInt16.toNat_inj.mp
  have hsubset : l.map UInt16.toNat ⊆ List.range n := by
    intro k hk
    obtain ⟨i, hi, rfl⟩ := List.mem_map.mp hk
    exact List.mem_range.mpr (hlt i hi)
  have hlength := (hmap.subperm hsubset).length_le
  rwa [List.length_map, List.length_range] at hlength

end Slots

section Source

variable {source : Source} {pages : UInt16}

/-- The header in the reply to the request for the first page. -/
def headerIn (source : Source) (data : Bytes) : Header :=
  Header.ofPage source.isExtended (pageIn source 0 data)

/-- The slots that are to be walked over, by the reply to the request for the first page. -/
def slotsAhead (source : Source) (pages : UInt16) : Except TransportError Bytes → List Nat
  | .ok data =>
    if source.capacity pages < (headerIn source data).index.toNat then []
    else slots (headerIn source data) (source.capacity pages)
  | .error _ => []

/-- The conversations in which a log is read, by the slots that are come to and the pages that
are asked for behind the first. -/
inductive ReadsSource (source : Source) (pages : UInt16) :
    Except TransportError Bytes → List PageLoad → List Nat → Except Error ErrorLog → Prop
  | unreadable (e : TransportError) :
      ReadsSource source pages (.error e) [] [] (.error (.transport e))
  | beyond {data : Bytes} (h : source.capacity pages < (headerIn source data).index.toNat) :
      ReadsSource source pages (.ok data) [] [] (.error (indexTooLarge source
        (headerIn source data).index.toNat (source.capacity pages)))
  | walked {data : Bytes} {rest : List PageLoad} {visited : List Nat} {log : ErrorLog}
      (h : ¬ source.capacity pages < (headerIn source data).index.toNat)
      (hvisits : Visits source (slots (headerIn source data) (source.capacity pages)) [0]
        visited rest log.truncated) :
      ReadsSource source pages (.ok data) rest visited (.ok log)

theorem Pages.knows_empty : Knows {} [] := by
  intro i
  simp [find?]

theorem visits_ofHeader {h : Header} (hindex : h.index.toNat ≤ source.capacity pages) {c : Pages}
    {read : List UInt16} (hc : c.Knows read) {t : Trace Request Request.Reply} {w : Walk}
    (hwalk : Ends (Walk.ofHeader source h (source.capacity pages) c) t w) :
    ∃ visited loads, t = loads.map (PageLoad.event source) ∧
      Visits source (slots h (source.capacity pages)) read visited loads w.truncated := by
  rw [slots_eq hindex]
  unfold Walk.ofHeader at hwalk
  by_cases hzero : h.index.toNat = 0
  · rw [visits_eq_zero hzero] at hwalk ⊢
    obtain ⟨rfl, rfl⟩ := ends_done_iff.mp hwalk
    exact ⟨[], [], rfl, .nil⟩
  · obtain ⟨hfirst, hlt⟩ := firstSlot_lt hindex hzero
    rw [hfirst] at hwalk ⊢
    exact visits_of_ends (fun _ => inRing_of_lt_capacity) hlt hc hwalk

theorem readsSource_of_ends {t : Trace Request Request.Reply} {r : Except Error ErrorLog}
    (h : Ends (readSource source pages) t r) :
    ∃ first rest visited, t = (⟨0, first⟩ :: rest).map (PageLoad.event source) ∧
      ReadsSource source pages first rest visited r := by
  unfold readSource at h
  obtain ⟨u, v, ⟨reply, c⟩, rfl, hpage, hrest⟩ := ends_bind_iff.mp h
  cases Pages.turned_of_ends hpage with
  | kept hp => cases hp
  | absent _ _ hne => exact absurd rfl hne
  | @refused e _ =>
    obtain ⟨rfl, rfl⟩ := ends_done_iff.mp hrest
    exact ⟨.error e, [], [], rfl, .unreadable e⟩
  | @read data _ =>
    change Ends (if source.capacity pages < (headerIn source data).index.toNat then _ else _) v r
      at hrest
    by_cases hindex : source.capacity pages < (headerIn source data).index.toNat
    · rw [if_pos hindex] at hrest
      obtain ⟨rfl, rfl⟩ := ends_done_iff.mp hrest
      exact ⟨.ok data, [], [], rfl, .beyond hindex⟩
    · rw [if_neg hindex] at hrest
      obtain ⟨w, hwalk, rfl⟩ := ends_bind_done_iff.mp hrest
      have hknows := Pages.knows_empty.add 0 (pageIn source 0 data)
      obtain ⟨visited, loads, rfl, hvisits⟩ :=
        visits_ofHeader (Nat.not_lt.mp hindex) hknows hwalk
      exact ⟨.ok data, loads, visited, rfl, .walked hindex hvisits⟩

/-- What reading a log asks for behind the first page. -/
structure Frugal (source : Source) (pages : UInt16) (first : Except TransportError Bytes)
    (rest : List PageLoad) (visited : List Nat) : Prop where
  index_lt : ∀ load ∈ (⟨0, first⟩ : PageLoad) :: rest, load.index.toNat < max 1 pages.toNat
  of_summary : source = .summary → rest = []
  nodup : (0 :: rest.map PageLoad.index).Nodup
  length_le : 0 < pages.toNat → 1 + rest.length ≤ min pages.toNat (1 + visited.length)
  /-- A page that is refused is the last that is asked for. -/
  last_of_refused : ∀ before load after, (⟨0, first⟩ : PageLoad) :: rest = before ++ load :: after →
    load.isOk = false → after = []
  /-- Any other page than the first is asked for only for a slot on it. -/
  mem_iff : ∀ i, i ≠ 0 →
    (i ∈ rest.map PageLoad.index ↔ ∃ slot ∈ visited, Walk.pageOf source slot = i)
  visited_prefix : visited <+: slotsAhead source pages first
  /-- All slots are come to unless a page is refused. -/
  visited_eq : (∀ load ∈ rest, load.isOk = true) → visited = slotsAhead source pages first
  /-- No slot is come to behind the first one on a page that is refused. -/
  visited_of_refused : ∀ load ∈ rest, load.isOk = false →
    ∃ before slot, visited = before ++ [slot] ∧ Walk.pageOf source slot = load.index ∧
      ∀ s ∈ before, Walk.pageOf source s ≠ load.index

theorem ReadsSource.visits {first : Except TransportError Bytes} {rest : List PageLoad}
    {visited : List Nat} {r : Except Error ErrorLog}
    (h : ReadsSource source pages first rest visited r) :
    ∃ cut, Visits source (slotsAhead source pages first) [0] visited rest cut := by
  cases h with
  | unreadable e => exact ⟨false, .nil⟩
  | beyond hindex =>
    rw [slotsAhead, if_pos hindex]
    exact ⟨false, .nil⟩
  | @walked _ _ _ log hindex hvisits =>
    rw [slotsAhead, if_neg hindex]
    exact ⟨log.truncated, hvisits⟩

theorem lt_of_mem_slotsAhead {first : Except TransportError Bytes} {slot : Nat}
    (h : slot ∈ slotsAhead source pages first) : slot < source.capacity pages := by
  cases first with
  | error e => cases h
  | ok data =>
    by_cases hindex : source.capacity pages < (headerIn source data).index.toNat
    · rw [slotsAhead, if_pos hindex] at h
      cases h
    · rw [slotsAhead, if_neg hindex] at h
      exact lt_of_mem_slots h

section Behind

variable {first : Except TransportError Bytes} {rest : List PageLoad} {visited : List Nat}
  {cut : Bool}

theorem nodup_of_visits (h : Visits source (slotsAhead source pages first) [0] visited rest cut) :
    (0 :: rest.map PageLoad.index).Nodup := by
  refine List.nodup_cons.mpr ⟨?_, h.nodup.1⟩
  intro hmem
  exact h.nodup.2 0 hmem List.mem_cons_self

theorem toNat_lt_of_visits
    (h : Visits source (slotsAhead source pages first) [0] visited rest cut) {i : UInt16}
    (hi : i ∈ 0 :: rest.map PageLoad.index) : i.toNat < max 1 pages.toNat := by
  rcases List.mem_cons.mp hi with rfl | hmem
  · have hzero : (0 : UInt16).toNat = 0 := rfl
    omega
  · obtain ⟨slot, hslot, rfl⟩ := h.exists_slot hmem
    exact toNat_pageOf_lt (lt_of_mem_slotsAhead hslot)

theorem eq_nil_of_summary
    (h : Visits .summary (slotsAhead .summary pages first) [0] visited rest cut) : rest = [] := by
  rw [List.eq_nil_iff_forall_not_mem]
  intro load hmem
  have hindex : load.index ∈ rest.map PageLoad.index := List.mem_map_of_mem hmem
  obtain ⟨slot, hslot, hpage⟩ := h.exists_slot hindex
  have hzero : Walk.pageOf .summary slot = 0 :=
    (inRing_of_lt_capacity (lt_of_mem_slotsAhead hslot)).summary rfl
  apply h.nodup.2 _ hindex
  rw [← hpage, hzero]
  exact List.mem_cons_self

/-- A first page that is refused leaves no slots. -/
theorem eq_nil_of_refused
    (h : Visits source (slotsAhead source pages first) [0] visited rest cut)
    (hfirst : Except.isOk first = false) : rest = [] := by
  cases first with
  | ok data => cases hfirst
  | error e =>
    cases h
    rfl

theorem frugal_of_visits
    (h : Visits source (slotsAhead source pages first) [0] visited rest cut) :
    Frugal source pages first rest visited where
  index_lt := by
    intro load hmem
    exact toNat_lt_of_visits h (List.mem_map_of_mem hmem)
  of_summary := by
    rintro rfl
    exact eq_nil_of_summary h
  nodup := nodup_of_visits h
  length_le := by
    intro hpos
    have hpages := length_le_of_toNat_lt (nodup_of_visits h) fun i hi => toNat_lt_of_visits h hi
    have hslots := h.length_le
    rw [List.length_cons, List.length_map] at hpages
    omega
  last_of_refused := by
    intro before load after hsplit hload
    rcases List.append_eq_cons_iff.mp hsplit.symm with ⟨rfl, hfirst⟩ | ⟨l, rfl, hrest⟩
    · obtain ⟨rfl, rfl⟩ := List.cons.inj hfirst
      exact eq_nil_of_refused h hload
    · exact h.last_of_refused hrest hload
  mem_iff := by
    intro i hi
    exact h.mem_iff (List.mem_singleton.not.mpr hi)
  visited_prefix := h.isPrefix
  visited_eq := by
    intro hall
    refine h.eq_of_whole (Bool.eq_false_iff.mpr ?_)
    intro hcut
    obtain ⟨load, hmem, hload⟩ := h.cut_iff.mp hcut
    rw [hall load hmem] at hload
    cases hload
  visited_of_refused := fun _ => h.visited_of_refused

end Behind

theorem readSource_frugal {σ : Type} (handler : (r : Request) → σ → r.Reply × σ) (s : σ)
    (source : Source) (pages : UInt16) :
    (∃ first rest visited, conversation handler (readSource source pages) s =
        (⟨0, first⟩ :: rest).map (PageLoad.event source) ∧
      Frugal source pages first rest visited) ∧
    ∀ (c : Pages) (i : UInt16), Pages.Thrifty source c i
      (conversation handler (Pages.page source c i) s)
      (run handler (Pages.page source c i) s).1 := by
  constructor
  · obtain ⟨first, rest, visited, hsplit, hreads⟩ :=
      readsSource_of_ends (ends_conversation handler (readSource source pages) s)
    obtain ⟨cut, hvisits⟩ := hreads.visits
    exact ⟨first, rest, visited, hsplit, frugal_of_visits hvisits⟩
  · intro c i
    exact (Pages.turned_of_ends (ends_conversation handler (Pages.page source c i) s)).thrifty

end Source
end DriveHealth.ErrorLog
