import DriveHealth.Proofs.Bytes
import DriveHealth.Proofs.Node.Command

/-!
Reading a log in pieces. The commands read ranges of pages that lie one behind the other, each as
long as its data phase, and the first one that fails is the last. From a drive whose logs do not
change, the pieces make up the pages that were asked for, however they were cut.
-/
namespace DriveHealth.Node

open Program Transport

/-- The number in two bytes of a command, the upper one first. -/
def wordAt (cdb : List UInt8) (high low : Nat) : Nat :=
  256 * (cdb.getD high 0).toNat + (cdb.getD low 0).toNat

theorem toNat_bytes {n : Nat} (h : n < 65536) :
    256 * (UInt8.ofNat (n / 256)).toNat + (UInt8.ofNat n).toNat = n := by
  simp only [UInt8.toNat_ofNat', Nat.reducePow]
  omega

theorem AtaCommand.toNat_high_low (w : UInt16) : 256 * (high w).toNat + (low w).toNat = w.toNat :=
  toNat_bytes w.toNat_lt

/-- A transfer of pages of a log from the drive. -/
structure LogTransfer where
  log : UInt8
  feature : UInt16
  page : Nat
  count : Nat
  deriving DecidableEq

namespace LogTransfer

/-- What a drive reads out of READ LOG EXT, inside ATA PASS-THROUGH(16) with two bytes for each
register and a transfer in from the drive of as many sectors as the count says. -/
def ofCdb? (cdb : List UInt8) : Option LogTransfer :=
  if cdb.length = 16 ∧ cdb.take 3 = [0x85, 0x09, 0x0E] ∧ cdb.getD 14 0 = 0x2F ∧
      cdb.getD 7 0 = 0 ∧ cdb.getD 11 0 = 0 ∧ cdb.getD 12 0 = 0 then
    some
      { log := cdb.getD 8 0, feature := .ofNat (wordAt cdb 3 4), page := wordAt cdb 9 10
        count := wordAt cdb 5 6 }
  else none

/-- A call that is the command for a transfer, with a data phase of just its length. -/
inductive CarriedBy (x : LogTransfer) : Call → Prop
  | intro (cdb : List UInt8) (buffer : Bytes) (timeout : Nat) :
      ofCdb? cdb = some x → buffer.size = x.count * sector →
      CarriedBy x (.command ⟨cdb, .fromDrive buffer, timeout⟩)

/-- Transfers that lie one behind the other, from a page on up to another. -/
inductive Tiles : Nat → List LogTransfer → Nat → Prop
  | nil (page : Nat) : Tiles page [] page
  | cons {x : LogTransfer} {rest : List LogTransfer} {stop : Nat} :
      Tiles (x.page + x.count) rest stop → Tiles x.page (x :: rest) stop

/-- The calls of a conversation are transfers of a log that lie one behind the other, none of them
empty or of more pages than so many. -/
structure Ranges (log : UInt8) (feature : UInt16) (greatest page stop : Nat)
    (t : Trace Call Call.Reply) (transfers : List LogTransfer) : Prop where
  carried : List.Forall₂ (fun x e => CarriedBy x e.1) transfers t
  tiles : Tiles page transfers stop
  addressed : ∀ x ∈ transfers, x.log = log ∧ x.feature = feature
  count_bounds : ∀ x ∈ transfers, 1 ≤ x.count ∧ x.count ≤ greatest

/-- The bytes of the address: the log, and the page around the middle. -/
theorem lbaByte_readLog (log : UInt8) (page : Nat) (feature count : UInt16) :
    let c := AtaCommand.readLog log page feature count
    c.lbaByte 0 = log ∧ c.lbaByte 1 = .ofNat page ∧ c.lbaByte 4 = .ofNat (page / 256) ∧
      c.lbaByte 2 = 0 ∧ c.lbaByte 3 = 0 ∧ c.lbaByte 5 = 0 := by
  have hlog := log.toNat_lt
  simp only [AtaCommand.lbaByte, AtaCommand.readLog, ← UInt8.toNat_inj, UInt8.toNat_ofNat',
    UInt8.toNat_zero, Nat.reducePow]
  omega

/-- The drive reads out of a command what was meant. -/
theorem ofCdb_readLog (log : UInt8) {page : Nat} (hpage : page < 65536) (feature count : UInt16) :
    ofCdb? ((AtaCommand.readLog log page feature count).cdb .pioIn false) =
      some ⟨log, feature, page, count.toNat⟩ := by
  obtain ⟨hlog, hlow, hhigh, htwo, hthree, hfive⟩ := lbaByte_readLog log page feature count
  unfold AtaCommand.cdb
  rw [hlog, hlow, hhigh, htwo, hthree, hfive, ofCdb?, if_pos ⟨rfl, rfl, rfl, rfl, rfl, rfl⟩]
  simp only [wordAt, List.getD_cons_succ, List.getD_cons_zero, AtaCommand.toNat_high_low,
    toNat_bytes hpage, AtaCommand.readLog, UInt16.ofNat_toNat]

theorem Ranges.nil (log : UInt8) (feature : UInt16) (greatest page : Nat) :
    Ranges log feature greatest page page [] [] :=
  ⟨.nil, .nil page, List.forall_mem_nil _, List.forall_mem_nil _⟩

theorem Ranges.cons {log : UInt8} {feature : UInt16} {greatest page count stop : Nat}
    {t : Trace Call Call.Reply} {transfers : List LogTransfer} {e : Event}
    (hcarried : CarriedBy ⟨log, feature, page, count⟩ e.1) (hpos : 1 ≤ count)
    (hle : count ≤ greatest) (h : Ranges log feature greatest (page + count) stop t transfers) :
    Ranges log feature greatest page stop (e :: t) (⟨log, feature, page, count⟩ :: transfers) where
  carried := .cons hcarried h.carried
  tiles := .cons (x := ⟨log, feature, page, count⟩) h.tiles
  addressed := List.forall_mem_cons.mpr ⟨⟨rfl, rfl⟩, h.addressed⟩
  count_bounds := List.forall_mem_cons.mpr ⟨⟨hpos, hle⟩, h.count_bounds⟩

end LogTransfer

/-- The pages of the logs of a drive. -/
structure LogContents where
  page : UInt8 → UInt16 → Nat → Bytes
  size_page : ∀ log feature i, (page log feature i).size = sector

namespace LogContents

/-- A range of pages, one behind the other. -/
def pages (contents : LogContents) (log : UInt8) (feature : UInt16) (first count : Nat) : Bytes :=
  Bytes.join ((List.range count).map fun i => contents.page log feature (first + i))

/-- A transfer that did not fail brought just the pages that it asked for. -/
def Serves (contents : LogContents) : Event → Prop
  | ⟨.command c, .ok completion⟩ => ataFailure? ⟨.command c, .ok completion⟩ = none →
      ∀ x, LogTransfer.ofCdb? c.cdb = some x →
        completion.data = contents.pages x.log x.feature x.page x.count
  | _ => True

/-- Whenever it does not fail, the kernel brings the pages of these logs. -/
def ServedBy {σ : Type} (contents : LogContents) (kernel : (c : Call) → σ → c.Reply × σ) : Prop :=
  ∀ c s, contents.Serves ⟨c, (kernel c s).1⟩

variable (contents : LogContents) (log : UInt8) (feature : UInt16)

theorem size_pages (first count : Nat) :
    (contents.pages log feature first count).size = count * sector := by
  have hsizes : ((List.range count).map fun i => contents.page log feature (first + i)).map
      ByteArray.size = List.replicate count sector := by
    rw [List.map_map, List.eq_replicate_iff]
    simp [contents.size_page]
  rw [pages, Bytes.size_join, hsizes, List.sum_replicate_nat]

theorem pages_add (first m n : Nat) : contents.pages log feature first (m + n) =
    contents.pages log feature first m ++ contents.pages log feature (first + m) n := by
  have hrest : ∀ i, first + (m + i) = first + m + i := fun i => (Nat.add_assoc _ _ _).symm
  simp only [pages, List.range_add, List.map_append, List.map_map, Bytes.join_append,
    Function.comp_def, hrest]

/-- The pages that a command asks for. -/
def dataOf (c : Command) : Bytes :=
  match LogTransfer.ofCdb? c.cdb with
  | some x => contents.pages x.log x.feature x.page x.count
  | none => .empty

theorem servedBy_obliging : contents.ServedBy (obliging contents.dataOf) := by
  intro c s
  cases c with
  | command c =>
    intro _ x hx
    rw [dataOf, hx]
  | openFile path writable => trivial
  | admin c => trivial
  | clock => trivial
  | pause milliseconds => trivial

/-- A drive with nothing in its logs. -/
def blank : LogContents := ⟨fun _ _ _ => .zeros sector, fun _ _ _ => Bytes.size_zeros sector⟩

end LogContents

namespace AtaLog

/-- A buffer of whole sectors, at least one and at most so many. -/
def HoldsSectors (greatest : Nat) (chunk : Bytes) : Prop :=
  ∃ n, chunk.size = n * sector ∧ 0 < n ∧ n ≤ greatest

theorem sectors_of_size {chunk : Bytes} {n : Nat} (h : chunk.size = n * sector) :
    chunk.size / sector = n := by
  rw [h]
  exact Nat.mul_div_cancel n (by decide)

section Chunks

/-- The pieces up to any of them make up the beginning of the buffer. -/
theorem join_slices (b : Bytes) (length n : Nat) :
    Bytes.join ((List.range n).map fun i => b.slice (i * length) length) =
      b.slice 0 (n * length) := by
  induction n with
  | zero =>
    rw [Nat.zero_mul]
    exact (ByteArray.extract_eq_empty_iff.mpr (by omega)).symm
  | succ n ih =>
    have hwhole := Bytes.slice_append_slice b 0 (n * length) length
    rw [Nat.zero_add, ← Nat.succ_mul] at hwhole
    rw [List.range_succ, List.map_append, Bytes.join_append, ih, List.map_singleton, Bytes.join,
      Bytes.join, ByteArray.append_empty, hwhole]

theorem le_ceil_mul {size length : Nat} (h : 0 < length) :
    size ≤ (size + length - 1) / length * length := by
  have hdiv := Nat.div_add_mod (size + length - 1) length
  have hmod := Nat.mod_lt (size + length - 1) h
  rw [Nat.mul_comm] at hdiv
  omega

/-- The pieces make up the buffer. -/
theorem join_chunks {length : Nat} (h : 0 < length) (buffer : Bytes) :
    Bytes.join (chunks length buffer) = buffer := by
  have hend : buffer.size ≤ (buffer.size + length - 1) / length * length := le_ceil_mul h
  have hall := Bytes.take_append_extract buffer ((buffer.size + length - 1) / length * length)
  rw [ByteArray.extract_eq_empty_iff.mpr (by omega), ByteArray.append_empty] at hall
  rw [chunks, join_slices, Bytes.slice, Nat.zero_add]
  exact hall

theorem holdsSectors_chunks {greatest : Nat} (h : 0 < greatest) {buffer : Bytes}
    (hwhole : buffer.size % sector = 0) :
    ∀ chunk ∈ chunks (greatest * sector) buffer, HoldsSectors greatest chunk := by
  intro chunk hchunk
  obtain ⟨i, hi, rfl⟩ := List.mem_map.mp hchunk
  have hlength : 0 < greatest * sector := Nat.mul_pos h (by decide)
  have hstart : (i + 1) * (greatest * sector) ≤ buffer.size + greatest * sector - 1 :=
    (Nat.le_div_iff_mul_le hlength).mp (List.mem_range.mp hi)
  have hindex : i * (greatest * sector) = i * greatest * sector := (Nat.mul_assoc _ _ _).symm
  rw [Nat.succ_mul, hindex] at hstart
  rw [HoldsSectors, Bytes.size_slice, hindex]
  unfold sector at *
  refine ⟨min (i * greatest + greatest) (buffer.size / 512) - i * greatest, ?_, ?_, ?_⟩
  all_goals omega

end Chunks

/-- The command that fills a piece from a page on, with its reply. -/
def chunkEvent (log : UInt8) (feature : UInt16) (page : Nat) (chunk : Bytes)
    (reply : Except SystemError Completion) : Event :=
  ataEvent (.readLog log page feature (.ofNat (chunk.size / sector))) chunk logTimeout reply

/-- The conversations in which the pieces of a buffer are filled in turn, from a page on. -/
inductive ReadsChunks (log : UInt8) (feature : UInt16) :
    Nat → List Bytes → Trace Call Call.Reply → Except TransportError Bytes → Prop
  | nil (page : Nat) : ReadsChunks log feature page [] [] (.ok .empty)
  | failed {page : Nat} {chunk : Bytes} {rest : List Bytes}
      {reply : Except SystemError Completion} {e : TransportError} :
      filled chunk reply = .error e →
      ReadsChunks log feature page (chunk :: rest) [chunkEvent log feature page chunk reply]
        (.error e)
  | read {page : Nat} {chunk first : Bytes} {rest : List Bytes}
      {reply : Except SystemError Completion} {t : Trace Call Call.Reply}
      {r : Except TransportError Bytes} : filled chunk reply = .ok first →
      ReadsChunks log feature (page + chunk.size / sector) rest t r →
      ReadsChunks log feature page (chunk :: rest)
        (chunkEvent log feature page chunk reply :: t)
        (r.map fun (more : Bytes) => (first ++ more : Bytes))

section Conversations

variable {log : UInt8} {feature : UInt16} {page : Nat} {l : List Bytes}
  {t : Trace Call Call.Reply} {r : Except TransportError Bytes}

theorem readsChunks_of_ends (h : Ends (readChunks log feature page l) t r) :
    ReadsChunks log feature page l t r := by
  induction l generalizing page t r with
  | nil =>
    obtain ⟨rfl, rfl⟩ := ends_done_iff.mp h
    exact .nil page
  | cons chunk rest ih =>
    obtain ⟨u, v, a, rfl, hfirst, hrest⟩ := ends_bind_iff.mp h
    obtain ⟨reply, rfl, rfl⟩ := ends_receiveAta_iff.mp hfirst
    cases hfilled : filled chunk reply with
    | error e =>
      rw [hfilled] at hrest
      obtain ⟨rfl, rfl⟩ := ends_done_iff.mp hrest
      exact .failed hfilled
    | ok first =>
      rw [hfilled] at hrest
      obtain ⟨more, hmore, rfl⟩ := ends_bind_done_iff.mp hrest
      exact .read hfilled (ih hmore)

namespace ReadsChunks

theorem stopsAtFailure (h : ReadsChunks log feature page l t r) : StopsAtFailure t r := by
  induction h with
  | nil page => exact .whole (List.forall_mem_nil _)
  | failed hfilled => exact .single (ataFailure_of_error hfilled)
  | read hfilled _ ih => exact (ih.map _).cons (ataFailure_of_ok hfilled)

/-- The command for a piece asks for its pages. -/
theorem ofCdb_chunk {chunk : Bytes} {n : Nat} (hpage : page < 65536)
    (hsize : chunk.size = n * sector) (hn : n ≤ greatestCount) :
    LogTransfer.ofCdb? ((AtaCommand.readLog log page feature
      (.ofNat (chunk.size / sector))).cdb .pioIn false) = some ⟨log, feature, page, n⟩ := by
  have hlt : n < UInt16.size := Nat.lt_succ_of_le hn
  rw [sectors_of_size hsize, LogTransfer.ofCdb_readLog log hpage, UInt16.toNat_ofNat_of_lt' hlt]

variable (log feature) in
theorem carriedBy_chunk {chunk : Bytes} {n : Nat} (hpage : page < 65536)
    (hsize : chunk.size = n * sector) (hn : n ≤ greatestCount)
    (reply : Except SystemError Completion) :
    LogTransfer.CarriedBy ⟨log, feature, page, n⟩ (chunkEvent log feature page chunk reply).1 :=
  .intro _ chunk logTimeout (ofCdb_chunk hpage hsize hn) hsize

variable {greatest n : Nat}

theorem sectors_nil (hn : (Bytes.join []).size = n * sector) : n = 0 := by
  have hempty : (Bytes.join []).size = 0 := rfl
  unfold sector at hn
  omega

/-- The rest of a buffer has the sectors that its first piece has not. -/
theorem size_join_rest {chunk : Bytes} {rest : List Bytes} {k : Nat}
    (hn : (Bytes.join (chunk :: rest)).size = n * sector) (hk : chunk.size = k * sector) :
    k ≤ n ∧ (Bytes.join rest).size = (n - k) * sector := by
  rw [Bytes.join, ByteArray.size_append, hk] at hn
  unfold sector at *
  omega

/-- What is read of a buffer of so many sectors. -/
theorem exists_ranges (h : ReadsChunks log feature page l t r) (hgreatest : greatest ≤ greatestCount)
    (hl : ∀ chunk ∈ l, HoldsSectors greatest chunk) (hn : (Bytes.join l).size = n * sector)
    (hfit : page + n ≤ 65536) :
    ∃ stop transfers, LogTransfer.Ranges log feature greatest page stop t transfers ∧
      stop ≤ page + n ∧ ∀ b, r = .ok b → stop = page + n := by
  induction h generalizing n with
  | nil page =>
    obtain rfl := sectors_nil hn
    exact ⟨page, [], .nil log feature greatest page, Nat.le_refl _, fun _ _ => rfl⟩
  | @failed page chunk rest reply e hfilled =>
    obtain ⟨k, hk, hpos, hle⟩ := hl chunk List.mem_cons_self
    obtain ⟨hkn, -⟩ := size_join_rest hn hk
    have hlt : page < 65536 := by omega
    have hcarried := carriedBy_chunk log feature hlt hk (Nat.le_trans hle hgreatest) reply
    exact ⟨page + k, _, .cons hcarried hpos hle (.nil log feature greatest _), by omega, nofun⟩
  | @read page chunk first rest reply t r hfilled _ ih =>
    obtain ⟨k, hk, hpos, hle⟩ := hl chunk List.mem_cons_self
    obtain ⟨hkn, hrest⟩ := size_join_rest hn hk
    have hpage : page + chunk.size / sector = page + k := by rw [sectors_of_size hk]
    have hlt : page < 65536 := by omega
    have hcarried := carriedBy_chunk log feature hlt hk (Nat.le_trans hle hgreatest) reply
    rw [hpage] at ih
    obtain ⟨stop, transfers, hranges, hstop, hwhole⟩ :=
      ih (fun c hc => hl c (List.mem_cons_of_mem _ hc)) hrest (by omega)
    refine ⟨stop, _, .cons hcarried hpos hle hranges, by omega, ?_⟩
    intro b hb
    cases r with
    | error e => cases hb
    | ok more =>
      have hend := hwhole more rfl
      omega

/-- From a drive whose logs do not change, a whole read brings its pages. -/
theorem eq_pages (h : ReadsChunks log feature page l t r) (hgreatest : greatest ≤ greatestCount)
    (hl : ∀ chunk ∈ l, HoldsSectors greatest chunk) (hn : (Bytes.join l).size = n * sector)
    (hfit : page + n ≤ 65536) {contents : LogContents} (hserves : ∀ e ∈ t, contents.Serves e)
    {b : Bytes} (hb : r = .ok b) : b = contents.pages log feature page n := by
  induction h generalizing n b with
  | nil page =>
    obtain rfl := sectors_nil hn
    cases hb
    rfl
  | failed hfilled => cases hb
  | @read page chunk first rest reply t r hfilled _ ih =>
    obtain ⟨k, hk, hpos, hle⟩ := hl chunk List.mem_cons_self
    obtain ⟨hkn, hrest⟩ := size_join_rest hn hk
    have hpage : page + chunk.size / sector = page + k := by rw [sectors_of_size hk]
    have hlt : page < 65536 := by omega
    obtain ⟨hfirst, htail⟩ := List.forall_mem_cons.mp hserves
    obtain ⟨completion, rfl, rfl⟩ := exists_of_filled hfilled
    have hdata : completion.data = contents.pages log feature page k :=
      hfirst (ataFailure_of_ok hfilled) _ (ofCdb_chunk hlt hk (Nat.le_trans hle hgreatest))
    have hsize : completion.data.size = chunk.size := by
      rw [hdata, LogContents.size_pages, hk]
    have hword : chunk.size < 2 ^ 32 := by
      unfold greatestCount at hgreatest
      unfold sector at hk
      omega
    rw [hpage] at ih
    cases r with
    | error e => cases hb
    | ok more =>
      cases hb
      have hmore := ih (fun c hc => hl c (List.mem_cons_of_mem _ hc)) hrest (by omega) htail rfl
      have hsum : n = k + (n - k) := by omega
      rw [received_of_size hsize hword, hmore, hdata, hsum, LogContents.pages_add,
        Nat.add_sub_cancel_left]

end ReadsChunks
end Conversations

/-- The most pages that one command asks for. -/
def limit (hint : UInt32) : Nat := min (if hint = 0 then 128 else hint.toNat) 65535

theorem perCommand_eq_limit (hint : UInt32) : perCommand hint = limit hint := by
  unfold perCommand limit
  split
  · rfl
  · rfl

theorem limit_bounds (hint : UInt32) : 0 < limit hint ∧ limit hint ≤ greatestCount := by
  unfold limit greatestCount
  by_cases h : hint = 0
  · rw [if_pos h]
    decide
  · have hpos : 0 < hint.toNat := Nat.pos_of_ne_zero fun hzero => h (UInt32.toNat_inj.mp hzero)
    rw [if_neg h]
    omega

/-- A read of so many pages of a log, from a page on. -/
structure Seamless (log : UInt8) (feature : UInt16) (hint : UInt32) (page pages : Nat)
    (t : Trace Call Call.Reply) (r : Except TransportError Bytes) : Prop where
  /-- The commands ask for ranges that lie one behind the other, and for all of them unless one
  fails. -/
  ranges : ∃ stop transfers, LogTransfer.Ranges log feature (limit hint) page stop t transfers ∧
    stop ≤ page + pages ∧ ∀ b, r = .ok b → stop = page + pages
  stops : StopsAtFailure t r

section Read

variable {log : UInt8} {page feature : UInt16} {hint : UInt32} {buffer : Bytes}
  {t : Trace Call Call.Reply} {r : Except TransportError Bytes}

/-- A read of whole sectors goes over the pieces of its buffer. -/
theorem exists_chunks (hwhole : buffer.size % sector = 0)
    (h : Ends (read log page feature hint buffer) t r) :
    ∃ l, ReadsChunks log feature page.toNat l t r ∧
      (∀ chunk ∈ l, HoldsSectors (limit hint) chunk) ∧ Bytes.join l = buffer := by
  have hpos := (limit_bounds hint).1
  unfold read at h
  rw [if_neg (not_not.mpr hwhole), perCommand_eq_limit] at h
  exact ⟨_, readsChunks_of_ends h, holdsSectors_chunks hpos hwhole,
    join_chunks (Nat.mul_pos hpos (by decide)) buffer⟩

theorem seamless_of_ends (hwhole : buffer.size % sector = 0)
    (hfit : page.toNat + buffer.size / sector ≤ 65536)
    (h : Ends (read log page feature hint buffer) t r) :
    Seamless log feature hint page.toNat (buffer.size / sector) t r := by
  obtain ⟨l, hreads, hsectors, rfl⟩ := exists_chunks hwhole h
  have hsize := (Nat.div_mul_cancel (Nat.dvd_of_mod_eq_zero hwhole)).symm
  exact ⟨hreads.exists_ranges (limit_bounds hint).2 hsectors hsize hfit, hreads.stopsAtFailure⟩

theorem eq_pages_of_ends (hwhole : buffer.size % sector = 0)
    (hfit : page.toNat + buffer.size / sector ≤ 65536) {contents : LogContents}
    (hserves : ∀ e ∈ t, contents.Serves e) {b : Bytes}
    (h : Ends (read log page feature hint buffer) t (.ok b)) :
    b = contents.pages log feature page.toNat (buffer.size / sector) := by
  obtain ⟨l, hreads, hsectors, rfl⟩ := exists_chunks hwhole h
  have hsize := (Nat.div_mul_cancel (Nat.dvd_of_mod_eq_zero hwhole)).symm
  exact hreads.eq_pages (limit_bounds hint).2 hsectors hsize hfit hserves rfl

end Read

/-- A drive that answers every command has its pages read. -/
theorem run_read_obliging (contents : LogContents) (log : UInt8) (page feature : UInt16)
    (hint : UInt32) {buffer : Bytes} (hwhole : buffer.size % sector = 0)
    (hfit : page.toNat + buffer.size / sector ≤ 65536) :
    (run (obliging contents.dataOf) (read log page feature hint buffer) ()).1 =
      .ok (contents.pages log feature page.toNat (buffer.size / sector)) := by
  have hends := ends_conversation (obliging contents.dataOf) (read log page feature hint buffer) ()
  have hserves := forall_mem_conversation contents.servedBy_obliging
    (read log page feature hint buffer) ()
  have hnone := forall_mem_conversation (P := fun e => ataFailure? e = none)
    (ataFailure_obliging contents.dataOf) (read log page feature hint buffer) ()
  obtain ⟨b, hb⟩ := (seamless_of_ends hwhole hfit hends).stops.exists_ok hnone
  rw [hb] at hends
  rw [hb, eq_pages_of_ends hwhole hfit hserves hends]

/-- Whatever the kernel answers, a read is seamless, and if the logs do not change it brings the
pages in order, whatever the hint. -/
theorem read_seamless {σ : Type} (kernel : (c : Call) → σ → c.Reply × σ) (s : σ) (log : UInt8)
    (page feature : UInt16) (hint : UInt32) {buffer : Bytes} (hwhole : buffer.size % sector = 0)
    (hfit : page.toNat + buffer.size / sector ≤ 65536) :
    Seamless log feature hint page.toNat (buffer.size / sector)
      (conversation kernel (read log page feature hint buffer) s)
      (run kernel (read log page feature hint buffer) s).1 ∧
    ∀ contents : LogContents, contents.ServedBy kernel →
      ∀ b, (run kernel (read log page feature hint buffer) s).1 = .ok b →
        b = contents.pages log feature page.toNat (buffer.size / sector) ∧
        ∀ hint' s' b', (run kernel (read log page feature hint' buffer) s').1 = .ok b' →
          b' = b := by
  have hpages : ∀ contents : LogContents, contents.ServedBy kernel → ∀ hint s b,
      (run kernel (read log page feature hint buffer) s).1 = .ok b →
        b = contents.pages log feature page.toNat (buffer.size / sector) := by
    intro contents hserved hint s b hb
    have hends := ends_conversation kernel (read log page feature hint buffer) s
    rw [hb] at hends
    exact eq_pages_of_ends hwhole hfit (forall_mem_conversation hserved _ s) hends
  refine ⟨seamless_of_ends hwhole hfit (ends_conversation kernel _ s), ?_⟩
  intro contents hserved b hb
  have hfirst := hpages contents hserved hint s b hb
  refine ⟨hfirst, ?_⟩
  intro hint' s' b' hb'
  rw [hfirst]
  exact hpages contents hserved hint' s' b' hb'

/-- Two pages from page 1 on are read by two commands if the hint is one page. -/
theorem read_seamless_two :
    (Bytes.zeros 1024).size % sector = 0 ∧
    (1 : UInt16).toNat + (Bytes.zeros 1024).size / sector ≤ 65536 ∧
    Seamless 0xA6 0 1 1 2
      (conversation (obliging LogContents.blank.dataOf) (read 0xA6 1 0 1 (.zeros 1024)) ())
      (run (obliging LogContents.blank.dataOf) (read 0xA6 1 0 1 (.zeros 1024)) ()).1 ∧
    (run (obliging LogContents.blank.dataOf) (read 0xA6 1 0 1 (.zeros 1024)) ()).1 =
      .ok (LogContents.blank.pages 0xA6 0 1 2) := by
  have hsize : (Bytes.zeros 1024).size = 1024 := Bytes.size_zeros 1024
  have hwhole : (Bytes.zeros 1024).size % sector = 0 := by rw [hsize]; rfl
  have hfit : (1 : UInt16).toNat + (Bytes.zeros 1024).size / sector ≤ 65536 := by
    rw [hsize]
    decide
  have hseamless := (read_seamless (obliging LogContents.blank.dataOf) () 0xA6 1 0 1 hwhole hfit).1
  have hrun := run_read_obliging LogContents.blank 0xA6 1 0 1 hwhole hfit
  rw [hsize] at hseamless hrun
  exact ⟨hwhole, hfit, hseamless, hrun⟩

end AtaLog

end DriveHealth.Node
