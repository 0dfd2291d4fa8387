import DriveHealth.Proofs.Node.TransferLength

/-!
The commands that tell another length than that of their data phase. A SMART READ LOG of more than
255 sectors is sent with the lower byte of their number, and a comprehensive error log of so many
pages leads to one. The read of an NVMe log is sent with its whole words, whatever the kernel is
told.
-/
namespace DriveHealth.Node

open Program Transport

/-- Whatever the kernel answers, every call tells and passes on the length of its data. -/
def AlwaysFits {α : Type} (p : Exchange α) : Prop :=
  ∀ (σ : Type) (kernel : (c : Call) → σ → c.Reply × σ) (s : σ),
    ∀ e ∈ conversation kernel p s, Fits e.1

theorem alwaysFits_of_asks {α : Type} {p : Exchange α} (h : Asks Fits p) : AlwaysFits p :=
  fun _ kernel s => h.of_ends (ends_conversation kernel p s)

section Misfits

variable {subcommand : UInt16} {log : UInt8} {buffer : Bytes}

theorem toldLength_smart (subcommand : UInt16) (log : UInt8) (sectors : Nat) :
    toldLength? ((AtaCommand.smart subcommand (.ofNat sectors) log).cdb .pioIn false) =
      some (sectors % 256 * sector) := by
  rw [toldLength_pioIn, sectors_smart]

/-- A command that fits tells its own length and no other. -/
theorem Fits.told_eq {c : Command} {n : Nat} (h : Fits (.command c))
    (htold : toldLength? c.cdb = some n) : c.phase.size = n := by
  obtain ⟨m, hm, -, hsize⟩ := h
  rw [hm] at htold
  exact hsize.trans (Option.some.inj htold)

theorem not_fits_smart (hwhole : buffer.size % sector = 0) (hlong : greatestSmart < buffer.size)
    (timeout : Nat) (reply : Except SystemError Completion) :
    ¬ Fits (ataEvent (.smart subcommand (.ofNat (buffer.size / sector)) log) buffer timeout
      reply).1 := by
  intro hfits
  have hsize : buffer.size = buffer.size / sector % 256 * sector :=
    hfits.told_eq (toldLength_smart subcommand log (buffer.size / sector))
  unfold greatestSmart sector at *
  omega

theorem not_fits_of_ends (hwhole : buffer.size % sector = 0) (hlong : greatestSmart < buffer.size)
    {t : Trace Call Call.Reply} {r : Except TransportError Bytes}
    (h : Ends (Smart.read subcommand log buffer) t r) : ∃ e ∈ t, ¬ Fits e.1 := by
  have hsome : buffer.size ≠ 0 := by omega
  obtain ⟨reply, rfl, -⟩ := (ends_smart_iff hwhole hsome).mp h
  exact ⟨_, List.mem_singleton_self _, not_fits_smart hwhole hlong defaultTimeout reply⟩

theorem not_alwaysFits {α : Type} {p : Exchange α}
    (h : ∀ t a, Ends p t a → ∃ e ∈ t, ¬ Fits e.1) : ¬ AlwaysFits p := by
  intro hall
  obtain ⟨e, he, hmisfit⟩ := h _ _ (ends_conversation (obliging fun _ => .empty) p ())
  exact hmisfit (hall Unit _ () e he)

theorem ends_receiveAdmin {opcode : UInt8} {nsid dword10 dword11 : UInt32}
    {t : Trace Call Call.Reply} {r : Except TransportError Bytes}
    (h : Ends (receiveAdmin opcode nsid dword10 dword11 buffer) t r) :
    ∃ reply, t = [⟨.admin ⟨opcode, nsid, dword10, dword11, buffer, defaultTimeout⟩, reply⟩] := by
  obtain ⟨reply, u, rfl, hrest⟩ := ends_perform_bind_iff.mp h
  have hdone : u = [] := by
    cases reply with
    | error e => exact (ends_done_iff.mp hrest).1
    | ok completion =>
      dsimp only at hrest
      split at hrest <;> exact (ends_done_iff.mp hrest).1
  exact ⟨reply, by rw [hdone]⟩

/-- A log of an NVMe drive is asked for by one command, which tells whole words. -/
theorem ends_nvmeLog {nsid : UInt32} (hsome : wholeWords buffer ≠ 0) {t : Trace Call Call.Reply}
    {r : Except TransportError Bytes} (h : Ends (NvmeLog.read log nsid buffer) t r) :
    ∃ c reply, t = [⟨.admin c, reply⟩] ∧ c.buffer = buffer ∧
      toldAdminLength? c = some (wholeWords buffer) := by
  have hwords : buffer.size / 4 % 2 ^ 32 ≠ 0 := by
    intro hzero
    exact hsome (by rw [wholeWords, hzero])
  unfold NvmeLog.read at h
  dsimp only at h
  rw [if_neg hwords] at h
  obtain ⟨reply, rfl⟩ := ends_receiveAdmin h
  exact ⟨_, reply, rfl, rfl, toldAdminLength_log log hwords (Nat.mod_lt _ (by decide))⟩

theorem not_fits_nvmeLog {nsid : UInt32} (hsome : wholeWords buffer ≠ 0)
    (hmisfits : wholeWords buffer ≠ buffer.size ∨ 2 ^ 32 ≤ buffer.size)
    {t : Trace Call Call.Reply} {r : Except TransportError Bytes}
    (h : Ends (NvmeLog.read log nsid buffer) t r) : ∃ e ∈ t, ¬ Fits e.1 := by
  obtain ⟨c, reply, rfl, rfl, hwords⟩ := ends_nvmeLog hsome h
  refine ⟨_, List.mem_singleton_self _, ?_⟩
  rintro ⟨n, htold, hlength, hsize⟩
  rw [htold] at hwords
  have hlt := c.length.toNat_lt
  rcases hmisfits with hne | hlong
  · exact hne ((Option.some.inj hwords).symm.trans hsize.symm)
  · omega

theorem alwaysFits_answer_iff (f : AtaFeatures) (r : Request) :
    AlwaysFits (answer f r) ↔ ¬ Misfits r := by
  constructor
  · intro hall hmisfits
    revert hall
    cases r with
    | smartReadLog log buffer =>
      exact not_alwaysFits fun t a h => not_fits_of_ends hmisfits.1 hmisfits.2 h
    | nvmeLog log nsid buffer =>
      exact not_alwaysFits fun t a h => not_fits_nvmeLog hmisfits.1 hmisfits.2 h
    | _ => exact hmisfits.elim
  · intro hfits
    exact alwaysFits_of_asks (fits_answer f hfits)

end Misfits

section Comprehensive

open ErrorLog

variable {f : AtaFeatures} {pages : UInt16}

theorem misfits_event_iff (load : PageLoad) :
    Misfits (PageLoad.event .comprehensive load).1 ↔ 255 < load.index.toNat + 1 := by
  show (Bytes.zeros _).size % sector = 0 ∧ greatestSmart < (Bytes.zeros _).size ↔ _
  rw [Bytes.size_zeros]
  unfold greatestSmart sector
  omega

/-- What is asked of the kernel while a log is read stands for the pages that are asked for. -/
theorem exists_loads {source : Source} {v : Trace Call Call.Reply} {a : Except Error ErrorLog}
    (h : Ends (exchange f (readSource source pages)) v a) :
    ∃ first rest visited,
      Expands (answer f) ((⟨0, first⟩ :: rest).map (PageLoad.event source)) v ∧
        Frugal source pages first rest visited := by
  obtain ⟨t, hends, hexpands⟩ := ends_interpret h
  obtain ⟨first, rest, visited, rfl, hreads⟩ := readsSource_of_ends hends
  obtain ⟨cut, hvisits⟩ := hreads.visits
  exact ⟨first, rest, visited, hexpands, frugal_of_visits hvisits⟩

theorem alwaysFits_of_pages_le (h : pages.toNat ≤ 255) :
    AlwaysFits (exchange f (readSource .comprehensive pages)) := by
  intro σ kernel s e he
  obtain ⟨first, rest, visited, hexpands, hfrugal⟩ := exists_loads (ends_conversation kernel _ s)
  obtain ⟨q, hq, u, hanswer, hu⟩ := hexpands.exists_of_mem he
  obtain ⟨load, hload, rfl⟩ := List.mem_map.mp hq
  have hlt := hfrugal.index_lt load hload
  have hfits : ¬ Misfits (PageLoad.event .comprehensive load).1 := by
    rw [misfits_event_iff]
    omega
  exact (fits_answer f hfits).of_ends hanswer e hu

/-- A page of ones: its latest entry is the first one, and more errors were counted. -/
def ringPage : Bytes := .fill sector 1

theorem byteAt_ringPage {i : Nat} (h : i < sector) : ringPage.byteAt i = 1 :=
  Bytes.byteAt_fill 1 h

theorem headerIn_ringPage : headerIn .comprehensive ringPage = ⟨1, 1, 257⟩ := by
  have hsize : ringPage.size = sector := Bytes.size_fill sector 1
  have hpage : pageIn .comprehensive 0 ringPage = ringPage := by
    show ringPage.slice (0 * 512) 512 = ringPage
    rw [Nat.zero_mul, ← sector, ← hsize, Bytes.slice_size]
  rw [headerIn, hpage]
  show (⟨ringPage.byteAt 0, (ringPage.byteAt 1).toUInt16, ringPage.le16 452⟩ : Header) = _
  rw [Bytes.le16, Bytes.leNat, Bytes.leNat, Bytes.leNat, byteAt_ringPage (by decide),
    byteAt_ringPage (by decide), byteAt_ringPage (by decide), byteAt_ringPage (by decide)]
  rfl

/-- The walk goes from the first slot on to the last one, which lies on the last page. -/
theorem exists_slot_on_last {pages : UInt16} (h : 1 < pages.toNat) :
    ∃ slot ∈ slotsAhead .comprehensive pages (.ok ringPage),
      (Walk.pageOf .comprehensive slot).toNat = pages.toNat - 1 := by
  have hlt := pages.toNat_lt
  have hcapacity : Source.comprehensive.capacity pages = pages.toNat * 5 := rfl
  have hone : (1 : UInt16).toNat = 1 := rfl
  refine ⟨pages.toNat * 5 - 1, ?_, ?_⟩
  · have hindex : (1 : UInt16).toNat ≤ pages.toNat * 5 := by omega
    obtain ⟨n, hn⟩ : ∃ n, min (pages.toNat * 5) (257 : UInt16).toNat = n + 2 := by
      refine ⟨min (pages.toNat * 5) 257 - 2, ?_⟩
      have hcount : (257 : UInt16).toNat = 257 := rfl
      omega
    have hpos : (1 : UInt16).toNat ≠ 0 := by decide
    have hvisits : Walk.visits ⟨1, 1, 257⟩ (pages.toNat * 5) = n + 2 := by
      rw [Walk.visits, if_neg (by rw [not_or]; exact ⟨by decide, by omega⟩), hn]
    have hfirst : Walk.firstSlot ⟨1, 1, 257⟩ (pages.toNat * 5) = 0 :=
      (firstSlot_lt hindex hpos).1
    rw [slotsAhead, headerIn_ringPage, hcapacity, if_neg (Nat.not_lt.mpr hindex),
      slots_eq hindex, hvisits, hfirst]
    exact List.mem_cons_of_mem _ List.mem_cons_self
  · show (UInt16.ofNat ((pages.toNat * 5 - 1) / 5)).toNat = _
    rw [UInt16.toNat_ofNat']
    omega

theorem whole_request (i : UInt16) :
    (Bytes.zeros ((i.toNat + 1) * sector)).size % sector = 0 ∧
      (Bytes.zeros ((i.toNat + 1) * sector)).size ≠ 0 := by
  rw [Bytes.size_zeros]
  unfold sector
  omega

/-- A drive that carries out every command answers every request with what it sends. -/
theorem load_of_obliging {data : Bytes} {t : Trace Request Request.Reply}
    {p : Exchange (Except Error ErrorLog)}
    (hexpands : Expands (answer f) t (conversation (obliging fun _ => data) p ()))
    {load : PageLoad} (hload : PageLoad.event .comprehensive load ∈ t) :
    load.reply = .ok (received data (.zeros ((load.index.toNat + 1) * sector))) := by
  obtain ⟨hwhole, hsome⟩ := whole_request load.index
  obtain ⟨u, hanswer, hsub⟩ := hexpands.subset_of_mem hload
  obtain ⟨reply, rfl, hreply⟩ := (ends_smart_iff hwhole hsome).mp hanswer
  obtain ⟨sent, rfl, rfl⟩ := reply_of_obliging (hsub (List.mem_singleton_self _))
  exact hreply

theorem not_alwaysFits_of_lt (h : 255 < pages.toNat) :
    ¬ AlwaysFits (exchange f (readSource .comprehensive pages)) := by
  intro hall
  have hfits := hall Unit (obliging fun _ => ringPage) ()
  have hends := ends_conversation (obliging fun _ => ringPage)
    (exchange f (readSource .comprehensive pages)) ()
  obtain ⟨first, rest, visited, hexpands, hfrugal⟩ := exists_loads hends
  have hreply := fun (load : PageLoad) (hload : load ∈ ⟨0, first⟩ :: rest) =>
    load_of_obliging hexpands (List.mem_map_of_mem hload)
  have hfirst : first = .ok ringPage := by
    have hsize : ringPage.size = (Bytes.zeros sector).size := by
      rw [ringPage, Bytes.size_fill, Bytes.size_zeros]
    have hlength : ((0 : UInt16).toNat + 1) * sector = sector := rfl
    have hzero := hreply ⟨0, first⟩ List.mem_cons_self
    dsimp only at hzero
    have hword : (Bytes.zeros sector).size < 2 ^ 32 := by
      rw [Bytes.size_zeros]
      decide
    rwa [hlength, received_of_size hsize hword] at hzero
  -- no page is refused, so the walk comes to all slots
  have hvisited : visited = slotsAhead .comprehensive pages (.ok ringPage) := by
    rw [← hfirst]
    refine hfrugal.visited_eq fun load hload => ?_
    rw [PageLoad.isOk, hreply load (List.mem_cons_of_mem _ hload)]
    rfl
  obtain ⟨slot, hslot, hlast⟩ := exists_slot_on_last (Nat.lt_trans (by decide) h)
  have hindex : Walk.pageOf .comprehensive slot ≠ 0 := by
    intro hzero
    rw [hzero, UInt16.toNat_zero] at hlast
    omega
  obtain ⟨load, hload, hpage⟩ :=
    List.mem_map.mp ((hfrugal.mem_iff _ hindex).mpr ⟨slot, hvisited ▸ hslot, rfl⟩)
  obtain ⟨hwhole, hlong⟩ := (misfits_event_iff load).mpr (by rw [hpage]; omega)
  obtain ⟨u, hanswer, hsub⟩ :=
    hexpands.subset_of_mem (List.mem_map_of_mem (List.mem_cons_of_mem _ hload))
  obtain ⟨e, he, hmisfit⟩ := not_fits_of_ends hwhole hlong hanswer
  exact hmisfit (hfits e (hsub he))

end Comprehensive

/-- What the commands of a drive with these features tell of the lengths of their data. -/
structure LengthsTold (f : AtaFeatures) : Prop where
  opened : ∀ path, AlwaysFits (openDrive path)
  fits_iff : ∀ r, AlwaysFits (answer f r) ↔ ¬ Misfits r
  /-- The data phase is that of the buffer, cut to what the field of the command can tell. -/
  tells : ∀ r n, dataLength? r = some n → ¬ Misfits r →
    ∀ (σ : Type) (kernel : (c : Call) → σ → c.Reply × σ) (s : σ),
      ∀ e ∈ conversation kernel (answer f r) s, Tells n e.1
  /-- A list that cannot be cut is refused. -/
  refused : ∀ form data save, Mode.greatestLength form < data.size →
    ∃ e, answer f (.modeSelect form data save) = .done (.error e)
  /-- Sectors cannot be cut either. -/
  uneven : ∀ log (buffer : Bytes), buffer.size % sector ≠ 0 →
    (∃ e, answer f (.smartReadLog log buffer) = .done (.error e)) ∧
    ∀ page feature hint, ∃ e, answer f (.readLog log page feature hint buffer) = .done (.error e)
  /-- A longer SMART transfer is sent with the lower byte of the number of its sectors. -/
  wrapped : ∀ log (buffer : Bytes), buffer.size % sector = 0 → greatestSmart < buffer.size →
    ∀ (σ : Type) (kernel : (c : Call) → σ → c.Reply × σ) (s : σ),
      ∃ c reply, conversation kernel (answer f (.smartReadLog log buffer)) s =
          [⟨.command c, reply⟩] ∧ c.phase = .fromDrive buffer ∧
        toldLength? c.cdb = some (buffer.size / sector % 256 * sector) ∧
        c.phase.length.toNat = buffer.size % 2 ^ 32
  /-- A log of an NVMe drive is asked for in whole words, if there is one. -/
  words : ∀ log nsid (buffer : Bytes), wholeWords buffer ≠ 0 →
    ∀ (σ : Type) (kernel : (c : Call) → σ → c.Reply × σ) (s : σ),
      ∃ c reply, conversation kernel (answer f (.nvmeLog log nsid buffer)) s =
          [⟨.admin c, reply⟩] ∧ c.buffer = buffer ∧
        toldAdminLength? c = some (wholeWords buffer) ∧ c.length.toNat = buffer.size % 2 ^ 32
  wordless : ∀ log nsid (buffer : Bytes), wholeWords buffer = 0 →
    ∃ e, answer f (.nvmeLog log nsid buffer) = .done (.error e)
  comprehensive_iff : ∀ pages,
    AlwaysFits (exchange f (ErrorLog.readSource .comprehensive pages)) ↔ pages.toNat ≤ 255

theorem exists_wrapped (f : AtaFeatures) (log : UInt8) {buffer : Bytes}
    (hwhole : buffer.size % sector = 0) (hlong : greatestSmart < buffer.size) {σ : Type}
    (kernel : (c : Call) → σ → c.Reply × σ) (s : σ) :
    ∃ c reply, conversation kernel (answer f (.smartReadLog log buffer)) s =
        [⟨.command c, reply⟩] ∧ c.phase = .fromDrive buffer ∧
      toldLength? c.cdb = some (buffer.size / sector % 256 * sector) ∧
      c.phase.length.toNat = buffer.size % 2 ^ 32 := by
  have hsome : buffer.size ≠ 0 := by omega
  obtain ⟨reply, ht, -⟩ := (ends_smart_iff hwhole hsome).mp
    (ends_conversation kernel (Smart.read Smart.readLog log buffer) s)
  exact ⟨_, reply, ht, rfl, toldLength_smart Smart.readLog log (buffer.size / sector),
    toNat_lengthWord buffer⟩

theorem exists_words (f : AtaFeatures) (log : UInt8) (nsid : UInt32) {buffer : Bytes}
    (hsome : wholeWords buffer ≠ 0) {σ : Type} (kernel : (c : Call) → σ → c.Reply × σ) (s : σ) :
    ∃ c reply, conversation kernel (answer f (.nvmeLog log nsid buffer)) s =
        [⟨.admin c, reply⟩] ∧ c.buffer = buffer ∧
      toldAdminLength? c = some (wholeWords buffer) ∧ c.length.toNat = buffer.size % 2 ^ 32 := by
  obtain ⟨c, reply, ht, rfl, htold⟩ :=
    ends_nvmeLog hsome (ends_conversation kernel (NvmeLog.read log nsid buffer) s)
  exact ⟨c, reply, ht, rfl, htold, toNat_lengthWord c.buffer⟩

theorem nvmeLog_wordless (log : UInt8) (nsid : UInt32) {buffer : Bytes}
    (h : wholeWords buffer = 0) : ∃ e, NvmeLog.read log nsid buffer = .done (.error e) := by
  have hwords : buffer.size / 4 % 2 ^ 32 = 0 :=
    (Nat.mul_eq_zero.mp h).resolve_left (by decide)
  unfold NvmeLog.read
  exact ⟨_, if_pos hwords⟩

theorem lengthsTold (f : AtaFeatures) : LengthsTold f where
  opened := fun path => alwaysFits_of_asks (fits_openDrive path)
  fits_iff := alwaysFits_answer_iff f
  tells := fun r n hn hfits σ kernel s =>
    (tells_answer f hfits hn).of_ends (ends_conversation kernel (answer f r) s)
  refused := fun form data save hlong => ⟨_, if_pos hlong⟩
  uneven := fun log buffer huneven =>
    ⟨⟨_, if_pos (.inl huneven)⟩, fun page feature hint => ⟨_, if_pos huneven⟩⟩
  wrapped := fun log buffer hwhole hlong σ kernel s =>
    exists_wrapped f log hwhole hlong kernel s
  words := fun log nsid buffer hsome σ kernel s => exists_words f log nsid hsome kernel s
  wordless := fun log nsid buffer hnone => nvmeLog_wordless log nsid hnone
  comprehensive_iff := by
    intro pages
    constructor
    · intro hall
      by_contra hlong
      exact not_alwaysFits_of_lt (Nat.not_le.mp hlong) hall
    · exact alwaysFits_of_pages_le

/-- A SMART log of 256 sectors is asked for with a count of zero. -/
theorem not_alwaysFits_answer : ¬ ∀ (f : AtaFeatures) (r : Request), AlwaysFits (answer f r) := by
  intro hall
  have hsize : (Bytes.zeros (256 * sector)).size = 256 * sector := Bytes.size_zeros _
  have hmisfits : Misfits (.smartReadLog 2 (.zeros (256 * sector))) := by
    show (Bytes.zeros (256 * sector)).size % sector = 0 ∧ _ < (Bytes.zeros (256 * sector)).size
    rw [hsize]
    decide
  exact (alwaysFits_answer_iff {} _).mp (hall {} _) hmisfits

end DriveHealth.Node
