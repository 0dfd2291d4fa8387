import DriveHealth.ErrorLog.Report
import DriveHealth.Proofs.Ata.OneLine
import DriveHealth.Proofs.ErrorLog.Requests

/-!
The report of an error log, line by line. Its warnings say what the log itself says: that bytes of
it were damaged, that it has no entries, and, if it has entries, that older ones are missing.
-/
namespace DriveHealth.ErrorLog

open Program Text

def partialWarning : String := "Warning: log could only be read partially"

def checksumWarning : String := "Warning: log checksum is invalid"

def noEntries : String := "No errors logged"

/-! The report falls apart into its lines. -/

theorem oneLine_sincePowerOn (milliseconds : Nat) : OneLine (Units.sincePowerOn milliseconds) := by
  unfold Units.sincePowerOn
  dsimp only
  apply oneLine_ite <;> simp
  all_goals and_intros <;> exact oneLine_ofList (by decide)

theorem CommandRecord.oneLine_text (c : CommandRecord) : OneLine c.text := by
  unfold CommandRecord.text
  cases c.reset? with
  | some reset => cases reset <;> exact oneLine_ofList (by decide)
  | none => exact Ata.Command.oneLine_text c.registers

theorem ErrorRecord.oneLine_stateLabel (e : ErrorRecord) : OneLine e.stateLabel := by
  unfold ErrorRecord.stateLabel
  split
  all_goals try with_reducible apply oneLine_ite
  all_goals exact oneLine_ofList (by decide)

namespace Entry

theorem oneLine_commandRow {time text : String} (htime : OneLine time) (htext : OneLine text) :
    OneLine (commandRow time text) := by
  unfold commandRow
  simp only [oneLine_append, oneLine_padRight, htime, htext, and_true]
  and_intros <;> exact oneLine_ofList (by decide)

theorem oneLine_commandLines (l : List CommandRecord) : ∀ s ∈ commandLines l, OneLine s := by
  unfold commandLines
  split
  · exact List.forall_mem_nil _
  · refine List.forall_mem_append.mpr ⟨?_, ?_⟩
    · refine List.forall_mem_cons.mpr ⟨oneLine_ofList (by decide), List.forall_mem_singleton.mpr ?_⟩
      exact oneLine_commandRow (oneLine_ofList (by decide)) (oneLine_ofList (by decide))
    · intro s hs
      obtain ⟨c, -, rfl⟩ := List.mem_map.mp hs
      exact oneLine_commandRow (oneLine_sincePowerOn _) c.oneLine_text

theorem oneLine_lines (number : UInt32) (e : Entry) : ∀ s ∈ e.lines number, OneLine s := by
  have hlabel := e.error.oneLine_stateLabel
  have herror : OneLine e.errorText := e.failure.oneLine_text
  unfold lines
  rw [List.forall_mem_append, List.forall_mem_cons, List.forall_mem_cons, List.forall_mem_cons,
    List.forall_mem_singleton]
  refine ⟨⟨oneLine_ofList (by decide), ?_, ?_, ?_⟩, oneLine_commandLines e.commands⟩
  all_goals simp only [toString, oneLine_append, oneLine_repr, hlabel, herror, and_true]
  all_goals and_intros <;> exact oneLine_ofList (by decide)

end Entry

theorem Source.oneLine_label (source : Source) : OneLine source.label := by
  cases source <;> exact oneLine_ofList (by decide)

theorem oneLine_headingLines (log : ErrorLog) : ∀ s ∈ headingLines log, OneLine s := by
  have hlabel := log.source.oneLine_label
  unfold headingLines
  rw [List.forall_mem_append, List.forall_mem_cons, List.forall_mem_singleton]
  refine ⟨⟨?_, ?_⟩, ?_⟩
  · simp only [toString, oneLine_append, oneLine_repr, hlabel, and_true, true_and]
    and_intros <;> exact oneLine_ofList (by decide)
  · simp only [toString, oneLine_append, oneLine_repr, and_true]
    exact oneLine_ofList (by decide)
  · split
    · exact List.forall_mem_nil _
    · exact List.forall_mem_singleton.mpr (oneLine_ofList (by decide))

theorem oneLine_entryLines (l : List NumberedEntry) : ∀ s ∈ entryLines l, OneLine s := by
  intro s hs
  obtain ⟨e, -, hline⟩ := List.mem_flatMap.mp hs
  exact e.entry.oneLine_lines e.number s hline

theorem oneLine_lines (log : ErrorLog) : ∀ s ∈ log.lines, OneLine s := by
  unfold lines
  rw [List.forall_mem_append]
  refine ⟨log.oneLine_headingLines, ?_⟩
  split
  · exact List.forall_mem_singleton.mpr (oneLine_ofList (by decide))
  · rw [List.forall_mem_append]
    refine ⟨?_, oneLine_entryLines log.entries⟩
    split
    · exact List.forall_mem_singleton.mpr (oneLine_ofList (by decide))
    · exact List.forall_mem_nil _

theorem linesOf_text (log : ErrorLog) : linesOf log.text = log.lines :=
  linesOf_ofLines log.oneLine_lines

/-! A warning begins with a letter that no other line begins with. -/

def Opens (c : Char) (s : String) : Prop := s.toList.head? = some c

theorem opens_ofList (c : Char) (l : List Char) : Opens c (String.ofList (c :: l)) := by
  rw [Opens, String.toList_ofList, List.head?_cons]

section Opens

variable {c d : Char} {s t : String}

theorem Opens.append (h : Opens c s) : Opens c (s ++ t) := by
  rw [Opens, String.toList_append, List.head?_append, h, Option.some_or]

theorem Opens.unique (h : Opens c s) (h' : Opens d s) : c = d :=
  Option.some.inj (h.symm.trans h')

theorem Source.opens_label (source : Source) :
    Opens 'E' source.label ∨ Opens 'C' source.label ∨ Opens 'S' source.label := by
  cases source with
  | extended => exact .inl (opens_ofList _ _)
  | comprehensive => exact .inr (.inl (opens_ofList _ _))
  | summary => exact .inr (.inr (opens_ofList _ _))

theorem Entry.opens_commandRow (time text : String) : Opens ' ' (commandRow time text) :=
  (opens_ofList _ _).append.append.append

theorem Entry.opens_lines {number : UInt32} {e : Entry} (h : s ∈ e.lines number) :
    s = "" ∨ Opens 'E' s ∨ Opens ' ' s := by
  unfold lines at h
  rw [List.mem_append] at h
  rcases h with h | h
  · simp only [List.mem_cons, List.not_mem_nil, or_false] at h
    rcases h with rfl | rfl | rfl | rfl
    · exact .inl rfl
    · exact .inr (.inl (opens_ofList _ _).append.append.append.append)
    · exact .inr (.inr (opens_ofList _ _).append)
    · exact .inr (.inr (opens_ofList _ _).append)
  · refine .inr (.inr ?_)
    unfold commandLines at h
    split at h
    · cases h
    · rw [List.mem_append, List.mem_cons, List.mem_singleton] at h
      rcases h with (rfl | rfl) | h
      · exact opens_ofList _ _
      · exact opens_commandRow _ _
      · obtain ⟨c, -, rfl⟩ := List.mem_map.mp h
        exact opens_commandRow _ _

theorem not_mem_entryLines (h : Opens c s) (hE : c ≠ 'E') (hblank : c ≠ ' ')
    (l : List NumberedEntry) : s ∉ entryLines l := by
  intro hmem
  obtain ⟨e, -, hline⟩ := List.mem_flatMap.mp hmem
  rcases e.entry.opens_lines hline with rfl | hopens | hopens
  · cases h
  · exact hE (h.unique hopens)
  · exact hblank (h.unique hopens)

theorem mem_headingLines_iff (h : Opens c s) (hc : c ∉ ['E', 'C', 'S', 'D']) (log : ErrorLog) :
    s ∈ headingLines log ↔ log.checksumValid = false ∧ s = checksumWarning := by
  have hlabel : s ≠ log.source.label ++ s!" (version {log.header.version.toNat})" := by
    rintro rfl
    rcases log.source.opens_label with hopens | hopens | hopens <;>
      exact hc (by simp [h.unique hopens.append])
  have hcount : s ≠ s!"Device error count: {log.header.errorCount.toNat}" := by
    rintro rfl
    exact hc (by simp [h.unique (d := 'D') (opens_ofList _ _).append])
  unfold headingLines
  rw [List.mem_append, List.mem_cons, List.mem_singleton, or_iff_right hlabel,
    or_iff_right hcount]
  cases log.checksumValid with
  | true => simp
  | false => simp [checksumWarning]

/-- When a line that begins like a warning stands in a report. -/
theorem mem_lines_iff (h : Opens c s) (hc : c ∉ [' ', 'E', 'C', 'S', 'D']) (log : ErrorLog) :
    s ∈ log.lines ↔ (log.checksumValid = false ∧ s = checksumWarning) ∨
      (log.entries = [] ∧ s = noEntries) ∨
      (log.entries ≠ [] ∧ log.truncated = true ∧ s = partialWarning) := by
  rw [List.mem_cons, not_or] at hc
  have hentries : s ∉ entryLines log.entries :=
    not_mem_entryLines h (List.ne_of_not_mem_cons hc.2) hc.1 log.entries
  unfold lines
  rw [List.mem_append, mem_headingLines_iff h hc.2]
  refine or_congr_right ?_
  by_cases hnil : log.entries = []
  · simp [hnil, noEntries]
  · cases log.truncated with
    | true => simp [hnil, hentries, partialWarning]
    | false => simp [hnil, hentries]

end Opens

section Report

variable (log : ErrorLog)

theorem partialWarning_mem_iff :
    partialWarning ∈ linesOf log.text ↔ log.truncated = true ∧ log.entries ≠ [] := by
  have hopens : Opens 'W' partialWarning := opens_ofList _ _
  rw [linesOf_text, mem_lines_iff hopens (by decide)]
  simp +decide [and_comm]

theorem noEntries_mem_iff : noEntries ∈ linesOf log.text ↔ log.entries = [] := by
  have hopens : Opens 'N' noEntries := opens_ofList _ _
  rw [linesOf_text, mem_lines_iff hopens (by decide)]
  simp +decide

theorem checksumWarning_mem_iff :
    checksumWarning ∈ linesOf log.text ↔ log.checksumValid = false := by
  have hopens : Opens 'W' checksumWarning := opens_ofList _ _
  rw [linesOf_text, mem_lines_iff hopens (by decide)]
  simp +decide

end Report

/-- Whether a log is cut, and how many entries it has. -/
def extent (log : ErrorLog) : Bool × Nat := (log.truncated, log.entries.length)

theorem exists_log_of_extent {result : Except Error ErrorLog} {cut : Bool} {n : Nat}
    (h : result.toOption.map extent = some (cut, n)) :
    ∃ log, result = .ok log ∧ log.truncated = cut ∧ log.entries.length = n := by
  cases result with
  | error e => cases h
  | ok log =>
    cases h
    exact ⟨log, rfl, rfl, rfl⟩

/-- What a report says of a log whose pages were asked for. -/
structure Reported (log : ErrorLog) (loads : List PageLoad) : Prop where
  truncated_iff : log.truncated = true ↔ ∃ load ∈ loads, load.isOk = false
  /-- That older entries are missing is said only if there are entries. -/
  partialWarning_iff : partialWarning ∈ linesOf log.text ↔
    log.truncated = true ∧ log.entries ≠ []
  noEntries_iff : noEntries ∈ linesOf log.text ↔ log.entries = []
  checksumWarning_iff : checksumWarning ∈ linesOf log.text ↔ log.checksumValid = false

theorem readSource_reported {σ : Type} (handler : (r : Request) → σ → r.Reply × σ) (s : σ)
    (source : Source) (pages : UInt16) {log : ErrorLog}
    (hlog : (run handler (readSource source pages) s).1 = .ok log) :
    ∃ loads, conversation handler (readSource source pages) s =
      loads.map (PageLoad.event source) ∧ Reported log loads := by
  obtain ⟨first, rest, visited, hsplit, hreads⟩ :=
    readsSource_of_ends (ends_conversation handler (readSource source pages) s)
  rw [hlog] at hreads
  cases hreads with
  | @walked data _ _ _ _ hvisits =>
    refine ⟨_, hsplit, ?_, log.partialWarning_mem_iff, log.noEntries_mem_iff,
      log.checksumWarning_mem_iff⟩
    have hfirst : ¬ PageLoad.isOk ⟨0, .ok data⟩ = false := Bool.noConfusion
    rw [hvisits.cut_iff, List.exists_mem_cons_iff, or_iff_right hfirst]

/-- An entry was read before the walk came to a page that cannot be read. -/
theorem readSource_reported_cut :
    ∃ log, (run serveOnlyPage (readSource .extended 2) ()).1 = .ok log ∧
      partialWarning ∈ linesOf log.text := by
  have hextent : (run serveOnlyPage (readSource .extended 2) ()).1.toOption.map extent =
      some (true, 1) := by
    decide +kernel
  obtain ⟨log, hrun, hcut, hlength⟩ := exists_log_of_extent hextent
  obtain ⟨loads, -, hreported⟩ := readSource_reported serveOnlyPage () .extended 2 hrun
  refine ⟨log, hrun, hreported.partialWarning_iff.mpr ⟨hcut, ?_⟩⟩
  exact List.ne_nil_of_length_eq_add_one hlength

/-- A page that counts one error, of which the entry is in the first slot of the next page. -/
def oneErrorBehind : Bytes :=
  .ofList ([1, 0, 5, 0] ++ List.replicate 496 0 ++ [1, 0] ++ List.replicate 9 0 ++ [249])

def serveOneErrorBehind : (r : Request) → Unit → r.Reply × Unit
  | .readLog _ i _ _ _, s => (if i = 0 then .ok oneErrorBehind else .error .unsupported, s)
  | r, s => serveOnlyPage r s

/-- No entry is read when the walk starts on a page that cannot be read, and the report is that of
an empty log. -/
theorem not_readSource_warned :
    ¬ ∀ (handler : (r : Request) → Unit → r.Reply × Unit) (source : Source) (pages : UInt16)
      (log : ErrorLog), (run handler (readSource source pages) ()).1 = .ok log →
      (partialWarning ∈ linesOf log.text ↔ log.truncated = true) ∧
      (noEntries ∈ linesOf log.text → log.entries = [] ∧ log.truncated = false) ∧
      (checksumWarning ∈ linesOf log.text ↔ log.checksumValid = false) := by
  intro hall
  have hextent : (run serveOneErrorBehind (readSource .extended 2) ()).1.toOption.map extent =
      some (true, 0) := by
    decide +kernel
  obtain ⟨log, hrun, hcut, hlength⟩ := exists_log_of_extent hextent
  obtain ⟨hwarned, -, -⟩ := hall serveOneErrorBehind .extended 2 log hrun
  obtain ⟨-, hentries⟩ := log.partialWarning_mem_iff.mp (hwarned.mpr hcut)
  exact hentries (List.eq_nil_of_length_eq_zero hlength)

end DriveHealth.ErrorLog
