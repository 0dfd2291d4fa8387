import DriveHealth.Proofs.Conversation.Asked
import DriveHealth.Proofs.Farm.Gathered

/-!
The room for a pull. A pull that runs out of room for a buffer fails as a whole, so one that ends
with datasets had room for every transfer, and its datasets are those of the reads that succeeded.
-/
namespace DriveHealth.Farm.Pull

open Program
open DriveHealth.Scsi (DriveTrace)

theorem lt_of_buffer {length alignment : Nat} {b : Bytes} (h : buffer length alignment = .ok b) :
    bufferSize length alignment < addressSpace := by
  unfold buffer at h
  dsimp only at h
  split at h
  · cases h
  · exact Nat.not_le.mp ‹_›

theorem bufferSize_zero (alignment : Nat) : bufferSize 0 alignment = 0 := by
  have hquotient : (0 + max alignment 1 - 1) / max alignment 1 = 0 :=
    Nat.div_eq_of_lt (by omega)
  unfold bufferSize
  dsimp only
  rw [hquotient, Nat.zero_mul]

namespace Ata

variable {alignment : Nat} {hint : UInt32} {t : DriveTrace}

theorem lt_of_pull {l : LogRead} {datasets : List Dataset}
    (h : Ends (l.pull alignment hint) t (.ok datasets)) :
    bufferSize l.length alignment < addressSpace := by
  unfold LogRead.pull at h
  cases hbuffer : buffer l.length alignment with
  | error e =>
    rw [hbuffer] at h
    cases (ends_done_iff.mp h).2
  | ok b => exact lt_of_buffer hbuffer

theorem lt_of_pullAll {reads : List LogRead} {datasets : List Dataset}
    (h : Ends (pullAll alignment hint reads) t (.ok datasets)) :
    ∀ l ∈ reads, bufferSize l.length alignment < addressSpace := by
  induction reads generalizing t datasets with
  | nil => exact List.forall_mem_nil _
  | cons l rest ih =>
    unfold pullAll at h
    obtain ⟨u, v, first, rfl, hpull, hothers⟩ := ends_bind_iff.mp h
    cases first with
    | error e => cases (ends_done_iff.mp hothers).2
    | ok a =>
      obtain ⟨v, w, others, rfl, hall, hdone⟩ := ends_bind_iff.mp hothers
      cases others with
      | error e => cases (ends_done_iff.mp hdone).2
      | ok b => exact List.forall_mem_cons.mpr ⟨lt_of_pull hpull, ih hall⟩

end Ata

namespace Scsi

variable {alignment : Nat} {t : DriveTrace}

theorem Room.append {u : DriveTrace} (h : Room alignment t) (h' : Room alignment u) :
    Room alignment (t ++ u) := by
  intro subpage size hmem
  rcases List.mem_append.mp hmem with hfirst | hrest
  · exact h subpage size hfirst
  · exact h' subpage size hrest

/-- A conversation in which no size is asked for. -/
theorem room_of_asks {α : Type} {s : Session α} {a : α}
    (hasks : Asks (fun r => ∀ page subpage, r ≠ .logSenseSize page subpage) s) (h : Ends s t a) :
    Room alignment t :=
  fun _ _ hmem => absurd rfl (hasks.of_ends h _ hmem _ _)

theorem asks_readSubpage (subpage : UInt8) (size : Nat) (buffer : Bytes) :
    Asks (fun r => ∀ page subpage, r ≠ .logSenseSize page subpage)
      (readSubpage subpage size buffer) := by
  have hclock : Asks (fun r => ∀ page subpage, r ≠ .logSenseSize page subpage) Session.clock :=
    asks_perform nofun
  unfold readSubpage timed
  refine hclock.bind fun _ => ((asks_perform nofun).bind fun _ => .done _).bind_except ?_ ?_
  · exact fun _ => hclock.bind fun _ => .done _
  · exact fun _ => .done _

theorem room_of_pullSubpage {subpage : UInt8} {reading : Option Reading}
    (h : Ends (pullSubpage alignment subpage) t (.ok reading)) : Room alignment t := by
  unfold pullSubpage at h
  obtain ⟨u, v, reply, rfl, hsize, hrest⟩ := ends_bind_iff.mp h
  obtain rfl := ends_perform_iff.mp hsize
  cases reply with
  | error e =>
    obtain ⟨rfl, _⟩ := ends_done_iff.mp hrest
    intro s n hmem
    cases List.mem_singleton.mp hmem
  | ok size =>
    refine Room.append (t := [sizeEvent subpage (.ok size)]) ?_ ?_
    · intro s n hmem
      cases List.mem_singleton.mp hmem
      cases size with
      | zero =>
        rw [bufferSize_zero]
        decide
      | succ size =>
        cases hbuffer : buffer (size + 1) alignment with
        | error e =>
          simp only [hbuffer] at hrest
          cases (ends_done_iff.mp hrest).2
        | ok b => exact lt_of_buffer hbuffer
    · refine room_of_asks ?_ hrest
      split
      · exact .done _
      · exact .done _
      · split
        · exact .done _
        · exact (asks_readSubpage _ _ _).bind fun _ => .done _

theorem room_of_pullSubpages {kind : Kind} {subpages : List UInt8} {start stop : Option Dataset}
    (h : Ends (pullSubpages alignment kind start subpages) t (.ok stop)) : Room alignment t := by
  induction subpages generalizing t start with
  | nil =>
    obtain ⟨rfl, _⟩ := ends_done_iff.mp h
    exact fun _ _ hmem => absurd hmem List.not_mem_nil
  | cons subpage rest ih =>
    unfold pullSubpages at h
    obtain ⟨u, v, reply, rfl, hpull, hrest⟩ := ends_bind_iff.mp h
    cases reply with
    | error e => cases (ends_done_iff.mp hrest).2
    | ok reading =>
      refine (room_of_pullSubpage hpull).append ?_
      cases reading with
      | none => exact ih hrest
      | some reading => exact ih hrest

theorem room_of_pullAll {groups : List Group} {datasets : List Dataset}
    (h : Ends (pullAll alignment groups) t (.ok datasets)) : Room alignment t := by
  induction groups generalizing t datasets with
  | nil =>
    obtain ⟨rfl, _⟩ := ends_done_iff.mp h
    exact fun _ _ hmem => absurd hmem List.not_mem_nil
  | cons g rest ih =>
    unfold pullAll at h
    obtain ⟨u, v, first, rfl, hpull, hothers⟩ := ends_bind_iff.mp h
    cases first with
    | error e => cases (ends_done_iff.mp hothers).2
    | ok d =>
      obtain ⟨v, w, others, rfl, hall, hdone⟩ := ends_bind_iff.mp hothers
      obtain ⟨rfl, hjoined⟩ := ends_done_iff.mp hdone
      rw [List.append_nil]
      cases others with
      | error e => cases hjoined
      | ok l => exact (room_of_pullSubpages hpull).append (ih hall)

end Scsi

variable {d : Drive} {options : PullOptions} {t : DriveTrace} {datasets : List Dataset}

theorem allocates_of_ok (h : Ends (Farm.pull d options) t (.ok datasets)) :
    Allocates d options t where
  log hkind reads hplan := by
    unfold Farm.pull at h
    rw [hkind] at h
    simp only [Ata.pull, hplan] at h
    exact Ata.lt_of_pullAll h
  subpage hkind := by
    unfold Farm.pull at h
    rw [hkind] at h
    dsimp only [Scsi.pull] at h
    split at h
    · exact Scsi.room_of_pullAll h
    · cases (ends_done_iff.mp h).2

theorem gathers_of_ok (h : Ends (Farm.pull d options) t (.ok datasets)) :
    Gathers d options t datasets := by
  have hsupported : ¬Unsupported d options := by
    intro hunsupported
    obtain ⟨text, hpull⟩ := pull_of_unsupported hunsupported
    rw [hpull] at h
    cases (ends_done_iff.mp h).2
  obtain ⟨l, heq, hgathers⟩ := gathers_of_ends (allocates_of_ok h) hsupported h
  cases heq
  exact hgathers

end DriveHealth.Farm.Pull
