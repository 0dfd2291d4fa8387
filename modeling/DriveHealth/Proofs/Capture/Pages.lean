import DriveHealth.Capture.Device
import DriveHealth.Proofs.Conversation.Asked
import DriveHealth.Proofs.Scsi.Modes

/-!
The pages of a captured drive. A MODE SELECT is the only request that changes them, and it changes
the copies of the one page that it names; a session that sends none leaves the drive as it was,
but for what the drive remembers of the session.
-/
namespace DriveHealth.Capture.Device

open DriveHealth.Scsi Transport Program

theorem lookup_setPage (l : List (Key × Bytes)) (key k : Key) (page : Bytes) :
    (setPage l key page).lookup k = if k = key then some page else l.lookup k := by
  induction l with
  | nil =>
    rw [setPage, List.lookup_cons, List.lookup_nil]
    by_cases hk : k = key
    · rw [if_pos hk, hk, beq_self_eq_true]
    · rw [if_neg hk, beq_eq_false_iff_ne.mpr hk]
  | cons e r ih =>
    obtain ⟨j, p⟩ := e
    by_cases hj : j = key
    · rw [setPage, if_pos hj, List.lookup_cons, List.lookup_cons, hj]
      by_cases hk : k = key
      · rw [if_pos hk, hk, beq_self_eq_true]
      · rw [if_neg hk, beq_eq_false_iff_ne.mpr hk]
    · rw [setPage, if_neg hj, List.lookup_cons, List.lookup_cons, ih]
      by_cases hk : k = j
      · simp only [hk, if_neg hj, beq_self_eq_true]
      · rw [beq_eq_false_iff_ne.mpr hk]

/-- A page that is stored replaces the current copy, and the saved one if it is saved. -/
theorem find?_store {page : Bytes} {code : UInt8} (hcode : page.byteAt 0 &&& 0x3F = code)
    (d : Device) (save : Bool) (key : Key) :
    (d.store page save).find? key =
      if key = .scsiMode code false ∨
        (key = .scsiMode code true ∧ save = true) then some page
      else d.find? key := by
  unfold store find?
  dsimp only
  rw [hcode]
  cases save with
  | false =>
    show (setPage d.pages _ page).lookup key = _
    simp only [lookup_setPage, Bool.false_eq_true, and_false, or_false]
  | true =>
    show (setPage (setPage d.pages _ page) _ page).lookup key = _
    by_cases hsaved : key = .scsiMode code true
    · rw [lookup_setPage, if_pos hsaved, if_pos (.inr ⟨hsaved, rfl⟩)]
    · simp only [lookup_setPage, hsaved, if_false, false_and, or_false]

/-- The second drive has the pages and the manifest of the first one. -/
structure Keeps (d e : Device) : Prop where
  pages_eq : e.pages = d.pages
  manifest_eq : e.manifest = d.manifest

namespace Keeps

variable {c d e : Device}

theorem refl (d : Device) : Keeps d d := ⟨rfl, rfl⟩

theorem trans (h : Keeps c d) (h' : Keeps d e) : Keeps c e :=
  ⟨h'.pages_eq.trans h.pages_eq, h'.manifest_eq.trans h.manifest_eq⟩

theorem find?_eq (h : Keeps d e) (key : Key) : e.find? key = d.find? key := by
  rw [find?, h.pages_eq, find?]

theorem remember (d : Device) (a : Asked) : Keeps d (d.remember a) := ⟨rfl, rfl⟩

theorem fetch (d : Device) (key : Key) : Keeps d (d.fetch key).2 := by
  unfold Device.fetch
  split <;> exact remember d (.page key)

theorem misaligned {α : Type} {d : Device} {b : Bool} {r : α} {p : α × Device}
    (h : Keeps d p.2) : Keeps d (if b then (r, d) else p).2 := by
  cases b with
  | true => exact refl d
  | false => exact h

end Keeps

/-- A MODE SELECT is the only request that changes the pages. -/
theorem keeps_answer {r : Request} (h : isModeSelect r = false) (d : Device) :
    Keeps d (answer r d).2 := by
  cases r with
  | readLog log page feature hint buffer => exact Keeps.misaligned (Keeps.fetch d _)
  | logSense page subpage buffer => exact Keeps.misaligned (Keeps.fetch d _)
  | modeSense form page control buffer =>
    show Keeps d (d.modeSense form page control buffer).2
    unfold modeSense
    split
    · exact Keeps.remember d _
    · exact Keeps.fetch d _
  | modeSelect form data save => cases h
  | smartReadLog log buffer => exact Keeps.fetch d _
  | smartReadData buffer => exact Keeps.fetch d _
  | smartReadThresholds buffer => exact Keeps.fetch d _
  | sctStatus buffer => exact Keeps.fetch d _
  | requestSense buffer => exact Keeps.fetch d _
  | nvmeLog log nsid buffer => exact Keeps.fetch d _
  | returnStatus => exact Keeps.remember d _
  | logSenseSize page subpage => exact Keeps.remember d _
  | clock => exact Keeps.refl d
  | pause milliseconds => exact Keeps.refl d

theorem run_bind {α β : Type} (d : Device) (p : Session α) (f : α → Session β) :
    d.run (p.bind f) = (d.run p).2.run (f (d.run p).1) :=
  Program.run_bind answer p f d

theorem run_perform_bind {α : Type} (d : Device) (r : Request) (f : r.Reply → Session α) :
    d.run ((perform r).bind f) = (answer r d).2.run (f (answer r d).1) :=
  rfl

/-- A session that sends no MODE SELECT leaves the pages alone. -/
theorem keeps_run {α : Type} {p : Session α} (h : ReadsOnly p) (d : Device) :
    Keeps d (d.run p).2 := by
  induction h generalizing d with
  | done a => exact Keeps.refl d
  | ask r next hr _ ih => exact (keeps_answer hr d).trans (ih _ _)

end DriveHealth.Capture.Device
