import DriveHealth.Proofs.Capture.Pages
import DriveHealth.Proofs.Transport.Requests

/-!
The alignment of a captured drive, as a check and the error log feel it. Both ask for logs in
transfers of one length, which they do not round up to the alignment. A drive that takes this
length shows its logs as if it had no alignment, and any other drive shows itself as if its logs
had never been captured.
-/
namespace DriveHealth.Capture

open Transport Program

/-- A page that is read by log transfers, which must be aligned. -/
def Key.isLog : Key → Bool
  | .ataLog _ _ | .scsiLog _ _ => true
  | _ => false

def Manifest.aligned (m : Manifest) (alignment : Nat) : Manifest :=
  { m with restrictions := { m.restrictions with alignment := alignment } }

/-- Whether a drive of an alignment takes log transfers of a length. -/
def Takes (alignment length : Nat) : Prop := alignment = 0 ∨ alignment ∣ length

instance (alignment length : Nat) : Decidable (Takes alignment length) :=
  inferInstanceAs (Decidable (_ ∨ _))

namespace Device

def aligned (d : Device) (alignment : Nat) : Device :=
  { d with manifest := d.manifest.aligned alignment }

def withoutLogs (d : Device) : Device :=
  { d with pages := d.pages.filter fun p => !p.1.isLog }

theorem misaligned_eq_false_iff {d : Device} {length : Nat} :
    d.misaligned length = false ↔ Takes d.manifest.restrictions.alignment length := by
  unfold misaligned Takes
  rw [Nat.dvd_iff_mod_eq_zero, Decidable.or_iff_not_imp_left]
  simp

theorem find?_withoutLogs (d : Device) (key : Key) :
    d.withoutLogs.find? key = if key.isLog = true then none else d.find? key := by
  unfold withoutLogs find?
  dsimp only
  induction d.pages with
  | nil => simp
  | cons e r ih =>
    obtain ⟨k, page⟩ := e
    by_cases hkey : key = k
    · subst hkey
      by_cases hlog : key.isLog = true
      · rw [List.filter_cons_of_neg (by simp [hlog]), ih, if_pos hlog, if_pos hlog]
      · rw [List.filter_cons_of_pos (by simp [hlog]), List.lookup_cons_self, if_neg hlog,
          List.lookup_cons_self]
    · have hne : (key == k) = false := beq_eq_false_iff_ne.mpr hkey
      rw [List.lookup_cons, hne]
      by_cases hlog : k.isLog = true
      · rw [List.filter_cons_of_neg (by simp [hlog]), ih]
      · rw [List.filter_cons_of_pos (by simp [hlog]), List.lookup_cons, hne, ih]

/-- The second drive has no alignment, and it has the logs of the first one if that takes log
transfers of the length. -/
structure Shows (alignment length : Nat) (d e : Device) : Prop where
  alignment_eq : d.manifest.restrictions.alignment = alignment
  manifest_eq : e.manifest = d.manifest.aligned 0
  find?_eq : ∀ key, e.find? key =
    if key.isLog = true ∧ ¬Takes alignment length then none else d.find? key

/-- The two drives answer a session alike. -/
def Alike (alignment length : Nat) {α : Type} (p : Session α) : Prop :=
  ∀ d e, Shows alignment length d e →
    (e.run p).1 = (d.run p).1 ∧ Shows alignment length (d.run p).2 (e.run p).2

/-- The two drives answer a request alike. -/
def Serves (alignment length : Nat) (r : Request) : Prop :=
  ∀ d e, Shows alignment length d e →
    (answer r e).1 = (answer r d).1 ∧ Shows alignment length (answer r d).2 (answer r e).2

variable {alignment length : Nat}

namespace Shows

variable {d e : Device}

theorem remember (h : Shows alignment length d e) (a b : Asked) :
    Shows alignment length (d.remember a) (e.remember b) :=
  ⟨h.alignment_eq, h.manifest_eq, h.find?_eq⟩

theorem find?_of_shown (h : Shows alignment length d e) {key : Key}
    (hkey : key.isLog = true → Takes alignment length) : e.find? key = d.find? key := by
  rw [h.find?_eq, if_neg]
  rintro ⟨hlog, hhidden⟩
  exact hhidden (hkey hlog)

theorem fetch (h : Shows alignment length d e) {key : Key}
    (hkey : key.isLog = true → Takes alignment length) :
    (e.fetch key).1 = (d.fetch key).1 ∧
      Shows alignment length (d.fetch key).2 (e.fetch key).2 := by
  unfold Device.fetch
  rw [h.find?_of_shown hkey]
  cases d.find? key with
  | some page => exact ⟨rfl, h.remember _ _⟩
  | none => exact ⟨rfl, h.remember _ _⟩

theorem store (h : Shows alignment length d e) (page : Bytes) (save : Bool) :
    Shows alignment length (d.store page save) (e.store page save) := by
  refine ⟨h.alignment_eq, h.manifest_eq, fun key => ?_⟩
  rw [find?_store rfl, find?_store rfl]
  by_cases hkey : key = .scsiMode (page.byteAt 0 &&& 0x3F) false ∨
      (key = .scsiMode (page.byteAt 0 &&& 0x3F) true ∧ save = true)
  · have hlog : ¬(key.isLog = true ∧ ¬Takes alignment length) := by
      rcases hkey with rfl | ⟨rfl, _⟩ <;> exact fun h => Bool.false_ne_true h.1
    rw [if_pos hkey, if_pos hkey, if_neg hlog]
  · rw [if_neg hkey, if_neg hkey, h.find?_eq]

theorem noModeTen_eq (h : Shows alignment length d e) :
    e.manifest.restrictions.noModeTen = d.manifest.restrictions.noModeTen := by
  rw [h.manifest_eq]
  rfl

theorem saveRefused_eq (h : Shows alignment length d e) :
    e.manifest.restrictions.saveRefused = d.manifest.restrictions.saveRefused := by
  rw [h.manifest_eq]
  rfl

theorem modeSense (h : Shows alignment length d e) (form : ModeForm) (page : UInt8)
    (control : PageControl) (buffer : Bytes) :
    (e.modeSense form page control buffer).1 = (d.modeSense form page control buffer).1 ∧
      Shows alignment length (d.modeSense form page control buffer).2
        (e.modeSense form page control buffer).2 := by
  unfold Device.modeSense
  rw [h.noModeTen_eq]
  split
  · exact ⟨rfl, h.remember _ _⟩
  · have hpage : (modeKey page control).isLog = true → Takes alignment length := nofun
    obtain ⟨hreply, hshows⟩ := h.fetch hpage
    dsimp only
    rw [hreply]
    exact ⟨rfl, hshows⟩

theorem modeSelect (h : Shows alignment length d e) (form : ModeForm) (data : Bytes)
    (save : Bool) :
    (e.modeSelect form data save).1 = (d.modeSelect form data save).1 ∧
      Shows alignment length (d.modeSelect form data save).2
        (e.modeSelect form data save).2 := by
  have hremembered := h.remember (.modeSelect form save) (.modeSelect form save)
  unfold Device.modeSelect
  dsimp only
  rw [hremembered.noModeTen_eq, hremembered.saveRefused_eq]
  repeat' split
  · exact ⟨rfl, hremembered⟩
  · exact ⟨rfl, hremembered⟩
  · exact ⟨rfl, hremembered⟩
  · exact ⟨rfl, hremembered⟩
  · exact ⟨rfl, hremembered.store _ _⟩

/-- Pages that are not read as logs are filled in alike. -/
theorem fill (h : Shows alignment length d e) {key : Key}
    (hkey : key.isLog = true → Takes alignment length) (off : Nat) (buffer : Bytes) :
    (e.fill key off buffer).1 = (d.fill key off buffer).1 ∧
      Shows alignment length (d.fill key off buffer).2 (e.fill key off buffer).2 := by
  obtain ⟨hreply, hshows⟩ := h.fetch hkey
  unfold Device.fill
  dsimp only
  rw [hreply]
  exact ⟨rfl, hshows⟩

theorem requestSense (h : Shows alignment length d e) (buffer : Bytes) :
    (e.requestSense buffer).1 = (d.requestSense buffer).1 ∧
      Shows alignment length (d.requestSense buffer).2 (e.requestSense buffer).2 := by
  have hpage : Key.requestSense.isLog = true → Takes alignment length := nofun
  obtain ⟨hreply, hshows⟩ := h.fetch hpage
  unfold Device.requestSense
  dsimp only
  rw [hreply]
  exact ⟨rfl, hshows⟩

theorem returnStatus (h : Shows alignment length d e) :
    (e.returnStatus).1 = (d.returnStatus).1 ∧
      Shows alignment length (d.returnStatus).2 (e.returnStatus).2 := by
  refine ⟨?_, h.remember _ _⟩
  unfold Device.returnStatus
  rw [h.manifest_eq]
  rfl

theorem misaligned_eq (h : Shows alignment length d e) (n : Nat) : e.misaligned n = false := by
  rw [misaligned_eq_false_iff, h.manifest_eq]
  exact .inl rfl

theorem misaligned_of_takes (h : Shows alignment length d e) (htakes : Takes alignment length) :
    d.misaligned length = false := by
  rw [misaligned_eq_false_iff, h.alignment_eq]
  exact htakes

end Shows

/-- Requests for other pages than logs do not feel the alignment. -/
theorem serves_of_isPlain (r : Request) (h : r.isPlain = true) : Serves alignment length r := by
  intro d e hshows
  cases r with
  | readLog log page feature hint buffer => cases h
  | logSense page subpage buffer => cases h
  | logSenseSize page subpage => cases h
  | modeSelect form data save => cases h
  | smartReadLog log buffer => exact hshows.fill (by exact nofun) 0 buffer
  | smartReadData buffer => exact hshows.fill (by exact nofun) 0 buffer
  | smartReadThresholds buffer => exact hshows.fill (by exact nofun) 0 buffer
  | sctStatus buffer => exact hshows.fill (by exact nofun) 0 buffer
  | nvmeLog log nsid buffer => exact hshows.fill (by exact nofun) 0 buffer
  | returnStatus => exact hshows.returnStatus
  | modeSense form page control buffer => exact hshows.modeSense form page control buffer
  | requestSense buffer => exact hshows.requestSense buffer
  | clock => exact ⟨rfl, hshows⟩
  | pause milliseconds => exact ⟨rfl, hshows⟩

theorem serves_modeSelect (form : ModeForm) (data : Bytes) (save : Bool) :
    Serves alignment length (.modeSelect form data save) :=
  fun _ _ hshows => hshows.modeSelect form data save

section Taken

variable (htakes : Takes alignment length) {buffer : Bytes} (hsize : buffer.size = length)
include htakes hsize

/-- A drive that takes the length answers log transfers of it as if it had no alignment. -/
theorem serves_logSense (page subpage : UInt8) :
    Serves alignment length (.logSense page subpage buffer) := by
  intro d e hshows
  have haligned := hshows.misaligned_of_takes htakes
  have hpage : (Key.scsiLog page subpage).isLog = true → Takes alignment length := fun _ => htakes
  obtain ⟨hreply, hfetched⟩ := hshows.fetch hpage
  show (e.logSense page subpage buffer).1 = (d.logSense page subpage buffer).1 ∧
    Shows alignment length (d.logSense page subpage buffer).2 (e.logSense page subpage buffer).2
  unfold logSense
  rw [hshows.misaligned_eq, hsize, haligned]
  dsimp only
  rw [hreply]
  exact ⟨rfl, hfetched⟩

theorem serves_readLog (log : UInt8) (page feature : UInt16) (hint : UInt32) :
    Serves alignment length (.readLog log page feature hint buffer) := by
  intro d e hshows
  have haligned := hshows.misaligned_of_takes htakes
  show (e.readLog log page feature buffer).1 = (d.readLog log page feature buffer).1 ∧
    Shows alignment length (d.readLog log page feature buffer).2
      (e.readLog log page feature buffer).2
  unfold readLog
  rw [hshows.misaligned_eq, hsize, haligned]
  exact hshows.fill (fun _ => htakes) _ buffer

end Taken

theorem alike_of_asks {α : Type} {p : Session α} (h : Asks (Serves alignment length) p) :
    Alike alignment length p :=
  fun _ _ hshows => h.run_alike hshows

theorem Alike.bind {α β : Type} {p : Session α} {f : α → Session β}
    (hp : Alike alignment length p)
    (hf : ∀ d e, Shows alignment length d e → Alike alignment length (f (d.run p).1)) :
    Alike alignment length (p.bind f) := by
  intro d e hshows
  obtain ⟨hvalue, hrest⟩ := hp d e hshows
  rw [run_bind, run_bind, hvalue]
  exact hf d e hshows _ _ hrest

end Device
end DriveHealth.Capture
