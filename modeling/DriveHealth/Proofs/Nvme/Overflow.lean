import DriveHealth.Proofs.Nvme.Sensors

/-!
What the report of a health page computes, in integers of fixed width. The temperatures and the
numbers of the sensors always fit. The volumes are products of counters that take all 128 bits
themselves, so they are exact up to a limit only. Past it they wrap, and the report shows what is
left of them.
-/
namespace DriveHealth.Nvme.Health

open Text

/-- The numbers of a report that are computed; the other fields of a page are shown as they are. -/
structure Quantities where
  temperature : Int
  bytesRead : Nat
  bytesWritten : Nat
  /-- The number and the temperature of each sensor. -/
  sensors : List (Nat × Int)

namespace Quantities

def computed (h : Health) : Quantities where
  temperature := h.temperature
  bytesRead := h.bytesRead
  bytesWritten := h.bytesWritten
  sensors := h.sensors.mapIdx fun i t => (i + 1, celsius t)

/-- The numbers for a page, whatever their width. -/
def exact (page : Bytes) : Quantities where
  temperature := (page.le16 1).toNat - 273
  bytesRead := counterAt page 32 * 512 * 1000
  bytesWritten := counterAt page 48 * 512 * 1000
  sensors := ((reporting page).map (sensorAt page)).mapIdx fun i t => (i + 1, t.toNat - 273)

/-- The volumes fit in 128 bits, and all else in 64. -/
structure Fits (q : Quantities) : Prop where
  temperature_lt : q.temperature.natAbs < 2 ^ 63
  bytesRead_lt : q.bytesRead < 2 ^ 128
  bytesWritten_lt : q.bytesWritten < 2 ^ 128
  sensors_lt : ∀ s ∈ q.sensors, s.1 < 2 ^ 64 ∧ s.2.natAbs < 2 ^ 63

/-- What is left of the volumes in 128 bits. -/
def wrapped (q : Quantities) : Quantities :=
  { q with bytesRead := q.bytesRead % 2 ^ 128, bytesWritten := q.bytesWritten % 2 ^ 128 }

/-- The text tells the quantities, each volume behind the counter that it is computed from. -/
structure Shown (q : Quantities) (page : Bytes) (text : String) : Prop where
  temperature_mem :
    column "Composite Temperature:" (Units.temperature q.temperature) ∈ linesOf text
  read_mem : volume "Data Units Read:" (counterAt page 32) q.bytesRead ∈ linesOf text
  written_mem : volume "Data Units Written:" (counterAt page 48) q.bytesWritten ∈ linesOf text
  sensor_mem : ∀ s ∈ q.sensors,
    s!"Temperature Sensor {s.1}:        " ++ Units.temperature s.2 ∈ linesOf text

end Quantities

/-- The most units whose bytes fit in 128 bits. -/
def unitLimit : Nat := (2 ^ 128 - 1) / unitBytes

/-- What is computed for a page and shown is exact but for the volumes, which are exact unless they
wrap. -/
structure Computes (page : Bytes) (h : Health) : Prop where
  computed_eq : Quantities.computed h = (Quantities.exact page).wrapped
  shown : (Quantities.exact page).wrapped.Shown page h.text
  exact_iff : Quantities.computed h = Quantities.exact page ↔ (Quantities.exact page).Fits
  fits_iff : (Quantities.exact page).Fits ↔
    counterAt page 32 ≤ unitLimit ∧ counterAt page 48 ≤ unitLimit

/-! The single computations. -/

theorem mul_unitBytes (units : Nat) : units * unitBytes = units * 512 * 1000 :=
  (Nat.mul_assoc _ _ _).symm

theorem volume_lt_iff {units : Nat} : units * 512 * 1000 < 2 ^ 128 ↔ units ≤ unitLimit := by
  rw [← mul_unitBytes, unitLimit, Nat.le_div_iff_mul_le (by decide)]
  omega

theorem natAbs_celsius_lt (t : UInt16) : (celsius t).natAbs < 2 ^ 63 := by
  have hlt := t.toNat_lt
  unfold celsius
  omega

theorem sensorLine_mem {k : Nat} {l : List UInt16} {s : Nat × Int}
    (h : s ∈ l.mapIdx fun i t => (k + i, celsius t)) :
    s!"Temperature Sensor {s.1}:        " ++ Units.temperature s.2 ∈ sensorLines k l := by
  obtain ⟨i, hi, rfl⟩ := List.mem_mapIdx.mp h
  exact mem_sensorLines_iff.mpr ⟨i, l[i], List.getElem?_eq_getElem hi, shows_line.mp rfl⟩

namespace Quantities

/-- Nothing is lost exactly if nothing has to be. -/
theorem wrapped_eq_iff {q : Quantities} :
    q.wrapped = q ↔ q.bytesRead < 2 ^ 128 ∧ q.bytesWritten < 2 ^ 128 := by
  constructor
  · intro h
    have hread : q.bytesRead % 2 ^ 128 = q.bytesRead := congrArg bytesRead h
    have hwritten : q.bytesWritten % 2 ^ 128 = q.bytesWritten := congrArg bytesWritten h
    rw [← hread, ← hwritten]
    exact ⟨Nat.mod_lt _ (by decide), Nat.mod_lt _ (by decide)⟩
  · rintro ⟨hread, hwritten⟩
    rw [wrapped, Nat.mod_eq_of_lt hread, Nat.mod_eq_of_lt hwritten]

section Page

variable {page : Bytes} {h : Health}

theorem length_reporting_le (page : Bytes) : (reporting page).length ≤ sensorCount := by
  have hfilter := List.length_filter_le (fun i => sensorAt page i != 0) (List.range sensorCount)
  rwa [List.length_range] at hfilter

/-- Whether all fits is a matter of the volumes. -/
theorem fits_exact_iff : (exact page).Fits ↔
    (exact page).bytesRead < 2 ^ 128 ∧ (exact page).bytesWritten < 2 ^ 128 := by
  constructor
  · intro hfits
    exact ⟨hfits.bytesRead_lt, hfits.bytesWritten_lt⟩
  · rintro ⟨hread, hwritten⟩
    refine ⟨natAbs_celsius_lt (page.le16 1), hread, hwritten, fun s hs => ?_⟩
    obtain ⟨i, hi, rfl⟩ := List.mem_mapIdx.mp hs
    have hlength := length_reporting_le page
    rw [List.length_map] at hi
    unfold sensorCount at hlength
    exact ⟨by dsimp only; omega, natAbs_celsius_lt _⟩

theorem fields_of_ofPage (hpage : ofPage? page = some h) : h.kelvin = page.le16 1 ∧
    h.dataUnitsRead = counterAt page 32 ∧ h.dataUnitsWritten = counterAt page 48 := by
  unfold ofPage? at hpage
  split at hpage
  · cases hpage
  · cases hpage
    exact ⟨rfl, rfl, rfl⟩

theorem computed_eq (hpage : ofPage? page = some h) : computed h = (exact page).wrapped := by
  obtain ⟨hkelvin, hread, hwritten⟩ := fields_of_ofPage hpage
  rw [computed, Health.temperature, Health.bytesRead, Health.bytesWritten, hkelvin, hread, hwritten,
    sensors_eq hpage, bytesOf_eq, bytesOf_eq, mul_unitBytes, mul_unitBytes]
  rfl

/-- The report shows what is computed. -/
theorem shown_computed (hpage : ofPage? page = some h) : (computed h).Shown page h.text := by
  obtain ⟨-, hread, hwritten⟩ := fields_of_ofPage hpage
  constructor
  case temperature_mem =>
    rw [linesOf_text, lines]
    simp [computed]
  case read_mem =>
    rw [linesOf_text, ← hread, lines]
    simp [computed]
  case written_mem =>
    rw [linesOf_text, ← hwritten, lines]
    simp [computed]
  case sensor_mem =>
    intro s hs
    rw [linesOf_text, lines]
    refine List.mem_append_right _ (sensorLine_mem ?_)
    rw [computed] at hs
    simpa only [Nat.add_comm 1] using hs

end Page
end Quantities

theorem computes_of_ofPage {page : Bytes} {h : Health} (hpage : ofPage? page = some h) :
    Computes page h where
  computed_eq := Quantities.computed_eq hpage
  shown := by
    rw [← Quantities.computed_eq hpage]
    exact Quantities.shown_computed hpage
  exact_iff := by
    rw [Quantities.computed_eq hpage, Quantities.wrapped_eq_iff, Quantities.fits_exact_iff]
  fits_iff := by
    rw [Quantities.fits_exact_iff, ← volume_lt_iff, ← volume_lt_iff]
    rfl

/-- A page of full length has a report, which is exact but for the volumes past 128 bits. -/
theorem text_computed {page : Bytes} (hsize : pageLength ≤ page.size) :
    ∃ h, ofPage? page = some h ∧ Computes page h := by
  obtain ⟨h, hpage⟩ := exists_ofPage hsize
  exact ⟨h, hpage, computes_of_ofPage hpage⟩

/-- A page with the greatest counter of units read. -/
def fullPage : Bytes :=
  .ofList (List.replicate 32 0 ++ List.replicate 16 255 ++ List.replicate 464 0)

theorem size_fullPage : fullPage.size = pageLength := by
  rw [fullPage, Bytes.size_ofList, List.length_append, List.length_append,
    List.length_replicate, List.length_replicate, List.length_replicate]
  rfl

theorem counterAt_fullPage : counterAt fullPage 32 = 2 ^ 128 - 1 := by
  simp only [counterAt, fullPage, Bytes.leNat, Bytes.byteAt_ofList]
  decide +kernel

theorem bytesRead_fullPage {h : Health} (hpage : ofPage? fullPage = some h) :
    h.bytesRead = 2 ^ 128 - 512000 := by
  rw [bytesRead, (Quantities.fields_of_ofPage hpage).2.1, counterAt_fullPage, bytesOf_eq]
  decide

theorem text_computed_full : pageLength ≤ fullPage.size ∧
    ∃ h, ofPage? fullPage = some h ∧ Computes fullPage h ∧ h.bytesRead = 2 ^ 128 - 512000 := by
  have hsize := Nat.le_of_eq size_fullPage.symm
  obtain ⟨h, hpage, hcomputes⟩ := text_computed hsize
  exact ⟨hsize, h, hpage, hcomputes, bytesRead_fullPage hpage⟩

/-- The report of a page that is accepted need not be exact. -/
theorem not_computed_exact : ¬ ∀ (page : Bytes) (h : Health), pageLength ≤ page.size →
    ofPage? page = some h → Quantities.computed h = Quantities.exact page := by
  intro hall
  have hsize := Nat.le_of_eq size_fullPage.symm
  obtain ⟨h, hpage⟩ := exists_ofPage hsize
  have hcomputes := computes_of_ofPage hpage
  have hfits := hcomputes.exact_iff.mp (hall fullPage h hsize hpage)
  have hread := (hcomputes.fits_iff.mp hfits).1
  rw [counterAt_fullPage] at hread
  exact absurd hread (by decide)

example : unitLimit = 664613997892457936451903530140172 := by decide

end DriveHealth.Nvme.Health
