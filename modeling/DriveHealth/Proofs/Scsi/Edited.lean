import DriveHealth.Proofs.Bytes.Places
import DriveHealth.Proofs.Scsi.ParameterList

/-!
Laws of editing an exceptions page. The page before and the new reporting fields determine the page
after, so of several changes the last one counts, and the fields of the page before bring it back.
A parameter list is header and page as they are, but for the length of the data in the header and
the bit of the page that tells of a saved copy.
-/
namespace DriveHealth.Scsi.ExceptionsPage

open Transport

namespace Sets

variable {p q r : ExceptionsPage} {m m' : UInt8} {interval interval' count count' : UInt32}

theorem refl (p : ExceptionsPage) : p.Sets p p.method p.interval p.reportCount :=
  ⟨rfl, rfl, rfl, rfl, rfl, rfl, rfl, fun _ _ => rfl⟩

/-- Of two changes the second one counts. -/
theorem trans (h : p.Sets q m interval count) (h' : q.Sets r m' interval' count') :
    p.Sets r m' interval' count' where
  form_eq := h'.form_eq.trans h.form_eq
  header_eq := h'.header_eq.trans h.header_eq
  size_eq := h'.size_eq.trans h.size_eq
  method_eq := h'.method_eq
  interval_eq := h'.interval_eq
  reportCount_eq := h'.reportCount_eq
  flags_eq := h'.flags_eq.trans h.flags_eq
  byteAt_eq := fun i hi => (h'.byteAt_eq i hi).trans (h.byteAt_eq i hi)

theorem page_unique (hq : p.Sets q m interval count) (hr : p.Sets r m interval count) :
    q.page = r.page := by
  refine Bytes.ext_byteAt (hq.size_eq.trans hr.size_eq.symm) fun i => ?_
  by_cases houtside : i < 3 ∨ 12 ≤ i
  · rw [hq.byteAt_eq i houtside, hr.byteAt_eq i houtside]
  · by_cases hthree : i = 3
    · have hmethod : q.page.byteAt 3 &&& 0x0F = r.page.byteAt 3 &&& 0x0F :=
        hq.method_eq.trans hr.method_eq.symm
      rw [hthree, ← mixed_self (q.page.byteAt 3), ← mixed_self (r.page.byteAt 3), hq.flags_eq,
        hr.flags_eq, hmethod]
    · by_cases hinterval : i < 8
      · have hbyte := Bytes.byteAt_of_be32_eq (hq.interval_eq.trans hr.interval_eq.symm) (i - 4)
          (by omega)
        rwa [show 4 + (i - 4) = i by omega] at hbyte
      · have hbyte := Bytes.byteAt_of_be32_eq (hq.reportCount_eq.trans hr.reportCount_eq.symm)
          (i - 8) (by omega)
        rwa [show 8 + (i - 8) = i by omega] at hbyte

/-- The page before and the fields determine the page after. -/
theorem unique (hq : p.Sets q m interval count) (hr : p.Sets r m interval count) : q = r := by
  have hform := hq.form_eq.trans hr.form_eq.symm
  have hheader := hq.header_eq.trans hr.header_eq.symm
  have hpage := hq.page_unique hr
  cases q
  cases r
  simp only [mk.injEq]
  exact ⟨hform, hheader, hpage⟩

end Sets

theorem low_eq_mod (m : UInt8) : m &&& 0x0F = m % 16 := by
  have hmask : m.toNat &&& 15 = m.toNat % 16 := Nat.and_two_pow_sub_one_eq_mod m.toNat 4
  rw [← UInt8.toNat_inj, UInt8.toNat_and, UInt8.toNat_mod]
  exact hmask

/-- What the reporting fields of a page may be changed to, and how it is changed back. -/
structure Editable (p : ExceptionsPage) : Prop where
  /-- The fields read back, and nothing else differs. -/
  sets : ∀ m interval count, p.Sets (p.withReporting m interval count) (m % 16) interval count
  /-- Of two changes the second one counts. -/
  overwrites : ∀ m interval count m' interval' count',
    (p.withReporting m interval count).withReporting m' interval' count' =
      p.withReporting m' interval' count'
  /-- The fields of the page before bring it back. -/
  restores : ∀ m interval count, (p.withReporting m interval count).withReportingOf p = p

theorem editable_of_leastLength_le {p : ExceptionsPage} (h : leastLength ≤ p.page.size) :
    p.Editable where
  sets := by
    intro m interval count
    rw [← low_eq_mod]
    exact sets_withReporting m interval count h
  overwrites := by
    intro m interval count m' interval' count'
    have hfirst := sets_withReporting m interval count h
    have hsize : leastLength ≤ (p.withReporting m interval count).page.size := by
      rwa [hfirst.size_eq]
    have hsecond := sets_withReporting m' interval' count' hsize
    exact (hfirst.trans hsecond).unique (sets_withReporting m' interval' count' h)
  restores := by
    intro m interval count
    have hfirst := sets_withReporting m interval count h
    have hsize : leastLength ≤ (p.withReporting m interval count).page.size := by
      rwa [hfirst.size_eq]
    exact (hfirst.trans (sets_withReportingOf hsize p)).unique (Sets.refl p)

/-- A page with its bit for a saved copy cleared. -/
structure Unmarked (page stored : Bytes) : Prop where
  size_eq : stored.size = page.size
  mark_eq : stored.byteAt 0 = page.byteAt 0 &&& 0x7F
  byteAt_eq : ∀ i, i ≠ 0 → stored.byteAt i = page.byteAt i

/-- Header and page one behind the other, with the length zeroed and the bit cleared. -/
structure Lists (p : ExceptionsPage) (data : Bytes) : Prop where
  size_eq : data.size = p.header.size + p.page.size
  length_eq : ∀ i < lengthSize p.form, data.byteAt i = 0
  mark_eq : data.byteAt p.header.size = p.page.byteAt 0 &&& 0x7F
  byteAt_eq : ∀ i, lengthSize p.form ≤ i → i ≠ p.header.size →
    data.byteAt i = (p.header ++ p.page).byteAt i

namespace Framed

variable {p : ExceptionsPage}

theorem unmarked_selectPage (hp : p.Framed) : Unmarked p.page p.selectPage :=
  ⟨size_selectPage p, hp.byteAt_zero_selectPage, fun _ hi => hp.byteAt_selectPage hi⟩

theorem lists_selectData (hp : p.Framed) : p.Lists p.selectData where
  size_eq := size_selectData p
  length_eq := by
    intro i hi
    have hheader := hp.headerLength_le
    have hlength := lengthSize_le_headerLength p.form
    rw [selectData, Bytes.byteAt_append_left _ _ (by rw [size_selectHeader]; omega),
      byteAt_selectHeader_length p hheader hi]
  mark_eq := by
    have hheader : p.selectHeader.size ≤ p.header.size := Nat.le_of_eq (size_selectHeader p)
    rw [selectData, Bytes.byteAt_append_right _ _ hheader, size_selectHeader, Nat.sub_self,
      hp.byteAt_zero_selectPage]
  byteAt_eq := by
    intro i hlength hmark
    by_cases hi : i < p.header.size
    · rw [selectData, Bytes.byteAt_append_left _ _ (by rwa [size_selectHeader]),
        byteAt_selectHeader p hp.headerLength_le hlength, Bytes.byteAt_append_left _ _ hi]
    · rw [selectData, Bytes.byteAt_append_right _ _ (by rw [size_selectHeader]; omega),
        size_selectHeader, hp.byteAt_selectPage (by omega),
        Bytes.byteAt_append_right _ _ (by omega)]

end Framed

end DriveHealth.Scsi.ExceptionsPage
