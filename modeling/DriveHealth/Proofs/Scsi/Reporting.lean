import DriveHealth.Proofs.Bytes.Splice
import DriveHealth.Scsi.ExceptionsPage

/-!
Changing the reporting fields of an exceptions page: the method in the low half of a byte, and
two numbers of four bytes. Nothing else of the page changes, so the fields and the page before
determine the page after.
-/
namespace DriveHealth.Scsi.ExceptionsPage

/-- The second page is the first one with other reporting fields. -/
structure Sets (p q : ExceptionsPage) (method : UInt8) (interval count : UInt32) : Prop where
  form_eq : q.form = p.form
  header_eq : q.header = p.header
  size_eq : q.page.size = p.page.size
  method_eq : q.method = method
  interval_eq : q.interval = interval
  reportCount_eq : q.reportCount = count
  /-- The method leaves the other half of its byte alone. -/
  flags_eq : q.page.byteAt 3 &&& 0xF0 = p.page.byteAt 3 &&& 0xF0
  byteAt_eq : ∀ i, i < 3 ∨ 12 ≤ i → q.page.byteAt i = p.page.byteAt i

theorem or_and_distrib (a b c : UInt8) : (a ||| b) &&& c = (a &&& c) ||| (b &&& c) :=
  UInt8.toBitVec_inj.mp BitVec.and_or_distrib_right

theorem low_of_mixed (a b : UInt8) : (a &&& 0xF0 ||| b &&& 0x0F) &&& 0x0F = b &&& 0x0F := by
  have hhigh : (0xF0 : UInt8) &&& 0x0F = 0 := by decide
  have hlow : (0x0F : UInt8) &&& 0x0F = 0x0F := by decide
  rw [or_and_distrib, UInt8.and_assoc, UInt8.and_assoc, hhigh, hlow, UInt8.and_zero,
    UInt8.zero_or]

theorem high_of_mixed (a b : UInt8) : (a &&& 0xF0 ||| b &&& 0x0F) &&& 0xF0 = a &&& 0xF0 := by
  have hhigh : (0xF0 : UInt8) &&& 0xF0 = 0xF0 := by decide
  have hlow : (0x0F : UInt8) &&& 0xF0 = 0 := by decide
  rw [or_and_distrib, UInt8.and_assoc, UInt8.and_assoc, hhigh, hlow, UInt8.and_zero,
    UInt8.or_zero]

theorem and_or_distrib (a b c : UInt8) : a &&& (b ||| c) = (a &&& b) ||| (a &&& c) :=
  UInt8.toBitVec_inj.mp BitVec.and_or_distrib_left

theorem mixed_self (a : UInt8) : (a &&& 0xF0) ||| (a &&& 0x0F) = a := by
  have hall : (0xF0 : UInt8) ||| 0x0F = -1 := by decide
  rw [← and_or_distrib, hall, UInt8.and_neg_one]

variable {p : ExceptionsPage} (m : UInt8) (interval count : UInt32)

/-- The byte of the method is mixed of the new method and the old flags. -/
theorem byteAt_three_withReporting (h : leastLength ≤ p.page.size) :
    (p.withReporting m interval count).page.byteAt 3 =
      (p.page.byteAt 3 &&& 0xF0) ||| (m &&& 0x0F) := by
  unfold leastLength at h
  rw [withReporting, Bytes.byteAt_splice_before (by simp; omega) (by omega),
    Bytes.byteAt_splice_before (by simp; omega) (by omega),
    Bytes.byteAt_setByte_self _ (by omega)]

theorem byteAt_withReporting (h : leastLength ≤ p.page.size) {i : Nat} (hi : i < 3 ∨ 12 ≤ i) :
    (p.withReporting m interval count).page.byteAt i = p.page.byteAt i := by
  unfold leastLength at h
  rw [withReporting, Bytes.byteAt_splice_outside (by simp; omega) (by simp; omega),
    Bytes.byteAt_splice_outside (by simp; omega) (by simp; omega),
    Bytes.byteAt_setByte_ne _ (by omega) (by omega)]

theorem interval_withReporting (h : leastLength ≤ p.page.size) :
    (p.withReporting m interval count).interval = interval := by
  unfold leastLength at h
  have hkeep : ∀ k < 4, (p.withReporting m interval count).page.byteAt (4 + k) =
      ((p.page.setByte 3 ((p.page.byteAt 3 &&& 0xF0) ||| (m &&& 0x0F))).splice 4
        (Bytes.be 4 interval.toNat)).byteAt (4 + k) := by
    intro k hk
    rw [withReporting, Bytes.byteAt_splice_before (by simp; omega) (by omega)]
  rw [ExceptionsPage.interval, Bytes.be32_congr hkeep, Bytes.be32_splice (by simp; omega)]

theorem reportCount_withReporting (h : leastLength ≤ p.page.size) :
    (p.withReporting m interval count).reportCount = count := by
  unfold leastLength at h
  rw [reportCount, withReporting, Bytes.be32_splice (by simp; omega)]

theorem method_withReporting (h : leastLength ≤ p.page.size) :
    (p.withReporting m interval count).method = m &&& 0x0F := by
  rw [method, byteAt_three_withReporting m interval count h, low_of_mixed]

theorem flags_withReporting (h : leastLength ≤ p.page.size) :
    (p.withReporting m interval count).page.byteAt 3 &&& 0xF0 = p.page.byteAt 3 &&& 0xF0 := by
  rw [byteAt_three_withReporting m interval count h, high_of_mixed]

theorem size_withReporting : (p.withReporting m interval count).page.size = p.page.size := by
  simp [withReporting]

theorem sets_withReporting (h : leastLength ≤ p.page.size) :
    p.Sets (p.withReporting m interval count) (m &&& 0x0F) interval count where
  form_eq := by simp only [withReporting]
  header_eq := by simp only [withReporting]
  size_eq := size_withReporting m interval count
  method_eq := method_withReporting m interval count h
  interval_eq := interval_withReporting m interval count h
  reportCount_eq := reportCount_withReporting m interval count h
  flags_eq := flags_withReporting m interval count h
  byteAt_eq := fun i hi => byteAt_withReporting m interval count h hi

/-- A page carries the reporting fields of another one. -/
theorem sets_withReportingOf (h : leastLength ≤ p.page.size) (other : ExceptionsPage) :
    p.Sets (p.withReportingOf other) other.method other.interval other.reportCount := by
  have hmethod : other.method &&& 0x0F = other.method := by
    have hlow : (0x0F : UInt8) &&& 0x0F = 0x0F := by decide
    rw [method, UInt8.and_assoc, hlow]
  have hsets := sets_withReporting other.method other.interval other.reportCount h
  rwa [hmethod] at hsets

/-- The numbers of a page are those of the page that its reporting fields come from. -/
theorem byteAt_withReportingOf (h : leastLength ≤ p.page.size) (other : ExceptionsPage) {i : Nat}
    (hlow : 4 ≤ i) (hhigh : i < 12) :
    (p.withReportingOf other).page.byteAt i = other.page.byteAt i := by
  have hsets := sets_withReportingOf h other
  by_cases hi : i < 8
  · have hback : 4 + (i - 4) = i := by omega
    have hbyte := Bytes.byteAt_of_be32_eq hsets.interval_eq (i - 4) (by omega)
    rwa [hback] at hbyte
  · have hback : 8 + (i - 8) = i := by omega
    have hbyte := Bytes.byteAt_of_be32_eq hsets.reportCount_eq (i - 8) (by omega)
    rwa [hback] at hbyte

/-- A page was cut out of a reply, behind the header and the block descriptors. -/
structure CutFrom (p : ExceptionsPage) (reply : Bytes) (form : Transport.ModeForm) : Prop where
  form_eq : p.form = form
  header_eq : p.header = reply.extract 0 (headerLength form + descriptorLength reply form)
  page_eq : p.page = reply.extract (headerLength form + descriptorLength reply form)
    (min (totalLength reply form) reply.size)
  page_size : leastLength ≤ p.page.size
  code_eq : p.page.byteAt 0 &&& 0x3F = code

theorem cutFrom_of_ofReply {reply : Bytes} {form : Transport.ModeForm}
    (h : ofReply reply form = .ok p) : p.CutFrom reply form := by
  unfold ofReply at h
  by_cases hheader : reply.size < headerLength form
  · rw [if_pos hheader] at h
    cases h
  · rw [if_neg hheader] at h
    dsimp only at h
    split at h
    · cases h
    · rename_i hpage
      cases h
      obtain ⟨hlength, hcode⟩ := not_or.mp hpage
      exact ⟨rfl, rfl, rfl, Nat.not_lt.mp hlength, Decidable.not_not.mp hcode⟩

/-- A page that was read is long enough for its fields, and keeps the form it was read in. -/
theorem leastLength_le_of_ofReply {reply : Bytes} {form : Transport.ModeForm}
    (h : ofReply reply form = .ok p) : leastLength ≤ p.page.size ∧ p.form = form :=
  ⟨(cutFrom_of_ofReply h).page_size, (cutFrom_of_ofReply h).form_eq⟩

end DriveHealth.Scsi.ExceptionsPage
