import DriveHealth.Proofs.Scsi.Reporting

/-!
Parameter lists of MODE SELECT. A copy of the exceptions page is framed by the header that it came
with: behind the header and the block descriptors that the header counts, the page starts. A list
made from such a copy has its page in the same place, whatever is done to the reporting fields.
-/
namespace DriveHealth.Scsi.ExceptionsPage

open Transport

/-- Where the page starts in a parameter list. -/
def pageStart (form : ModeForm) (data : Bytes) : Nat :=
  headerLength form + descriptorLength data form

/-- A copy of the page whose header tells its own length. -/
structure Framed (p : ExceptionsPage) : Prop where
  header_size : p.header.size = pageStart p.form p.header
  page_size : leastLength ≤ p.page.size
  code_eq : p.page.byteAt 0 &&& 0x3F = code

/-- The length of the block descriptors is told in the header. -/
theorem descriptorLength_congr {a b : Bytes} {form : ModeForm}
    (h : ∀ i, 2 ≤ i → i < headerLength form → a.byteAt i = b.byteAt i) :
    descriptorLength a form = descriptorLength b form := by
  cases form with
  | six =>
    have hlength := h 3 (by decide) (by decide)
    rw [descriptorLength, hlength, descriptorLength]
  | ten =>
    have hlength : a.beNat 6 2 = b.beNat 6 2 := by
      refine Bytes.beNat_congr fun k hk => h (6 + k) (by omega) ?_
      show 6 + k < 8
      omega
    rw [descriptorLength, Bytes.be16, hlength, ← Bytes.be16, descriptorLength]

namespace CutFrom

variable {p : ExceptionsPage} {reply : Bytes} {form : ModeForm}

/-- The page does not start behind the end of the reply. -/
theorem pageStart_le (h : p.CutFrom reply form) :
    pageStart form reply ≤ min (totalLength reply form) reply.size := by
  have hsize := h.page_size
  rw [h.page_eq, ByteArray.size_extract, ← pageStart, leastLength] at hsize
  omega

/-- Header and page follow each other in the reply. -/
theorem header_append_page (h : p.CutFrom reply form) :
    p.header ++ p.page = reply.extract 0 (min (totalLength reply form) reply.size) := by
  have hstart := h.pageStart_le
  rw [h.header_eq, h.page_eq, ← pageStart, ByteArray.extract_append_extract, Nat.zero_min,
    Nat.max_eq_right hstart]

theorem framed (h : p.CutFrom reply form) : p.Framed where
  header_size := by
    have hstart := h.pageStart_le
    have hheader : p.header = reply.extract 0 (pageStart form reply) := h.header_eq
    have hdescriptors : descriptorLength p.header form = descriptorLength reply form := by
      refine descriptorLength_congr fun i _ hi => ?_
      have hbefore : 0 + i < pageStart form reply := by
        unfold pageStart
        omega
      rw [hheader, Bytes.byteAt_extract _ hbefore, Nat.zero_add]
    rw [h.form_eq, pageStart, hdescriptors, ← pageStart, hheader, ByteArray.size_extract]
    omega
  page_size := h.page_size
  code_eq := h.code_eq

end CutFrom

theorem framed_of_ofReply {reply : Bytes} {form : ModeForm} {p : ExceptionsPage}
    (h : ofReply reply form = .ok p) : p.Framed :=
  (cutFrom_of_ofReply h).framed

variable {p q : ExceptionsPage}

/-- Other reporting fields leave the frame alone. -/
theorem Sets.framed {method : UInt8} {interval count : UInt32}
    (h : p.Sets q method interval count) (hp : p.Framed) : q.Framed where
  header_size := by
    rw [h.header_eq, h.form_eq]
    exact hp.header_size
  page_size := by
    rw [h.size_eq]
    exact hp.page_size
  code_eq := by
    rw [h.byteAt_eq 0 (.inl (by decide))]
    exact hp.code_eq

theorem framed_withReporting (hp : p.Framed) (method : UInt8) (interval count : UInt32) :
    (p.withReporting method interval count).Framed :=
  (sets_withReporting method interval count hp.page_size).framed hp

theorem framed_withReportingOf (hp : p.Framed) (other : ExceptionsPage) :
    (p.withReportingOf other).Framed :=
  (sets_withReportingOf hp.page_size other).framed hp

/-- How many bytes at the start of a header tell the length of the data. -/
def lengthSize : ModeForm → Nat
  | .six => 1
  | .ten => 2

theorem lengthSize_le (form : ModeForm) : lengthSize form ≤ 2 := by
  cases form <;> decide

theorem lengthSize_le_headerLength (form : ModeForm) : lengthSize form ≤ headerLength form := by
  cases form <;> decide

theorem byteAt_selectHeader (p : ExceptionsPage) (hp : headerLength p.form ≤ p.header.size)
    {i : Nat} (hi : lengthSize p.form ≤ i) : p.selectHeader.byteAt i = p.header.byteAt i := by
  unfold selectHeader
  cases hform : p.form with
  | six =>
    rw [hform] at hp hi
    have hsize : 4 ≤ p.header.size := hp
    have hbehind : 1 ≤ i := hi
    dsimp only
    rw [Bytes.byteAt_setByte_ne _ (by omega) (by omega)]
  | ten =>
    rw [hform] at hp hi
    have hsize : 8 ≤ p.header.size := hp
    have hbehind : 2 ≤ i := hi
    dsimp only
    rw [Bytes.byteAt_setByte_ne _ (by rw [Bytes.size_setByte]; omega) (by omega),
      Bytes.byteAt_setByte_ne _ (by omega) (by omega)]

theorem byteAt_selectHeader_length (p : ExceptionsPage)
    (hp : headerLength p.form ≤ p.header.size) {i : Nat} (hi : i < lengthSize p.form) :
    p.selectHeader.byteAt i = 0 := by
  unfold selectHeader
  cases hform : p.form with
  | six =>
    rw [hform] at hp hi
    have hsize : 4 ≤ p.header.size := hp
    obtain rfl : i = 0 := Nat.lt_one_iff.mp hi
    exact Bytes.byteAt_setByte_self _ (by omega)
  | ten =>
    rw [hform] at hp hi
    have hsize : 8 ≤ p.header.size := hp
    have hsize' : 1 < (p.header.setByte 0 0).size := by
      rw [Bytes.size_setByte]
      omega
    have hlow : i < 2 := hi
    by_cases hone : i = 1
    · rw [hone]
      exact Bytes.byteAt_setByte_self _ hsize'
    · obtain rfl : i = 0 := by omega
      exact (Bytes.byteAt_setByte_ne _ hsize' hone).trans
        (Bytes.byteAt_setByte_self _ (by omega))

@[simp] theorem size_selectHeader (p : ExceptionsPage) : p.selectHeader.size = p.header.size := by
  unfold selectHeader
  cases p.form with
  | six => exact Bytes.size_setByte _ _ _
  | ten => rw [Bytes.size_setByte, Bytes.size_setByte]

@[simp] theorem size_selectPage (p : ExceptionsPage) : p.selectPage.size = p.page.size :=
  Bytes.size_setByte _ _ _

theorem size_selectData (p : ExceptionsPage) :
    p.selectData.size = p.header.size + p.page.size := by
  rw [selectData, ByteArray.size_append, size_selectHeader, size_selectPage]

namespace Framed

theorem headerLength_le (hp : p.Framed) : headerLength p.form ≤ p.header.size := by
  rw [hp.header_size, pageStart]
  exact Nat.le_add_right _ _

/-- The page of a list starts where the header ends. -/
theorem pageStart_selectData (hp : p.Framed) : pageStart p.form p.selectData = p.header.size := by
  have hdescriptors : descriptorLength p.selectData p.form = descriptorLength p.header p.form := by
    refine descriptorLength_congr fun i hi hlt => ?_
    have hheader : i < p.selectHeader.size := by
      rw [size_selectHeader]
      have hle := hp.headerLength_le
      omega
    rw [selectData, Bytes.byteAt_append_left _ _ hheader,
      byteAt_selectHeader p hp.headerLength_le (Nat.le_trans (lengthSize_le p.form) hi)]
  rw [pageStart, hdescriptors, hp.header_size, pageStart]

/-- What a drive finds behind the header of a list is the page. -/
theorem extract_selectData (hp : p.Framed) :
    p.selectData.extract (pageStart p.form p.selectData) p.selectData.size = p.selectPage := by
  have hheader : p.selectHeader.extract p.header.size (p.header.size + p.page.size) = .empty := by
    rw [ByteArray.extract_eq_empty_iff, size_selectHeader]
    omega
  have hpage : p.selectPage.extract 0 p.page.size = p.selectPage := by
    rw [← size_selectPage, ByteArray.extract_zero_size]
  rw [hp.pageStart_selectData, size_selectData, selectData, ByteArray.extract_append, hheader,
    ByteArray.empty_append, size_selectHeader, Nat.sub_self, Nat.add_sub_cancel_left, hpage]

theorem byteAt_zero_selectPage (hp : p.Framed) :
    p.selectPage.byteAt 0 = p.page.byteAt 0 &&& 0x7F := by
  have hsize := hp.page_size
  unfold leastLength at hsize
  rw [selectPage, Bytes.byteAt_setByte_self _ (by omega)]

theorem byteAt_selectPage (hp : p.Framed) {i : Nat} (hi : i ≠ 0) :
    p.selectPage.byteAt i = p.page.byteAt i := by
  have hsize := hp.page_size
  unfold leastLength at hsize
  rw [selectPage, Bytes.byteAt_setByte_ne _ (by omega) hi]

theorem code_selectPage (hp : p.Framed) : p.selectPage.byteAt 0 &&& 0x3F = code := by
  have hmask : (0x7F : UInt8) &&& 0x3F = 0x3F := by decide
  rw [hp.byteAt_zero_selectPage, UInt8.and_assoc, hmask, hp.code_eq]

end Framed

end DriveHealth.Scsi.ExceptionsPage
