import DriveHealth.Proofs.Capture.Pages
import DriveHealth.Proofs.Scsi.ParameterList
import DriveHealth.Proofs.Transport.ReadsOnly

/-!
The mode commands of a captured drive. A captured copy of the exceptions page that fits the buffer
is read as it was captured, and a parameter list made from it replaces the captured copies by the
page of the list.
-/
namespace DriveHealth.Capture.Device

open DriveHealth.Scsi Transport Program

/-- The form of the mode commands that the drive takes. -/
def modeForm (d : Device) : ModeForm := if d.manifest.restrictions.noModeTen then .six else .ten

/-- A captured mode page fits the buffer, with the header in front of it. -/
def Fits (d : Device) (page : Bytes) : Prop :=
  ExceptionsPage.headerLength d.modeForm + page.size ≤ ExceptionsPage.bufferLength

/-- Every captured copy of the exceptions page fits the buffer. -/
def ExceptionsFit (d : Device) : Prop :=
  ∀ saved page, d.find? (.scsiMode ExceptionsPage.code saved) = some page → d.Fits page

/-- A captured page can be read as an exceptions page. -/
def WellFormed (page : Bytes) : Prop :=
  ExceptionsPage.leastLength ≤ page.size ∧ page.byteAt 0 &&& 0x3F = ExceptionsPage.code

instance (page : Bytes) : Decidable (WellFormed page) := inferInstanceAs (Decidable (_ ∧ _))

/-- A captured page behind the header that the drive sends in front of it. -/
def seen (form : ModeForm) (page : Bytes) : ExceptionsPage :=
  ⟨form, modeHeader form page.size, page⟩

/-- The copy of the exceptions page that can be read from the drive. -/
def exceptions (d : Device) (control : PageControl) : Option ExceptionsPage :=
  (d.find? (modeKey ExceptionsPage.code control)).bind fun page =>
    if WellFormed page then some (seen d.modeForm page) else none

theorem malformed_iff {page : Bytes} :
    page.size < ExceptionsPage.leastLength ∨ page.byteAt 0 &&& 0x3F ≠ ExceptionsPage.code ↔
      ¬ WellFormed page := by
  rw [WellFormed, not_and_or, Nat.not_le]

section Header

variable {form : ModeForm} {n : Nat}

theorem size_modeHeader (form : ModeForm) (n : Nat) :
    (modeHeader form n).size = ExceptionsPage.headerLength form := by
  cases form with
  | six => rw [modeHeader, Bytes.size_ofList]; rfl
  | ten => rw [modeHeader, ByteArray.size_append, Bytes.size_be, Bytes.size_zeros]; rfl

/-- No block descriptors are sent. -/
theorem descriptorLength_modeHeader (form : ModeForm) (n : Nat) :
    ExceptionsPage.descriptorLength (modeHeader form n) form = 0 := by
  cases form with
  | six =>
    rw [ExceptionsPage.descriptorLength, modeHeader, Bytes.byteAt_ofList]
    rfl
  | ten =>
    have hzeros : (modeHeader .ten n).beNat 6 2 = (Bytes.zeros 6).beNat 4 2 := by
      refine Bytes.beNat_congr fun k hk => ?_
      have hskip : 6 + k - 2 = 4 + k := by omega
      rw [modeHeader, Bytes.byteAt_append_right _ _ (by rw [Bytes.size_be]; omega),
        Bytes.size_be, hskip]
    rw [ExceptionsPage.descriptorLength, Bytes.be16, hzeros]
    decide

/-- The header tells the length of the page behind it. -/
theorem totalLength_modeHeader
    (h : ExceptionsPage.headerLength form + n ≤ ExceptionsPage.bufferLength) :
    ExceptionsPage.totalLength (modeHeader form n) form =
      ExceptionsPage.headerLength form + n := by
  cases form with
  | six =>
    have hfit : 4 + n ≤ 256 := h
    have hbyte : (UInt8.ofNat (n + 3)).toNat = n + 3 :=
      UInt8.toNat_ofNat_of_lt' (by show n + 3 < 256; omega)
    rw [ExceptionsPage.totalLength, modeHeader, Bytes.byteAt_ofList, List.getD_cons_zero, hbyte,
      ExceptionsPage.headerLength]
    omega
  | ten =>
    have hfit : 8 + n ≤ 256 := h
    have hdigits : (modeHeader .ten n).beNat 0 2 = (Bytes.be 2 (n + 6)).beNat 0 2 := by
      refine Bytes.beNat_congr fun k hk => ?_
      rw [modeHeader, Bytes.byteAt_append_left _ _ (by rw [Bytes.size_be]; omega)]
    have hlt : n + 6 < 256 ^ 2 := by omega
    rw [ExceptionsPage.totalLength, Bytes.be16, hdigits, Bytes.beNat_be, Nat.mod_eq_of_lt hlt,
      UInt16.toNat_ofNat_of_lt' (by show n + 6 < 65536; omega), ExceptionsPage.headerLength]
    omega

end Header

theorem pageStart_modeHeader (form : ModeForm) (n : Nat) :
    ExceptionsPage.pageStart form (modeHeader form n) = (modeHeader form n).size := by
  rw [ExceptionsPage.pageStart, descriptorLength_modeHeader, size_modeHeader, Nat.add_zero]

theorem framed_seen {form : ModeForm} {page : Bytes} (h : WellFormed page) :
    (seen form page).Framed where
  header_size := (pageStart_modeHeader form page.size).symm
  page_size := h.1
  code_eq := h.2

/-- A reply that fits the buffer is found in front of the rest of the buffer. -/
theorem extract_deliver {reply buffer : Bytes} (h : reply.size ≤ buffer.size) :
    (deliver reply buffer).1.extract 0 (deliver reply buffer).2 = reply := by
  have hall : min reply.size buffer.size = reply.size := Nat.min_eq_left h
  have hrest : (buffer.extract reply.size buffer.size).extract (0 - reply.size)
      (reply.size - reply.size) = ByteArray.empty := by
    rw [ByteArray.extract_eq_empty_iff]
    omega
  rw [deliver, hall]
  show (reply.extract 0 reply.size ++ buffer.extract reply.size buffer.size).extract 0
    reply.size = reply
  rw [ByteArray.extract_zero_size, ByteArray.extract_append, ByteArray.extract_zero_size, hrest,
    ByteArray.append_empty]

section Reply

variable {form : ModeForm} {page : Bytes}

/-- What follows a header is not taken for a part of it. -/
theorem byteAt_header (form : ModeForm) (page : Bytes) {i : Nat}
    (h : i < ExceptionsPage.headerLength form) :
    (modeHeader form page.size ++ page).byteAt i = (modeHeader form page.size).byteAt i :=
  Bytes.byteAt_append_left _ _ (by rwa [size_modeHeader])

theorem totalLength_reply
    (h : ExceptionsPage.headerLength form + page.size ≤ ExceptionsPage.bufferLength) :
    ExceptionsPage.totalLength (modeHeader form page.size ++ page) form =
      (modeHeader form page.size ++ page).size := by
  have hheader : ExceptionsPage.totalLength (modeHeader form page.size ++ page) form =
      ExceptionsPage.totalLength (modeHeader form page.size) form := by
    cases form with
    | six =>
      rw [ExceptionsPage.totalLength, byteAt_header _ _ (by decide), ExceptionsPage.totalLength]
    | ten =>
      have hdigits : (modeHeader .ten page.size ++ page).beNat 0 2 =
          (modeHeader .ten page.size).beNat 0 2 := by
        refine Bytes.beNat_congr fun k hk => byteAt_header _ _ ?_
        show 0 + k < 8
        omega
      rw [ExceptionsPage.totalLength, Bytes.be16, hdigits, ← Bytes.be16,
        ExceptionsPage.totalLength]
  rw [hheader, totalLength_modeHeader h, ByteArray.size_append, size_modeHeader]

theorem pageStart_reply (form : ModeForm) (page : Bytes) :
    ExceptionsPage.pageStart form (modeHeader form page.size ++ page) =
      (modeHeader form page.size).size := by
  have hheader : ExceptionsPage.descriptorLength (modeHeader form page.size ++ page) form =
      ExceptionsPage.descriptorLength (modeHeader form page.size) form :=
    ExceptionsPage.descriptorLength_congr fun i _ hi => byteAt_header form page hi
  rw [ExceptionsPage.pageStart, hheader, ← ExceptionsPage.pageStart, pageStart_modeHeader]

/-- A captured page is read as it was captured. -/
theorem ofReply_seen
    (h : ExceptionsPage.headerLength form + page.size ≤ ExceptionsPage.bufferLength) :
    (ExceptionsPage.ofReply (modeHeader form page.size ++ page) form).toOption =
      if WellFormed page then some (seen form page) else none := by
  have hlong : ¬ (modeHeader form page.size ++ page).size < ExceptionsPage.headerLength form := by
    rw [ByteArray.size_append, size_modeHeader]
    omega
  have hpage : (modeHeader form page.size ++ page).extract (modeHeader form page.size).size
      (modeHeader form page.size ++ page).size = page := by
    rw [ByteArray.size_append]
    exact ByteArray.extract_append_eq_right rfl rfl
  have hheader : (modeHeader form page.size ++ page).extract 0 (modeHeader form page.size).size =
      modeHeader form page.size :=
    ByteArray.extract_append_eq_left rfl
  have hstart := pageStart_reply form page
  unfold ExceptionsPage.pageStart at hstart
  unfold ExceptionsPage.ofReply
  rw [if_neg hlong]
  dsimp only
  rw [hstart, totalLength_reply h, Nat.min_self, hpage, hheader]
  by_cases hwell : WellFormed page
  · rw [if_pos hwell, if_neg (mt malformed_iff.mp (not_not_intro hwell))]
    rfl
  · rw [if_neg hwell, if_pos (malformed_iff.mpr hwell)]
    rfl

end Reply

section Requests

variable {d : Device} {control : PageControl}

theorem modeSense_ten_of_refused (h : d.manifest.restrictions.noModeTen = true) (page : UInt8)
    (control : PageControl) (buffer : Bytes) :
    d.modeSense .ten page control buffer =
      (.error (refused 0x20), d.remember (.refusedModeSense page)) := by
  rw [modeSense, if_pos ⟨rfl, h⟩]

theorem modeSense_of_taken {form : ModeForm}
    (h : ¬ (form = .ten ∧ d.manifest.restrictions.noModeTen = true)) (code : UInt8)
    (control : PageControl) (buffer : Bytes) :
    d.modeSense form code control buffer =
      (match d.find? (modeKey code control) with
        | some page => .ok (deliver (modeHeader form page.size ++ page) buffer)
        | none => .error .unsupported, d.remember (.page (modeKey code control))) := by
  rw [modeSense, if_neg h, fetch]
  cases d.find? (modeKey code control) <;> rfl

theorem run_modeSense (d : Device) (form : ModeForm) (code : UInt8) (control : PageControl)
    (buffer : Bytes) : d.run (Session.modeSense form code control buffer) =
      d.modeSense form code control buffer :=
  rfl

theorem run_read_eq (d : Device) (control : PageControl) :
    (d.run (ExceptionsPage.read control)).1 =
      match d.modeSense .ten ExceptionsPage.code control (.zeros ExceptionsPage.bufferLength) with
      | (.ok (data, n), _) => ExceptionsPage.ofReply (data.extract 0 n) .ten
      | (.error _, e) =>
        match (e.modeSense .six ExceptionsPage.code control
            (.zeros ExceptionsPage.bufferLength)).1 with
        | .ok (data, n) => ExceptionsPage.ofReply (data.extract 0 n) .six
        | .error x => .error (.transport x) := by
  rw [ExceptionsPage.read, run_bind, run_modeSense]
  obtain ⟨reply, e⟩ := d.modeSense .ten ExceptionsPage.code control
    (.zeros ExceptionsPage.bufferLength)
  cases reply with
  | ok x => rfl
  | error _ =>
    dsimp only
    rw [run_bind, run_modeSense]
    cases (e.modeSense .six ExceptionsPage.code control
      (.zeros ExceptionsPage.bufferLength)).1 <;> rfl

/-- A copy that fits, in the form that the drive takes, is read as it was captured. -/
theorem ofReply_delivered (hfit : d.ExceptionsFit) {form : ModeForm} (hform : form = d.modeForm)
    {page buffer : Bytes} (hbuffer : buffer.size = ExceptionsPage.bufferLength)
    (hpage : d.find? (modeKey ExceptionsPage.code control) = some page) :
    (ExceptionsPage.ofReply ((deliver (modeHeader form page.size ++ page) buffer).1.extract 0
      (deliver (modeHeader form page.size ++ page) buffer).2) form).toOption =
      d.exceptions control := by
  have hsize : ExceptionsPage.headerLength form + page.size ≤ ExceptionsPage.bufferLength := by
    rw [hform]
    exact hfit _ page hpage
  have hreply : (modeHeader form page.size ++ page).size ≤ buffer.size := by
    rwa [hbuffer, ByteArray.size_append, size_modeHeader]
  rw [extract_deliver hreply, ofReply_seen hsize, exceptions, hpage, hform]
  rfl

/-- What is read is the captured copy, if the drive has one that can be read. -/
theorem run_read (hfit : d.ExceptionsFit) (control : PageControl) :
    (d.run (ExceptionsPage.read control)).1.toOption = d.exceptions control := by
  rw [run_read_eq]
  cases hten : d.manifest.restrictions.noModeTen with
  | true =>
    have hform : ModeForm.six = d.modeForm := by rw [modeForm, if_pos hten]
    rw [modeSense_ten_of_refused hten]
    dsimp only
    rw [modeSense_of_taken (by rintro ⟨h, _⟩; cases h), (Keeps.remember d _).find?_eq]
    cases hpage : d.find? (modeKey ExceptionsPage.code control) with
    | none =>
      rw [exceptions, hpage]
      rfl
    | some page => exact ofReply_delivered hfit hform (Bytes.size_zeros _) hpage
  | false =>
    have hrefused : ¬ d.manifest.restrictions.noModeTen = true := by
      rw [hten]
      exact Bool.false_ne_true
    have hform : ModeForm.ten = d.modeForm := by rw [modeForm, if_neg hrefused]
    rw [modeSense_of_taken (fun h => hrefused h.2)]
    cases hpage : d.find? (modeKey ExceptionsPage.code control) with
    | none =>
      dsimp only
      rw [modeSense_of_taken (by rintro ⟨h, _⟩; cases h), (Keeps.remember d _).find?_eq, hpage,
        exceptions, hpage]
      rfl
    | some page => exact ofReply_delivered hfit hform (Bytes.size_zeros _) hpage

theorem selectStart_eq (form : ModeForm) (data : Bytes) :
    selectStart form data = ExceptionsPage.pageStart form data := by
  cases form <;> rfl

theorem headerLength_eq (form : ModeForm) :
    headerLength form = ExceptionsPage.headerLength form := by
  cases form <;> rfl

/-- The form that the drive takes is not the one that it refuses. -/
theorem taken_of_modeForm {form : ModeForm} (h : form = d.modeForm) :
    ¬ (form = .ten ∧ d.manifest.restrictions.noModeTen = true) := by
  rintro ⟨hten, hrefused⟩
  rw [h, modeForm, if_pos hrefused] at hten
  cases hten

/-- A drive that refuses to save takes the page of a list only if it is not to be saved. -/
theorem modeSelect_selectData {p : ExceptionsPage} (hp : p.Framed)
    (htaken : ¬ (p.form = .ten ∧ d.manifest.restrictions.noModeTen = true)) (save : Bool) :
    d.modeSelect p.form p.selectData save =
      if save = true ∧ d.manifest.restrictions.saveRefused = true then
        (.error (refused 0x26), d.remember (.modeSelect p.form save))
      else (.ok (), (d.remember (.modeSelect p.form save)).store p.selectPage save) := by
  have hsize := ExceptionsPage.size_selectData p
  have hheader := hp.headerLength_le
  have hpage : 12 ≤ p.page.size := hp.page_size
  have hlong : ¬ p.selectData.size < headerLength p.form := by
    rw [headerLength_eq]
    omega
  have hstart : selectStart p.form p.selectData = p.header.size := by
    rw [selectStart_eq, hp.pageStart_selectData]
  have hbehind : ¬ p.selectData.size ≤ p.header.size := by omega
  have hfound : p.selectData.extract p.header.size p.selectData.size = p.selectPage := by
    rw [← hp.pageStart_selectData, hp.extract_selectData]
  unfold modeSelect
  dsimp only
  rw [(Keeps.remember d _).manifest_eq, if_neg htaken, if_neg hlong, hstart, if_neg hbehind, hfound]

end Requests

end DriveHealth.Capture.Device
