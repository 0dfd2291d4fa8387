import DriveHealth.Proofs.Capture.Override

/-!
The current copy of the exceptions page that a SCSI check leaves in a captured drive. Unless no
MODE SELECT was taken, it is the copy from before with the reporting fields of the saved page, and
apart from the saved copy no other page is touched.
-/
namespace DriveHealth.Capture.Device

open DriveHealth.Scsi Transport Program

/-- A page is another one with the reporting fields of a third, and tells of no saved copy. -/
structure Carries (current source left : Bytes) : Prop where
  size_eq : left.size = current.size
  code_eq : left.byteAt 0 = current.byteAt 0 &&& 0x7F
  /-- The method leaves the other half of its byte alone. -/
  method_eq : left.byteAt 3 = (current.byteAt 3 &&& 0xF0) ||| (source.byteAt 3 &&& 0x0F)
  numbers_eq : ∀ i, 4 ≤ i → i < 12 → left.byteAt i = source.byteAt i
  byteAt_eq : ∀ i, i = 1 ∨ i = 2 ∨ 12 ≤ i → left.byteAt i = current.byteAt i

/-- The captured page whose reporting fields count: the saved one, if it can be read. -/
def source (d : Device) (current : Bytes) : Bytes :=
  match d.find? (.scsiMode ExceptionsPage.code true) with
  | some saved => if WellFormed saved then saved else current
  | none => current

theorem carries_withReportingOf {p : ExceptionsPage} (hp : p.Framed) (other : ExceptionsPage) :
    Carries p.page other.page (p.withReportingOf other).selectPage := by
  have hframed := ExceptionsPage.framed_withReportingOf hp other
  have hsets := ExceptionsPage.sets_withReportingOf hp.page_size other
  refine ⟨?_, ?_, ?_, ?_, ?_⟩
  · rw [ExceptionsPage.size_selectPage, hsets.size_eq]
  · rw [hframed.byteAt_zero_selectPage, hsets.byteAt_eq 0 (by omega)]
  · have hlow : (0x0F : UInt8) &&& 0x0F = 0x0F := by decide
    rw [hframed.byteAt_selectPage (by omega), ExceptionsPage.withReportingOf,
      ExceptionsPage.byteAt_three_withReporting _ _ _ hp.page_size, ExceptionsPage.method,
      UInt8.and_assoc, hlow]
  · intro i hmin hmax
    rw [hframed.byteAt_selectPage (by omega),
      ExceptionsPage.byteAt_withReportingOf hp.page_size other hmin hmax]
  · intro i hi
    rw [hframed.byteAt_selectPage (by omega), hsets.byteAt_eq i (by omega)]

/-- The current page has new reporting fields, and no page but its two copies is touched. -/
structure Rewritten (d e : Device) (current left : Bytes) : Prop where
  before : d.find? (.scsiMode ExceptionsPage.code false) = some current
  after : e.find? (.scsiMode ExceptionsPage.code false) = some left
  carries : Carries current (d.source current) left
  others : ∀ key, key ≠ .scsiMode ExceptionsPage.code false →
    key ≠ .scsiMode ExceptionsPage.code true → e.find? key = d.find? key

section Captured

variable {d e : Device} {current : ExceptionsPage}

theorem find?_of_exceptions {control : PageControl} {p : ExceptionsPage}
    (h : d.exceptions control = some p) :
    d.find? (modeKey ExceptionsPage.code control) = some p.page := by
  obtain ⟨page, hpage, hseen⟩ := Option.bind_eq_some_iff.mp h
  by_cases hwell : WellFormed page
  · rw [if_pos hwell] at hseen
    obtain rfl := Option.some.inj hseen
    exact hpage
  · rw [if_neg hwell] at hseen
    cases hseen

theorem page_source (d : Device) (current : ExceptionsPage) :
    ((d.exceptions .saved).getD current).page = d.source current.page := by
  have hkey : modeKey ExceptionsPage.code .saved = .scsiMode ExceptionsPage.code true := rfl
  rw [exceptions, source, hkey]
  cases d.find? (.scsiMode ExceptionsPage.code true) with
  | none => rfl
  | some saved =>
    by_cases hwell : WellFormed saved
    · simp only [Option.bind_some, if_pos hwell, Option.getD_some, seen]
    · simp only [Option.bind_some, if_neg hwell, Option.getD_none]

/-- What is written back is the current page with the reporting fields of the saved one. -/
theorem Overrides.carries {l : List ModeSelect} (h : Overrides d current l e) :
    Carries current.page (d.source current.page) (d.restored current).selectPage := by
  rw [← page_source]
  exact carries_withReportingOf (framed_of_exceptions h.current_eq).1 _

theorem Overrides.rewritten {l : List ModeSelect} (h : Overrides d current l e) :
    Rewritten d e current.page (d.restored current).selectPage where
  before := find?_of_exceptions h.current_eq
  after := h.replaced _ (.inl rfl)
  carries := h.carries
  others := by
    intro key hcurrent hsaved
    refine h.spares.find?_eq key ?_
    rintro (hkey | ⟨hkey, -⟩)
    · exact hcurrent hkey
    · exact hsaved hkey

end Captured

/-- A drive that reports by itself, and whose two copies of the page differ. -/
def twoCopies : Device where
  manifest := { identity := {}, kind := .scsi }
  pages := [(.scsiMode 0x1C false, .ofList [0x9C, 10, 8, 3, 0, 0, 0x17, 0x70, 0, 0, 0, 5]),
    (.scsiMode 0x1C true, .ofList [0x9C, 10, 0, 4, 0, 0, 0x23, 0x28, 0, 0, 0, 2])]

theorem exceptionsFit_twoCopies : twoCopies.ExceptionsFit := by
  intro saved page hpage
  have hsize : page.size = 12 := by
    cases saved <;> cases hpage <;> rfl
  rw [Fits, hsize]
  decide

/-- A check leaves the pages as they were, or it leaves the current page rewritten. -/
theorem check_rewrites {d : Device} (hfit : d.ExceptionsFit) (options : Check.Options) :
    ((∀ s ∈ Scsi.selects (conversation answer (Check.Scsi.check options) d), s.accepted = false) →
        (d.run (Check.Scsi.check options)).2.pages = d.pages) ∧
      ((∃ s ∈ Scsi.selects (conversation answer (Check.Scsi.check options) d),
          s.accepted = true) →
        ∃ current left, Rewritten d (d.run (Check.Scsi.check options)).2 current left) := by
  have houtcome := outcome_check hfit options
  rw [outcome] at houtcome
  dsimp only at houtcome
  generalize Scsi.selects (conversation answer (Check.Scsi.check options) d) = sent at *
  generalize (d.run (Check.Scsi.check options)).2 = e at *
  constructor
  · intro hrefused
    cases houtcome with
    | kept hkeeps => exact hkeeps.pages_eq
    | overridden current hoverrides =>
      rw [hoverrides.selects_eq] at hrefused
      cases hrefused _ List.mem_cons_self
  · rintro ⟨s, hs, -⟩
    cases houtcome with
    | kept hkeeps => cases hs
    | overridden current hoverrides =>
      exact ⟨current.page, (d.restored current).selectPage, hoverrides.rewritten⟩

theorem check_rewrites_twoCopies : twoCopies.ExceptionsFit ∧ ∃ current left,
    Rewritten twoCopies (twoCopies.run (Check.Scsi.check ⟨0⟩)).2 current left :=
  ⟨exceptionsFit_twoCopies, (check_rewrites exceptionsFit_twoCopies ⟨0⟩).2 (by decide +kernel)⟩

end DriveHealth.Capture.Device
