import DriveHealth.Proofs.Capture.CurrentPage

/-!
The saved copy of the exceptions page that a check leaves in a captured drive. What is written
back is the current page with the saved reporting fields. So a drive that saves it keeps the saved
reporting fields, but everything else of the saved copy gives way to the current one.
-/
namespace DriveHealth.Capture.Device

open DriveHealth.Scsi Transport Program

/-- Two pages of the same length and code. -/
structure SameShape (a b : Bytes) : Prop where
  size_eq : b.size = a.size
  code_eq : b.byteAt 0 &&& 0x7F = a.byteAt 0 &&& 0x7F

/-- The same page, whether or not it tells of a saved copy. -/
structure SamePage (a b : Bytes) : Prop extends SameShape a b where
  byteAt_eq : ∀ i, 0 < i → b.byteAt i = a.byteAt i

/-- Two pages have the same reporting fields. -/
structure SameReporting (a b : Bytes) : Prop where
  method_eq : b.byteAt 3 &&& 0x0F = a.byteAt 3 &&& 0x0F
  numbers_eq : ∀ i, 4 ≤ i → i < 12 → b.byteAt i = a.byteAt i

/-- Two pages differ at most in their reporting fields. -/
structure AgreeBeside (a b : Bytes) : Prop extends SameShape a b where
  flags_eq : b.byteAt 3 &&& 0xF0 = a.byteAt 3 &&& 0xF0
  byteAt_eq : ∀ i, i = 1 ∨ i = 2 ∨ 12 ≤ i → b.byteAt i = a.byteAt i

theorem SamePage.refl (a : Bytes) : SamePage a a := ⟨⟨rfl, rfl⟩, fun _ _ => rfl⟩

theorem SameReporting.refl (a : Bytes) : SameReporting a a := ⟨rfl, fun _ _ _ => rfl⟩

theorem SameShape.wellFormed_iff {a b : Bytes} (h : SameShape a b) :
    WellFormed b ↔ WellFormed a := by
  have hmask : (0x3F : UInt8) = 0x7F &&& 0x3F := by decide
  rw [WellFormed, h.size_eq, hmask, ← UInt8.and_assoc, h.code_eq, UInt8.and_assoc, ← hmask,
    WellFormed]

namespace Carries

variable {current saved source left : Bytes}

theorem sameShape (h : Carries current source left) : SameShape current left where
  size_eq := h.size_eq
  code_eq := by
    have hmask : (0x7F : UInt8) &&& 0x7F = 0x7F := by decide
    rw [h.code_eq, UInt8.and_assoc, hmask]

theorem sameReporting (h : Carries current source left) : SameReporting source left where
  method_eq := by rw [h.method_eq, ExceptionsPage.low_of_mixed]
  numbers_eq := h.numbers_eq

/-- A page with the reporting fields of another is that page if the rest of it agrees. -/
theorem samePage_iff (h : Carries current saved left) :
    SamePage saved left ↔ AgreeBeside current saved := by
  constructor
  · intro hsame
    refine ⟨⟨?_, ?_⟩, ?_, ?_⟩
    · rw [← hsame.size_eq, h.size_eq]
    · rw [← hsame.code_eq, h.sameShape.code_eq]
    · rw [← hsame.byteAt_eq 3 (by omega), h.method_eq, ExceptionsPage.high_of_mixed]
    · intro i hi
      rw [← hsame.byteAt_eq i (by omega), h.byteAt_eq i hi]
  · intro hagree
    refine ⟨⟨?_, ?_⟩, ?_⟩
    · rw [h.size_eq, hagree.size_eq]
    · rw [h.sameShape.code_eq, hagree.code_eq]
    · intro i hi
      by_cases hmethod : i = 3
      · rw [hmethod, h.method_eq, ← hagree.flags_eq,
          ExceptionsPage.mixed_self]
      · by_cases hnumbers : 4 ≤ i ∧ i < 12
        · exact h.numbers_eq i hnumbers.1 hnumbers.2
        · rw [h.byteAt_eq i (by omega), hagree.byteAt_eq i (by omega)]

end Carries

section Overrides

variable {d e : Device} {page : ExceptionsPage} {sent : List ModeSelect} {saved : Bytes}

/-- Only a drive that saves is sent a page that it saves. -/
theorem Overrides.saves_iff (h : Overrides d page sent e) :
    (∀ s ∈ sent, s.save = true → s.accepted = false) ↔
      d.manifest.restrictions.saveRefused = true := by
  rw [h.selects_eq, writesBack]
  cases hrefused : d.manifest.restrictions.saveRefused with
  | true => simp [ExceptionsPage.sent]
  | false => simp [ExceptionsPage.sent]

theorem Overrides.wellFormed (h : Overrides d page sent e) : WellFormed page.page := by
  have hframed := (framed_of_exceptions h.current_eq).1
  exact ⟨hframed.page_size, hframed.code_eq⟩

/-- The saved copy that a drive is left with if it saves what is written back. -/
theorem Overrides.samePage_iff (h : Overrides d page sent e)
    (hsaved : d.find? (.scsiMode ExceptionsPage.code true) = some saved) :
    (WellFormed saved → SameReporting saved (d.restored page).selectPage) ∧
      (SamePage saved (d.restored page).selectPage ↔ AgreeBeside page.page saved) := by
  have hcarries := h.carries
  have hcurrent := h.wellFormed
  rw [source, hsaved] at hcarries
  by_cases hwell : WellFormed saved
  · simp only [if_pos hwell] at hcarries
    exact ⟨fun _ => hcarries.sameReporting, hcarries.samePage_iff⟩
  · have hleft := hcarries.sameShape.wellFormed_iff.mpr hcurrent
    refine ⟨fun hsaved => absurd hsaved hwell, iff_of_false ?_ ?_⟩
    · intro hsame
      exact hwell (hsame.wellFormed_iff.mp hleft)
    · intro hagree
      exact hwell (hagree.wellFormed_iff.mpr hcurrent)

end Overrides

/-- The saved copy that is left is the one from before, unless it was replaced by a page that
differs from it beside the reporting fields. -/
theorem check_saves {d : Device} (hfit : d.ExceptionsFit) {current saved : Bytes}
    (hcurrent : d.find? (.scsiMode ExceptionsPage.code false) = some current)
    (hsaved : d.find? (.scsiMode ExceptionsPage.code true) = some saved)
    (options : Check.Options) : ∃ left,
      (d.run (d.drive.check options)).2.find? (.scsiMode ExceptionsPage.code true) = some left ∧
      (WellFormed saved → SameReporting saved left) ∧
      (SamePage saved left ↔
        (∀ s ∈ Scsi.selects (conversation answer (d.drive.check options) d), s.save = true →
          s.accepted = false) ∨ AgreeBeside current saved) := by
  have houtcome := outcome_driveCheck hfit d.drive options
  rw [outcome] at houtcome
  dsimp only at houtcome
  generalize Scsi.selects (conversation answer (d.drive.check options) d) = sent at *
  generalize (d.run (d.drive.check options)).2 = e at *
  cases houtcome with
  | kept hkeeps =>
    refine ⟨saved, ?_, fun _ => SameReporting.refl saved, ?_⟩
    · rw [hkeeps.find?_eq, hsaved]
    · exact iff_of_true (SamePage.refl saved) (.inl (List.forall_mem_nil _))
  | overridden page hoverrides =>
    have hpage : page.page = current := by
      have hfound := find?_of_exceptions hoverrides.current_eq
      exact Option.some.inj (hfound.symm.trans hcurrent)
    have hsaves := hoverrides.saves_iff
    cases hrefused : d.manifest.restrictions.saveRefused with
    | true =>
      have hspared : ¬ d.Replaces (.scsiMode ExceptionsPage.code true) := by
        rintro (hkey | ⟨-, hfalse⟩)
        · cases hkey
        · rw [hrefused] at hfalse
          cases hfalse
      refine ⟨saved, ?_, fun _ => SameReporting.refl saved, ?_⟩
      · rw [hoverrides.spares.find?_eq _ hspared, hsaved]
      · exact iff_of_true (SamePage.refl saved) (.inl (hsaves.mpr hrefused))
    | false =>
      obtain ⟨hreporting, hsame⟩ := hoverrides.samePage_iff hsaved
      have hsaving := mt hsaves.mp (by rw [hrefused]; exact Bool.false_ne_true)
      refine ⟨_, hoverrides.replaced _ (.inr ⟨rfl, hrefused⟩), hreporting, ?_⟩
      rw [hsame, hpage, or_iff_right hsaving]

theorem check_saves_twoCopies : twoCopies.ExceptionsFit ∧ ∃ saved left,
    twoCopies.find? (.scsiMode ExceptionsPage.code true) = some saved ∧
    (twoCopies.run (twoCopies.drive.check ⟨0⟩)).2.find? (.scsiMode ExceptionsPage.code true) =
      some left ∧ SameReporting saved left := by
  obtain ⟨left, hleft, hreporting, -⟩ := check_saves exceptionsFit_twoCopies rfl rfl ⟨0⟩
  exact ⟨exceptionsFit_twoCopies, _, left, rfl, hleft, hreporting (by decide +kernel)⟩

/-- A flag beside the reporting fields that only the current copy has gets saved. -/
theorem not_check_keeps_saved : ¬ ∀ (d : Device) (options : Check.Options) (current saved : Bytes),
    d.ExceptionsFit → d.find? (.scsiMode ExceptionsPage.code false) = some current →
      d.find? (.scsiMode ExceptionsPage.code true) = some saved → ∃ left,
        (d.run (d.drive.check options)).2.find? (.scsiMode ExceptionsPage.code true) =
          some left ∧ SamePage saved left := by
  intro h
  obtain ⟨left, hleft, hsame⟩ := h twoCopies ⟨0⟩ _ _ exceptionsFit_twoCopies rfl rfl
  have hbyte := hsame.byteAt_eq 2 (by decide)
  have hflag : ((twoCopies.run (twoCopies.drive.check ⟨0⟩)).2.find?
      (.scsiMode ExceptionsPage.code true)).map (fun page => page.byteAt 2) = some 8 := by
    decide +kernel
  rw [hleft, Option.map_some, hbyte] at hflag
  revert hflag
  decide +kernel

end DriveHealth.Capture.Device
