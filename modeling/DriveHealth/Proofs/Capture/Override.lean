import DriveHealth.Check
import DriveHealth.Proofs.Capture.Mode
import DriveHealth.Proofs.Check.Scsi

/-!
What a SCSI check leaves in a captured drive. Either the check sends no MODE SELECT and the pages
stay as they are, or the exceptions page is switched over and written back: then the current copy
has the reporting fields of the saved one, and the saved copy is the same page if the drive saves
what is written.
-/
namespace DriveHealth.Capture.Device

open DriveHealth.Scsi Transport Program

/-- The MODE SELECTs of a run, and the drive that it leaves. -/
def outcome {α : Type} (d : Device) (p : Session α) : List ModeSelect × Device :=
  (Scsi.selects (conversation answer p d), (d.run p).2)

/-- The page that is written back to the drive. -/
def restored (d : Device) (current : ExceptionsPage) : ExceptionsPage :=
  current.withReportingOf ((d.exceptions .saved).getD current)

/-- The keys of the copies that a page replaces when it is written back. -/
def Replaces (d : Device) (key : Key) : Prop :=
  key = .scsiMode ExceptionsPage.code false ∨
    (key = .scsiMode ExceptionsPage.code true ∧ d.manifest.restrictions.saveRefused = false)

/-- The MODE SELECTs by which a page is written back. -/
def writesBack (d : Device) (p : ExceptionsPage) : List ModeSelect :=
  if d.manifest.restrictions.saveRefused then [p.sent true false, p.sent false true]
  else [p.sent true true]

/-- No page changed but those that are replaced when a page is written back. -/
structure Spares (d e : Device) : Prop where
  manifest_eq : e.manifest = d.manifest
  find?_eq : ∀ key, ¬ d.Replaces key → e.find? key = d.find? key

/-- The exceptions page was switched over and written back. -/
structure Overrides (d : Device) (current : ExceptionsPage) (l : List ModeSelect) (e : Device) :
    Prop where
  current_eq : d.exceptions .current = some current
  selects_eq : l = (Override.temporary current).sent false true ::
    d.writesBack (d.restored current)
  spares : Spares d e
  replaced : ∀ key, d.Replaces key → e.find? key = some (d.restored current).selectPage

/-- What a check may leave. -/
inductive Outcome (d : Device) : List ModeSelect → Device → Prop
  | kept {e : Device} : Keeps d e → Outcome d [] e
  | overridden {l : List ModeSelect} {e : Device} (current : ExceptionsPage) :
      Overrides d current l e → Outcome d l e

section Outcome

variable {α β : Type} {d e : Device} {p : Session α} {f : α → Session β}

theorem Keeps.exceptions_eq (h : Keeps d e) (control : PageControl) :
    e.exceptions control = d.exceptions control := by
  unfold exceptions modeForm
  rw [h.find?_eq, h.manifest_eq]

theorem Keeps.restored_eq (h : Keeps d e) (current : ExceptionsPage) :
    e.restored current = d.restored current := by
  rw [restored, h.exceptions_eq, restored]

theorem replaces_iff (h : e.manifest = d.manifest) {key : Key} :
    e.Replaces key ↔ d.Replaces key := by
  rw [Replaces, h, Replaces]

theorem Keeps.spares (h : Keeps d e) : Spares d e where
  manifest_eq := h.manifest_eq
  find?_eq := fun key _ => h.find?_eq key

theorem Spares.trans {c : Device} (h : Spares c d) (h' : Spares d e) : Spares c e where
  manifest_eq := h'.manifest_eq.trans h.manifest_eq
  find?_eq := by
    intro key hkey
    rw [h'.find?_eq key (mt (replaces_iff h.manifest_eq).mp hkey), h.find?_eq key hkey]

theorem Keeps.exceptionsFit (h : Keeps d e) (hfit : d.ExceptionsFit) : e.ExceptionsFit := by
  intro saved page hpage
  rw [h.find?_eq] at hpage
  rw [Fits, modeForm, h.manifest_eq]
  exact hfit saved page hpage

/-- What a run leaves, as seen from an earlier drive with the same pages. -/
theorem Outcome.behind {c : Device} {l : List ModeSelect} (h : Keeps c d) (hd : Outcome d l e) :
    Outcome c l e := by
  cases hd with
  | kept hkeeps => exact Outcome.kept (h.trans hkeeps)
  | overridden current hoverrides =>
    refine Outcome.overridden current ⟨?_, ?_, ?_, ?_⟩
    · rw [← h.exceptions_eq, hoverrides.current_eq]
    · rw [hoverrides.selects_eq, h.restored_eq, writesBack, h.manifest_eq, ← writesBack]
    · exact h.spares.trans hoverrides.spares
    · intro key hkey
      rw [hoverrides.replaced key ((replaces_iff h.manifest_eq).mpr hkey), h.restored_eq]

theorem outcome_done (d : Device) (a : α) : d.outcome (done a : Session α) = ([], d) := rfl

theorem outcome_bind (d : Device) (p : Session α) (f : α → Session β) :
    d.outcome (p.bind f) = ((d.outcome p).1 ++ ((d.run p).2.outcome (f (d.run p).1)).1,
      ((d.run p).2.outcome (f (d.run p).1)).2) := by
  simp only [outcome, conversation_bind, selects_append, run_bind]
  rfl

/-- Reading comes before what is left, and adds nothing to it. -/
theorem outcome_bind_of_readsOnly (hp : ReadsOnly p) (d : Device) :
    d.outcome (p.bind f) = (d.run p).2.outcome (f (d.run p).1) := by
  have hselects : (d.outcome p).1 = [] := hp.selects_eq_nil (ends_conversation answer p d)
  rw [outcome_bind, hselects, List.nil_append]

/-- An answer that is only put differently leaves the same. -/
theorem outcome_bind_of_done (d : Device) (p : Session α) (hf : ∀ a, ∃ b, f a = done b) :
    d.outcome (p.bind f) = d.outcome p := by
  obtain ⟨b, hb⟩ := hf (d.run p).1
  rw [outcome_bind, hb, outcome_done, List.append_nil]
  rfl

theorem outcome_of_readsOnly (hp : ReadsOnly p) (d : Device) :
    Outcome d (d.outcome p).1 (d.outcome p).2 := by
  have hselects : (d.outcome p).1 = [] := hp.selects_eq_nil (ends_conversation answer p d)
  rw [hselects]
  exact Outcome.kept (keeps_run hp d)

theorem outcome_behind_readsOnly (hp : ReadsOnly p)
    (h : Outcome (d.run p).2 ((d.run p).2.outcome (f (d.run p).1)).1
      ((d.run p).2.outcome (f (d.run p).1)).2) :
    Outcome d (d.outcome (p.bind f)).1 (d.outcome (p.bind f)).2 := by
  rw [outcome_bind_of_readsOnly hp]
  exact h.behind (keeps_run hp d)

end Outcome

section Write

variable {d : Device} {p : ExceptionsPage}

/-- What a write leaves comes before what is left behind it. -/
theorem outcome_bind_write {α : Type} (d : Device) (p : ExceptionsPage) (save : Bool)
    (f : Except TransportError Unit → Session α) : d.outcome ((p.write save).bind f) =
      (p.sent save (d.modeSelect p.form p.selectData save).1.isOk ::
        ((d.modeSelect p.form p.selectData save).2.outcome
          (f (d.modeSelect p.form p.selectData save).1)).1,
        ((d.modeSelect p.form p.selectData save).2.outcome
          (f (d.modeSelect p.form p.selectData save).1)).2) :=
  rfl

theorem modeForm_congr {e : Device} (h : e.manifest = d.manifest) : e.modeForm = d.modeForm := by
  rw [modeForm, h, modeForm]

theorem spares_store (hp : p.Framed) (save : Bool)
    (hsave : save = true → d.manifest.restrictions.saveRefused = false) :
    Spares d (d.store p.selectPage save) where
  manifest_eq := rfl
  find?_eq := by
    intro key hkey
    rw [find?_store hp.code_selectPage, if_neg]
    rintro (hcurrent | ⟨hsaved, htrue⟩)
    · exact hkey (.inl hcurrent)
    · exact hkey (.inr ⟨hsaved, hsave htrue⟩)

/-- A page that is not to be saved is taken. -/
theorem modeSelect_unsaved (hp : p.Framed) (hform : p.form = d.modeForm) :
    d.modeSelect p.form p.selectData false =
      (.ok (), (d.remember (.modeSelect p.form false)).store p.selectPage false) := by
  rw [modeSelect_selectData hp (taken_of_modeForm hform), if_neg fun h => Bool.false_ne_true h.1]

/-- A page that is to be saved is taken by a drive that saves, and refused by any other. -/
theorem modeSelect_saved (hp : p.Framed) (hform : p.form = d.modeForm)
    (hsaves : d.manifest.restrictions.saveRefused = false) :
    d.modeSelect p.form p.selectData true =
      (.ok (), (d.remember (.modeSelect p.form true)).store p.selectPage true) := by
  rw [modeSelect_selectData hp (taken_of_modeForm hform), if_neg (by simp [hsaves])]

theorem modeSelect_refused (hp : p.Framed) (hform : p.form = d.modeForm)
    (hrefused : d.manifest.restrictions.saveRefused = true) :
    d.modeSelect p.form p.selectData true =
      (.error (refused 0x26), d.remember (.modeSelect p.form true)) := by
  rw [modeSelect_selectData hp (taken_of_modeForm hform), if_pos ⟨rfl, hrefused⟩]

/-- A page that is written back replaces the copies that the drive lets it replace. -/
structure WrittenBack (d : Device) (p : ExceptionsPage) (l : List ModeSelect) (e : Device) :
    Prop where
  selects_eq : l = d.writesBack p
  spares : Spares d e
  replaced : ∀ key, d.Replaces key → e.find? key = some p.selectPage

theorem writtenBack_restore (hp : p.Framed) (hform : p.form = d.modeForm) :
    WrittenBack d p (d.outcome (Override.restore p)).1 (d.outcome (Override.restore p)).2 := by
  have hkeeps (save : Bool) := Keeps.remember d (.modeSelect p.form save)
  rw [Override.restore, outcome_bind_write]
  cases hsave : d.manifest.restrictions.saveRefused with
  | false =>
    rw [modeSelect_saved hp hform hsave]
    have hcopies : d.writesBack p = [p.sent true true] := by
      rw [writesBack, if_neg (by simp [hsave])]
    refine ⟨hcopies.symm, ?_, ?_⟩
    · exact (hkeeps true).spares.trans (spares_store hp true fun _ => hsave)
    · rintro key (hcurrent | ⟨hsaved, -⟩)
      · exact (find?_store hp.code_selectPage _ _ _).trans (if_pos (.inl hcurrent))
      · exact (find?_store hp.code_selectPage _ _ _).trans (if_pos (.inr ⟨hsaved, rfl⟩))
  | true =>
    rw [modeSelect_refused hp hform hsave]
    dsimp only
    have hform' : p.form = (d.remember (.modeSelect p.form true)).modeForm := hform
    rw [outcome_bind_write, modeSelect_unsaved hp hform']
    have hcopies : d.writesBack p = [p.sent true false, p.sent false true] := by
      rw [writesBack, if_pos hsave]
    have hremembers := (hkeeps true).trans (Keeps.remember _ (.modeSelect p.form false))
    refine ⟨hcopies.symm, ?_, ?_⟩
    · exact hremembers.spares.trans (spares_store hp false fun h => absurd h Bool.false_ne_true)
    · rintro key (hcurrent | ⟨-, hsaves⟩)
      · exact (find?_store hp.code_selectPage _ _ _).trans (if_pos (.inl hcurrent))
      · rw [hsave] at hsaves
        cases hsaves

theorem during_eq {α : Type} (current other : ExceptionsPage) (body : Session α) :
    Override.during current other body = ((Override.temporary current).write false).bind
      fun r : Except TransportError Unit =>
        match r with
        | .error e => done (.error (.transport e))
        | .ok () => body.bind fun a => (Override.restore other).bind fun _ => done (.ok a) := by
  refine congrArg (Program.ask _) (funext fun r => ?_)
  cases r <;> rfl

/-- A page is written to the drive before a session that only reads, and another one behind it. -/
theorem outcome_during {α : Type} {body : Session α} (hbody : ReadsOnly body)
    {current : ExceptionsPage} (hcurrent : current.Framed) (hform : current.form = d.modeForm)
    (other : ExceptionsPage) : ∃ e, Spares d e ∧
      d.outcome (Override.during current other body) =
        ((Override.temporary current).sent false true :: (e.outcome (Override.restore other)).1,
          (e.outcome (Override.restore other)).2) := by
  have htemporary : (Override.temporary current).Framed :=
    ExceptionsPage.framed_withReporting hcurrent _ _ _
  have hform' : (Override.temporary current).form = d.modeForm :=
    (ExceptionsPage.sets_withReporting _ _ _ hcurrent.page_size).form_eq.trans hform
  have htaken := modeSelect_unsaved htemporary hform'
  have hkeeps := Keeps.remember d (.modeSelect (Override.temporary current).form false)
  have hspares := hkeeps.spares.trans
    (spares_store htemporary false fun h => absurd h Bool.false_ne_true)
  rw [during_eq, outcome_bind_write, htaken]
  dsimp only
  rw [outcome_bind_of_readsOnly hbody, outcome_bind, outcome_done]
  refine ⟨_, hspares.trans (keeps_run hbody _).spares, ?_⟩
  rw [List.append_nil]
  rfl

end Write

/-- A page that was read fits a parameter list, in the form that the drive takes. -/
theorem framed_of_exceptions {d : Device} {control : PageControl} {p : ExceptionsPage}
    (h : d.exceptions control = some p) : p.Framed ∧ p.form = d.modeForm := by
  obtain ⟨page, -, hseen⟩ := Option.bind_eq_some_iff.mp h
  by_cases hwell : WellFormed page
  · rw [if_pos hwell] at hseen
    obtain rfl := Option.some.inj hseen
    exact ⟨framed_seen hwell, rfl⟩
  · rw [if_neg hwell] at hseen
    cases hseen

theorem run_savedOr {d : Device} (hfit : d.ExceptionsFit) (current : ExceptionsPage) :
    (d.run (Check.Scsi.savedOr current)).1 = (d.exceptions .saved).getD current := by
  rw [← run_read hfit, Check.Scsi.savedOr, run_bind]
  cases (d.run (ExceptionsPage.read .saved)).1 <;> rfl

theorem overrides_during {α : Type} {d : Device} {body : Session α} (hbody : ReadsOnly body)
    {current : ExceptionsPage} (hcurrent : d.exceptions .current = some current) :
    Overrides d current
      (d.outcome (Override.during current (d.restored current) body)).1
      (d.outcome (Override.during current (d.restored current) body)).2 := by
  obtain ⟨hframed, hform⟩ := framed_of_exceptions hcurrent
  obtain ⟨e, hspares, houtcome⟩ := outcome_during hbody hframed hform (d.restored current)
  have hrestored : (d.restored current).Framed := ExceptionsPage.framed_withReportingOf hframed _
  have hform' : (d.restored current).form = e.modeForm := by
    have hsets := ExceptionsPage.sets_withReportingOf hframed.page_size
      ((d.exceptions .saved).getD current)
    rw [modeForm_congr hspares.manifest_eq, ← hform]
    exact hsets.form_eq
  have hback := writtenBack_restore hrestored hform'
  rw [houtcome]
  refine ⟨hcurrent, ?_, hspares.trans hback.spares, ?_⟩
  · dsimp only
    rw [hback.selects_eq, writesBack, hspares.manifest_eq, ← writesBack]
  · intro key hkey
    exact hback.replaced key ((replaces_iff hspares.manifest_eq).mpr hkey)

/-- The page is switched over, and written back to the drive that this has left. -/
theorem outcome_askSwitchedOver {d : Device} (hfit : d.ExceptionsFit) {current : ExceptionsPage}
    (hcurrent : d.exceptions .current = some current) (longest : Nat) :
    Outcome d (d.outcome (Check.Scsi.askSwitchedOver current longest)).1
      (d.outcome (Check.Scsi.askSwitchedOver current longest)).2 := by
  have hsaved := Check.Scsi.readsOnly_savedOr current
  have hkeeps := keeps_run hsaved d
  have hsense := Check.Scsi.readsOnly_askSenseAfter longest
  rw [Check.Scsi.askSwitchedOver]
  refine outcome_behind_readsOnly hsaved ?_
  rw [← hkeeps.exceptions_eq] at hcurrent
  rw [run_savedOr hfit, ← hkeeps.exceptions_eq, outcome_bind_of_done]
  · exact Outcome.overridden current (overrides_during hsense hcurrent)
  · rintro (e | result)
    · exact ⟨_, rfl⟩
    · exact ⟨_, rfl⟩

theorem outcome_askPage {d : Device} (hfit : d.ExceptionsFit) {current : ExceptionsPage}
    (hcurrent : d.exceptions .current = some current) (options : Check.Options) :
    Outcome d (d.outcome (Check.Scsi.askPage options current)).1
      (d.outcome (Check.Scsi.askPage options current)).2 := by
  rw [Check.Scsi.askPage_eq]
  by_cases hmethod : current.method = 0
  · rw [if_pos hmethod]
    exact Outcome.kept (Keeps.refl d)
  · rw [if_neg hmethod]
    by_cases hwait : current.method = ExceptionsPage.onRequest ∧
        Check.Scsi.natural current ≤ Check.Scsi.ceiling options
    · rw [if_pos hwait]
      exact outcome_of_readsOnly (Check.Scsi.readsOnly_askSenseAfter _) d
    · rw [if_neg hwait]
      exact outcome_askSwitchedOver hfit hcurrent _

theorem outcome_check {d : Device} (hfit : d.ExceptionsFit) (options : Check.Options) :
    Outcome d (d.outcome (Check.Scsi.check options)).1
      (d.outcome (Check.Scsi.check options)).2 := by
  have hkeeps := keeps_run Check.Scsi.readsOnly_readLog d
  refine outcome_behind_readsOnly Check.Scsi.readsOnly_readLog ?_
  generalize (d.run Check.Scsi.readLog).1 = log
  cases log with
  | codes asc ascq => exact Outcome.kept (Keeps.refl _)
  | foreign parameter => exact Outcome.kept (Keeps.refl _)
  | unavailable =>
    have hread := ExceptionsPage.readsOnly_read .current
    have hfit' := hkeeps.exceptionsFit hfit
    refine outcome_behind_readsOnly hread ?_
    have hcurrent := run_read hfit' .current
    have hkeeps' := keeps_run hread (d.run Check.Scsi.readLog).2
    cases hpage : ((d.run Check.Scsi.readLog).2.run (ExceptionsPage.read .current)).1 with
    | error e => exact Outcome.kept (Keeps.refl _)
    | ok current =>
      rw [hpage, ← hkeeps'.exceptions_eq] at hcurrent
      exact outcome_askPage (hkeeps'.exceptionsFit hfit') hcurrent.symm options

/-- The check of a drive of any kind leaves what the check over SCSI leaves. -/
theorem outcome_driveCheck {d : Device} (hfit : d.ExceptionsFit) (drive : Drive)
    (options : Check.Options) :
    Outcome d (d.outcome (drive.check options)).1 (d.outcome (drive.check options)).2 := by
  unfold Drive.check
  cases drive.kind with
  | nvme => exact outcome_of_readsOnly Check.Nvme.readsOnly_check d
  | scsi => exact outcome_check hfit options
  | ata =>
    have hsmart := Check.Ata.readsOnly_checkSmart drive
    refine outcome_behind_readsOnly hsmart ?_
    have hfit' := (keeps_run hsmart d).exceptionsFit hfit
    split
    · rw [outcome_bind_of_done _ _ fun asked => ⟨_, rfl⟩]
      exact outcome_check hfit' options
    · exact Outcome.kept (Keeps.refl _)

end DriveHealth.Capture.Device
