import DriveHealth.Check
import DriveHealth.Proofs.Check.Scoped
import DriveHealth.Proofs.Scsi.ParameterList
import DriveHealth.Proofs.Transport.ReadsOnly

/-!
What a check sends to a drive: at most three parameter lists, and each is made from a copy of the
exceptions page that was read from the drive.
-/
namespace DriveHealth.Check

open DriveHealth.Scsi Transport Program

/-- A list made from a copy of the exceptions page, in the form in which the copy came. -/
def Framing (s : ModeSelect) : Prop :=
  ∃ p : ExceptionsPage, p.Framed ∧ s.form = p.form ∧ s.data = p.selectData

structure Sends (t : DriveTrace) : Prop where
  framing : ∀ s ∈ selects t, Framing s
  length_le : (selects t).length ≤ 3

theorem sends_of_nil {t : DriveTrace} (h : selects t = []) : Sends t where
  framing := by
    rw [h]
    exact List.forall_mem_nil _
  length_le := by
    rw [h]
    exact Nat.zero_le 3

theorem framing_sent {p : ExceptionsPage} (hp : p.Framed) (save accepted : Bool) :
    Framing (p.sent save accepted) :=
  ⟨p, hp, rfl, rfl⟩

theorem framing_of_restores {restored : ExceptionsPage} {l : List ModeSelect}
    (h : Restores restored l) (hp : restored.Framed) : ∀ s ∈ l, Framing s := by
  cases h with
  | saved =>
    rw [List.forall_mem_singleton]
    exact framing_sent hp true true
  | unsaved accepted =>
    rw [List.forall_mem_cons, List.forall_mem_singleton]
    exact ⟨framing_sent hp true false, framing_sent hp false accepted⟩

theorem length_le_of_restores {restored : ExceptionsPage} {l : List ModeSelect}
    (h : Restores restored l) : l.length ≤ 2 := by
  cases h with
  | saved => exact Nat.le_succ 1
  | unsaved accepted => exact Nat.le_refl 2

theorem framing_of_switches {temporary restored : ExceptionsPage} {l : List ModeSelect}
    (h : Switches temporary restored l) (htemporary : temporary.Framed)
    (hrestored : restored.Framed) : ∀ s ∈ l, Framing s := by
  cases h with
  | refused =>
    rw [List.forall_mem_singleton]
    exact framing_sent htemporary false false
  | taken hrestores =>
    rw [List.forall_mem_cons]
    exact ⟨framing_sent htemporary false true, framing_of_restores hrestores hrestored⟩

theorem length_le_of_switches {temporary restored : ExceptionsPage} {l : List ModeSelect}
    (h : Switches temporary restored l) : l.length ≤ 3 := by
  cases h with
  | refused => exact Nat.le_add_left 1 2
  | taken hrestores => exact Nat.succ_le_succ (length_le_of_restores hrestores)

/-- The pages of an override are framed like the page that was read. -/
theorem sends_of_overridden {t : DriveTrace} {result : CheckResult}
    {current temporary restored : ExceptionsPage}
    (h : Scsi.Overridden t result current temporary restored) : Sends t := by
  obtain ⟨_, _, _, _, hreply⟩ := mem_of_observed h.observed_current
  have hcurrent := ExceptionsPage.framed_of_ofReply hreply
  exact {
    framing := framing_of_switches h.switches (h.temporary_sets.framed hcurrent)
      (h.restored_sets.framed hcurrent)
    length_le := length_le_of_switches h.switches
  }

theorem sends_of_ends_scsi {options : Options} {t : DriveTrace} {result : CheckResult}
    (h : Ends (Scsi.check options) t result) : Sends t := by
  have hscoped := Scsi.scoped_of_checks (Scsi.checks_of_ends h)
  rcases hscoped.path with huntouched | ⟨_, _, _, hoverridden⟩
  · exact sends_of_nil huntouched.selects_eq
  · exact sends_of_overridden hoverridden

/-- A drive of any kind is sent what a check over SCSI sends, or nothing. -/
theorem sends_of_ends {d : Drive} {options : Options} {t : DriveTrace} {result : CheckResult}
    (h : Ends (d.check options) t result) : Sends t := by
  unfold Drive.check at h
  cases hkind : d.kind with
  | nvme =>
    rw [hkind] at h
    exact sends_of_nil (Nvme.readsOnly_check.selects_eq_nil h)
  | scsi =>
    rw [hkind] at h
    exact sends_of_ends_scsi h
  | ata =>
    rw [hkind] at h
    obtain ⟨u, v, smart, rfl, hsmart, hrest⟩ := ends_bind_iff.mp h
    have hnone := (Ata.readsOnly_checkSmart d).selects_eq_nil hsmart
    have hselects : selects (u ++ v) = selects v := by
      rw [selects_append, hnone, List.nil_append]
    split at hrest
    · obtain ⟨v, w, asked, rfl, hasked, hdone⟩ := ends_bind_iff.mp hrest
      obtain ⟨rfl, -⟩ := ends_done_iff.mp hdone
      rw [List.append_nil] at hselects ⊢
      have hsends := sends_of_ends_scsi hasked
      exact ⟨hselects ▸ hsends.framing, hselects ▸ hsends.length_le⟩
    · obtain ⟨rfl, -⟩ := ends_done_iff.mp hrest
      exact sends_of_nil hselects

end DriveHealth.Check
