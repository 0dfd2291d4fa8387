import DriveHealth.Proofs.Conversation.Asked
import DriveHealth.Proofs.Scsi.Reporting
import DriveHealth.Scsi.Override

/-!
The mode commands in a conversation with a SCSI drive: what was sent to it, and which pages it
was seen to have. Reading a page sends nothing, and a temporary change of the page is taken back
in every conversation in which it was made.
-/
namespace DriveHealth.Scsi

open Transport Program

abbrev DriveTrace := Trace Request Request.Reply

def isRequestSense : Request → Bool
  | .requestSense _ => true
  | _ => false

def isModeSense : Request → Bool
  | .modeSense _ _ _ _ => true
  | _ => false

def isModeSelect : Request → Bool
  | .modeSelect _ _ _ => true
  | _ => false

/-- A MODE SELECT, and whether the drive took it. -/
structure ModeSelect where
  form : ModeForm
  data : Bytes
  save : Bool
  accepted : Bool

namespace ModeSelect

def ofEvent? : (r : Request) × r.Reply → Option ModeSelect
  | ⟨.modeSelect form data save, reply⟩ => some ⟨form, data, save, Except.isOk reply⟩
  | _ => none

end ModeSelect

/-- The MODE SELECTs of a conversation, in order. -/
def selects (t : DriveTrace) : List ModeSelect := t.filterMap ModeSelect.ofEvent?

/-- The reply to a MODE SENSE for the exceptions page, if the drive gave one. -/
def pageOf? (control : PageControl) :
    (r : Request) × r.Reply → Option (Except Error ExceptionsPage)
  | ⟨.modeSense form page c _, .ok (data, n)⟩ =>
    if page = ExceptionsPage.code ∧ c = control then
      some (ExceptionsPage.ofReply (data.extract 0 n) form)
    else none
  | _ => none

/-- The copy of the exceptions page that the first reply to a MODE SENSE for it holds. -/
def observed (control : PageControl) (t : DriveTrace) : Option ExceptionsPage :=
  (t.findSome? (pageOf? control)).bind Except.toOption

/-- A page, as it is sent to a drive. -/
def ExceptionsPage.sent (p : ExceptionsPage) (save accepted : Bool) : ModeSelect :=
  ⟨p.form, p.selectData, save, accepted⟩

/-- A page is written back, without saving it if the drive does not save it. -/
inductive Restores (restored : ExceptionsPage) : List ModeSelect → Prop
  | saved : Restores restored [restored.sent true true]
  | unsaved (accepted : Bool) :
      Restores restored [restored.sent true false, restored.sent false accepted]

/-- A temporary page is refused, or it is taken and a page is written back behind it. -/
inductive Switches (temporary restored : ExceptionsPage) : List ModeSelect → Prop
  | refused : Switches temporary restored [temporary.sent false false]
  | taken {l : List ModeSelect} :
      Restores restored l → Switches temporary restored (temporary.sent false true :: l)

theorem selects_append (t u : DriveTrace) : selects (t ++ u) = selects t ++ selects u :=
  List.filterMap_append

theorem selects_eq_nil {t : DriveTrace} (h : ∀ e ∈ t, isModeSelect e.1 = false) :
    selects t = [] := by
  rw [selects, List.filterMap_eq_nil_iff]
  intro e he
  have hother := h e he
  obtain ⟨r, reply⟩ := e
  cases r <;> first | rfl | cases hother

/-- A session that sends no MODE SELECT, whatever is replied. -/
abbrev ReadsOnly {α : Type} (p : Session α) : Prop := Asks (fun r => isModeSelect r = false) p

theorem ReadsOnly.selects_eq_nil {α : Type} {p : Session α} {t : DriveTrace} {a : α}
    (hp : ReadsOnly p) (h : Ends p t a) : selects t = [] :=
  Scsi.selects_eq_nil (hp.of_ends h)

theorem observed_append_of_some {control : PageControl} {t : DriveTrace} {p : ExceptionsPage}
    (h : observed control t = some p) (u : DriveTrace) : observed control (t ++ u) = some p := by
  unfold observed at h ⊢
  obtain ⟨r, hfind, hok⟩ := Option.bind_eq_some_iff.mp h
  rw [List.findSome?_append, hfind]
  exact hok

theorem observed_append_left {control : PageControl} {t u : DriveTrace}
    (h : t.findSome? (pageOf? control) = none) :
    observed control (t ++ u) = observed control u := by
  rw [observed, List.findSome?_append, h, Option.none_or, observed]

theorem observed_append_right {control : PageControl} {t u : DriveTrace}
    (h : u.findSome? (pageOf? control) = none) :
    observed control (t ++ u) = observed control t := by
  rw [observed, List.findSome?_append, h, Option.or_none, observed]

theorem findSome?_pageOf?_eq_none {control : PageControl} {t : DriveTrace}
    (h : ∀ e ∈ t, isModeSense e.1 = false) : t.findSome? (pageOf? control) = none := by
  rw [List.findSome?_eq_none_iff]
  intro e he
  have hsense := h e he
  obtain ⟨r, reply⟩ := e
  cases r <;> first | rfl | cases hsense

/-- The pages that a drive was seen to have came in the form that they are kept in. -/
theorem mem_of_observed {control : PageControl} {t : DriveTrace} {p : ExceptionsPage}
    (h : observed control t = some p) : ∃ buffer data n,
      ⟨.modeSense p.form ExceptionsPage.code control buffer, .ok (data, n)⟩ ∈ t ∧
        ExceptionsPage.ofReply (data.extract 0 n) p.form = .ok p := by
  unfold observed at h
  obtain ⟨r, hfind, hok⟩ := Option.bind_eq_some_iff.mp h
  obtain ⟨e, he, hpage⟩ := List.exists_of_findSome?_eq_some hfind
  unfold pageOf? at hpage
  split at hpage
  · rename_i form page c buffer data n
    by_cases hasked : page = ExceptionsPage.code ∧ c = control
    · obtain ⟨rfl, rfl⟩ := hasked
      rw [if_pos ⟨rfl, rfl⟩] at hpage
      obtain rfl := Option.some.inj hpage
      cases hreply : ExceptionsPage.ofReply (data.extract 0 n) form with
      | error e =>
        rw [hreply] at hok
        cases hok
      | ok q =>
        rw [hreply] at hok
        cases hok
        obtain ⟨_, rfl⟩ := ExceptionsPage.leastLength_le_of_ofReply hreply
        exact ⟨buffer, data, n, he, hreply⟩
    · rw [if_neg hasked] at hpage
      cases hpage
  · cases hpage

/-- The conversations in which a page is read. -/
inductive Reads (control : PageControl) : DriveTrace → Except Error ExceptionsPage → Prop
  | ten (data : Bytes) (n : Nat) :
      Reads control
        [⟨.modeSense .ten ExceptionsPage.code control (.zeros ExceptionsPage.bufferLength),
          .ok (data, n)⟩]
        (ExceptionsPage.ofReply (data.extract 0 n) .ten)
  | six (e : TransportError) (data : Bytes) (n : Nat) :
      Reads control
        [⟨.modeSense .ten ExceptionsPage.code control (.zeros ExceptionsPage.bufferLength),
          .error e⟩,
        ⟨.modeSense .six ExceptionsPage.code control (.zeros ExceptionsPage.bufferLength),
          .ok (data, n)⟩]
        (ExceptionsPage.ofReply (data.extract 0 n) .six)
  | refused (e e' : TransportError) :
      Reads control
        [⟨.modeSense .ten ExceptionsPage.code control (.zeros ExceptionsPage.bufferLength),
          .error e⟩,
        ⟨.modeSense .six ExceptionsPage.code control (.zeros ExceptionsPage.bufferLength),
          .error e'⟩]
        (.error (.transport e'))

theorem reads_of_ends {control : PageControl} {t : DriveTrace}
    {r : Except Error ExceptionsPage} (h : Ends (ExceptionsPage.read control) t r) :
    Reads control t r := by
  unfold ExceptionsPage.read at h
  obtain ⟨u, v, reply, rfl, hten, hrest⟩ := ends_bind_iff.mp h
  obtain rfl := ends_perform_iff.mp hten
  cases reply with
  | ok x =>
    obtain ⟨rfl, rfl⟩ := ends_done_iff.mp hrest
    exact Reads.ten x.1 x.2
  | error e =>
    obtain ⟨u, w, reply, rfl, hsix, hdone⟩ := ends_bind_iff.mp hrest
    obtain rfl := ends_perform_iff.mp hsix
    cases reply with
    | ok x =>
      obtain ⟨rfl, rfl⟩ := ends_done_iff.mp hdone
      exact Reads.six e x.1 x.2
    | error e' =>
      obtain ⟨rfl, rfl⟩ := ends_done_iff.mp hdone
      exact Reads.refused e e'

namespace Reads

variable {control : PageControl} {t : DriveTrace} {r : Except Error ExceptionsPage}

theorem selects_eq (h : Reads control t r) : selects t = [] := by
  cases h <;> rfl

theorem isModeSense_eq (h : Reads control t r) : ∀ e ∈ t, isModeSense e.1 = true := by
  cases h <;> simp [isModeSense]

theorem observed_eq (h : Reads control t r) : observed control t = r.toOption := by
  cases h <;> simp [observed, List.findSome?_cons, pageOf?, Except.toOption]

theorem findSome?_pageOf? (h : Reads control t r) {other : PageControl} (hne : control ≠ other) :
    t.findSome? (pageOf? other) = none := by
  cases h <;> simp [pageOf?, hne]

end Reads

namespace Override

/-- In the conversations of a write a page is sent once. -/
theorem ends_write_iff {p : ExceptionsPage} {save : Bool} {t : DriveTrace}
    {r : Except TransportError Unit} :
    Ends (p.write save) t r ↔ t = [⟨.modeSelect p.form p.selectData save, r⟩] :=
  ends_perform_iff

theorem restores_of_ends {restored : ExceptionsPage} {t : DriveTrace} {b : Bool}
    (h : Ends (restore restored) t b) :
    Restores restored (selects t) ∧ ∀ e ∈ t, isModeSelect e.1 = true := by
  unfold restore at h
  obtain ⟨u, v, reply, rfl, hsaved, hrest⟩ := ends_bind_iff.mp h
  obtain rfl := ends_write_iff.mp hsaved
  cases reply with
  | ok a =>
    obtain ⟨rfl, rfl⟩ := ends_done_iff.mp hrest
    exact ⟨Restores.saved, by simp [isModeSelect]⟩
  | error e =>
    obtain ⟨u, w, reply, rfl, hunsaved, hdone⟩ := ends_bind_iff.mp hrest
    obtain rfl := ends_write_iff.mp hunsaved
    obtain ⟨rfl, rfl⟩ := ends_done_iff.mp hdone
    exact ⟨Restores.unsaved (Except.isOk reply), by simp [isModeSelect]⟩

/-- What is done under temporary settings is done between the temporary page and a page that is
written back, and it is not done at all if the temporary page is refused. -/
theorem ends_during {α : Type} {current restored : ExceptionsPage} {body : Session α}
    {t : DriveTrace} {r : Except Error α} (h : Ends (during current restored body) t r) :
    (∃ e, t = [⟨.modeSelect (temporary current).form (temporary current).selectData false,
        .error e⟩] ∧ r = .error (.transport e)) ∨
    (∃ u v a, t = ⟨.modeSelect (temporary current).form (temporary current).selectData false,
        .ok ()⟩ :: (u ++ v) ∧ Ends body u a ∧ Restores restored (selects v) ∧
        (∀ e ∈ v, isModeSelect e.1 = true) ∧ r = .ok a) := by
  unfold during apply at h
  obtain ⟨u, v, r', rfl, happly, hrest⟩ := ends_bind_iff.mp h
  obtain ⟨u, w, reply, rfl, hwrite, hdone⟩ := ends_bind_iff.mp happly
  obtain rfl := ends_write_iff.mp hwrite
  obtain ⟨rfl, rfl⟩ := ends_done_iff.mp hdone
  cases reply with
  | error e =>
    obtain ⟨rfl, rfl⟩ := ends_done_iff.mp hrest
    exact .inl ⟨e, rfl, rfl⟩
  | ok a =>
    obtain ⟨u, w, a, rfl, hbody, hrestore⟩ := ends_bind_iff.mp hrest
    obtain ⟨v, w, b, rfl, hrestored, hdone⟩ := ends_bind_iff.mp hrestore
    obtain ⟨rfl, rfl⟩ := ends_done_iff.mp hdone
    obtain ⟨hselects, honly⟩ := restores_of_ends hrestored
    refine .inr ⟨u, v, a, ?_, hbody, hselects, honly, rfl⟩
    rw [List.append_nil, List.append_nil]
    rfl

end Override
end DriveHealth.Scsi
