import DriveHealth.Proofs.Check.Sends
import DriveHealth.Proofs.Node.Reads

/-!
The commands that reach the drive behind a node. Whatever the kernel answers, opening a drive and
reading from it only read, and a check sends nothing but the exceptions page, three times at most.
-/
namespace DriveHealth.Node

open Program Transport

def selectOpcode : ModeForm → UInt8
  | .six => 0x15
  | .ten => 0x55

/-- A MODE SELECT whose list holds an exceptions page behind its header and block descriptors. -/
inductive SelectsExceptions : Call → Prop
  | intro (c : Command) (form : ModeForm) (data : Bytes) :
      c.cdb[0]? = some (selectOpcode form) → c.phase = .toDrive data →
      Scsi.ExceptionsPage.pageStart form data + 12 ≤ data.size →
      data.byteAt (Scsi.ExceptionsPage.pageStart form data) &&& 0x3F = 0x1C →
      SelectsExceptions (.command c)

theorem SelectsExceptions.sends_eq {c : Call} (h : SelectsExceptions c) : c.sends = true := by
  obtain ⟨c, form, data, _, hphase, _, _⟩ := h
  rw [Call.sends, hphase]

/-- What is done with a node. -/
inductive Operation where
  | openDrive (path : String)
  | pull (d : Drive) (options : Farm.PullOptions)
  | readSmart (d : Drive)
  | readErrorLog (d : Drive)
  | check (d : Drive) (options : Check.Options)

namespace Operation

def Result : Operation → Type
  | openDrive _ => Except Error Drive
  | pull _ _ => Except Error (List Farm.Dataset)
  | readSmart _ => Except Error SmartData
  | readErrorLog _ => Except Error ErrorLog
  | check _ _ => CheckResult

def exchange : (o : Operation) → Exchange o.Result
  | openDrive path => Node.openDrive path
  | pull d options => Node.exchange d.features (Farm.pull d options)
  | readSmart d => Node.exchange d.features d.readSmart
  | readErrorLog d => Node.exchange d.features (ErrorLog.read d)
  | check d options => Node.exchange d.features (d.check options)

/-- How often data may be sent to the drive. -/
def sendLimit : Operation → Nat
  | check _ _ => 3
  | _ => 0

end Operation

/-- A conversation with the kernel of diagnostic commands only. -/
structure Diagnostic (o : Operation) (t : Trace Call Call.Reply) : Prop where
  reads : ∀ e ∈ t, e.1.sends = false → Reads e.1
  selects : ∀ e ∈ t, e.1.sends = true → SelectsExceptions e.1
  sends_le : (t.countP fun e => e.1.sends) ≤ o.sendLimit

theorem diagnostic_of_onlyReads {α : Type} {p : Exchange α} {t : Trace Call Call.Reply} {a : α}
    (hp : OnlyReads p) (h : Ends p t a) (o : Operation) : Diagnostic o t where
  reads := fun e he _ => hp.of_ends h e he
  selects := by
    intro e he hsends
    rw [(hp.of_ends h e he).sends_eq] at hsends
    cases hsends
  sends_le := by
    have hnone : (t.countP fun e => e.1.sends) = 0 := by
      rw [List.countP_eq_zero]
      intro e he
      rw [(hp.of_ends h e he).sends_eq]
      exact Bool.false_ne_true
    rw [hnone]
    exact Nat.zero_le _

/-- A list is sent by one command, unless it is too long for any. -/
theorem ends_select {form : ModeForm} {data : Bytes} {save : Bool} {t : Trace Call Call.Reply}
    {r : Except TransportError Unit} (h : Ends (Mode.select form data save) t r) :
    t = [] ∨ ∃ reply, t = [⟨.command ⟨Mode.selectCdb form save data.size, .toDrive data,
      defaultTimeout⟩, reply⟩] := by
  unfold Mode.select at h
  split at h
  · exact .inl (ends_done_iff.mp h).1
  · obtain ⟨u, v, reply, rfl, hrun, hdone⟩ := ends_bind_iff.mp h
    obtain ⟨rfl, -⟩ := ends_done_iff.mp hdone
    obtain ⟨u, v, completion, rfl, hcommand, hrest⟩ := ends_bind_iff.mp hrun
    obtain rfl := ends_perform_iff.mp hcommand
    have hnil : v = [] := by
      cases completion with
      | error e => exact (ends_done_iff.mp hrest).1
      | ok c => exact (ends_done_iff.mp hrest).1
    refine .inr ⟨completion, ?_⟩
    rw [hnil]
    rfl

/-- The list of a framed page holds the page behind its header. -/
theorem selectsExceptions_of_framed {p : Scsi.ExceptionsPage} (hp : p.Framed) (save : Bool) :
    SelectsExceptions (.command ⟨Mode.selectCdb p.form save p.selectData.size,
      .toDrive p.selectData, defaultTimeout⟩) := by
  have hstart := hp.pageStart_selectData
  have hpage : 12 ≤ p.page.size := hp.page_size
  have hsize := Scsi.ExceptionsPage.size_selectData p
  have hcode : p.selectData.byteAt p.header.size = p.selectPage.byteAt 0 := by
    have hheader := Scsi.ExceptionsPage.size_selectHeader p
    rw [Scsi.ExceptionsPage.selectData, Bytes.byteAt_append_right _ _ (by omega), hheader,
      Nat.sub_self]
  refine .intro _ p.form p.selectData ?_ rfl (by omega) ?_
  · cases p.form <;> rfl
  · rw [hstart, hcode]
    exact hp.code_selectPage

/-- A MODE SELECT is answered by one call that sends at most, and any other request by none. -/
theorem sends_answer_le {f : AtaFeatures} {r : Request} {u : Trace Call Call.Reply} {a : r.Reply}
    (h : Ends (answer f r) u a) :
    (u.countP fun e => e.1.sends) ≤ if Scsi.isModeSelect r then 1 else 0 := by
  cases hselect : Scsi.isModeSelect r with
  | false =>
    have hnone : (u.countP fun e => e.1.sends) = 0 := by
      rw [List.countP_eq_zero]
      intro e he
      rw [((onlyReads_answer f hselect).of_ends h e he).sends_eq]
      exact Bool.false_ne_true
    exact Nat.le_of_eq hnone
  | true =>
    cases r <;> cases hselect
    rcases ends_select h with rfl | ⟨reply, rfl⟩
    · exact Nat.zero_le 1
    · exact List.countP_le_length

theorem countP_isModeSelect (t : Scsi.DriveTrace) :
    (t.countP fun e => Scsi.isModeSelect e.1) = (Scsi.selects t).length := by
  rw [Scsi.selects, List.length_filterMap_eq_countP]
  refine List.countP_congr fun e _ => ?_
  obtain ⟨r, reply⟩ := e
  cases r <;> rfl

/-- In a conversation of a check every call reads or selects. -/
theorem call_of_expands {f : AtaFeatures} {t : Scsi.DriveTrace} {v : Trace Call Call.Reply}
    (hexpands : Expands (answer f) t v) (hframing : ∀ s ∈ Scsi.selects t, Check.Framing s) :
    ∀ e ∈ v, Reads e.1 ∨ SelectsExceptions e.1 := by
  intro e he
  obtain ⟨⟨r, reply⟩, hq, u, hanswer, hu⟩ := hexpands.exists_of_mem he
  cases hselect : Scsi.isModeSelect r with
  | false => exact .inl ((onlyReads_answer f hselect).of_ends hanswer e hu)
  | true =>
    cases r <;> cases hselect
    rename_i form data save
    have hsent : (⟨form, data, save, Except.isOk reply⟩ : Scsi.ModeSelect) ∈ Scsi.selects t :=
      List.mem_filterMap.mpr ⟨_, hq, rfl⟩
    obtain ⟨p, hp, rfl, rfl⟩ := hframing _ hsent
    rcases ends_select hanswer with rfl | ⟨completion, rfl⟩
    · cases hu
    · rw [List.mem_singleton] at hu
      rw [hu]
      exact .inr (selectsExceptions_of_framed hp save)

theorem diagnostic_of_check {d : Drive} {options : Check.Options} {v : Trace Call Call.Reply}
    {a : CheckResult} (h : Ends (exchange d.features (d.check options)) v a) :
    Diagnostic (.check d options) v := by
  obtain ⟨t, hends, hexpands⟩ := ends_interpret h
  have hsends := Check.sends_of_ends hends
  have hcall := call_of_expands hexpands hsends.framing
  have hcount := hexpands.countP_le Scsi.isModeSelect Call.sends fun r u a => sends_answer_le
  refine ⟨?_, ?_, ?_⟩
  · intro e he hreads
    rcases hcall e he with hread | hselect
    · exact hread
    · rw [hselect.sends_eq] at hreads
      cases hreads
  · intro e he hsent
    rcases hcall e he with hread | hselect
    · rw [hread.sends_eq] at hsent
      cases hsent
    · exact hselect
  · rw [countP_isModeSelect] at hcount
    exact Nat.le_trans hcount hsends.length_le

/-- Whatever the kernel answers, nothing but diagnostic commands reaches the drive. -/
theorem exchange_diagnostic {σ : Type} (handler : (c : Call) → σ → c.Reply × σ) (s : σ)
    (o : Operation) : Diagnostic o (conversation handler o.exchange s) := by
  have hends := ends_conversation handler o.exchange s
  cases o with
  | openDrive path => exact diagnostic_of_onlyReads (onlyReads_openDrive path) hends _
  | pull d options =>
    exact diagnostic_of_onlyReads (onlyReads_exchange (Farm.readsOnly_pull d options) _) hends _
  | readSmart d =>
    exact diagnostic_of_onlyReads (onlyReads_exchange d.readsOnly_readSmart _) hends _
  | readErrorLog d =>
    exact diagnostic_of_onlyReads (onlyReads_exchange (ErrorLog.readsOnly_read d) _) hends _
  | check d options => exact diagnostic_of_check hends

end DriveHealth.Node
