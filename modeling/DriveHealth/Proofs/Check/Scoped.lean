import DriveHealth.Proofs.Check.Scsi
import Mathlib.Data.List.Basic

/-!
A SCSI check changes the exceptions page of a drive for the time of one question only. Whatever
the drive replies, a temporary page that was taken is followed by the page that restores the
reporting fields, and sense data is asked for between the two or without any change at all.
-/
namespace DriveHealth.Check.Scsi

open DriveHealth.Scsi Transport Program

/-- The mode page is left alone, and sense data is asked for only if a report is due anyway. -/
structure Untouched (options : Options) (t : DriveTrace) : Prop where
  selects_eq : selects t = []
  sense_waited : ∀ e ∈ t, isRequestSense e.1 = true → ∃ current,
    observed .current t = some current ∧ current.method = 6 ∧
      current.interval.toNat * 100 ≤ min options.waitLimit 1000

/-- The mode page is changed and restored, or the drive refuses to change it. -/
structure Overridden (t : DriveTrace) (result : CheckResult)
    (current temporary restored : ExceptionsPage) : Prop where
  observed_current : observed .current t = some current
  temporary_sets : current.Sets temporary 6 1 0
  /-- The reporting fields are those of the saved page, if the drive has shown one. -/
  restored_sets : current.Sets restored
    ((observed .saved t).getD current).method ((observed .saved t).getD current).interval
    ((observed .saved t).getD current).reportCount
  switches : Switches temporary restored (selects t)
  sense_between : ∀ before reply after, t = before ++ senseEvent reply :: after →
    selects before = [temporary.sent false true] ∧ Restores restored (selects after)
  refused_unknown : selects t = [temporary.sent false false] → result = .ofStatus .unknown

/-- A conversation in which every change of the mode page is taken back. -/
structure Scoped (options : Options) (t : DriveTrace) (result : CheckResult) : Prop where
  /-- The log is asked for first, and if it answers nothing else is asked. -/
  log_first : ∃ reply u, t = logEvent reply :: u ∧
    (ExceptionsLog.ofAnswer reply ≠ .unavailable → u = [])
  path : Untouched options t ∨
    ∃ current temporary restored, Overridden t result current temporary restored
  /-- The current page is kept in the form in which it came. -/
  current_form : ∀ current, observed .current t = some current → ∃ buffer data n,
    ⟨.modeSense current.form 0x1C .current buffer, .ok (data, n)⟩ ∈ t ∧
      ExceptionsPage.ofReply (data.extract 0 n) current.form = .ok current
  sense_event : ∀ e ∈ t, isRequestSense e.1 = true → ∃ reply, e = senseEvent reply
  sense_once : (t.filter fun e => isRequestSense e.1).length ≤ 1
  pause_le : ∀ n r, ⟨.pause n, r⟩ ∈ t → n ≤ min options.waitLimit 1000

/-- Anything but a question for sense data, and no pause beyond a limit. -/
def isCalm (longest : Nat) : Request → Bool
  | .requestSense _ => false
  | .pause n => decide (n ≤ longest)
  | _ => true

def Calm (longest : Nat) (t : DriveTrace) : Prop := ∀ e ∈ t, isCalm longest e.1 = true

theorem isRequestSense_of_isCalm {longest : Nat} {r : Request} (h : isCalm longest r = true) :
    isRequestSense r = false := by
  cases r <;> first | rfl | cases h

theorem isCalm_of_isModeSense (longest : Nat) {r : Request} (h : isModeSense r = true) :
    isCalm longest r = true := by
  cases r <;> first | rfl | cases h

theorem isCalm_of_isModeSelect (longest : Nat) {r : Request} (h : isModeSelect r = true) :
    isCalm longest r = true := by
  cases r <;> first | rfl | cases h

theorem isModeSense_of_isModeSelect {r : Request} (h : isModeSelect r = true) :
    isModeSense r = false := by
  cases r <;> first | rfl | cases h

section Calm

variable {longest : Nat} {t u : DriveTrace}

theorem Calm.not_sense (h : Calm longest t) {e : (r : Request) × r.Reply} (he : e ∈ t) :
    ¬ isRequestSense e.1 = true := by
  rw [isRequestSense_of_isCalm (h e he)]
  exact Bool.false_ne_true

theorem Calm.append (ht : Calm longest t) (hu : Calm longest u) : Calm longest (t ++ u) :=
  List.forall_mem_append.mpr ⟨ht, hu⟩

theorem Calm.cons {e : (r : Request) × r.Reply} (he : isCalm longest e.1 = true)
    (ht : Calm longest t) : Calm longest (e :: t) :=
  List.forall_mem_cons.mpr ⟨he, ht⟩

theorem Calm.behind_log (ht : Calm longest t) (reply : Except TransportError (Bytes × Nat)) :
    Calm longest (logEvent reply :: t) :=
  ht.cons rfl

theorem calm_of_reads {control : PageControl} {r : Except Error ExceptionsPage}
    (h : Reads control t r) : Calm longest t :=
  fun e he => isCalm_of_isModeSense longest (h.isModeSense_eq e he)

theorem calm_pauses {n : Nat} (h : n ≤ longest) : Calm longest (pauses n) := by
  unfold pauses
  by_cases hzero : n = 0
  · rw [if_pos hzero]
    exact List.forall_mem_nil _
  · rw [if_neg hzero, Calm, List.forall_mem_singleton]
    exact decide_eq_true h

end Calm

theorem selects_pauses (n : Nat) : selects (pauses n) = [] := by
  unfold pauses
  by_cases hzero : n = 0
  · rw [if_pos hzero]
    rfl
  · rw [if_neg hzero]
    rfl

theorem isModeSense_pauses (n : Nat) : ∀ e ∈ pauses n, isModeSense e.1 = false := by
  unfold pauses
  by_cases hzero : n = 0
  · rw [if_pos hzero]
    exact List.forall_mem_nil _
  · rw [if_neg hzero, List.forall_mem_singleton]
    rfl

variable {options : Options} {t u v w x y : DriveTrace} {result : CheckResult}

theorem senseEvent_not_mem {longest : Nat} (h : Calm longest t)
    (reply : Except TransportError (Bytes × Nat)) : senseEvent reply ∉ t :=
  fun hmem => h.not_sense hmem rfl

theorem untouched_of_calm (hselects : selects t = []) (hcalm : Calm (ceiling options) t) :
    Untouched options t where
  selects_eq := hselects
  sense_waited := by
    intro e he hsense
    exact absurd hsense (hcalm.not_sense he)

theorem pause_le_of_calm (h : Calm (ceiling options) t) (n : Nat) (r : Unit)
    (hmem : ⟨.pause n, r⟩ ∈ t) : n ≤ min options.waitLimit 1000 :=
  of_decide_eq_true (h _ hmem)

theorem filter_sense_of_calm {longest : Nat} (h : Calm longest t) :
    t.filter (fun e => isRequestSense e.1) = [] := by
  rw [List.filter_eq_nil_iff]
  intro e he
  exact h.not_sense he

/-- A conversation without any question for sense data. -/
theorem scoped_of_calm
    (hlog : ∃ reply u, t = logEvent reply :: u ∧
      (ExceptionsLog.ofAnswer reply ≠ .unavailable → u = []))
    (hpath : Untouched options t ∨
      ∃ current temporary restored, Overridden t result current temporary restored)
    (hcalm : Calm (ceiling options) t) : Scoped options t result where
  log_first := hlog
  path := hpath
  current_form := fun _ => mem_of_observed
  sense_event := by
    intro e he hsense
    exact absurd hsense (hcalm.not_sense he)
  sense_once := by
    rw [filter_sense_of_calm hcalm]
    exact Nat.zero_le 1
  pause_le := pause_le_of_calm hcalm

/-- A conversation with one question for sense data. -/
theorem scoped_of_sense {sense : Except TransportError (Bytes × Nat)}
    (hlog : ∃ reply u, x ++ senseEvent sense :: y = logEvent reply :: u ∧
      (ExceptionsLog.ofAnswer reply ≠ .unavailable → u = []))
    (hpath : Untouched options (x ++ senseEvent sense :: y) ∨ ∃ current temporary restored,
      Overridden (x ++ senseEvent sense :: y) result current temporary restored)
    (hx : Calm (ceiling options) x) (hy : Calm (ceiling options) y) :
    Scoped options (x ++ senseEvent sense :: y) result where
  log_first := hlog
  path := hpath
  current_form := fun _ => mem_of_observed
  sense_event := by
    intro e he hsense
    rcases List.mem_append.mp he with hmem | hmem
    · exact absurd hsense (hx.not_sense hmem)
    · rcases List.mem_cons.mp hmem with rfl | hmem
      · exact ⟨sense, rfl⟩
      · exact absurd hsense (hy.not_sense hmem)
  sense_once := by
    have hfilter : (senseEvent sense :: y).filter (fun e => isRequestSense e.1) =
        senseEvent sense :: y.filter fun e => isRequestSense e.1 :=
      rfl
    rw [List.filter_append, filter_sense_of_calm hx, hfilter, filter_sense_of_calm hy]
    exact Nat.le_refl 1
  pause_le := by
    intro n r hmem
    rcases List.mem_append.mp hmem with hmem | hmem
    · exact pause_le_of_calm hx n r hmem
    · rcases List.mem_cons.mp hmem with heq | hmem
      · cases heq
      · exact pause_le_of_calm hy n r hmem

theorem sense_split {longest : Nat} {before after : DriveTrace}
    {sense reply : Except TransportError (Bytes × Nat)} (hx : Calm longest x)
    (hy : Calm longest y) (h : x ++ senseEvent sense :: y = before ++ senseEvent reply :: after) :
    before = x ∧ after = y := by
  have hsplit := (List.append_cons_inj_of_notMem (senseEvent_not_mem hx reply)
    (senseEvent_not_mem hy reply)).mp h
  exact ⟨hsplit.1.symm, hsplit.2.2.symm⟩

section Observed

variable (reply : Except TransportError (Bytes × Nat)) {current : ExceptionsPage}
  {saved : Except Error ExceptionsPage}

theorem observed_current_of_reads (hu : Reads .current u (.ok current)) (rest : DriveTrace) :
    observed .current (logEvent reply :: (u ++ rest)) = some current := by
  show observed .current (u ++ rest) = some current
  exact observed_append_of_some hu.observed_eq rest

theorem observed_saved_of_reads (hu : Reads .current u (.ok current))
    (hv : Reads .saved v saved) (rest : DriveTrace)
    (hrest : ∀ e ∈ rest, isModeSense e.1 = false) :
    observed .saved (logEvent reply :: (u ++ (v ++ rest))) = saved.toOption := by
  have hother : PageControl.current ≠ .saved := by decide
  show observed .saved (u ++ (v ++ rest)) = saved.toOption
  rw [observed_append_left (hu.findSome?_pageOf? hother),
    observed_append_right (findSome?_pageOf?_eq_none hrest), hv.observed_eq]

theorem temporary_sets_of_observed (h : observed .current t = some current) :
    current.Sets (Override.temporary current) 6 1 0 := by
  obtain ⟨_, _, _, _, hreply⟩ := mem_of_observed h
  exact ExceptionsPage.sets_withReporting ExceptionsPage.onRequest 1 0
    (ExceptionsPage.leastLength_le_of_ofReply hreply).1

theorem restored_sets_of_observed (h : observed .current t = some current)
    (hsaved : observed .saved t = saved.toOption) :
    current.Sets (restoredBy current saved)
      ((observed .saved t).getD current).method ((observed .saved t).getD current).interval
      ((observed .saved t).getD current).reportCount := by
  obtain ⟨_, _, _, _, hreply⟩ := mem_of_observed h
  rw [hsaved]
  exact ExceptionsPage.sets_withReportingOf
    (ExceptionsPage.leastLength_le_of_ofReply hreply).1 _

theorem untouched_of_waited {sense : Except TransportError (Bytes × Nat)}
    (hu : Reads .current u (.ok current)) (hmethod : current.method = ExceptionsPage.onRequest)
    (hnatural : natural current ≤ ceiling options) :
    Untouched options (logEvent reply :: (u ++ pauses (natural current)) ++
      [senseEvent sense]) := by
  rw [List.cons_append, List.append_assoc]
  refine ⟨?_, ?_⟩
  · show selects (u ++ (pauses (natural current) ++ [senseEvent sense])) = []
    rw [selects_append, selects_append, hu.selects_eq, selects_pauses]
    rfl
  · intro e he hsense
    exact ⟨current, observed_current_of_reads reply hu _, hmethod, hnatural⟩

theorem overridden_of_refused (e : TransportError) (hu : Reads .current u (.ok current))
    (hv : Reads .saved v saved) :
    Overridden (logEvent reply :: (u ++ (v ++ [temporaryEvent current (.error e)])))
      (.ofStatus .unknown) current (Override.temporary current) (restoredBy current saved) := by
  have hcurrent := observed_current_of_reads reply hu (v ++ [temporaryEvent current (.error e)])
  have hsaved := observed_saved_of_reads reply hu hv [temporaryEvent current (.error e)]
    (by simp [temporaryEvent, isModeSense])
  have hselects : selects (logEvent reply :: (u ++ (v ++ [temporaryEvent current (.error e)]))) =
      [(Override.temporary current).sent false false] := by
    show selects (u ++ (v ++ [temporaryEvent current (.error e)])) = _
    rw [selects_append, selects_append, hu.selects_eq, hv.selects_eq]
    rfl
  have hcalm : Calm 0 (logEvent reply :: (u ++ (v ++ [temporaryEvent current (.error e)]))) :=
    ((calm_of_reads hu).append
      ((calm_of_reads hv).append (Calm.cons rfl (List.forall_mem_nil _)))).behind_log reply
  exact {
    observed_current := hcurrent
    temporary_sets := temporary_sets_of_observed hcurrent
    restored_sets := restored_sets_of_observed hcurrent hsaved
    switches := hselects ▸ Switches.refused
    sense_between := by
      intro before reply' after heq
      have hmem : senseEvent reply' ∈ before ++ senseEvent reply' :: after :=
        List.mem_append_right before List.mem_cons_self
      exact absurd (heq ▸ hmem) (senseEvent_not_mem hcalm reply')
    refused_unknown := fun _ => rfl
  }

/-- What comes before the question for sense data when the mode page is changed. -/
theorem selects_before (hu : Reads .current u (.ok current)) (hv : Reads .saved v saved)
    (n : Nat) :
    selects (logEvent reply :: (u ++ (v ++ temporaryEvent current (.ok ()) :: pauses n))) =
      [(Override.temporary current).sent false true] := by
  have htemporary : selects (temporaryEvent current (.ok ()) :: pauses n) =
      (Override.temporary current).sent false true :: selects (pauses n) :=
    rfl
  show selects (u ++ (v ++ temporaryEvent current (.ok ()) :: pauses n)) = _
  rw [selects_append, selects_append, hu.selects_eq, hv.selects_eq, htemporary, selects_pauses]
  rfl

theorem calm_before (hu : Reads .current u (.ok current)) (hv : Reads .saved v saved) (n : Nat) :
    Calm n (logEvent reply :: (u ++ (v ++ temporaryEvent current (.ok ()) :: pauses n))) :=
  ((calm_of_reads hu).append
    ((calm_of_reads hv).append (Calm.cons rfl (calm_pauses (Nat.le_refl n))))).behind_log reply

theorem overridden_of_switched (sense : Except TransportError (Bytes × Nat)) (n : Nat)
    (hu : Reads .current u (.ok current)) (hv : Reads .saved v saved)
    (hrestores : Restores (restoredBy current saved) (selects w))
    (hw : ∀ e ∈ w, isModeSelect e.1 = true) :
    Overridden (logEvent reply :: (u ++ (v ++ temporaryEvent current (.ok ()) :: pauses n)) ++
      senseEvent sense :: w) result current (Override.temporary current)
      (restoredBy current saved) := by
  have hbefore := selects_before reply hu hv n
  have hselects : selects (logEvent reply :: (u ++ (v ++
      temporaryEvent current (.ok ()) :: pauses n)) ++ senseEvent sense :: w) =
      (Override.temporary current).sent false true :: selects w := by
    rw [selects_append, hbefore]
    rfl
  have hquiet : ∀ e ∈ temporaryEvent current (.ok ()) :: pauses n ++ senseEvent sense :: w,
      isModeSense e.1 = false := by
    rw [List.forall_mem_append, List.forall_mem_cons, List.forall_mem_cons]
    exact ⟨⟨rfl, isModeSense_pauses n⟩, rfl, fun e he => isModeSense_of_isModeSelect (hw e he)⟩
  have hcurrent : observed .current (logEvent reply :: (u ++ (v ++
      temporaryEvent current (.ok ()) :: pauses n)) ++ senseEvent sense :: w) =
      some current := by
    rw [List.cons_append, List.append_assoc]
    exact observed_current_of_reads reply hu _
  have hsaved : observed .saved (logEvent reply :: (u ++ (v ++
      temporaryEvent current (.ok ()) :: pauses n)) ++ senseEvent sense :: w) =
      saved.toOption := by
    rw [List.cons_append, List.append_assoc, List.append_assoc]
    exact observed_saved_of_reads reply hu hv _ hquiet
  exact {
    observed_current := hcurrent
    temporary_sets := temporary_sets_of_observed hcurrent
    restored_sets := restored_sets_of_observed hcurrent hsaved
    switches := hselects ▸ Switches.taken hrestores
    sense_between := by
      intro before reply' after heq
      have hcalm : Calm n w := fun e he => isCalm_of_isModeSelect n (hw e he)
      obtain ⟨rfl, rfl⟩ := sense_split (calm_before reply hu hv n) hcalm heq
      exact ⟨hbefore, hrestores⟩
    refused_unknown := by
      intro hrefused
      rw [hselects, List.cons.injEq] at hrefused
      cases hrefused.1
  }

end Observed

theorem scoped_of_checks (h : Checks options t result) : Scoped options t result := by
  have hnil : Calm (ceiling options) [] := List.forall_mem_nil _
  cases h with
  | codes hanswer =>
    refine scoped_of_calm ⟨_, _, rfl, fun _ => rfl⟩ (.inl ?_) (hnil.behind_log _)
    exact untouched_of_calm rfl (hnil.behind_log _)
  | foreign hanswer =>
    refine scoped_of_calm ⟨_, _, rfl, fun _ => rfl⟩ (.inl ?_) (hnil.behind_log _)
    exact untouched_of_calm rfl (hnil.behind_log _)
  | @unread reply u _ hanswer hu =>
    have hcalm : Calm (ceiling options) (logEvent reply :: u) := (calm_of_reads hu).behind_log reply
    refine scoped_of_calm ⟨_, _, rfl, fun hne => absurd hanswer hne⟩ (.inl ?_) hcalm
    exact untouched_of_calm hu.selects_eq hcalm
  | @silent reply u _ hanswer hu hmethod =>
    have hcalm : Calm (ceiling options) (logEvent reply :: u) := (calm_of_reads hu).behind_log reply
    refine scoped_of_calm ⟨_, _, rfl, fun hne => absurd hanswer hne⟩ (.inl ?_) hcalm
    exact untouched_of_calm hu.selects_eq hcalm
  | waited sense hanswer hu hmethod hnatural =>
    refine scoped_of_sense ⟨_, _, rfl, fun hne => absurd hanswer hne⟩ (.inl ?_) ?_ hnil
    · exact untouched_of_waited _ hu hmethod hnatural
    · exact ((calm_of_reads hu).append (calm_pauses hnatural)).behind_log _
  | refused e hanswer hu hv =>
    refine scoped_of_calm ⟨_, _, rfl, fun hne => absurd hanswer hne⟩
      (.inr ⟨_, _, _, overridden_of_refused _ e hu hv⟩) ?_
    exact ((calm_of_reads hu).append ((calm_of_reads hv).append (hnil.cons rfl))).behind_log _
  | switched sense hanswer hu hv hrestores hw =>
    refine scoped_of_sense ⟨_, _, rfl, fun hne => absurd hanswer hne⟩
      (.inr ⟨_, _, _, overridden_of_switched _ sense _ hu hv hrestores hw⟩)
      (calm_before _ hu hv _) ?_
    exact fun e he => isCalm_of_isModeSelect _ (hw e he)

end DriveHealth.Check.Scsi
