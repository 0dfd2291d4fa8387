import DriveHealth.Farm.Emission
import DriveHealth.Proofs.Bytes
import DriveHealth.Proofs.Conversation

/-!
What is written to a sink that may refuse any call. The pieces of a combined file are written in
order until one is refused, and whatever was refused the sink is closed behind it. As long as no
write is refused a sink gets the whole file, and when no call at all is refused the summary of the
layout is answered.
-/
namespace DriveHealth.Farm

abbrev SinkTrace := Program.Trace SinkCall SinkCall.Reply

/-- The bytes that a call leaves in a sink. -/
def stored : (c : SinkCall) × c.Reply → Bytes
  | ⟨.write piece, .ok ()⟩ => piece
  | _ => .empty

/-- The bytes that a conversation leaves in a sink. -/
def written (t : SinkTrace) : Bytes := Bytes.join (t.map stored)

theorem written_cons (e : (c : SinkCall) × c.Reply) (t : SinkTrace) :
    written (e :: t) = stored e ++ written t :=
  rfl

theorem written_append (t u : SinkTrace) : written (t ++ u) = written t ++ written u := by
  rw [written, List.map_append, Bytes.join_append, written, written]

/-- Every write is accepted. -/
def WritesAccepted (t : SinkTrace) : Prop :=
  ∀ piece r, ⟨.write piece, r⟩ ∈ t → r = .ok ()

/-- Every call is accepted. -/
def CallsAccepted (t : SinkTrace) : Prop :=
  ∀ c r, ⟨c, r⟩ ∈ t → r = .ok ()

theorem callsAccepted_append {t u : SinkTrace} :
    CallsAccepted (t ++ u) ↔ CallsAccepted t ∧ CallsAccepted u := by
  constructor
  · intro h
    exact ⟨fun c r hr => h c r (List.mem_append_left _ hr),
      fun c r hr => h c r (List.mem_append_right _ hr)⟩
  · intro h c r hr
    rcases List.mem_append.mp hr with hmem | hmem
    · exact h.1 c r hmem
    · exact h.2 c r hmem

theorem callsAccepted_close {closed : Except SystemError Unit} :
    CallsAccepted [⟨.close, closed⟩] ↔ closed = .ok () := by
  constructor
  · intro h
    exact h .close closed List.mem_cons_self
  · rintro rfl c r hr
    cases List.mem_singleton.mp hr
    rfl

/-- The close stores nothing. -/
theorem written_close (t : SinkTrace) (closed : Except SystemError Unit) :
    written (t ++ [⟨.close, closed⟩]) = written t := by
  rw [written_append]
  exact ByteArray.append_empty

namespace Emission

/-- Pieces are written in order until one is refused, and behind the last one comes a flush. -/
inductive Attempted : List Bytes → SinkTrace → Except SystemError Unit → Prop
  | flushed (result : Except SystemError Unit) : Attempted [] [⟨.flush, result⟩] result
  | refused (piece : Bytes) (r : List Bytes) (e : SystemError) :
      Attempted (piece :: r) [⟨.write piece, .error e⟩] (.error e)
  | accepted (piece : Bytes) {r : List Bytes} {t : SinkTrace}
      {result : Except SystemError Unit} :
      Attempted r t result → Attempted (piece :: r) (⟨.write piece, .ok ()⟩ :: t) result

theorem attempted_of_ends {l : List Bytes} {t : SinkTrace} {result : Except SystemError Unit}
    (h : Program.Ends (writeAll l) t result) : Attempted l t result := by
  induction l generalizing t with
  | nil =>
    rw [writeAll, call, Program.ends_perform_iff] at h
    rw [h]
    exact .flushed result
  | cons piece r ih =>
    rw [writeAll, call, Program.ends_perform_bind_iff] at h
    obtain ⟨reply, u, rfl, hrest⟩ := h
    cases reply with
    | error e =>
      obtain ⟨rfl, rfl⟩ := Program.ends_done_iff.mp hrest
      exact .refused piece r e
    | ok a => exact .accepted piece (ih hrest)

namespace Attempted

variable {l : List Bytes} {t : SinkTrace} {result : Except SystemError Unit}

theorem written_eq (h : Attempted l t result) (haccept : WritesAccepted t) :
    written t = Bytes.join l := by
  induction h with
  | flushed result => rfl
  | refused piece r e => cases haccept piece (.error e) List.mem_cons_self
  | accepted piece hrest ih =>
    have hjoin := ih fun q reply hq => haccept q reply (List.mem_cons_of_mem _ hq)
    rw [written_cons, hjoin]
    rfl

/-- What fails is the last call, and its failure is the result. -/
theorem result_of_error (h : Attempted l t result) {c : SinkCall} {e : SystemError}
    (he : ⟨c, .error e⟩ ∈ t) : result = .error e := by
  induction h with
  | flushed result =>
    cases List.mem_singleton.mp he
    rfl
  | refused piece r e =>
    cases List.mem_singleton.mp he
    rfl
  | accepted piece hrest ih =>
    rcases List.mem_cons.mp he with heq | hmem
    · cases heq
    · exact ih hmem

theorem exists_error (h : Attempted l t result) {e : SystemError} (he : result = .error e) :
    ∃ c, ⟨c, .error e⟩ ∈ t := by
  induction h with
  | flushed result => exact ⟨.flush, he ▸ List.mem_cons_self⟩
  | refused piece r e => exact ⟨.write piece, he ▸ List.mem_cons_self⟩
  | accepted piece hrest ih =>
    obtain ⟨c, hc⟩ := ih he
    exact ⟨c, List.mem_cons_of_mem _ hc⟩

theorem result_eq_ok_iff (h : Attempted l t result) : result = .ok () ↔ CallsAccepted t := by
  constructor
  · intro hresult c reply hmem
    cases reply with
    | error e => cases hresult.symm.trans (h.result_of_error hmem)
    | ok a => rfl
  · intro haccept
    cases hresult : result with
    | error e =>
      obtain ⟨c, hc⟩ := h.exists_error hresult
      cases haccept c _ hc
    | ok a => rfl

end Attempted

theorem outcome_eq_ok_iff {result closed : Except SystemError Unit} {summary : Summary} :
    (∃ told, outcome result closed summary = .ok told) ↔ result = .ok () ∧ closed = .ok () := by
  cases result <;> cases closed <;> simp [outcome]

variable {kind : DriveKind} {identity : Identity} {l : List Dataset} {y : Layout}

/-- The sink is closed behind whatever was attempted. -/
theorem attempted_of_ends_emit (hplan : Layout.plan l = .ok y) {t : SinkTrace}
    {r : Except Error Summary} (h : Program.Ends (emit kind identity l) t r) :
    ∃ (u : SinkTrace) (result closed : Except SystemError Unit),
      t = u ++ [⟨.close, closed⟩] ∧ Attempted (pieces y kind identity l) u result ∧
        r = outcome result closed (y.summary kind identity) := by
  rw [emit] at h
  simp only [hplan] at h
  obtain ⟨u, v, result, rfl, hwrites, hrest⟩ := Program.ends_bind_iff.mp h
  obtain ⟨closed, hclose, rfl⟩ := Program.ends_bind_done_iff.mp hrest
  obtain rfl := Program.ends_perform_iff.mp hclose
  exact ⟨u, result, closed, rfl, attempted_of_ends hwrites, rfl⟩

/-- A sink that accepts every call gets the whole file, and the answer is the summary of the
layout. -/
theorem told_of_ends_emit (hplan : Layout.plan l = .ok y) {t : SinkTrace}
    {r : Except Error Summary} (h : Program.Ends (emit kind identity l) t r)
    (haccept : CallsAccepted t) :
    r = .ok (y.summary kind identity) ∧ written t = Bytes.join (pieces y kind identity l) := by
  obtain ⟨u, result, closed, rfl, hattempt, rfl⟩ := attempted_of_ends_emit hplan h
  obtain ⟨hcalls, hclosed⟩ := callsAccepted_append.mp haccept
  rw [callsAccepted_close.mp hclosed, hattempt.result_eq_ok_iff.mpr hcalls, written_close]
  exact ⟨rfl, hattempt.written_eq fun piece reply hmem => hcalls (.write piece) reply hmem⟩

section Run

variable {σ : Type} (handler : (c : SinkCall) → σ → c.Reply × σ) {s : σ}

/-- The sink gets the pieces of the file, and nothing else. -/
theorem written_emit (hplan : Layout.plan l = .ok y)
    (h : WritesAccepted (Program.conversation handler (emit kind identity l) s)) :
    written (Program.conversation handler (emit kind identity l) s) =
      Bytes.join (pieces y kind identity l) := by
  obtain ⟨u, result, closed, hconversation, hattempt, _⟩ :=
    attempted_of_ends_emit hplan (Program.ends_conversation handler (emit kind identity l) s)
  rw [hconversation] at h ⊢
  rw [written_close]
  exact hattempt.written_eq fun piece r hr => h piece r (List.mem_append_left _ hr)

theorem summary_of_run (hplan : Layout.plan l = .ok y) {summary : Summary}
    (h : (Program.run handler (emit kind identity l) s).1 = .ok summary) :
    summary = y.summary kind identity := by
  obtain ⟨_, result, closed, _, _, hrun⟩ :=
    attempted_of_ends_emit hplan (Program.ends_conversation handler (emit kind identity l) s)
  rw [hrun] at h
  obtain ⟨rfl, rfl⟩ := outcome_eq_ok_iff.mp ⟨summary, h⟩
  exact (Except.ok.inj h).symm

theorem run_emit (hplan : Layout.plan l = .ok y)
    (h : CallsAccepted (Program.conversation handler (emit kind identity l) s)) :
    (Program.run handler (emit kind identity l) s).1 = .ok (y.summary kind identity) :=
  (told_of_ends_emit hplan (Program.ends_conversation handler (emit kind identity l) s) h).1

end Run

end Emission
end DriveHealth.Farm
