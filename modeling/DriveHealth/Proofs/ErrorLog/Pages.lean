import DriveHealth.ErrorLog.Pages
import DriveHealth.Proofs.Conversation

/-!
The pages of a log on a drive that does not change. Such a drive gives the same page, or fails in
the same way, however often and whenever it is asked; and the pages that are kept are those that
have been read, as the drive has them.
-/
namespace DriveHealth.ErrorLog

open Program

variable {σ : Type}

/-- A drive that answers for each page of a log in one way, whatever else it was asked. The
comprehensive log is read from its start, so only the last sector of an answer is fixed. -/
def Serves (handler : (r : Request) → σ → r.Reply × σ)
    (page : Nat → Except TransportError Bytes) : Source → Prop
  | .extended => ∀ (i : UInt16) s,
    (handler (.readLog 3 i 0 0 (.zeros 512)) s).1 = page i.toNat
  | .comprehensive => ∀ (i : UInt16) s,
    Except.map (fun sectors : Bytes => sectors.slice (i.toNat * 512) 512)
      (handler (.smartReadLog 2 (.zeros ((i.toNat + 1) * 512))) s).1 = page i.toNat
  | .summary => ∀ s, (handler (.smartReadLog 1 (.zeros 512)) s).1 = page 0

namespace Pages

variable {handler : (r : Request) → σ → r.Reply × σ} {page : Nat → Except TransportError Bytes}
  {source : Source}

theorem fetch_comprehensive (i : UInt16) :
    (fetch .comprehensive i).run =
      Program.ask (.smartReadLog 2 (.zeros ((i.toNat + 1) * 512))) fun r =>
        .done (Session.ofTransport (Except.map (fun b => b.slice (i.toNat * 512) 512) r)) := by
  refine congrArg (Program.ask _) (funext fun r => ?_)
  cases r <;> rfl

theorem run_fetch (h : Serves handler page source) {i : UInt16}
    (hi : source = .summary → i = 0) (s : σ) :
    (run handler (fetch source i).run s).1 = Session.ofTransport (page i.toNat) := by
  cases source with
  | extended =>
    rw [← h i s]
    rfl
  | comprehensive =>
    rw [← h i s, fetch_comprehensive, run_ask]
    rfl
  | summary =>
    obtain rfl := hi rfl
    have hzero : (0 : UInt16).toNat = 0 := rfl
    rw [hzero, ← h s]
    rfl

/-- The pages that are kept are the ones that were read, as the drive has them. -/
structure Reflects (c : Pages) (page : Nat → Except TransportError Bytes) (read : List Nat) :
    Prop where
  find?_eq : ∀ (i : UInt16) p, c.find? i = some p ↔ i.toNat ∈ read ∧ page i.toNat = .ok p
  checksum_iff : c.checksumValid = true ↔
    ∀ i ∈ read, ∀ p, page i = .ok p → p.checksumOk = true

theorem find?_add (c : Pages) (i j : UInt16) (p : Bytes) :
    (c.add i p).find? j = if j = i then some p else c.find? j := by
  unfold find? add
  rw [List.lookup_cons]
  by_cases h : j = i
  · rw [if_pos h, h, beq_self_eq_true]
  · rw [if_neg h, beq_eq_false_iff_ne.mpr h]

namespace Reflects

variable {c : Pages} {read : List Nat} {i : UInt16} {p : Bytes}

theorem empty (page : Nat → Except TransportError Bytes) : Reflects {} page [] where
  find?_eq := by
    intro i p
    simp [find?]
  checksum_iff := by simp

/-- A page that is kept already is no news. -/
theorem cons_of_find? (h : Reflects c page read) (hp : c.find? i = some p) :
    Reflects c page (i.toNat :: read) := by
  have hmem : i.toNat ∈ read := ((h.find?_eq i p).mp hp).1
  have hread : ∀ k, k ∈ i.toNat :: read ↔ k ∈ read := by
    intro k
    rw [List.mem_cons, or_iff_right_of_imp]
    rintro rfl
    exact hmem
  refine ⟨?_, ?_⟩
  · intro j q
    rw [hread]
    exact h.find?_eq j q
  · simp only [hread]
    exact h.checksum_iff

/-- A page that was read is kept, and its checksum counts. -/
theorem add (h : Reflects c page read) (hp : page i.toNat = .ok p) :
    Reflects (c.add i p) page (i.toNat :: read) := by
  refine ⟨?_, ?_⟩
  · intro j q
    rw [find?_add]
    by_cases hj : j = i
    · rw [if_pos hj, hj, hp]
      simp
    · have hne : j.toNat ≠ i.toNat := fun heq => hj (UInt16.toNat_inj.mp heq)
      rw [if_neg hj, h.find?_eq, List.mem_cons, or_iff_right hne]
  · have hhead : (∀ q, page i.toNat = .ok q → q.checksumOk = true) ↔ p.checksumOk = true := by
      rw [hp]
      constructor
      · intro hall
        exact hall p rfl
      · rintro hok q heq
        cases heq
        exact hok
    rw [List.forall_mem_cons, hhead, ← h.checksum_iff, Pages.add, Bool.and_eq_true, and_comm]

end Reflects

variable {c : Pages} {read : List Nat} {i : UInt16}

/-- A page that the drive gives is answered and kept. -/
theorem run_page_ok (h : Serves handler page source) (hi : source = .summary → i = 0)
    (hc : Reflects c page read) {p : Bytes} (hp : page i.toNat = .ok p) (s : σ) :
    ∃ c', (run handler (Pages.page source c i) s).1 = (.ok p, c') ∧
      Reflects c' page (i.toNat :: read) := by
  unfold Pages.page
  cases hfind : c.find? i with
  | some q =>
    have hq := ((hc.find?_eq i q).mp hfind).2
    rw [hp] at hq
    cases hq
    exact ⟨c, rfl, hc.cons_of_find? hfind⟩
  | none =>
    refine ⟨c.add i p, ?_, hc.add hp⟩
    simp only [run_bind]
    rw [run_fetch h hi, hp]
    rfl

/-- A page that the drive does not give changes nothing. -/
theorem run_page_error (h : Serves handler page source) (hi : source = .summary → i = 0)
    (hc : Reflects c page read) {e : TransportError} (hp : page i.toNat = .error e) (s : σ) :
    (run handler (Pages.page source c i) s).1 = (.error (.transport e), c) := by
  unfold Pages.page
  cases hfind : c.find? i with
  | some q =>
    have hq := ((hc.find?_eq i q).mp hfind).2
    rw [hp] at hq
    cases hq
  | none =>
    simp only [run_bind]
    rw [run_fetch h hi, hp]
    rfl

end Pages
end DriveHealth.ErrorLog
