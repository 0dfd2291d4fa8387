import DriveHealth.CommandLine.Settings
import DriveHealth.Proofs.CommandLine.Opening

/-!
Memory for buffers. Neither the configuration nor the opening of a drive asks for any. A session
that takes its buffers from memory ends in an error exactly if there was none for one of them, so a
check has no other error.
-/
namespace DriveHealth.CommandLine

open Program

/-- Memory was asked for and was not there. -/
def Short (t : ActionTrace) : Prop := ∃ bytes, (⟨.memory bytes, false⟩ : (c : Call) × c.Reply) ∈ t

theorem not_short_nil : ¬Short [] := fun ⟨_, h⟩ => List.not_mem_nil h

theorem short_append_iff {t u : ActionTrace} : Short (t ++ u) ↔ Short t ∨ Short u := by
  simp only [Short, List.mem_append, exists_or]

/-- Whatever is replied, no memory is asked for. -/
def NeedsNoMemory {α : Type} (p : Action α) : Prop := Asks (fun c => ∀ bytes, c ≠ .memory bytes) p

theorem NeedsNoMemory.not_short {α : Type} {p : Action α} (hp : NeedsNoMemory p) {t : ActionTrace}
    {a : α} (h : Ends p t a) : ¬Short t := by
  rintro ⟨bytes, hmem⟩
  exact hp.of_ends h _ hmem bytes rfl

theorem needsNoMemory_ofAccess {α : Type} (p : Files.Access α) :
    NeedsNoMemory (Action.ofAccess p) :=
  (asks_anything p).interpret fun _ _ => asks_perform fun _ => nofun

theorem needsNoMemory_ofExchange {α : Type} (p : Node.Exchange α) :
    NeedsNoMemory (Action.ofExchange p) :=
  (asks_anything p).interpret fun _ _ => asks_perform fun _ => nofun

theorem needsNoMemory_load : NeedsNoMemory Settings.load := by
  refine (asks_perform fun _ => nofun).bind fun d => ?_
  cases d with
  | none => exact Asks.done _
  | some configurations => exact needsNoMemory_ofAccess _

namespace OpenDrive

theorem needsNoMemory_openPath (path : String) : NeedsNoMemory (openPath path) := by
  refine (needsNoMemory_ofAccess _).bind fun isDirectory => ?_
  cases isDirectory with
  | true => exact (needsNoMemory_ofAccess _).bind fun _ => Asks.done _
  | false => exact (needsNoMemory_ofExchange _).bind fun _ => Asks.done _

theorem needsNoMemory_openAs (path : String) (family : Option VendorFamily) :
    NeedsNoMemory (openAs path family) :=
  (needsNoMemory_openPath path).bind fun _ => Asks.done _

theorem needsNoMemory_answer (r : Request) (d : OpenDrive) : NeedsNoMemory (answer r d) := by
  cases d with
  | node d => exact (needsNoMemory_ofExchange _).bind fun _ => Asks.done _
  | capture d =>
    cases r with
    | clock => exact (needsNoMemory_ofExchange _).bind fun _ => Asks.done _
    | pause milliseconds => exact (needsNoMemory_ofExchange _).bind fun _ => Asks.done _
    | _ => exact Asks.done _

/-- A buffer is not had exactly if there is no memory for it. -/
theorem reserve_error_iff {r : Request} {t : ActionTrace} {x : Except Error Unit}
    (h : Ends (reserve r) t x) : (∃ e, x = .error e) ↔ Short t := by
  unfold reserve at h
  split at h
  · obtain ⟨rfl, rfl⟩ := ends_done_iff.mp h
    exact iff_of_false nofun not_short_nil
  · obtain ⟨there, hasked, rfl⟩ := ends_bind_done_iff.mp h
    obtain rfl := ends_perform_iff.mp hasked
    cases there with
    | true => exact iff_of_false nofun fun ⟨_, hmem⟩ => nomatch List.mem_singleton.mp hmem
    | false => exact iff_of_true ⟨_, rfl⟩ ⟨_, List.mem_singleton_self _⟩

/-- The drive itself asks for no memory, so a refusal belongs to one of the buffers. -/
theorem reserving_error_iff {α : Type} {s : Session α} {d : OpenDrive} {t : ActionTrace}
    {x : Except Error α} (h : Ends (reserving s d) t x) : (∃ e, x = .error e) ↔ Short t := by
  induction s generalizing d t with
  | done a =>
    obtain ⟨rfl, rfl⟩ := ends_done_iff.mp h
    exact iff_of_false nofun not_short_nil
  | ask r next ih =>
    rw [reserving] at h
    obtain ⟨u, v, reserved, rfl, hreserve, hrest⟩ := ends_bind_iff.mp h
    have hreserved := reserve_error_iff hreserve
    rw [short_append_iff, ← hreserved]
    cases reserved with
    | error e =>
      obtain ⟨rfl, rfl⟩ := ends_done_iff.mp hrest
      exact iff_of_true ⟨e, rfl⟩ (.inl ⟨e, rfl⟩)
    | ok a =>
      obtain ⟨v, w, ⟨reply, d⟩, rfl, hanswer, hnext⟩ := ends_bind_iff.mp hrest
      have hasked := (needsNoMemory_answer r _).not_short hanswer
      rw [short_append_iff, ih reply hnext]
      simp only [hasked, false_or, reduceCtorEq, exists_false]

end OpenDrive
end DriveHealth.CommandLine
