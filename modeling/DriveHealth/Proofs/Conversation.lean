import DriveHealth.Program

/-!
Conversations of programs. A conversation of a sequence splits into one of its first part and one
of the rest, and the run against any handler is a conversation that ends in the answer of the
run. So what holds of every conversation holds of every behaviour of the world.
-/
namespace DriveHealth.Program

variable {Op : Type} {Reply : Op → Type} {α β σ : Type}

theorem ends_done_iff {a b : α} {t : Trace Op Reply} :
    Ends (done a) t b ↔ t = [] ∧ b = a := by
  constructor
  · intro h
    cases h
    exact ⟨rfl, rfl⟩
  · rintro ⟨rfl, rfl⟩
    exact Ends.done b

theorem ends_ask_iff {op : Op} {next : Reply op → Program Op Reply α} {t : Trace Op Reply}
    {a : α} : Ends (ask op next) t a ↔ ∃ r u, t = ⟨op, r⟩ :: u ∧ Ends (next r) u a := by
  constructor
  · intro h
    cases h with
    | ask _ _ r u _ hrest => exact ⟨r, u, rfl, hrest⟩
  · rintro ⟨r, u, rfl, hrest⟩
    exact Ends.ask op next r u a hrest

/-- A conversation of a sequence is one of its first part followed by one of the rest. -/
theorem ends_bind_iff {p : Program Op Reply α} {f : α → Program Op Reply β}
    {t : Trace Op Reply} {b : β} :
    Ends (p.bind f) t b ↔ ∃ u v a, t = u ++ v ∧ Ends p u a ∧ Ends (f a) v b := by
  induction p generalizing t with
  | done a =>
    rw [done_bind]
    constructor
    · intro h
      exact ⟨[], t, a, rfl, Ends.done a, h⟩
    · rintro ⟨u, v, a', rfl, hu, hv⟩
      obtain ⟨rfl, rfl⟩ := ends_done_iff.mp hu
      exact hv
  | ask op next ih =>
    rw [ask_bind, ends_ask_iff]
    constructor
    · rintro ⟨r, w, rfl, hrest⟩
      obtain ⟨u, v, a, rfl, hu, hv⟩ := (ih r).mp hrest
      exact ⟨⟨op, r⟩ :: u, v, a, rfl, Ends.ask op next r u a hu, hv⟩
    · rintro ⟨u, v, a, rfl, hu, hv⟩
      obtain ⟨r, w, rfl, hw⟩ := ends_ask_iff.mp hu
      exact ⟨r, w ++ v, rfl, (ih r).mpr ⟨w, v, a, rfl, hw, hv⟩⟩

theorem ends_perform_iff {op : Op} {t : Trace Op Reply} {r : Reply op} :
    Ends (perform op) t r ↔ t = [⟨op, r⟩] := by
  rw [perform, ends_ask_iff]
  constructor
  · rintro ⟨r', u, rfl, hrest⟩
    obtain ⟨rfl, rfl⟩ := ends_done_iff.mp hrest
    rfl
  · rintro rfl
    exact ⟨r, [], rfl, Ends.done r⟩

/-- A sequence that opens with one question. -/
theorem ends_perform_bind_iff {op : Op} {f : Reply op → Program Op Reply β}
    {t : Trace Op Reply} {b : β} :
    Ends ((perform op).bind f) t b ↔ ∃ r u, t = ⟨op, r⟩ :: u ∧ Ends (f r) u b :=
  ends_ask_iff

/-- A sequence that asks nothing behind its first part. -/
theorem ends_bind_done_iff {p : Program Op Reply α} {g : α → β} {t : Trace Op Reply} {b : β} :
    Ends (p.bind fun a => done (g a)) t b ↔ ∃ a, Ends p t a ∧ b = g a := by
  rw [ends_bind_iff]
  constructor
  · rintro ⟨u, v, a, rfl, hp, hdone⟩
    obtain ⟨rfl, rfl⟩ := ends_done_iff.mp hdone
    rw [List.append_nil]
    exact ⟨a, hp, rfl⟩
  · rintro ⟨a, hp, rfl⟩
    exact ⟨t, [], a, (List.append_nil t).symm, hp, Ends.done _⟩

/-- The same replies lead to the same end. Two conversations of a program that differ in nothing
but what comes behind them are one. -/
theorem Ends.unique {p : Program Op Reply α} {t u v w : Trace Op Reply} {a b : α}
    (h : Ends p t a) (h' : Ends p u b) (heq : t ++ v = u ++ w) : t = u ∧ a = b ∧ v = w := by
  induction h generalizing u with
  | done a =>
    obtain ⟨rfl, rfl⟩ := ends_done_iff.mp h'
    exact ⟨rfl, rfl, heq⟩
  | ask op next r t a _ ih =>
    obtain ⟨r', u, rfl, hrest⟩ := ends_ask_iff.mp h'
    obtain ⟨hevent, htail⟩ := List.cons.inj heq
    cases hevent
    obtain ⟨rfl, rfl, rfl⟩ := ih hrest htail
    exact ⟨rfl, rfl, rfl⟩

theorem run_ask (handler : (op : Op) → σ → Reply op × σ) (op : Op)
    (next : Reply op → Program Op Reply α) (s : σ) :
    run handler (ask op next) s = run handler (next (handler op s).1) (handler op s).2 :=
  rfl

/-- What is asked and replied in a run against a handler. -/
def conversation (handler : (op : Op) → σ → Reply op × σ) :
    Program Op Reply α → σ → Trace Op Reply
  | done _, _ => []
  | ask op next, s =>
    ⟨op, (handler op s).1⟩ :: conversation handler (next (handler op s).1) (handler op s).2

theorem ends_conversation (handler : (op : Op) → σ → Reply op × σ) (p : Program Op Reply α)
    (s : σ) : Ends p (conversation handler p s) (run handler p s).1 := by
  induction p generalizing s with
  | done a => exact Ends.done a
  | ask op next ih => exact Ends.ask op next _ _ _ (ih _ _)

theorem conversation_bind (handler : (op : Op) → σ → Reply op × σ) (p : Program Op Reply α)
    (f : α → Program Op Reply β) (s : σ) :
    conversation handler (p.bind f) s = conversation handler p s ++
      conversation handler (f (run handler p s).1) (run handler p s).2 := by
  induction p generalizing s with
  | done a => rfl
  | ask op next ih =>
    rw [ask_bind, conversation, ih]
    rfl

/-- A run gets only replies that its handler gives. -/
theorem reply_of_mem_conversation {handler : (op : Op) → σ → Reply op × σ}
    {p : Program Op Reply α} {s : σ} {e : (op : Op) × Reply op}
    (h : e ∈ conversation handler p s) : ∃ s', e.2 = (handler e.1 s').1 := by
  induction p generalizing s with
  | done a => cases h
  | ask op next ih =>
    rcases List.mem_cons.mp h with rfl | hrest
    · exact ⟨s, rfl⟩
    · exact ih _ hrest

/-- What holds of every reply that a handler gives holds in every run against it. -/
theorem forall_mem_conversation {handler : (op : Op) → σ → Reply op × σ}
    {P : (op : Op) × Reply op → Prop} (h : ∀ op s, P ⟨op, (handler op s).1⟩)
    (p : Program Op Reply α) (s : σ) : ∀ e ∈ conversation handler p s, P e := by
  intro e he
  obtain ⟨s', hreply⟩ := reply_of_mem_conversation he
  have hevent : e = ⟨e.1, (handler e.1 s').1⟩ := Sigma.ext rfl (heq_of_eq hreply)
  rw [hevent]
  exact h e.1 s'

end DriveHealth.Program
