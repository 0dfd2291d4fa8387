import DriveHealth.Proofs.Conversation

/-!
What a program may ask. A program asks only questions of one kind if no reply leads it to any
other question. Sequences and interpretations keep to what their parts ask, and a conversation of
an interpretation is one of the program with every question replaced by what was asked for it. Two
worlds that reply alike to all that a program asks are the same to it.
-/
namespace DriveHealth.Program

variable {Op Op' : Type} {Reply : Op → Type} {Reply' : Op' → Type} {α β : Type}

/-- Whatever is replied, only questions of one kind are asked. -/
inductive Asks (P : Op → Prop) : Program Op Reply α → Prop
  | done (a : α) : Asks P (done a)
  | ask (op : Op) (next : Reply op → Program Op Reply α) :
      P op → (∀ r, Asks P (next r)) → Asks P (ask op next)

section Asks

variable {P Q : Op → Prop}

theorem asks_perform {op : Op} (h : P op) : Asks P (perform op : Program Op Reply (Reply op)) :=
  Asks.ask op _ h Asks.done

theorem Asks.bind {p : Program Op Reply α} {f : α → Program Op Reply β} (hp : Asks P p)
    (hf : ∀ a, Asks P (f a)) : Asks P (p.bind f) := by
  induction hp with
  | done a => exact hf a
  | ask op next hop _ ih => exact Asks.ask op _ hop ih

/-- What follows a reply that may be a failure is followed for either. -/
theorem Asks.bind_except {ε : Type} {p : Program Op Reply (Except ε α)}
    {f : Except ε α → Program Op Reply β} (hp : Asks P p) (hok : ∀ a, Asks P (f (.ok a)))
    (herror : ∀ e, Asks P (f (.error e))) : Asks P (p.bind f) := by
  refine hp.bind fun r => ?_
  cases r with
  | ok a => exact hok a
  | error e => exact herror e

theorem Asks.mono {p : Program Op Reply α} (hp : Asks P p) (h : ∀ op, P op → Q op) : Asks Q p := by
  induction hp with
  | done a => exact Asks.done a
  | ask op next hop _ ih => exact Asks.ask op next (h op hop) ih

theorem asks_anything (p : Program Op Reply α) : Asks (fun _ => True) p := by
  induction p with
  | done a => exact Asks.done a
  | ask op next ih => exact Asks.ask op next trivial ih

/-- In a conversation of a program no other questions occur. -/
theorem Asks.of_ends {p : Program Op Reply α} {t : Trace Op Reply} {a : α} (hp : Asks P p)
    (h : Ends p t a) : ∀ e ∈ t, P e.1 := by
  induction h with
  | done a => exact List.forall_mem_nil _
  | ask op next r u a _ ih =>
    cases hp with
    | ask _ _ hop hnext => exact List.forall_mem_cons.mpr ⟨hop, ih (hnext r)⟩

theorem Asks.interpret {P' : Op' → Prop} {f : (op : Op) → Program Op' Reply' (Reply op)}
    {p : Program Op Reply α} (hp : Asks P p) (hf : ∀ op, P op → Asks P' (f op)) :
    Asks P' (p.interpret f) := by
  induction hp with
  | done a => exact Asks.done a
  | ask op next hop _ ih => exact (hf op hop).bind ih

end Asks

section Alike

variable {σ τ : Type} {first : (op : Op) → σ → Reply op × σ}
  {second : (op : Op) → τ → Reply op × τ} {R : σ → τ → Prop}

/-- In related states two worlds give the same reply to a question, and they stay related. -/
def RepliesAlike (first : (op : Op) → σ → Reply op × σ) (second : (op : Op) → τ → Reply op × τ)
    (R : σ → τ → Prop) (op : Op) : Prop :=
  ∀ s t, R s t → (second op t).1 = (first op s).1 ∧ R (first op s).2 (second op t).2

/-- A program that asks only what both reply to alike does not tell two worlds apart. -/
theorem Asks.run_alike {p : Program Op Reply α} (hp : Asks (RepliesAlike first second R) p)
    {s : σ} {t : τ} (h : R s t) :
    (run second p t).1 = (run first p s).1 ∧ R (run first p s).2 (run second p t).2 := by
  induction hp generalizing s t with
  | done a => exact ⟨rfl, h⟩
  | ask op next halike _ ih =>
    obtain ⟨hreply, hrelated⟩ := halike s t h
    rw [run_ask, run_ask, hreply]
    exact ih _ hrelated

end Alike

/-- Every question of a conversation is replaced by what was asked for it. -/
inductive Expands (f : (op : Op) → Program Op' Reply' (Reply op)) :
    Trace Op Reply → Trace Op' Reply' → Prop
  | nil : Expands f [] []
  | cons {op : Op} {r : Reply op} {u v : Trace Op' Reply'} {t : Trace Op Reply} :
      Ends (f op) u r → Expands f t v → Expands f (⟨op, r⟩ :: t) (u ++ v)

/-- A conversation of an interpretation is one of the program with every question replaced. -/
theorem ends_interpret {f : (op : Op) → Program Op' Reply' (Reply op)} {p : Program Op Reply α}
    {v : Trace Op' Reply'} {a : α} (h : Ends (p.interpret f) v a) :
    ∃ t, Ends p t a ∧ Expands f t v := by
  induction p generalizing v with
  | done b =>
    obtain ⟨rfl, rfl⟩ := ends_done_iff.mp h
    exact ⟨[], Ends.done a, Expands.nil⟩
  | ask op next ih =>
    obtain ⟨u, w, r, rfl, hasked, hrest⟩ := ends_bind_iff.mp h
    obtain ⟨t, hends, hexpands⟩ := ih r hrest
    exact ⟨⟨op, r⟩ :: t, Ends.ask op next r t a hends, Expands.cons hasked hexpands⟩

/-- Where each question is passed on as one question of the other world, so is a conversation. -/
theorem ends_interpret_iff {f : (op : Op) → Program Op' Reply' (Reply op)}
    {event : (op : Op) × Reply op → (op : Op') × Reply' op}
    (hf : ∀ op u r, Ends (f op) u r ↔ u = [event ⟨op, r⟩]) {p : Program Op Reply α}
    {v : Trace Op' Reply'} {a : α} :
    Ends (p.interpret f) v a ↔ ∃ t, Ends p t a ∧ v = t.map event := by
  induction p generalizing v with
  | done b =>
    rw [interpret, ends_done_iff]
    constructor
    · rintro ⟨rfl, rfl⟩
      exact ⟨[], Ends.done a, rfl⟩
    · rintro ⟨t, hends, rfl⟩
      obtain ⟨rfl, rfl⟩ := ends_done_iff.mp hends
      exact ⟨rfl, rfl⟩
  | ask op next ih =>
    rw [interpret, ends_bind_iff]
    constructor
    · rintro ⟨u, w, r, rfl, hasked, hrest⟩
      obtain ⟨t, hends, rfl⟩ := (ih r).mp hrest
      exact ⟨⟨op, r⟩ :: t, Ends.ask op next r t a hends, by rw [(hf op u r).mp hasked]; rfl⟩
    · rintro ⟨t, hends, rfl⟩
      obtain ⟨r, t, rfl, hrest⟩ := ends_ask_iff.mp hends
      exact ⟨_, _, r, List.map_cons, (hf op _ r).mpr rfl, (ih r).mpr ⟨t, hrest, rfl⟩⟩

/-- What is asked is asked for one of the questions. -/
theorem Expands.exists_of_mem {f : (op : Op) → Program Op' Reply' (Reply op)}
    {t : Trace Op Reply} {v : Trace Op' Reply'} (h : Expands f t v)
    {e : (op : Op') × Reply' op} (he : e ∈ v) :
    ∃ q ∈ t, ∃ u, Ends (f q.1) u q.2 ∧ e ∈ u := by
  induction h with
  | nil => cases he
  | cons hasked hexpands ih =>
    rcases List.mem_append.mp he with hfirst | hrest
    · exact ⟨_, List.mem_cons_self, _, hasked, hfirst⟩
    · obtain ⟨q, hq, hwhole⟩ := ih hrest
      exact ⟨q, List.mem_cons_of_mem _ hq, hwhole⟩

/-- What is asked for a question is a part of what is asked. -/
theorem Expands.subset_of_mem {f : (op : Op) → Program Op' Reply' (Reply op)}
    {t : Trace Op Reply} {v : Trace Op' Reply'} (h : Expands f t v) {q : (op : Op) × Reply op}
    (hq : q ∈ t) : ∃ u, Ends (f q.1) u q.2 ∧ u ⊆ v := by
  induction h with
  | nil => cases hq
  | @cons _ _ u v _ hasked _ ih =>
    rcases List.mem_cons.mp hq with rfl | hrest
    · exact ⟨u, hasked, List.subset_append_left u v⟩
    · obtain ⟨w, hends, hsub⟩ := ih hrest
      exact ⟨w, hends, List.subset_append_of_subset_right u hsub⟩

/-- If a question of one kind is replaced by one call of another kind at most, and any other
question by none, there are no more such calls than such questions. -/
theorem Expands.countP_le {f : (op : Op) → Program Op' Reply' (Reply op)} {t : Trace Op Reply}
    {v : Trace Op' Reply'} (h : Expands f t v) (sends : Op → Bool) (calls : Op' → Bool)
    (hf : ∀ op u r, Ends (f op) u r →
      u.countP (fun e => calls e.1) ≤ if sends op then 1 else 0) :
    v.countP (fun e => calls e.1) ≤ t.countP fun e => sends e.1 := by
  induction h with
  | nil => exact Nat.le_refl 0
  | @cons op r u v t hasked hexpands ih =>
    have hfirst := hf op u r hasked
    rw [List.countP_append, List.countP_cons]
    dsimp only
    omega

end DriveHealth.Program
