import DriveHealth.Proofs.Node.LogRead

/-!
How many bytes an ATA read transferred. The kernel tells how many bytes of a data phase were left
over, but no ATA read looks at it: one that ends well has run commands that ended well, and its
buffer still holds its own bytes where the drive sent none.
-/
namespace DriveHealth.Node

open Program Transport

/-- The reply as if no bytes had been left over. -/
def settled : (c : Call) → c.Reply → c.Reply
  | .command _, .ok completion => .ok { completion with residual := 0 }
  | .command _, .error e => .error e
  | .openFile _ _, r => r
  | .admin _, r => r
  | .clock, r => r
  | .pause _, r => r

/-- Two kernels that tell the same but for the bytes that were left over. -/
def SameButResidual {σ : Type} (first second : (c : Call) → σ → c.Reply × σ) : Prop :=
  ∀ c s, settled c (first c s).1 = settled c (second c s).1 ∧ (first c s).2 = (second c s).2

/-- A conversation that goes on the same whatever bytes were left over. -/
inductive Indifferent {α : Type} : Exchange α → Prop
  | done (a : α) : Indifferent (.done a)
  | ask (c : Call) (next : c.Reply → Exchange α) :
      (∀ r, next (settled c r) = next r) → (∀ r, Indifferent (next r)) →
      Indifferent (.ask c next)

namespace Indifferent

variable {α β : Type}

theorem bind {p : Exchange α} {f : α → Exchange β} (hp : Indifferent p)
    (hf : ∀ a, Indifferent (f a)) : Indifferent (p.bind f) := by
  induction hp with
  | done a => exact hf a
  | ask c next hsettled _ ih =>
    refine .ask c _ (fun r => ?_) ih
    rw [hsettled]

/-- Two kernels that tell the same but for the bytes that were left over are the same to it. -/
theorem run_eq {σ : Type} {first second : (c : Call) → σ → c.Reply × σ}
    (halike : SameButResidual first second) {p : Exchange α} (hp : Indifferent p) (s : σ) :
    run first p s = run second p s := by
  induction hp generalizing s with
  | done a => rfl
  | ask c next hsettled _ ih =>
    obtain ⟨hreply, hstate⟩ := halike c s
    rw [run_ask, run_ask, ← hsettled, hreply, hsettled, hstate]
    exact ih _ _

end Indifferent

/-- What comes of a command does not depend on the bytes that were left over. -/
theorem filled_settled (c : Command) (buffer : Bytes) (r : Except SystemError Completion) :
    filled buffer (settled (.command c) r) = filled buffer r := by
  cases r with
  | error e => rfl
  | ok completion =>
    have hresult : Completion.ataResult { completion with residual := 0 } =
        completion.ataResult := by
      simp only [Completion.ataResult, Completion.error, Completion.senseBytes]
    simp only [settled, filled, ranAta, hresult]
    cases completion.ataResult <;> rfl

section Requests

theorem indifferent_receiveAta (c : AtaCommand) (buffer : Bytes) (timeout : Nat) :
    Indifferent (receiveAta c buffer timeout) := by
  rw [receiveAta_eq]
  exact .ask _ _ (fun r => congrArg Program.done (filled_settled _ buffer r)) fun _ => .done _

theorem indifferent_readChunks (log : UInt8) (feature : UInt16) (page : Nat) (l : List Bytes) :
    Indifferent (AtaLog.readChunks log feature page l) := by
  induction l generalizing page with
  | nil => exact .done _
  | cons chunk rest ih =>
    refine (indifferent_receiveAta _ chunk _).bind fun r => ?_
    cases r with
    | error e => exact .done _
    | ok first => exact (ih _).bind fun _ => .done _

theorem indifferent_ataLog (log : UInt8) (page feature : UInt16) (hint : UInt32)
    (buffer : Bytes) : Indifferent (AtaLog.read log page feature hint buffer) := by
  unfold AtaLog.read
  split
  · exact .done _
  · exact indifferent_readChunks log feature _ _

theorem indifferent_smart (subcommand : UInt16) (log : UInt8) (buffer : Bytes) :
    Indifferent (Smart.read subcommand log buffer) := by
  unfold Smart.read
  split
  · exact .done _
  · exact indifferent_receiveAta _ buffer _

theorem indifferent_sctStatus (f : AtaFeatures) (buffer : Bytes) :
    Indifferent (SctStatus.read f buffer) := by
  refine Indifferent.bind ?_ fun _ => .done _
  split
  · exact indifferent_ataLog _ _ _ _ _
  · exact indifferent_smart _ _ _

end Requests

/-- The requests that read from an ATA drive. -/
inductive AtaRead where
  | readLog (log : UInt8) (page feature : UInt16) (hint : UInt32) (buffer : Bytes)
  | smartReadLog (log : UInt8) (buffer : Bytes)
  | smartReadData (buffer : Bytes)
  | smartReadThresholds (buffer : Bytes)
  | sctStatus (buffer : Bytes)

namespace AtaRead

def buffer : AtaRead → Bytes
  | readLog _ _ _ _ buffer | smartReadLog _ buffer | smartReadData buffer
  | smartReadThresholds buffer | sctStatus buffer => buffer

def exchange (f : AtaFeatures) : AtaRead → Exchange (Except TransportError Bytes)
  | readLog log page feature hint buffer => answer f (.readLog log page feature hint buffer)
  | smartReadLog log buffer => answer f (.smartReadLog log buffer)
  | smartReadData buffer => answer f (.smartReadData buffer)
  | smartReadThresholds buffer => answer f (.smartReadThresholds buffer)
  | sctStatus buffer => answer f (.sctStatus buffer)

theorem indifferent (f : AtaFeatures) (o : AtaRead) : Indifferent (o.exchange f) := by
  cases o with
  | readLog log page feature hint buffer => exact indifferent_ataLog log page feature hint buffer
  | smartReadLog log buffer => exact indifferent_smart _ log buffer
  | smartReadData buffer => exact (indifferent_smart _ _ _).bind fun _ => .done _
  | smartReadThresholds buffer => exact (indifferent_smart _ _ _).bind fun _ => .done _
  | sctStatus buffer => exact indifferent_sctStatus f buffer

end AtaRead

/-- The part of the buffer that a call is to fill. -/
def pieceOf : Event → Bytes
  | ⟨.command ⟨_, .fromDrive buffer, _⟩, _⟩ => buffer
  | _ => .empty

/-- What the call left in its part: the bytes that the drive sent, and the bytes of the buffer
where it sent none. -/
def landed (e : Event) : Bytes :=
  match e with
  | ⟨.command _, .ok completion⟩ => received completion.data (pieceOf e)
  | _ => pieceOf e

/-- The conversations of a read into a buffer, and what comes of them. -/
structure ReadInto (buffer : Bytes) (t : Trace Call Call.Reply)
    (r : Except TransportError Bytes) : Prop where
  /-- Every call is an ATA command with a data phase from the drive. -/
  reads : ∀ e ∈ t, ∃ c chunk timeout reply, e = ataEvent c chunk timeout reply
  /-- The read ends well exactly if it was tried and all its commands ended well. -/
  stops : (t = [] ∧ ∃ e, r = .error e) ∨ StopsAtFailure t r
  laid : ∀ b, r = .ok b → ∃ rest,
    buffer = Bytes.join (t.map pieceOf) ++ rest ∧ b = Bytes.join (t.map landed) ++ rest

theorem size_landed (e : Event) : (landed e).size = (pieceOf e).size := by
  unfold landed
  split
  · exact size_received _ _
  · rfl

theorem size_join_landed (t : Trace Call Call.Reply) :
    (Bytes.join (t.map landed)).size = (Bytes.join (t.map pieceOf)).size := by
  simp only [Bytes.size_join, List.map_map, Function.comp_def, size_landed]

namespace ReadInto

variable {buffer : Bytes} {t : Trace Call Call.Reply} {r : Except TransportError Bytes}

/-- A read that is refused before it is tried. -/
theorem untried (buffer : Bytes) (e : TransportError) : ReadInto buffer [] (.error e) :=
  ⟨List.forall_mem_nil _, .inl ⟨rfl, e, rfl⟩, nofun⟩

theorem of_receiveAta {c : AtaCommand} {timeout : Nat}
    (h : Ends (receiveAta c buffer timeout) t r) : ReadInto buffer t r := by
  obtain ⟨reply, rfl, rfl⟩ := ends_receiveAta_iff.mp h
  refine ⟨?_, .inr (stopsAtFailure_filled c buffer timeout reply), ?_⟩
  · exact List.forall_mem_singleton.mpr ⟨c, buffer, timeout, reply, rfl⟩
  · intro b hb
    obtain ⟨completion, rfl, rfl⟩ := exists_of_filled hb
    refine ⟨.empty, ?_, ?_⟩
    all_goals
      rw [ByteArray.append_empty, List.map_singleton, Bytes.join, Bytes.join,
        ByteArray.append_empty]
      rfl

theorem of_readsChunks {log : UInt8} {feature : UInt16} {page : Nat} {l : List Bytes}
    (h : AtaLog.ReadsChunks log feature page l t r) : ReadInto (Bytes.join l) t r := by
  induction h with
  | nil page =>
    refine ⟨List.forall_mem_nil _, .inr (.whole (List.forall_mem_nil _)), ?_⟩
    rintro b hb
    cases hb
    exact ⟨.empty, rfl, rfl⟩
  | @failed page chunk rest reply e hfilled =>
    exact ⟨List.forall_mem_singleton.mpr ⟨_, chunk, _, reply, rfl⟩,
      .inr (.single (ataFailure_of_error hfilled)), nofun⟩
  | @read page chunk first rest reply t r hfilled hrest ih =>
    refine ⟨List.forall_mem_cons.mpr ⟨⟨_, chunk, _, reply, rfl⟩, ih.reads⟩,
      .inr (AtaLog.ReadsChunks.read hfilled hrest).stopsAtFailure, ?_⟩
    intro b hb
    cases r with
    | error e => cases hb
    | ok more =>
      cases hb
      obtain ⟨completion, rfl, rfl⟩ := exists_of_filled hfilled
      obtain ⟨behind, hbuffer, hmore⟩ := ih.laid more rfl
      refine ⟨behind, ?_, ?_⟩
      · rw [Bytes.join, hbuffer, List.map_cons, Bytes.join, ByteArray.append_assoc]
        rfl
      · rw [hmore, List.map_cons, Bytes.join, ByteArray.append_assoc]
        rfl

/-- A read into the beginning of a buffer. -/
theorem refill {n : Nat} (h : ReadInto (buffer.take n) t r) :
    ReadInto buffer t (r.map (refill buffer)) := by
  refine ⟨h.reads, ?_, ?_⟩
  · rcases h.stops with ⟨ht, e, rfl⟩ | hstops
    · exact .inl ⟨ht, e, rfl⟩
    · exact .inr (hstops.map _)
  · intro b hb
    cases r with
    | error e => cases hb
    | ok filled =>
      cases hb
      obtain ⟨behind, hbuffer, hfilled⟩ := h.laid filled rfl
      have hsize : filled.size = (buffer.take n).size := by
        rw [hbuffer, hfilled, ByteArray.size_append, ByteArray.size_append, size_join_landed]
      refine ⟨behind ++ buffer.extract n buffer.size, ?_, ?_⟩
      · rw [← ByteArray.append_assoc, ← hbuffer, Bytes.take_append_extract]
      · rw [Node.refill, hsize, Bytes.extract_size_take, hfilled, ByteArray.append_assoc]

variable {f : AtaFeatures}

theorem of_ataLog {log : UInt8} {page feature : UInt16} {hint : UInt32}
    (h : Ends (AtaLog.read log page feature hint buffer) t r) : ReadInto buffer t r := by
  by_cases hwhole : buffer.size % sector = 0
  · obtain ⟨l, hreads, -, rfl⟩ := AtaLog.exists_chunks hwhole h
    exact of_readsChunks hreads
  · rw [AtaLog.read, if_pos hwhole] at h
    obtain ⟨rfl, rfl⟩ := ends_done_iff.mp h
    exact untried buffer _

theorem of_smart {subcommand : UInt16} {log : UInt8}
    (h : Ends (Smart.read subcommand log buffer) t r) : ReadInto buffer t r := by
  unfold Smart.read at h
  split at h
  · obtain ⟨rfl, rfl⟩ := ends_done_iff.mp h
    exact untried buffer _
  · exact of_receiveAta h

theorem of_sctStatus (h : Ends (SctStatus.read f buffer) t r) : ReadInto buffer t r := by
  obtain ⟨a, hread, rfl⟩ := ends_bind_done_iff.mp h
  split at hread
  · exact (of_ataLog hread).refill
  · exact (of_smart hread).refill

theorem of_smartPage {subcommand : UInt16} (h : Ends (Smart.readPage subcommand buffer) t r) :
    ReadInto buffer t r := by
  obtain ⟨a, hread, rfl⟩ := ends_bind_done_iff.mp h
  exact (of_smart hread).refill

end ReadInto

theorem AtaRead.readInto {f : AtaFeatures} {o : AtaRead} {t : Trace Call Call.Reply}
    {r : Except TransportError Bytes} (h : Ends (o.exchange f) t r) : ReadInto o.buffer t r := by
  cases o with
  | readLog log page feature hint buffer => exact .of_ataLog h
  | smartReadLog log buffer => exact .of_smart h
  | smartReadData buffer =>
    have hread : Ends (Smart.readPage Smart.readData buffer) t r := h
    exact .of_smartPage hread
  | smartReadThresholds buffer =>
    have hread : Ends (Smart.readPage Smart.readThresholds buffer) t r := h
    exact .of_smartPage hread
  | sctStatus buffer => exact .of_sctStatus h

/-- An ATA read ends by its commands alone, and the same whatever bytes were left over. -/
theorem AtaRead.run_indifferent {σ : Type} (kernel : (c : Call) → σ → c.Reply × σ) (s : σ)
    (f : AtaFeatures) (o : AtaRead) :
    ReadInto o.buffer (conversation kernel (o.exchange f) s) (run kernel (o.exchange f) s).1 ∧
    ∀ other : (c : Call) → σ → c.Reply × σ, SameButResidual kernel other →
      run other (o.exchange f) s = run kernel (o.exchange f) s :=
  ⟨readInto (ends_conversation kernel _ s), fun _ halike =>
    ((o.indifferent f).run_eq halike s).symm⟩

/-- The bytes that a command left over, by its reply. -/
def residual? : Event → Option Int
  | ⟨.command _, .ok completion⟩ => some completion.residual
  | _ => none

/-- A drive that carries out SMART READ DATA and sends nothing. -/
theorem not_transferred :
    ¬ ∀ (f : AtaFeatures) (o : AtaRead) (kernel : (c : Call) → Unit → c.Reply × Unit) (b : Bytes),
      (run kernel (o.exchange f) ()).1 = .ok b →
        ∀ e ∈ conversation kernel (o.exchange f) (), residual? e = some 0 := by
  intro hall
  have hsize : ((Bytes.zeros sector).take sector).size = sector := by
    rw [Bytes.size_take, Bytes.size_zeros, Nat.min_self]
  have hwhole : ((Bytes.zeros sector).take sector).size % sector = 0 := by
    rw [hsize]
    rfl
  have hsome : ((Bytes.zeros sector).take sector).size ≠ 0 := by
    rw [hsize]
    decide
  have hends := ends_conversation (obliging fun _ => .empty)
    (AtaRead.exchange {} (.smartReadData (.zeros sector))) ()
  obtain ⟨a, hread, ha⟩ := ends_bind_done_iff.mp hends
  obtain ⟨reply, ht, rfl⟩ := (ends_smart_iff hwhole hsome).mp hread
  have hmem := List.mem_singleton_self (ataEvent (.smart Smart.readData
    (.ofNat (((Bytes.zeros sector).take sector).size / sector)) 0)
    ((Bytes.zeros sector).take sector) defaultTimeout reply)
  rw [← ht] at hmem
  obtain ⟨sent, rfl, rfl⟩ := reply_of_obliging hmem
  have hleft := hall {} (.smartReadData (.zeros sector)) (obliging fun _ => .empty) _ ha _ hmem
  have hresidual : ((((Bytes.zeros sector).take sector).size : Nat) : Int) - 0 = 0 :=
    Option.some.inj hleft
  rw [hsize] at hresidual
  cases hresidual

end DriveHealth.Node
