import DriveHealth.Node.Answer
import DriveHealth.Proofs.Conversation

/-!
One ATA command through a node. A command that fills a buffer is one call, and what comes of it
depends on the reply alone. The count of bytes that were left over decides nothing.
-/
namespace DriveHealth.Node

open Program

/-- A call with its reply. -/
abbrev Event := (c : Call) × c.Reply

theorem toNat_lengthWord (buffer : Bytes) : (lengthWord buffer).toNat = buffer.size % 2 ^ 32 :=
  UInt32.toNat_ofNat'

theorem size_received (data buffer : Bytes) : (received data buffer).size = buffer.size := by
  simp only [received, toNat_lengthWord, Bytes.take, ByteArray.size_append, ByteArray.size_extract]
  omega

/-- Data as long as the buffer fills it, if the kernel can be told how long that is. -/
theorem received_of_size {data buffer : Bytes} (h : data.size = buffer.size)
    (hlt : buffer.size < 2 ^ 32) : received data buffer = data := by
  rw [received, toNat_lengthWord, Nat.mod_eq_of_lt hlt, ← h, Bytes.take,
    ByteArray.extract_zero_size, ByteArray.extract_eq_empty_iff.mpr (by omega),
    ByteArray.append_empty]

/-- How an ATA command ended, by the reply of the kernel. -/
def ranAta : Except SystemError Completion →
    Except TransportError (Completion × Option Transport.TaskFile)
  | .error e => .error (refused e)
  | .ok completion => completion.ataResult.map fun registers => (completion, registers)

/-- The error of an ATA command that was not carried out or that ended with an error. -/
def ataFailure? : Event → Option TransportError
  | ⟨.command _, reply⟩ =>
    match ranAta reply with
    | .error e => some e
    | .ok _ => none
  | _ => none

/-- What comes of an ATA command that fills a buffer. -/
def filled (buffer : Bytes) (reply : Except SystemError Completion) :
    Except TransportError Bytes :=
  (ranAta reply).map fun (completion, _) => received completion.data buffer

/-- The call by which an ATA command fills a buffer, with its reply. -/
def ataEvent (c : AtaCommand) (buffer : Bytes) (timeout : Nat)
    (reply : Except SystemError Completion) : Event :=
  ⟨.command ⟨c.cdb .pioIn false, .fromDrive buffer, timeout⟩, reply⟩

/-- An ATA command that fills a buffer is one call. -/
theorem receiveAta_eq (c : AtaCommand) (buffer : Bytes) (timeout : Nat) :
    receiveAta c buffer timeout =
      .ask (.command ⟨c.cdb .pioIn false, .fromDrive buffer, timeout⟩)
        fun reply => .done (filled buffer reply) := by
  unfold receiveAta runAta
  refine congrArg (Program.ask _) (funext fun reply => ?_)
  cases reply <;> rfl

theorem ends_receiveAta_iff {c : AtaCommand} {buffer : Bytes} {timeout : Nat}
    {t : Trace Call Call.Reply} {r : Except TransportError Bytes} :
    Ends (receiveAta c buffer timeout) t r ↔
      ∃ reply, t = [ataEvent c buffer timeout reply] ∧ r = filled buffer reply := by
  rw [receiveAta_eq, ends_ask_iff]
  constructor
  · rintro ⟨reply, u, rfl, hrest⟩
    obtain ⟨rfl, rfl⟩ := ends_done_iff.mp hrest
    exact ⟨reply, rfl, rfl⟩
  · rintro ⟨reply, rfl, rfl⟩
    exact ⟨reply, [], rfl, Ends.done _⟩

/-- A SMART command for whole sectors is one call. -/
theorem ends_smart_iff {subcommand : UInt16} {log : UInt8} {buffer : Bytes}
    (hwhole : buffer.size % Transport.sector = 0) (hsome : buffer.size ≠ 0)
    {t : Trace Call Call.Reply} {r : Except TransportError Bytes} :
    Ends (Smart.read subcommand log buffer) t r ↔
      ∃ reply, t = [ataEvent (.smart subcommand (.ofNat (buffer.size / Transport.sector)) log)
        buffer defaultTimeout reply] ∧ r = filled buffer reply := by
  rw [Smart.read, if_neg (not_or.mpr ⟨Decidable.not_not.mpr hwhole, hsome⟩)]
  exact ends_receiveAta_iff

section Failure

variable {c : AtaCommand} {buffer : Bytes} {timeout : Nat}
  {reply : Except SystemError Completion}

theorem ataFailure_of_error {e : TransportError} (h : filled buffer reply = .error e) :
    ataFailure? (ataEvent c buffer timeout reply) = some e := by
  unfold filled at h
  unfold ataEvent
  dsimp only [ataFailure?]
  cases hran : ranAta reply with
  | error e' =>
    rw [hran] at h
    cases h
    rfl
  | ok a =>
    rw [hran] at h
    cases h

theorem ataFailure_of_ok {b : Bytes} (h : filled buffer reply = .ok b) :
    ataFailure? (ataEvent c buffer timeout reply) = none := by
  unfold filled at h
  unfold ataEvent
  dsimp only [ataFailure?]
  cases hran : ranAta reply with
  | error e =>
    rw [hran] at h
    cases h
  | ok a => rfl

/-- A command that did not fail left what the drive sent in the buffer. -/
theorem exists_of_filled {b : Bytes} (h : filled buffer reply = .ok b) :
    ∃ completion, reply = .ok completion ∧ b = received completion.data buffer := by
  cases reply with
  | error e => cases h
  | ok completion =>
    refine ⟨completion, rfl, ?_⟩
    rw [filled, ranAta] at h
    cases hresult : completion.ataResult with
    | error e =>
      rw [hresult] at h
      cases h
    | ok registers =>
      rw [hresult] at h
      cases h
      rfl

end Failure

/-- A drive that carries out every command, and sends data by what the command is. The kernel
tells how many bytes were left over. -/
def obliging (data : Command → Bytes) : (c : Call) → Unit → c.Reply × Unit
  | .command c, s => (.ok ⟨0, 0, c.phase.size - (data c).size, .empty, data c⟩, s)
  | .openFile _ _, s => (.ok (), s)
  | .admin c, s => (.ok ⟨0, c.buffer⟩, s)
  | .clock, s => ((0 : Nat), s)
  | .pause _, s => ((), s)

theorem reply_of_obliging {α : Type} {data : Command → Bytes} {p : Exchange α} {c : AtaCommand}
    {buffer : Bytes} {timeout : Nat} {reply : Except SystemError Completion}
    (h : ataEvent c buffer timeout reply ∈ conversation (obliging data) p ()) :
    ∃ sent, reply = .ok ⟨0, 0, buffer.size - sent.size, .empty, sent⟩ ∧
      sent = data ⟨c.cdb .pioIn false, .fromDrive buffer, timeout⟩ := by
  obtain ⟨s, hs⟩ := reply_of_mem_conversation h
  exact ⟨_, hs, rfl⟩

theorem ataFailure_obliging (data : Command → Bytes) (c : Call) (s : Unit) :
    ataFailure? ⟨c, (obliging data c s).1⟩ = none := by
  cases c with
  | command c => rfl
  | openFile path writable => rfl
  | admin c => rfl
  | clock => rfl
  | pause milliseconds => rfl

/-- A conversation that goes up to the first command that fails, and an answer that is the error
of that one. -/
inductive StopsAtFailure {α : Type} :
    Trace Call Call.Reply → Except TransportError α → Prop
  | whole {t : Trace Call Call.Reply} {a : α} :
      (∀ e ∈ t, ataFailure? e = none) → StopsAtFailure t (.ok a)
  | stopped {before : Trace Call Call.Reply} {last : Event} {e : TransportError} :
      (∀ e ∈ before, ataFailure? e = none) → ataFailure? last = some e →
      StopsAtFailure (before ++ [last]) (.error e)

namespace StopsAtFailure

variable {α β : Type} {t : Trace Call Call.Reply} {r : Except TransportError α}

theorem single {last : Event} {e : TransportError} (h : ataFailure? last = some e) :
    StopsAtFailure [last] (.error e : Except TransportError α) := by
  rw [← List.nil_append [last]]
  exact .stopped (List.forall_mem_nil _) h

theorem cons {first : Event} (hfirst : ataFailure? first = none) (h : StopsAtFailure t r) :
    StopsAtFailure (first :: t) r := by
  cases h with
  | whole hall => exact .whole (List.forall_mem_cons.mpr ⟨hfirst, hall⟩)
  | stopped hbefore hlast =>
    rw [← List.cons_append]
    exact .stopped (List.forall_mem_cons.mpr ⟨hfirst, hbefore⟩) hlast

/-- Where no command fails, neither does the read. -/
theorem exists_ok (h : StopsAtFailure t r) (hall : ∀ e ∈ t, ataFailure? e = none) :
    ∃ a, r = .ok a := by
  cases h with
  | whole _ => exact ⟨_, rfl⟩
  | stopped _ hlast =>
    rw [hall _ List.mem_concat_self] at hlast
    cases hlast

theorem map (h : StopsAtFailure t r) (g : α → β) : StopsAtFailure t (r.map g) := by
  cases h with
  | whole hall => exact .whole hall
  | stopped hbefore hlast => exact .stopped hbefore hlast

end StopsAtFailure

/-- One command stops the conversation if it fails. -/
theorem stopsAtFailure_filled (c : AtaCommand) (buffer : Bytes) (timeout : Nat)
    (reply : Except SystemError Completion) :
    StopsAtFailure [ataEvent c buffer timeout reply] (filled buffer reply) := by
  cases h : filled buffer reply with
  | error e => exact .single (ataFailure_of_error h)
  | ok b => exact .whole (List.forall_mem_singleton.mpr (ataFailure_of_ok h))

end DriveHealth.Node
