import DriveHealth.Farm.Sink
import DriveHealth.Proofs.Farm.RoundTrip

/-!
A combined file on its way into any sink. The writes of a whole file are its header, a descriptor
for each dataset, zero bytes, and each payload with the zero bytes behind it. Whichever call a sink
refuses, it was asked for a beginning of these writes and of the flush behind them; nothing but
the close follows the refused call, and the first refusal is what is answered.
-/
namespace DriveHealth.Farm.Emission

/-- So many zero bytes, in pieces that are not empty and of 512 bytes at most. -/
structure ZeroFill (n : Nat) (l : List Bytes) : Prop where
  join_eq : Bytes.join l = Bytes.zeros n
  size_pos : ∀ piece ∈ l, 0 < piece.size
  size_le : ∀ piece ∈ l, piece.size ≤ 512

/-- Each payload, with the zero bytes behind it. -/
inductive PayloadWrites : List Dataset → List Placement → List Bytes → Prop
  | nil : PayloadWrites [] [] []
  | cons {d : Dataset} {p : Placement} {r : List Dataset} {ps : List Placement}
      {fill rest : List Bytes} :
      p.Holds p.start d → ZeroFill p.padding fill → PayloadWrites r ps rest →
      PayloadWrites (d :: r) (p :: ps) (d.payload :: fill ++ rest)

/-- The writes of a whole file. -/
structure FileWrites (y : Layout) (kind : DriveKind) (identity : Identity) (l : List Dataset)
    (writes : List Bytes) : Prop where
  in_order : ∃ fill payloads,
    writes = y.encodeHeader kind identity :: y.descriptors.map Descriptor.encode ++ fill ++
        payloads ∧
      ZeroFill y.headerPadding fill ∧ PayloadWrites l y.placements payloads
  header_size : (y.encodeHeader kind identity).size = 256
  descriptor_count : y.descriptors.length = l.length
  descriptor_size : ∀ d ∈ y.descriptors, d.encode.size = 32
  file_size : (Bytes.join writes).size = y.fileSize

section Pieces

theorem zeros_append (m n : Nat) : Bytes.zeros m ++ Bytes.zeros n = Bytes.zeros (m + n) := by
  apply ByteArray.ext
  apply Array.toList_inj.mp
  simp only [ByteArray.toList_data_append, Bytes.zeros, Bytes.toList_fill,
    List.replicate_append_replicate]

theorem join_replicate_zeros (k n : Nat) :
    Bytes.join (List.replicate k (Bytes.zeros n)) = Bytes.zeros (k * n) := by
  induction k with
  | zero => rw [Nat.zero_mul]; rfl
  | succ k ih =>
    rw [List.replicate_succ, Bytes.join, ih, zeros_append, Nat.succ_mul, Nat.add_comm]

theorem join_zeroPieces (n : Nat) : Bytes.join (zeroPieces n) = Bytes.zeros n := by
  have hdivision := Nat.div_add_mod' n Layout.alignment
  rw [zeroPieces, Bytes.join_append, join_replicate_zeros]
  by_cases hrest : n % Layout.alignment = 0
  · rw [if_pos hrest, Bytes.join, ByteArray.append_empty]
    rw [hrest, Nat.add_zero] at hdivision
    rw [hdivision]
  · rw [if_neg hrest, Bytes.join, Bytes.join, ByteArray.append_empty, zeros_append, hdivision]

theorem size_of_mem_zeroPieces {n : Nat} {piece : Bytes} (h : piece ∈ zeroPieces n) :
    0 < piece.size ∧ piece.size ≤ 512 := by
  rw [zeroPieces, List.mem_append] at h
  rcases h with hfull | hrest
  · rw [(List.mem_replicate.mp hfull).2, Bytes.size_zeros]
    decide
  · have hlt : n % Layout.alignment < 512 := Nat.mod_lt n (by decide)
    split at hrest
    · cases hrest
    · rw [List.mem_singleton.mp hrest, Bytes.size_zeros]
      omega

theorem zeroFill_zeroPieces (n : Nat) : ZeroFill n (zeroPieces n) where
  join_eq := join_zeroPieces n
  size_pos _ h := (size_of_mem_zeroPieces h).1
  size_le _ h := (size_of_mem_zeroPieces h).2

theorem payloadWrites_payloadPieces {l : List Dataset} {ps : List Placement}
    (h : List.Forall₂ (fun p d => p.Holds p.start d) ps l) :
    PayloadWrites l ps (payloadPieces l ps) := by
  induction h with
  | nil => exact .nil
  | cons hholds _ ih => exact .cons hholds (zeroFill_zeroPieces _) ih

theorem fileWrites_pieces {l : List Dataset} {y : Layout} (kind : DriveKind)
    (identity : Identity) (hplan : Layout.plan l = .ok y) :
    FileWrites y kind identity l (pieces y kind identity l) where
  in_order := by
    have hholds := (Layout.tiles_of_plan hplan).1.forall_holds
    exact ⟨zeroPieces y.headerPadding, payloadPieces l y.placements, rfl,
      zeroFill_zeroPieces _, payloadWrites_payloadPieces hholds⟩
  header_size := Layout.size_encodeHeader y kind identity
  descriptor_count := by
    rw [Layout.descriptors, List.length_map, Layout.length_placements_of_plan hplan]
  descriptor_size d _ := d.size_encode
  file_size := Layout.size_join_pieces kind identity hplan

end Pieces

/-- What was asked of a sink up to the first refusal, with the close behind it, and what was
answered. -/
structure CutShort (writes : List Bytes) (summary : Summary) (body : SinkTrace)
    (closed : Except SystemError Unit) (r : Except Error Summary) : Prop where
  calls_prefix : body.map Sigma.fst <+: writes.map SinkCall.write ++ [.flush]
  calls_whole : CallsAccepted body → body.map Sigma.fst = writes.map SinkCall.write ++ [.flush]
  /-- Nothing is asked behind a refused call. -/
  accepted_before : CallsAccepted body.dropLast
  closed_once : ∀ e ∈ body, e.1 ≠ .close
  written_prefix : ∃ rest, written (body ++ [⟨.close, closed⟩]) ++ rest = Bytes.join writes
  written_whole : WritesAccepted body →
    written (body ++ [⟨.close, closed⟩]) = Bytes.join writes
  ok_iff : (∃ told, r = .ok told) ↔ CallsAccepted (body ++ [⟨.close, closed⟩])
  summary_eq : ∀ told, r = .ok told → told = summary
  first_error : ∀ c e, ⟨c, .error e⟩ ∈ body → r = .error (.write e)
  close_error : CallsAccepted body → ∀ e, closed = .error e → r = .error (.write e)

namespace Attempted

variable {l : List Bytes} {t : SinkTrace} {result : Except SystemError Unit}

theorem calls_prefix (h : Attempted l t result) :
    t.map Sigma.fst <+: l.map SinkCall.write ++ [.flush] := by
  induction h with
  | flushed result => exact List.prefix_refl _
  | refused piece r e => exact List.prefix_append [SinkCall.write piece] _
  | accepted piece hrest ih => exact List.cons_prefix_cons.mpr ⟨rfl, ih⟩

theorem calls_whole (h : Attempted l t result) (haccept : CallsAccepted t) :
    t.map Sigma.fst = l.map SinkCall.write ++ [.flush] := by
  induction h with
  | flushed result => rfl
  | refused piece r e => cases haccept (.write piece) (.error e) List.mem_cons_self
  | accepted piece hrest ih =>
    have htail := ih fun c reply hc => haccept c reply (List.mem_cons_of_mem _ hc)
    rw [List.map_cons, htail]
    rfl

theorem ne_nil (h : Attempted l t result) : t ≠ [] := by
  cases h <;> exact List.cons_ne_nil _ _

theorem accepted_before (h : Attempted l t result) : CallsAccepted t.dropLast := by
  induction h with
  | flushed result => exact nofun
  | refused piece r e => exact nofun
  | accepted piece hrest ih =>
    intro c reply hmem
    rw [List.dropLast_cons_of_ne_nil hrest.ne_nil] at hmem
    rcases List.mem_cons.mp hmem with heq | hbefore
    · cases heq
      rfl
    · exact ih c reply hbefore

theorem ne_close (h : Attempted l t result) : ∀ e ∈ t, e.1 ≠ .close := by
  induction h with
  | flushed result => simp
  | refused piece r e => simp
  | accepted piece hrest ih => simpa using ih

theorem exists_written_append (h : Attempted l t result) :
    ∃ rest, written t ++ rest = Bytes.join l := by
  induction h with
  | flushed result => exact ⟨.empty, rfl⟩
  | refused piece r e => exact ⟨Bytes.join (piece :: r), ByteArray.empty_append⟩
  | accepted piece hrest ih =>
    obtain ⟨rest, hjoin⟩ := ih
    refine ⟨rest, ?_⟩
    rw [written_cons, ByteArray.append_assoc, hjoin]
    rfl

end Attempted

theorem cutShort_of_attempted {l : List Bytes} {u : SinkTrace}
    {result closed : Except SystemError Unit} (summary : Summary) (h : Attempted l u result) :
    CutShort l summary u closed (outcome result closed summary) where
  calls_prefix := h.calls_prefix
  calls_whole := h.calls_whole
  accepted_before := h.accepted_before
  closed_once := h.ne_close
  written_prefix := by
    rw [written_close]
    exact h.exists_written_append
  written_whole haccept := by
    rw [written_close]
    exact h.written_eq haccept
  ok_iff := by
    rw [outcome_eq_ok_iff, callsAccepted_append, callsAccepted_close, h.result_eq_ok_iff]
  summary_eq := by
    intro told htold
    obtain ⟨rfl, rfl⟩ := outcome_eq_ok_iff.mp ⟨told, htold⟩
    cases htold
    rfl
  first_error := by
    intro c e he
    rw [h.result_of_error he]
    rfl
  close_error := by
    intro haccept e he
    rw [h.result_eq_ok_iff.mpr haccept, he]
    rfl

/-- Whatever a sink refuses, it gets a beginning of the file and is closed, and the first refusal
is told. -/
theorem emit_cutShort {σ : Type} (handler : (c : SinkCall) → σ → c.Reply × σ) (s : σ)
    (kind : DriveKind) (identity : Identity) {l : List Dataset} {y : Layout}
    (hplan : Layout.plan l = .ok y) :
    ∃ writes body closed, FileWrites y kind identity l writes ∧
      Program.conversation handler (emit kind identity l) s = body ++ [⟨.close, closed⟩] ∧
      CutShort writes (y.summary kind identity) body closed
        (Program.run handler (emit kind identity l) s).1 := by
  obtain ⟨body, result, closed, hconversation, hattempt, hrun⟩ :=
    attempted_of_ends_emit hplan (Program.ends_conversation handler (emit kind identity l) s)
  refine ⟨pieces y kind identity l, body, closed, fileWrites_pieces kind identity hplan,
    hconversation, ?_⟩
  rw [hrun]
  exact cutShort_of_attempted _ hattempt

/-- Two datasets, the first of which is padded. -/
def twoSmall : List Dataset :=
  [⟨.current, .ofList [1, 2, 3], 5, 6⟩, ⟨.sticky, .ofList [4], 7, 9⟩]

def twoSmallLayout : Layout :=
  ⟨320, 192, 9, [⟨⟨.current, 512, 3, 5, 6⟩, 509⟩, ⟨⟨.sticky, 1024, 1, 7, 9⟩, 0⟩], 1025⟩

/-- Room for a header, two descriptors and a payload, but not for the zero bytes behind it; the
close fails as well. -/
def nearlyFull : Sink := { room := some 600, closeFails := true }

theorem emit_cutShort_nearlyFull :
    Layout.plan twoSmall = .ok twoSmallLayout ∧
    (Program.run Sink.answer (emit .ata ⟨"ST4000", "ZA1", "SC60"⟩ twoSmall) nearlyFull).1 =
      .error (.write Sink.noSpace) ∧
    ∃ writes body closed,
      FileWrites twoSmallLayout .ata ⟨"ST4000", "ZA1", "SC60"⟩ twoSmall writes ∧
      Program.conversation Sink.answer (emit .ata ⟨"ST4000", "ZA1", "SC60"⟩ twoSmall)
        nearlyFull = body ++ [⟨.close, closed⟩] ∧
      CutShort writes (twoSmallLayout.summary .ata ⟨"ST4000", "ZA1", "SC60"⟩) body closed
        (Program.run Sink.answer (emit .ata ⟨"ST4000", "ZA1", "SC60"⟩ twoSmall) nearlyFull).1 :=
  ⟨rfl, by decide +kernel,
    emit_cutShort Sink.answer nearlyFull .ata ⟨"ST4000", "ZA1", "SC60"⟩ rfl⟩

end DriveHealth.Farm.Emission
