import DriveHealth.Proofs.Farm.ByteExact
import DriveHealth.Proofs.Farm.Checked
import DriveHealth.Proofs.Farm.Image
import DriveHealth.Proofs.Farm.Written

/-!
A combined file comes back from its bytes. The pieces that are written make up an image of the
layout in which every payload lies where its descriptor says, so the file is accepted and gives
back the summary that was answered when it was written, and every payload.
-/
namespace DriveHealth.Farm

namespace Emission

theorem sum_sizes_zeroPieces (n : Nat) : ((zeroPieces n).map ByteArray.size).sum = n := by
  have hdivision := Nat.div_add_mod' n Layout.alignment
  simp only [zeroPieces, List.map_append, List.map_replicate, List.sum_append,
    List.sum_replicate_nat, Bytes.size_zeros]
  by_cases hrest : n % Layout.alignment = 0
  · rw [if_pos hrest]
    rwa [hrest] at hdivision
  · rw [if_neg hrest, List.map_singleton, List.sum_singleton, Bytes.size_zeros]
    exact hdivision

theorem sum_sizes_descriptors (l : List Descriptor) :
    ((l.map Descriptor.encode).map ByteArray.size).sum = l.length * 32 := by
  have hsize : ByteArray.size ∘ Descriptor.encode = Function.const _ 32 :=
    funext Descriptor.size_encode
  rw [List.map_map, hsize, List.map_const, List.sum_replicate_nat]

end Emission

namespace Layout

open Emission

namespace Tiles

variable {offset stop : Nat} {l : List Dataset} {ps : List Placement}

theorem sum_sizes_payloadPieces (h : Tiles offset l ps stop) :
    offset + ((payloadPieces l ps).map ByteArray.size).sum = stop := by
  induction h with
  | nil offset => rfl
  | last hholds hpad =>
    have hstop := hholds.stop_eq
    rw [payloadPieces, List.map_append, List.map_cons, List.sum_append, List.sum_cons,
      sum_sizes_zeroPieces, hpad]
    exact hstop.symm
  | cons hholds hpad htail ih =>
    have hstop := hholds.stop_eq
    rw [payloadPieces, List.map_append, List.map_cons, List.sum_append, List.sum_cons,
      sum_sizes_zeroPieces]
    omega

/-- Each placement holds its dataset, whose payload is found where the placement starts. -/
theorem slice_payload (h : Tiles offset l ps stop) {before : List Bytes}
    (hbefore : (before.map ByteArray.size).sum = offset) :
    List.Forall₂ (fun p d => p.Holds p.start d ∧
      (Bytes.join (before ++ payloadPieces l ps)).slice p.start d.payload.size = d.payload)
      ps l := by
  induction h generalizing before with
  | nil offset => exact List.Forall₂.nil
  | last hholds hpad =>
    have hstart := hholds.start_eq
    refine List.Forall₂.cons ⟨hstart ▸ hholds, ?_⟩ List.Forall₂.nil
    exact Bytes.slice_join before _ _ (hstart.trans hbefore.symm) rfl
  | @cons offset stop d e r p ps hholds hpad htail ih =>
    have hstart := hholds.start_eq
    refine List.Forall₂.cons ⟨hstart ▸ hholds, ?_⟩ ?_
    · exact Bytes.slice_join before _ _ (hstart.trans hbefore.symm) rfl
    · have hnext : ((before ++ d.payload :: zeroPieces p.padding).map ByteArray.size).sum =
          p.stop + p.padding := by
        rw [List.map_append, List.map_cons, List.sum_append, List.sum_cons,
          sum_sizes_zeroPieces, hbefore, hholds.stop_eq, Nat.add_assoc]
      have hrest := ih hnext
      rwa [List.append_assoc] at hrest

end Tiles

variable {l : List Dataset} {y : Layout} (kind : DriveKind) (identity : Identity)

theorem length_placements_of_plan (h : plan l = .ok y) : y.placements.length = l.length :=
  (tiles_of_plan h).1.length_eq

/-- The sizes of what is written before the payloads add up to their start. -/
theorem sum_sizes_before (h : plan l = .ok y) :
    ((y.encodeHeader kind identity :: y.descriptors.map Descriptor.encode ++
      zeroPieces y.headerPadding).map ByteArray.size).sum = firstStart l := by
  have hlength : y.descriptors.length = l.length := by
    rw [descriptors, List.length_map, length_placements_of_plan h]
  rw [List.cons_append, List.map_cons, List.sum_cons, List.map_append, List.sum_append,
    size_encodeHeader, sum_sizes_descriptors, sum_sizes_zeroPieces, hlength,
    headerPadding_of_plan h, firstStart, tableLength]
  omega

theorem size_join_pieces (h : plan l = .ok y) :
    (Bytes.join (pieces y kind identity l)).size = y.fileSize := by
  have hpayloads := (tiles_of_plan h).1.sum_sizes_payloadPieces
  rw [Bytes.size_join, pieces, List.map_append, List.sum_append, sum_sizes_before kind identity h,
    hpayloads]

/-- What is written is an image of the layout. -/
theorem image_pieces (h : plan l = .ok y) :
    Image y kind identity (Bytes.join (pieces y kind identity l)) where
  header := Bytes.slice_join [] _ _ rfl (size_encodeHeader y kind identity).symm
  descriptor := by
    intro i d hd
    obtain ⟨before, after, hsplit, hlength⟩ :
        ∃ before after, y.descriptors = before ++ d :: after ∧ before.length = i := by
      obtain ⟨hi, rfl⟩ := List.getElem?_eq_some_iff.mp hd
      refine ⟨y.descriptors.take i, y.descriptors.drop (i + 1), ?_, ?_⟩
      · rw [← List.drop_eq_getElem_cons hi, List.take_append_drop]
      · exact List.length_take_of_le hi.le
    have hbefore : 256 + i * 32 = ((y.encodeHeader kind identity ::
        before.map Descriptor.encode).map ByteArray.size).sum := by
      rw [List.map_cons, List.sum_cons, size_encodeHeader, sum_sizes_descriptors, hlength]
    have hpieces : pieces y kind identity l = (y.encodeHeader kind identity ::
        before.map Descriptor.encode) ++ d.encode :: (after.map Descriptor.encode ++
          (zeroPieces y.headerPadding ++ payloadPieces l y.placements)) := by
      rw [pieces, hsplit, List.map_append, List.map_cons]
      simp only [List.cons_append, List.append_assoc]
    rw [hpieces]
    exact Bytes.slice_join _ _ _ hbefore (Descriptor.size_encode d).symm
  table_length := by
    rw [headerLength_of_plan h, length_placements_of_plan h, tableLength, Nat.mul_comm]
  table_fits := by
    have hle := (tiles_of_plan h).1.offset_le_stop
    rw [headerLength_of_plan h, size_join_pieces kind identity h]
    unfold firstStart at hle
    omega
  start_le := by
    intro d hd
    obtain ⟨p, hp, rfl⟩ := List.mem_map.mp hd
    have hle := (tiles_of_plan h).1.offset_le_start p hp
    rw [headerLength_of_plan h]
    exact (Nat.le_add_right _ _).trans hle
  stop_le := by
    intro d hd
    obtain ⟨p, hp, rfl⟩ := List.mem_map.mp hd
    rw [size_join_pieces kind identity h]
    exact (tiles_of_plan h).1.stop_le_stop p hp
  bitmap := by
    rw [bitmap_of_plan h, ← (tiles_of_plan h).1.map_kind, descriptors, List.map_map]
    rfl

theorem slice_payload_pieces (h : plan l = .ok y) :
    List.Forall₂ (fun p d => p.Holds p.start d ∧
      (Bytes.join (pieces y kind identity l)).slice p.start d.payload.size = d.payload)
      y.placements l :=
  (tiles_of_plan h).1.slice_payload (sum_sizes_before kind identity h)

/-- Among placements of datasets of different kinds, the descriptor of a kind is that of the
dataset of the kind. -/
theorem find?_kind {R : Placement → Dataset → Prop} {ps : List Placement}
    (h : List.Forall₂ R ps l) (hR : ∀ p d, R p d → p.descriptor.kind = d.kind)
    (hkinds : (l.map Dataset.kind).Nodup) {d : Dataset} (hd : d ∈ l) :
    ∃ p ∈ ps, R p d ∧
      (ps.map Placement.descriptor).find? (fun e => e.kind == d.kind) = some p.descriptor := by
  induction h with
  | nil => cases hd
  | @cons p e ps r hp hrest ih =>
    rw [List.map_cons, List.nodup_cons] at hkinds
    rcases List.mem_cons.mp hd with rfl | hmem
    · refine ⟨p, List.mem_cons_self, hp, ?_⟩
      rw [List.map_cons, List.find?_cons_of_pos (by simpa using hR p d hp)]
    · obtain ⟨q, hq, hholds, hfind⟩ := ih hkinds.2 hmem
      refine ⟨q, List.mem_cons_of_mem p hq, hholds, ?_⟩
      have hother : p.descriptor.kind ≠ d.kind := by
        intro heq
        rw [hR p e hp] at heq
        exact hkinds.1 (heq ▸ List.mem_map_of_mem hmem)
      rw [List.map_cons, List.find?_cons_of_neg (by simpa using hother), hfind]

/-- The payload of a dataset is found by its kind. -/
theorem payload?_of_mem (h : plan l = .ok y) (hkinds : (l.map Dataset.kind).Nodup)
    (hsize : y.fileSize < 2 ^ 32) {f : File} (hdescriptors : f.summary.descriptors = y.descriptors)
    (hdata : f.data = Bytes.join (pieces y kind identity l)) {d : Dataset} (hd : d ∈ l) :
    f.payload? d.kind = some d.payload := by
  obtain ⟨p, _, ⟨hholds, hslice⟩, hfind⟩ := find?_kind (slice_payload_pieces kind identity h)
    (fun p d hpd => hpd.1.kind_eq) hkinds hd
  have hlt : f.data.size < 2 ^ 32 := by rwa [hdata, size_join_pieces kind identity h]
  have hwithin : ∀ e ∈ f.summary.descriptors,
      e.offset.toNat + e.length.toNat ≤ f.data.size := by
    rw [hdescriptors, hdata]
    exact (image_pieces kind identity h).stop_le
  rw [File.payload?_eq hlt hwithin, hdescriptors, descriptors, hfind, Option.map_some, hdata,
    hholds.length_eq]
  exact congrArg some hslice

theorem payload?_of_not_mem (h : plan l = .ok y) {f : File}
    (hdescriptors : f.summary.descriptors = y.descriptors) {k : Kind}
    (hk : k ∉ l.map Dataset.kind) : f.payload? k = none := by
  have hfind : f.summary.descriptors.find? (fun d => d.kind == k) = none := by
    rw [List.find?_eq_none, hdescriptors]
    intro d hd hkind
    obtain ⟨p, hp, rfl⟩ := List.mem_map.mp hd
    apply hk
    rw [← (tiles_of_plan h).1.map_kind, ← eq_of_beq hkind]
    exact List.mem_map_of_mem hp
  rw [File.payload?, hfind, Option.map_none]

end Layout

/-- A file gives back what was written to it: the drive as far as the fields of the header keep
it, and the payload of each kind. -/
structure Restored (kind : DriveKind) (identity : Identity) (l : List Dataset) (f : File) :
    Prop where
  version : f.summary.major = 1 ∧ f.summary.minor = 1 ∧ f.summary.patch = 0
  interface_tag : f.summary.interfaceTag = kind.tag
  model : f.summary.identity.model = Text.Field.clipped 40 identity.model
  serial : f.summary.identity.serial = Text.Field.clipped 20 identity.serial
  firmware : f.summary.identity.firmware = Text.Field.clipped 8 identity.firmware
  /-- Trimmed printable ASCII that fits comes back unchanged. -/
  model_plain : Text.Field.Plain 40 identity.model → f.summary.identity.model = identity.model
  serial_plain : Text.Field.Plain 20 identity.serial →
    f.summary.identity.serial = identity.serial
  firmware_plain : Text.Field.Plain 8 identity.firmware →
    f.summary.identity.firmware = identity.firmware
  payload : ∀ d ∈ l, f.payload? d.kind = some d.payload
  no_payload : ∀ k, k ∉ l.map Dataset.kind → f.payload? k = none

/-- Two summaries of the same layout. -/
structure Summary.SameLayout (a b : Summary) : Prop where
  header_length : a.headerLength = b.headerLength
  bitmap : a.bitmap = b.bitmap
  file_size : a.fileSize = b.fileSize
  descriptors : a.descriptors = b.descriptors

namespace File

open Emission

variable {σ : Type} (handler : (c : SinkCall) → σ → c.Reply × σ) (s : σ) (kind : DriveKind)
  (identity : Identity)

/-- The bytes that a sink accepted are a file that gives back the datasets and the summary. -/
theorem parse_written {l : List Dataset} {y : Layout} (hkinds : (l.map Dataset.kind).Nodup)
    (hplan : Layout.plan l = .ok y) (hsize : y.fileSize < 2 ^ 32)
    (haccept : WritesAccepted (Program.conversation handler (emit kind identity l) s)) :
    (∃ f, parse (written (Program.conversation handler (emit kind identity l) s)) = .ok f ∧
      Restored kind identity l f ∧
      ∀ summary, (Program.run handler (emit kind identity l) s).1 = .ok summary →
        f.summary.SameLayout summary) ∧
    (CallsAccepted (Program.conversation handler (emit kind identity l) s) →
      ∃ summary, (Program.run handler (emit kind identity l) s).1 = .ok summary) := by
  refine ⟨?_, ?_⟩
  · have himage := Layout.image_pieces kind identity hplan
    have hparse := himage.parse (Layout.size_join_pieces kind identity hplan)
    rw [written_emit handler hplan haccept]
    refine ⟨_, hparse, ?_, ?_⟩
    · exact {
        version := ⟨rfl, rfl, rfl⟩
        interface_tag := rfl
        model := rfl
        serial := rfl
        firmware := rfl
        model_plain := Text.Field.clipped_of_plain
        serial_plain := Text.Field.clipped_of_plain
        firmware_plain := Text.Field.clipped_of_plain
        payload := fun d hd =>
          Layout.payload?_of_mem kind identity hplan hkinds hsize rfl rfl hd
        no_payload := fun k hk => Layout.payload?_of_not_mem hplan rfl hk
      }
    · intro summary hsummary
      rw [summary_of_run handler hplan hsummary]
      exact ⟨rfl, rfl, rfl, rfl⟩
  · intro hcalls
    exact ⟨_, run_emit handler hplan hcalls⟩

/-- A sink that accepts every call. -/
def acceptAll (c : SinkCall) (s : Unit) : c.Reply × Unit := (.ok (), s)

/-- A file of two datasets, one of them empty. -/
theorem parse_written_two :
    ∃ f, parse (written (Program.conversation acceptAll (emit .ata ⟨"ST4000", "ZA1", "SC60"⟩
        [⟨.sticky, .ofList [1, 2, 3], 5, 6⟩, ⟨.current, .ofList [], 7, 9⟩]) ())) = .ok f ∧
      f.payload? .sticky = some (.ofList [1, 2, 3]) ∧
      f.payload? .current = some (.ofList []) ∧ f.payload? .factory = none := by
  have hplan : Layout.plan [⟨.sticky, .ofList [1, 2, 3], 5, 6⟩, ⟨.current, .ofList [], 7, 9⟩] =
      .ok ⟨320, 192, 9, [⟨⟨.sticky, 512, 3, 5, 6⟩, 509⟩, ⟨⟨.current, 1024, 0, 7, 9⟩, 0⟩],
        1024⟩ :=
    rfl
  have haccept : WritesAccepted (Program.conversation acceptAll (emit .ata
      ⟨"ST4000", "ZA1", "SC60"⟩
      [⟨.sticky, .ofList [1, 2, 3], 5, 6⟩, ⟨.current, .ofList [], 7, 9⟩]) ()) := by
    intro piece r hr
    obtain ⟨_, hreply⟩ := Program.reply_of_mem_conversation hr
    exact hreply
  obtain ⟨⟨f, hparse, hrestored, _⟩, _⟩ :=
    parse_written acceptAll () .ata ⟨"ST4000", "ZA1", "SC60"⟩ (by decide) hplan (by decide)
      haccept
  refine ⟨f, hparse, ?_, ?_, ?_⟩
  · exact hrestored.payload ⟨.sticky, .ofList [1, 2, 3], 5, 6⟩ (by simp)
  · exact hrestored.payload ⟨.current, .ofList [], 7, 9⟩ (by simp)
  · exact hrestored.no_payload .factory (by decide)

end File
end DriveHealth.Farm
