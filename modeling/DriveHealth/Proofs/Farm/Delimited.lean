import DriveHealth.Proofs.Farm.Accepted
import DriveHealth.Proofs.Farm.Limit

/-!
Where a combined file ends. Reading looks at nothing behind the last payload, so whatever is
appended to an accepted file changes only its size. Turned round, a beginning of an accepted file
that is accepted itself holds all the payloads, and a file that is written ends with its last
payload, be it empty. So no cut goes unnoticed, not even one inside the padding.
-/
namespace DriveHealth.Farm.File

open Layout Emission

/-- A file with more bytes behind it. -/
def extended (f : File) (b : Bytes) : File :=
  ⟨{ f.summary with fileSize := f.data.size + b.size }, f.data ++ b⟩

section Appended

variable {a : Bytes} (b : Bytes) {headerLength : Nat} {f : File}

theorem readDescriptor_append {i : Nat} {d : Descriptor}
    (hfits : headerSize + (i + 1) * descriptorSize ≤ a.size)
    (h : readDescriptor a headerLength i = .ok d) :
    readDescriptor (a ++ b) headerLength i = .ok d := by
  have hroom : headerSize + i * descriptorSize + 32 ≤ a.size := by
    unfold descriptorSize at hfits ⊢
    omega
  unfold readDescriptor at h ⊢
  dsimp only at h ⊢
  rw [Bytes.slice_append_left a b (by omega), Bytes.le32_append_left b (by omega),
    Bytes.le32_append_left b (by omega), Bytes.le64_append_left b (by omega),
    Bytes.le64_append_left b (by omega), ByteArray.size_append]
  cases hkind : Kind.ofSignature? (a.slice (headerSize + i * descriptorSize) 8) with
  | none =>
    rw [hkind] at h
    cases h
  | some kind =>
    rw [hkind] at h
    dsimp only at h ⊢
    split at h
    · cases h
    · rename_i hrange
      rw [if_neg (by omega)]
      exact h

theorem readDescriptors_append {n i : Nat} {l : List Descriptor}
    (hfits : headerSize + (i + n) * descriptorSize ≤ a.size)
    (h : readDescriptors a headerLength n i = .ok l) :
    readDescriptors (a ++ b) headerLength n i = .ok l := by
  induction n generalizing i l with
  | zero => exact h
  | succ n ih =>
    have hhead : headerSize + (i + 1) * descriptorSize ≤ a.size := by
      unfold descriptorSize at hfits ⊢
      omega
    have hrest : i + 1 + n = i + (n + 1) := by omega
    rw [readDescriptors] at h ⊢
    cases hd : readDescriptor a headerLength i with
    | error e =>
      rw [hd] at h
      cases h
    | ok d =>
      cases hds : readDescriptors a headerLength n (i + 1) with
      | error e =>
        rw [hd, hds] at h
        cases h
      | ok ds =>
        rw [hd, hds] at h
        rw [readDescriptor_append b hhead hd, ih (by rwa [hrest]) hds]
        exact h

theorem readSummary_append (hsize : headerSize ≤ a.size) (length : UInt16)
    (descriptors : List Descriptor) :
    readSummary (a ++ b) length descriptors =
      { readSummary a length descriptors with fileSize := a.size + b.size } := by
  have hheader : 256 ≤ a.size := hsize
  unfold readSummary
  rw [Bytes.le16_append_left b (by omega), Bytes.le16_append_left b (by omega),
    Bytes.le16_append_left b (by omega), Bytes.slice_append_left a b (by omega),
    Text.Field.read_append_left b (by omega), Text.Field.read_append_left b (by omega),
    Text.Field.read_append_left b (by omega), Bytes.le32_append_left b (by omega),
    ByteArray.size_append]

theorem readTable_append (hsize : headerSize ≤ a.size) (h : readTable a = .ok f) :
    readTable (a ++ b) = .ok (f.extended b) := by
  have hheader : 256 ≤ a.size := hsize
  unfold readTable at h ⊢
  dsimp only at h ⊢
  rw [Bytes.le16_append_left b (by omega), Bytes.le16_append_left b (by omega),
    Bytes.le16_append_left b (by omega), Bytes.le32_append_left b (by omega),
    ByteArray.size_append]
  split at h
  · cases h
  rename_i hdescriptor
  rw [if_neg hdescriptor]
  split at h
  · cases h
  rename_i hlength
  rw [if_neg (by omega)]
  have hfits : headerSize + (0 + (a.le16 252).toNat) * descriptorSize ≤ a.size := by
    rw [Nat.zero_add]
    omega
  cases hds : readDescriptors a (headerSize + (a.le16 252).toNat * descriptorSize)
    (a.le16 252).toNat 0 with
  | error e =>
    rw [hds] at h
    cases h
  | ok descriptors =>
    rw [hds] at h
    rw [readDescriptors_append b hfits hds]
    dsimp only at h ⊢
    split at h
    · cases h
    · rename_i hbitmap
      cases h
      rw [if_neg hbitmap, readSummary_append b hsize]
      rfl

/-- Bytes behind an accepted file change only its size. -/
theorem parse_append (h : parse a = .ok f) : parse (a ++ b) = .ok (f.extended b) := by
  unfold parse at h ⊢
  split at h
  · cases h
  rename_i hshort
  have hheader : 256 ≤ a.size := Nat.not_lt.mp hshort
  rw [if_neg (by rw [ByteArray.size_append]; omega), Bytes.slice_append_left a b (by omega),
    Bytes.le16_append_left b (by omega)]
  split at h
  · cases h
  rename_i hsignature
  rw [if_neg hsignature]
  split at h
  · cases h
  rename_i hmajor
  rw [if_neg hmajor]
  exact readTable_append b (Nat.not_lt.mp hshort) h

theorem payload?_extended (h : parse a = .ok f) (k : Kind) :
    (f.extended b).payload? k = f.payload? k := by
  obtain ⟨descriptors, rfl, hagrees⟩ := agrees_of_parse h
  unfold payload? extended
  cases hfind : descriptors.find? fun d => d.kind == k with
  | none => simp only [readSummary, hfind, Option.map_none]
  | some d =>
    have hwithin := (hagrees.within d (List.mem_of_find?_eq_some hfind)).2
    have hwrapped : (d.offset + d.length).toNat ≤ d.offset.toNat + d.length.toNat := by
      rw [UInt32.toNat_add]
      exact Nat.mod_le _ _
    simp only [readSummary, hfind, Option.map_some]
    rw [Bytes.extract_append_left b (hwrapped.trans hwithin)]

theorem ofOtherVersion_append (h : OfOtherVersion a) : OfOtherVersion (a ++ b) := by
  obtain ⟨hsize, hsignature, hmajor⟩ := h
  refine ⟨?_, ?_, ?_⟩
  · rw [ByteArray.size_append]
    omega
  · rwa [Bytes.slice_append_left a b (by omega)]
  · rwa [Bytes.le16_append_left b (by omega)]

end Appended

/-- A cut before the end of a payload is noticed. -/
theorem parse_take {data : Bytes} {f : File} (h : parse data = .ok f) {d : Descriptor}
    (hd : d ∈ f.summary.descriptors) {n : Nat} (hn : n < d.offset.toNat + d.length.toNat) :
    ∃ text, parse (data.take n) = .error (.parse text) := by
  have hsplit := Bytes.take_append_extract data n
  rcases parse_cases (data.take n) with ⟨hother, _⟩ | ⟨_, herror | ⟨descriptors, hok, hagrees⟩⟩
  · -- The version stands in the header, so the whole file would be refused for it as well.
    have hwhole := ofOtherVersion_append (data.extract n data.size) hother
    rw [hsplit] at hwhole
    obtain ⟨text, hrefused⟩ := notSupported_of_otherVersion hwhole
    rw [hrefused] at h
    cases h
  · exact herror
  · have hwhole := parse_append (data.extract n data.size) hok
    rw [hsplit, h] at hwhole
    obtain rfl := Except.ok.inj hwhole
    have hstop := (hagrees.within d hd).2
    have hsize : (data.take n).size ≤ n := by
      rw [Bytes.take, ByteArray.size_extract]
      omega
    omega

/-- The end of a written file is where reading it ends. -/
structure Delimited (l : List Dataset) (image : Bytes) : Prop where
  cut : l ≠ [] → ∀ n < image.size, ∃ text, parse (image.take n) = .error (.parse text)
  appended : ∃ f, parse image = .ok f ∧ ∀ b, parse (image ++ b) = .ok (f.extended b) ∧
    ∀ k, (f.extended b).payload? k = f.payload? k

section Written

variable {σ : Type} (handler : (c : SinkCall) → σ → c.Reply × σ) (s : σ) (kind : DriveKind)
  (identity : Identity) {l : List Dataset} {y : Layout}

/-- A file with datasets ends with the payload of one of them. -/
theorem exists_stop_eq_fileSize (hplan : Layout.plan l = .ok y) (hne : l ≠ []) :
    ∃ d ∈ y.descriptors, d.offset.toNat + d.length.toNat = y.fileSize := by
  rcases fileSize_cases hplan with ⟨hnone, _⟩ | ⟨p, hp, hstop⟩
  · have hlength := length_placements_of_plan hplan
    rw [hnone, List.length_nil] at hlength
    exact absurd (List.eq_nil_of_length_eq_zero hlength.symm) hne
  · exact ⟨p.descriptor, List.mem_map_of_mem hp, hstop⟩

/-- A file that a sink accepted shows every cut, and no byte behind it. -/
theorem parse_delimited (hplan : Layout.plan l = .ok y)
    (haccept : WritesAccepted (Program.conversation handler (emit kind identity l) s)) :
    Delimited l (written (Program.conversation handler (emit kind identity l) s)) := by
  have hsize := size_join_pieces kind identity hplan
  have hparse := (image_pieces kind identity hplan).parse hsize
  rw [written_emit handler hplan haccept]
  refine ⟨?_, _, hparse, ?_⟩
  · intro hne n hn
    obtain ⟨d, hd, hstop⟩ := exists_stop_eq_fileSize hplan hne
    rw [hsize] at hn
    exact parse_take hparse hd (hstop ▸ hn)
  · intro b
    exact ⟨parse_append b hparse, payload?_extended b hparse⟩

end Written

/-- The last payload is empty, and the cut leaves every byte of the other one. -/
theorem parse_delimited_padding :
    ∃ text, parse ((written (Program.conversation acceptAll (emit .ata ⟨"ST4000", "ZA1", "SC60"⟩
      [⟨.sticky, .ofList [1, 2, 3], 5, 6⟩, ⟨.current, .ofList [], 7, 9⟩]) ())).take 1023) =
        .error (.parse text) := by
  have hplan : Layout.plan [⟨.sticky, .ofList [1, 2, 3], 5, 6⟩, ⟨.current, .ofList [], 7, 9⟩] =
      .ok ⟨320, 192, 9, [⟨⟨.sticky, 512, 3, 5, 6⟩, 509⟩, ⟨⟨.current, 1024, 0, 7, 9⟩, 0⟩],
        1024⟩ :=
    rfl
  have haccept : WritesAccepted (Program.conversation acceptAll (emit .ata
      ⟨"ST4000", "ZA1", "SC60"⟩
      [⟨.sticky, .ofList [1, 2, 3], 5, 6⟩, ⟨.current, .ofList [], 7, 9⟩]) ()) := by
    intro piece r hr
    obtain ⟨_, hreply⟩ := Program.reply_of_mem_conversation hr
    exact hreply
  have hdelimited := parse_delimited acceptAll () .ata ⟨"ST4000", "ZA1", "SC60"⟩ hplan haccept
  refine hdelimited.cut (List.cons_ne_nil _ _) 1023 ?_
  rw [written_emit acceptAll hplan haccept, size_join_pieces .ata _ hplan]
  decide

end DriveHealth.Farm.File
