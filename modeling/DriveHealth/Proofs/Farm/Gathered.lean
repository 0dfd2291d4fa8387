import DriveHealth.Farm.Pull
import DriveHealth.Proofs.Bytes
import DriveHealth.Proofs.Conversation
import DriveHealth.Proofs.Scsi.Modes

/-!
What a pull gathers. Every planned read is made, whatever became of the reads before it, and the
datasets that are answered are those of the reads that succeeded, one read behind the other. So a
read that fails costs its own datasets only, and a pull fails for no read.
-/
namespace DriveHealth.Farm.Pull

open Program
open DriveHealth.Scsi (DriveTrace)

section Each

variable {Op ι α : Type} {Reply : Op → Type}

/-- A conversation in which the members of a list are dealt with in turn, each for itself. -/
inductive Each (R : ι → Trace Op Reply → α → Prop) : List ι → Trace Op Reply → List α → Prop
  | nil : Each R [] [] []
  | cons {i : ι} {l : List ι} {t u : Trace Op Reply} {a : α} {as : List α} :
      R i t a → Each R l u as → Each R (i :: l) (t ++ u) (a :: as)

variable {R : ι → Trace Op Reply → α → Prop} {l : List ι} {t : Trace Op Reply} {as : List α}

theorem Each.exists_of_mem (h : Each R l t as) {a : α} (ha : a ∈ as) :
    ∃ i u, R i u a ∧ u ⊆ t := by
  induction h with
  | nil => cases ha
  | @cons j l u v b bs hfirst _ ih =>
    rcases List.mem_cons.mp ha with rfl | hrest
    · exact ⟨j, u, hfirst, List.subset_append_left u v⟩
    · obtain ⟨i, w, hw, hsub⟩ := ih hrest
      exact ⟨i, w, hw, List.Subset.trans hsub (List.subset_append_right u v)⟩

/-- If every part that is not empty takes an event of one kind, so does a conversation whose parts
are not all empty. -/
theorem Each.exists_of_flatten_ne_nil {β : Type} {R : ι → Trace Op Reply → List β → Prop}
    {parts : List (List β)} {P : (op : Op) × Reply op → Prop} (h : Each R l t parts)
    (hR : ∀ {i u part}, R i u part → part ≠ [] → ∃ e ∈ u, P e) (hne : parts.flatten ≠ []) :
    ∃ e ∈ t, P e := by
  obtain ⟨part, hmem, hpart⟩ := List.flatten_ne_nil_iff.mp hne
  obtain ⟨i, u, hi, hsub⟩ := h.exists_of_mem hmem
  obtain ⟨e, he, hP⟩ := hR hi hpart
  exact ⟨e, hsub he, hP⟩

/-- If every event of one kind gives something, so does a conversation in which there is one. -/
theorem Each.flatten_ne_nil {β : Type} {R : ι → Trace Op Reply → List β → Prop}
    {parts : List (List β)} {P : (op : Op) × Reply op → Prop} (h : Each R l t parts)
    (hR : ∀ {i u part}, i ∈ l → R i u part → (∃ e ∈ u, P e) → part ≠ [])
    (hP : ∃ e ∈ t, P e) : parts.flatten ≠ [] := by
  induction h with
  | nil =>
    obtain ⟨e, he, _⟩ := hP
    cases he
  | cons hfirst _ ih =>
    obtain ⟨e, he, hevent⟩ := hP
    rw [List.flatten_cons]
    rcases List.mem_append.mp he with hown | hother
    · exact List.append_ne_nil_of_left_ne_nil (hR List.mem_cons_self hfirst ⟨e, hown, hevent⟩) _
    · have hrest := ih (fun hi => hR (List.mem_cons_of_mem _ hi)) ⟨e, hother, hevent⟩
      exact List.append_ne_nil_of_right_ne_nil _ hrest

end Each

def clockEvent (n : Nat) : (r : Request) × r.Reply := ⟨.clock, n⟩

theorem buffer_of_lt {length alignment : Nat} (h : bufferSize length alignment < addressSpace) :
    buffer length alignment = .ok (.zeros (bufferSize length alignment)) := by
  unfold buffer
  dsimp only
  rw [if_neg (Nat.not_le.mpr h)]

/-- The conversations around a timed request. -/
inductive Timed (ask : Session (Except TransportError Bytes)) : DriveTrace → Option Reading → Prop
  | failed (start : Nat) {t : DriveTrace} {e : TransportError} :
      Ends ask t (.error e) → Timed ask (clockEvent start :: t) none
  | read (start stop : Nat) {t : DriveTrace} {data : Bytes} : Ends ask t (.ok data) →
      Timed ask (clockEvent start :: (t ++ [clockEvent stop]))
        (some ⟨data, .ofNat start, .ofNat stop⟩)

theorem timed_of_ends {ask : Session (Except TransportError Bytes)} {t : DriveTrace}
    {r : Option Reading} (h : Ends (timed ask) t r) : Timed ask t r := by
  unfold timed at h
  obtain ⟨u, v, start, rfl, hstart, hrest⟩ := ends_bind_iff.mp h
  obtain rfl := ends_perform_iff.mp hstart
  obtain ⟨v, w, reply, rfl, hask, hrest⟩ := ends_bind_iff.mp hrest
  cases reply with
  | error e =>
    obtain ⟨rfl, rfl⟩ := ends_done_iff.mp hrest
    rw [List.append_nil]
    exact .failed start hask
  | ok data =>
    obtain ⟨x, y, stop, rfl, hstop, hdone⟩ := ends_bind_iff.mp hrest
    obtain rfl := ends_perform_iff.mp hstop
    obtain ⟨rfl, rfl⟩ := ends_done_iff.mp hdone
    exact .read start stop hask

namespace Ata

/-- A read of a log into a buffer of zeros. -/
def readEvent (alignment : Nat) (hint : UInt32) (l : LogRead)
    (reply : Except TransportError Bytes) : (r : Request) × r.Reply :=
  ⟨.readLog l.log 0 l.feature hint (.zeros (bufferSize l.length alignment)), reply⟩

/-- What one planned read asks, what it is answered, and the datasets that it gives. -/
inductive Answered (alignment : Nat) (hint : UInt32) (l : LogRead) :
    DriveTrace → List Dataset → Prop
  | failed (start : Nat) (e : TransportError) :
      Answered alignment hint l [clockEvent start, readEvent alignment hint l (.error e)] []
  | read (start stop : Nat) (data : Bytes) :
      Answered alignment hint l
        [clockEvent start, readEvent alignment hint l (.ok data), clockEvent stop]
        (l.datasets ⟨data.take l.length, .ofNat start, .ofNat stop⟩)

variable {alignment : Nat} {hint : UInt32} {l : LogRead} {t : DriveTrace}
  {r : Except Error (List Dataset)}

theorem answered_of_ends (hroom : bufferSize l.length alignment < addressSpace)
    (h : Ends (l.pull alignment hint) t r) :
    ∃ datasets, r = .ok datasets ∧ Answered alignment hint l t datasets := by
  unfold LogRead.pull at h
  rw [buffer_of_lt hroom] at h
  obtain ⟨u, v, reading, rfl, htimed, hdone⟩ := ends_bind_iff.mp h
  cases timed_of_ends htimed with
  | failed start hread =>
    obtain ⟨rfl, rfl⟩ := ends_done_iff.mp hdone
    obtain rfl := ends_perform_iff.mp hread
    exact ⟨_, rfl, .failed start _⟩
  | read start stop hread =>
    obtain ⟨rfl, rfl⟩ := ends_done_iff.mp hdone
    obtain rfl := ends_perform_iff.mp hread
    exact ⟨_, rfl, .read start stop _⟩

theorem each_of_ends {reads : List LogRead}
    (hroom : ∀ l ∈ reads, bufferSize l.length alignment < addressSpace)
    (h : Ends (pullAll alignment hint reads) t r) :
    ∃ parts, r = .ok parts.flatten ∧ Each (Answered alignment hint) reads t parts := by
  induction reads generalizing t r with
  | nil =>
    obtain ⟨rfl, rfl⟩ := ends_done_iff.mp h
    exact ⟨[], rfl, .nil⟩
  | cons l rest ih =>
    obtain ⟨hfirst, hrest⟩ := List.forall_mem_cons.mp hroom
    unfold pullAll at h
    obtain ⟨u, v, first, rfl, hpull, hothers⟩ := ends_bind_iff.mp h
    obtain ⟨datasets, rfl, hanswered⟩ := answered_of_ends hfirst hpull
    obtain ⟨v, w, others, rfl, hall, hdone⟩ := ends_bind_iff.mp hothers
    obtain ⟨parts, rfl, heach⟩ := ih hrest hall
    obtain ⟨rfl, rfl⟩ := ends_done_iff.mp hdone
    rw [List.append_nil]
    exact ⟨datasets :: parts, rfl, .cons hanswered heach⟩

end Ata

namespace Scsi

def sizeEvent (subpage : UInt8) (reply : Except TransportError Nat) : (r : Request) × r.Reply :=
  ⟨.logSenseSize logPage subpage, reply⟩

def senseEvent (alignment : Nat) (subpage : UInt8) (size : Nat)
    (reply : Except TransportError (Bytes × Nat)) : (r : Request) × r.Reply :=
  ⟨.logSense logPage subpage (.zeros (bufferSize size alignment)), reply⟩

/-- What is asked for one subpage, what is answered, and what has been read of it. -/
inductive Answered (alignment : Nat) (subpage : UInt8) : DriveTrace → List Reading → Prop
  | sizeFailed (e : TransportError) : Answered alignment subpage [sizeEvent subpage (.error e)] []
  | empty : Answered alignment subpage [sizeEvent subpage (.ok 0)] []
  | failed {size : Nat} (start : Nat) (e : TransportError) : size ≠ 0 →
      Answered alignment subpage
        [sizeEvent subpage (.ok size), clockEvent start,
          senseEvent alignment subpage size (.error e)] []
  | read {size : Nat} (start stop n : Nat) (data : Bytes) : size ≠ 0 →
      Answered alignment subpage
        [sizeEvent subpage (.ok size), clockEvent start,
          senseEvent alignment subpage size (.ok (data, n)), clockEvent stop]
        [⟨data.take (min n size), .ofNat start, .ofNat stop⟩]

/-- The dataset of the readings of a group, none if there are no readings. -/
def joined (kind : Kind) : List Reading → List Dataset
  | [] => []
  | r :: rest =>
    [⟨kind, Bytes.join ((r :: rest).map Reading.data), r.startTime, (rest.getLastD r).endTime⟩]

/-- The subpages of a group are read in turn, and what has been read of them is laid together. -/
inductive Gathered (alignment : Nat) (g : Group) (t : DriveTrace) : List Dataset → Prop
  | intro (parts : List (List Reading)) : Each (Answered alignment) g.subpages t parts →
      Gathered alignment g t (joined g.kind parts.flatten)

/-- Every size that the drive reported has room. -/
def Room (alignment : Nat) (t : DriveTrace) : Prop :=
  ∀ subpage size, sizeEvent subpage (.ok size) ∈ t → bufferSize size alignment < addressSpace

variable {alignment : Nat} {t u : DriveTrace}

theorem Room.left (h : Room alignment (t ++ u)) : Room alignment t :=
  fun subpage size hmem => h subpage size (List.mem_append_left u hmem)

theorem Room.right (h : Room alignment (t ++ u)) : Room alignment u :=
  fun subpage size hmem => h subpage size (List.mem_append_right t hmem)

theorem answered_of_ends {subpage : UInt8} {r : Except Error (Option Reading)}
    (hroom : Room alignment t) (h : Ends (pullSubpage alignment subpage) t r) :
    ∃ reading, r = .ok reading ∧ Answered alignment subpage t reading.toList := by
  unfold pullSubpage at h
  obtain ⟨u, v, reply, rfl, hsize, hrest⟩ := ends_bind_iff.mp h
  obtain rfl := ends_perform_iff.mp hsize
  cases reply with
  | error e =>
    obtain ⟨rfl, rfl⟩ := ends_done_iff.mp hrest
    exact ⟨none, rfl, .sizeFailed e⟩
  | ok size =>
    cases size with
    | zero =>
      obtain ⟨rfl, rfl⟩ := ends_done_iff.mp hrest
      exact ⟨none, rfl, .empty⟩
    | succ size =>
      have hbuffer := buffer_of_lt (hroom subpage (size + 1) List.mem_cons_self)
      simp only [hbuffer] at hrest
      obtain ⟨v, w, reading, rfl, hread, hdone⟩ := ends_bind_iff.mp hrest
      obtain ⟨rfl, rfl⟩ := ends_done_iff.mp hdone
      refine ⟨reading, rfl, ?_⟩
      cases timed_of_ends hread with
      | failed start hask =>
        obtain ⟨x, y, answer, rfl, hsense, hmap⟩ := ends_bind_iff.mp hask
        obtain rfl := ends_perform_iff.mp hsense
        obtain ⟨rfl, heq⟩ := ends_done_iff.mp hmap
        cases answer with
        | error e => exact .failed start e (Nat.succ_ne_zero size)
        | ok reply => cases heq
      | read start stop hask =>
        obtain ⟨x, y, answer, rfl, hsense, hmap⟩ := ends_bind_iff.mp hask
        obtain rfl := ends_perform_iff.mp hsense
        obtain ⟨rfl, heq⟩ := ends_done_iff.mp hmap
        cases answer with
        | error e => cases heq
        | ok reply =>
          obtain ⟨data, n⟩ := reply
          cases heq
          exact .read start stop n data (Nat.succ_ne_zero size)

/-- Readings are laid behind a dataset that ends with some reading. -/
theorem foldl_extend (kind : Kind) (l : List Reading) {d : Dataset} (last : Reading)
    (hlast : d.endTime = last.endTime) :
    l.foldl (fun d r => some (extend kind d r)) (some d) =
      some { d with
        payload := d.payload ++ Bytes.join (l.map Reading.data)
        endTime := (l.getLastD last).endTime } := by
  induction l generalizing d last with
  | nil =>
    rw [List.foldl_nil, List.map_nil, Bytes.join, ByteArray.append_empty, List.getLastD_nil,
      ← hlast]
  | cons r rest ih =>
    have hrest := ih (d := extend kind (some d) r) r rfl
    rw [List.foldl_cons, hrest, extend, List.getLastD_cons, List.map_cons, Bytes.join,
      ← ByteArray.append_assoc]

theorem toList_foldl_extend (kind : Kind) (l : List Reading) :
    (l.foldl (fun d r => some (extend kind d r)) none).toList = joined kind l := by
  cases l with
  | nil => rfl
  | cons r rest =>
    rw [List.foldl_cons, foldl_extend kind rest r rfl]
    rfl

theorem subpages_of_ends {kind : Kind} {subpages : List UInt8} {d : Option Dataset}
    {r : Except Error (Option Dataset)} (hroom : Room alignment t)
    (h : Ends (pullSubpages alignment kind d subpages) t r) :
    ∃ parts, r = .ok (parts.flatten.foldl (fun d r => some (extend kind d r)) d) ∧
      Each (Answered alignment) subpages t parts := by
  induction subpages generalizing t d r with
  | nil =>
    obtain ⟨rfl, rfl⟩ := ends_done_iff.mp h
    exact ⟨[], rfl, .nil⟩
  | cons subpage rest ih =>
    unfold pullSubpages at h
    obtain ⟨u, v, reply, rfl, hpull, hrest⟩ := ends_bind_iff.mp h
    obtain ⟨reading, rfl, hanswered⟩ := answered_of_ends hroom.left hpull
    cases reading with
    | none =>
      obtain ⟨parts, hparts, heach⟩ := ih hroom.right hrest
      exact ⟨[] :: parts, hparts, .cons hanswered heach⟩
    | some reading =>
      obtain ⟨parts, hparts, heach⟩ := ih hroom.right hrest
      exact ⟨[reading] :: parts, hparts, .cons hanswered heach⟩

theorem each_of_ends {groups : List Group} {r : Except Error (List Dataset)}
    (hroom : Room alignment t) (h : Ends (pullAll alignment groups) t r) :
    ∃ parts, r = .ok parts.flatten ∧ Each (Gathered alignment) groups t parts := by
  induction groups generalizing t r with
  | nil =>
    obtain ⟨rfl, rfl⟩ := ends_done_iff.mp h
    exact ⟨[], rfl, .nil⟩
  | cons g rest ih =>
    unfold pullAll at h
    obtain ⟨u, v, first, rfl, hpull, hothers⟩ := ends_bind_iff.mp h
    obtain ⟨readings, rfl, hreadings⟩ := subpages_of_ends hroom.left hpull
    obtain ⟨v, w, others, rfl, hall, hdone⟩ := ends_bind_iff.mp hothers
    obtain ⟨parts, rfl, heach⟩ := ih hroom.right.left hall
    obtain ⟨rfl, rfl⟩ := ends_done_iff.mp hdone
    rw [List.append_nil, toList_foldl_extend]
    exact ⟨joined g.kind readings.flatten :: parts, rfl, .cons (.intro readings hreadings) heach⟩

end Scsi

/-- The drives that no pull is made from. -/
inductive Unsupported (d : Drive) (options : PullOptions) : Prop
  | nvme : d.kind = .nvme → Unsupported d options
  | ata : d.kind = .ata → d.farm.farm = false → d.farm.timeSeries = false →
      Unsupported d options
  | flash : d.kind = .ata → options.copy = .flash → d.farm.timeSeries = false →
      Unsupported d options
  | scsi : d.kind = .scsi → d.farm.any = false → Unsupported d options

/-- The datasets are those of the reads that the capabilities allow. -/
inductive Gathers (d : Drive) (options : PullOptions) (t : DriveTrace) : List Dataset → Prop
  | ata {reads : List Ata.LogRead} {parts : List (List Dataset)} : d.kind = .ata →
      Ata.plan d.farm options.copy = .ok reads →
      Each (Ata.Answered d.dmaAlignment options.hint) reads t parts →
      Gathers d options t parts.flatten
  | scsi {parts : List (List Dataset)} : d.kind = .scsi →
      Each (Scsi.Gathered d.dmaAlignment) (Scsi.plan d.farm) t parts →
      Gathers d options t parts.flatten

/-- There is room for every buffer. -/
structure Allocates (d : Drive) (options : PullOptions) (t : DriveTrace) : Prop where
  log : d.kind = .ata → ∀ reads, Ata.plan d.farm options.copy = .ok reads → ∀ l ∈ reads,
    bufferSize l.length d.dmaAlignment < addressSpace
  subpage : d.kind = .scsi → Scsi.Room d.dmaAlignment t

variable {d : Drive} {options : PullOptions} {t : DriveTrace}

theorem Ata.plan_of_supported (hkind : d.kind = .ata) (h : ¬Unsupported d options) :
    ∃ reads, Ata.plan d.farm options.copy = .ok reads := by
  cases hcopy : options.copy with
  | disc =>
    rw [Ata.plan]
    by_cases hoffered : (d.farm.farm || d.farm.timeSeries) = true
    · rw [if_pos hoffered]
      exact ⟨_, rfl⟩
    · have hnone := Bool.or_eq_false_iff.mp (Bool.eq_false_iff.mpr hoffered)
      exact absurd (.ata hkind hnone.1 hnone.2) h
  | flash =>
    rw [Ata.plan]
    by_cases hseries : d.farm.timeSeries = true
    · rw [if_pos hseries]
      exact ⟨_, rfl⟩
    · exact absurd (.flash hkind hcopy (Bool.eq_false_iff.mpr hseries)) h

theorem pull_of_unsupported (h : Unsupported d options) :
    ∃ text, Farm.pull d options = .done (.error (.notSupported text)) := by
  unfold Farm.pull
  cases h with
  | nvme hkind =>
    rw [hkind]
    exact ⟨_, rfl⟩
  | ata hkind hfarm hseries =>
    rw [hkind]
    cases hcopy : options.copy <;>
      exact ⟨_, by simp only [Ata.pull, Ata.plan, hcopy, hfarm, hseries]; rfl⟩
  | flash hkind hcopy hseries =>
    rw [hkind]
    cases hfarm : d.farm.farm <;>
      exact ⟨_, by simp only [Ata.pull, Ata.plan, hcopy, hfarm, hseries]; rfl⟩
  | scsi hkind hnone =>
    rw [hkind]
    exact ⟨_, by simp only [Scsi.pull, hnone]; rfl⟩

/-- Whatever is replied, a pull from a drive that offers something fails for no read. -/
theorem gathers_of_ends {r : Except Error (List Dataset)} (hroom : Allocates d options t)
    (hsupported : ¬Unsupported d options) (h : Ends (Farm.pull d options) t r) :
    ∃ datasets, r = .ok datasets ∧ Gathers d options t datasets := by
  unfold Farm.pull at h
  cases hkind : d.kind with
  | nvme => exact absurd (.nvme hkind) hsupported
  | ata =>
    obtain ⟨reads, hplan⟩ := Ata.plan_of_supported hkind hsupported
    rw [hkind] at h
    simp only [Ata.pull, hplan] at h
    obtain ⟨parts, rfl, heach⟩ := Ata.each_of_ends (hroom.log hkind reads hplan) h
    exact ⟨_, rfl, .ata hkind hplan heach⟩
  | scsi =>
    have hany : d.farm.any = true :=
      eq_true_of_ne_false fun hnone => hsupported (.scsi hkind hnone)
    rw [hkind] at h
    simp only [Scsi.pull, hany, if_true] at h
    obtain ⟨parts, rfl, heach⟩ := Scsi.each_of_ends (hroom.subpage hkind) h
    exact ⟨_, rfl, .scsi hkind heach⟩

/-- A log arrived from the drive. -/
inductive Delivered : (r : Request) × r.Reply → Prop
  | readLog (log : UInt8) (page feature : UInt16) (hint : UInt32) (buffer data : Bytes) :
      Delivered ⟨.readLog log page feature hint buffer, .ok data⟩
  | logSense (page subpage : UInt8) (buffer : Bytes) (reply : Bytes × Nat) :
      Delivered ⟨.logSense page subpage buffer, .ok reply⟩

theorem Ata.Answered.exists_delivered {alignment : Nat} {hint : UInt32} {l : LogRead}
    {datasets : List Dataset} (h : Answered alignment hint l t datasets) (hne : datasets ≠ []) :
    ∃ e ∈ t, Delivered e := by
  cases h with
  | failed start e => exact absurd rfl hne
  | read start stop data =>
    exact ⟨_, List.mem_cons_of_mem _ List.mem_cons_self, .readLog _ _ _ _ _ _⟩

theorem Scsi.Answered.exists_delivered {alignment : Nat} {subpage : UInt8}
    {readings : List Reading} (h : Answered alignment subpage t readings) (hne : readings ≠ []) :
    ∃ e ∈ t, Delivered e := by
  cases h with
  | sizeFailed e => exact absurd rfl hne
  | empty => exact absurd rfl hne
  | failed start e _ => exact absurd rfl hne
  | read start stop n data _ =>
    exact ⟨_, List.mem_cons_of_mem _ (List.mem_cons_of_mem _ List.mem_cons_self), .logSense _ _ _ _⟩

theorem Scsi.Gathered.exists_delivered {alignment : Nat} {g : Group} {datasets : List Dataset}
    (h : Gathered alignment g t datasets) (hne : datasets ≠ []) : ∃ e ∈ t, Delivered e := by
  obtain ⟨parts, heach⟩ := h
  refine heach.exists_of_flatten_ne_nil Answered.exists_delivered ?_
  intro hnone
  rw [hnone] at hne
  exact hne rfl

/-- There are datasets only if a log arrived. -/
theorem Gathers.exists_delivered {datasets : List Dataset} (h : Gathers d options t datasets)
    (hne : datasets ≠ []) : ∃ e ∈ t, Delivered e := by
  cases h with
  | ata _ _ heach => exact heach.exists_of_flatten_ne_nil Ata.Answered.exists_delivered hne
  | scsi _ heach => exact heach.exists_of_flatten_ne_nil Scsi.Gathered.exists_delivered hne

end DriveHealth.Farm.Pull
