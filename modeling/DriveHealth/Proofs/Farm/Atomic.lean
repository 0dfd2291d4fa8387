import DriveHealth.Capture.Device
import DriveHealth.Farm.Combined
import DriveHealth.Farm.Sink
import DriveHealth.Proofs.Farm.Gathered
import DriveHealth.Proofs.Farm.Written

/-!
A combined pull leaves nothing behind unless something was read. The sink is opened once, behind
the last request to the drive, and only if there is a dataset to write; then all datasets are
written to it, and what is answered is what became of that. A drive that offers nothing is refused
before it is asked anything, and a drive that delivers nothing is told apart from it by the error.
-/
namespace DriveHealth.Farm.Combined

open Program Pull
open DriveHealth.Scsi (DriveTrace)

abbrev CombinedTrace := Trace CombinedCall CombinedCall.Reply

/-- A request to the drive, as a call of a combined pull. -/
def driveEvent (e : (r : Request) × r.Reply) : (c : CombinedCall) × c.Reply := ⟨.drive e.1, e.2⟩

/-- A call to the open sink, as a call of a combined pull. -/
def sinkEvent (e : (c : SinkCall) × c.Reply) : (c : CombinedCall) × c.Reply := ⟨.sink e.1, e.2⟩

def ofDrive? : (c : CombinedCall) × c.Reply → Option ((r : Request) × r.Reply)
  | ⟨.drive r, reply⟩ => some ⟨r, reply⟩
  | _ => none

/-- What is asked of the drive. -/
def driven (t : CombinedTrace) : DriveTrace := t.filterMap ofDrive?

def ofOpening? : (c : CombinedCall) × c.Reply → Option Identity
  | ⟨.openSink identity, _⟩ => some identity
  | _ => none

/-- The drives for which a sink is asked. -/
def opened (t : CombinedTrace) : List Identity := t.filterMap ofOpening?

def ofSink? : (c : CombinedCall) × c.Reply → Option ((c : SinkCall) × c.Reply)
  | ⟨.sink c, reply⟩ => some ⟨c, reply⟩
  | _ => none

/-- What is asked of the open sink. -/
def sunk (t : CombinedTrace) : SinkTrace := t.filterMap ofSink?

/-- The sink is opened if it is asked for, and refuses nothing. -/
structure Accepted (t : CombinedTrace) : Prop where
  opening : ∀ identity reply, ⟨.openSink identity, reply⟩ ∈ t → reply = .ok ()
  calls : CallsAccepted (sunk t)

/-- The clock is not the drive. -/
def reachesDrive : Request → Bool
  | .clock | .pause _ => false
  | _ => true

theorem reachesDrive_of_delivered {e : (r : Request) × r.Reply} (h : Delivered e) :
    reachesDrive e.1 = true := by
  cases h <;> rfl

section Calls

variable {t : CombinedTrace}

/-- Nothing is selected from calls of another kind. -/
theorem filterMap_map_eq_nil {α β γ : Type} {f : α → β} {g : β → Option γ}
    (h : ∀ a, g (f a) = none) (l : List α) : (l.map f).filterMap g = [] := by
  rw [List.filterMap_map]
  exact List.filterMap_eq_nil_iff.mpr fun a _ => h a

theorem driven_append (t u : CombinedTrace) : driven (t ++ u) = driven t ++ driven u :=
  List.filterMap_append

theorem opened_append (t u : CombinedTrace) : opened (t ++ u) = opened t ++ opened u :=
  List.filterMap_append

theorem driven_map_driveEvent (t : DriveTrace) : driven (t.map driveEvent) = t := by
  rw [driven, List.filterMap_map]
  exact List.filterMap_some

theorem opened_map_driveEvent (t : DriveTrace) : opened (t.map driveEvent) = [] :=
  filterMap_map_eq_nil (fun _ => rfl) t

theorem driven_map_sinkEvent (t : SinkTrace) : driven (t.map sinkEvent) = [] :=
  filterMap_map_eq_nil (fun _ => rfl) t

theorem opened_map_sinkEvent (t : SinkTrace) : opened (t.map sinkEvent) = [] :=
  filterMap_map_eq_nil (fun _ => rfl) t

theorem sunk_append (t u : CombinedTrace) : sunk (t ++ u) = sunk t ++ sunk u :=
  List.filterMap_append

theorem sunk_map_driveEvent (t : DriveTrace) : sunk (t.map driveEvent) = [] :=
  filterMap_map_eq_nil (fun _ => rfl) t

theorem sunk_map_sinkEvent (t : SinkTrace) : sunk (t.map sinkEvent) = t := by
  rw [sunk, List.filterMap_map]
  exact List.filterMap_some

theorem ends_ofSession_iff {α : Type} {s : Session α} {a : α} :
    Ends (ofSession s) t a ↔ ∃ u, Ends s u a ∧ t = u.map driveEvent :=
  ends_interpret_iff fun _ _ _ => ends_perform_iff

theorem ends_ofEmission_iff {α : Type} {e : Emission α} {a : α} :
    Ends (ofEmission e) t a ↔ ∃ u, Ends e u a ∧ t = u.map sinkEvent :=
  ends_interpret_iff fun _ _ _ => ends_perform_iff

end Calls

variable {d : Drive} {options : PullOptions}

/-- What follows the last request to the drive, and the answer, by what the pull of the datasets
gave. -/
inductive Follows (d : Drive) :
    Except Error (List Dataset) → CombinedTrace → Except Error Summary → Prop
  | failed (e : Error) : Follows d (.error e) [] (.error e)
  | nothing : Follows d (.ok []) [] (.error nothingRead)
  | refused (first : Dataset) (rest : List Dataset) (e : Error) :
      Follows d (.ok (first :: rest)) [⟨.openSink d.identity, .error e⟩] (.error e)
  | emitted {first : Dataset} {rest : List Dataset} {t : SinkTrace} {r : Except Error Summary} :
      Ends (Emission.emit d.kind d.identity (inEmissionOrder (first :: rest))) t r →
      Follows d (.ok (first :: rest)) (⟨.openSink d.identity, .ok ()⟩ :: t.map sinkEvent) r

namespace Follows

variable {t : CombinedTrace} {pulled : Except Error (List Dataset)} {r : Except Error Summary}

theorem driven_eq_nil (h : Follows d pulled t r) : driven t = [] := by
  cases h with
  | emitted hemit => exact driven_map_sinkEvent _
  | _ => rfl

theorem opened_cases (h : Follows d pulled t r) :
    (∃ first rest, pulled = .ok (first :: rest)) ∧ opened t = [d.identity] ∨
      (∀ first rest, pulled ≠ .ok (first :: rest)) ∧ opened t = [] := by
  cases h with
  | failed e => exact .inr ⟨nofun, rfl⟩
  | nothing => exact .inr ⟨nofun, rfl⟩
  | refused first rest e => exact .inl ⟨⟨_, _, rfl⟩, rfl⟩
  | @emitted first rest u r hemit =>
    have hone : opened (⟨.openSink d.identity, .ok ()⟩ :: u.map sinkEvent) = [d.identity] :=
      congrArg (d.identity :: ·) (opened_map_sinkEvent u)
    exact .inl ⟨⟨_, _, rfl⟩, hone⟩

/-- Only a sink that refuses something keeps what was read from being written as a whole. -/
theorem told_of_accepted {datasets : List Dataset} {layout : Layout} (h : Follows d pulled t r)
    (hpulled : pulled = .ok datasets) (hsome : datasets ≠ [])
    (hplan : Layout.plan (inEmissionOrder datasets) = .ok layout) (haccept : Accepted t) :
    r = .ok (layout.summary d.kind d.identity) ∧ written (sunk t) =
      Bytes.join (Emission.pieces layout d.kind d.identity (inEmissionOrder datasets)) := by
  cases h with
  | failed e => cases hpulled
  | nothing =>
    cases hpulled
    exact absurd rfl hsome
  | refused first rest e => cases haccept.opening d.identity _ List.mem_cons_self
  | @emitted first rest u r hemit =>
    cases hpulled
    have hsunk : sunk (⟨.openSink d.identity, .ok ()⟩ :: u.map sinkEvent) = u :=
      sunk_map_sinkEvent u
    have hcalls := haccept.calls
    rw [hsunk] at hcalls ⊢
    exact Emission.told_of_ends_emit hplan hemit hcalls

end Follows

theorem follows_of_emitTo {t : CombinedTrace} {first : Dataset} {rest : List Dataset}
    {r : Except Error Summary} (h : Ends (emitTo d (first :: rest)) t r) :
    Follows d (.ok (first :: rest)) t r := by
  obtain ⟨reply, u, rfl, hrest⟩ := ends_perform_bind_iff.mp h
  cases reply with
  | error e =>
    obtain ⟨rfl, rfl⟩ := ends_done_iff.mp hrest
    exact .refused first rest e
  | ok a =>
    obtain ⟨v, hemit, rfl⟩ := ends_ofEmission_iff.mp hrest
    exact .emitted hemit

/-- A conversation of a combined pull, by what the pull of the datasets gave. -/
inductive Pulled (d : Drive) (options : PullOptions) (t : CombinedTrace)
    (pulled : Except Error (List Dataset)) (r : Except Error Summary) : Prop
  | intro {u : DriveTrace} {v : CombinedTrace} : t = u.map driveEvent ++ v →
      Ends (Farm.pull d options) u pulled → Follows d pulled v r → Pulled d options t pulled r

theorem pulled_of_ends {t : CombinedTrace} {r : Except Error Summary}
    (h : Ends (pull d options) t r) : ∃ pulled, Pulled d options t pulled r := by
  obtain ⟨t, v, pulled, rfl, hpull, hrest⟩ := ends_bind_iff.mp h
  obtain ⟨u, hends, rfl⟩ := ends_ofSession_iff.mp hpull
  refine ⟨pulled, .intro rfl hends ?_⟩
  match pulled with
  | .error e =>
    obtain ⟨rfl, rfl⟩ := ends_done_iff.mp hrest
    exact .failed e
  | .ok [] =>
    obtain ⟨rfl, rfl⟩ := ends_done_iff.mp hrest
    exact .nothing
  | .ok (first :: rest) => exact follows_of_emitTo hrest

namespace Pulled

variable {t : CombinedTrace} {pulled : Except Error (List Dataset)} {r : Except Error Summary}

/-- The requests to the drive come first. -/
theorem exists_follows (h : Pulled d options t pulled r) :
    ∃ v, t = (driven t).map driveEvent ++ v ∧ Follows d pulled v r := by
  obtain ⟨rfl, _, hfollows⟩ := h
  refine ⟨_, ?_, hfollows⟩
  rw [driven_append, driven_map_driveEvent, hfollows.driven_eq_nil, List.append_nil]

theorem ends (h : Pulled d options t pulled r) :
    Ends (Farm.pull d options) (driven t) pulled := by
  obtain ⟨rfl, hends, hfollows⟩ := h
  rwa [driven_append, driven_map_driveEvent, hfollows.driven_eq_nil, List.append_nil]

theorem opened_cases (h : Pulled d options t pulled r) :
    (∃ first rest, pulled = .ok (first :: rest)) ∧ opened t = [d.identity] ∨
      (∀ first rest, pulled ≠ .ok (first :: rest)) ∧ opened t = [] := by
  obtain ⟨rfl, _, hfollows⟩ := h
  rw [opened_append, opened_map_driveEvent, List.nil_append]
  exact hfollows.opened_cases

theorem eq_of_error {e : Error} (h : Pulled d options t (.error e) r) : r = .error e := by
  obtain ⟨_, _, hfollows⟩ := h
  cases hfollows
  rfl

theorem eq_of_nil (h : Pulled d options t (.ok []) r) : r = .error nothingRead := by
  obtain ⟨_, _, hfollows⟩ := h
  cases hfollows
  rfl

theorem told_of_accepted {datasets : List Dataset} {layout : Layout}
    (h : Pulled d options t (.ok datasets) r) (hsome : datasets ≠ [])
    (hplan : Layout.plan (inEmissionOrder datasets) = .ok layout) (haccept : Accepted t) :
    r = .ok (layout.summary d.kind d.identity) ∧ written (sunk t) =
      Bytes.join (Emission.pieces layout d.kind d.identity (inEmissionOrder datasets)) := by
  obtain ⟨rfl, _, hfollows⟩ := h
  rw [sunk_append, sunk_map_driveEvent, List.nil_append]
  refine hfollows.told_of_accepted rfl hsome hplan ⟨?_, ?_⟩
  · exact fun identity reply hmem => haccept.opening identity reply (List.mem_append_right _ hmem)
  · have hcalls := haccept.calls
    rwa [sunk_append, sunk_map_driveEvent, List.nil_append] at hcalls

end Pulled

/-- What holds of a combined pull whatever the drive and the sink reply. -/
structure Atomic (d : Drive) (options : PullOptions) (t : CombinedTrace)
    (pulled : Except Error (List Dataset)) (r : Except Error Summary) : Prop where
  /-- The datasets are pulled from the drive as they are without a sink. -/
  pulls : Ends (Farm.pull d options) (driven t) pulled
  opens_once : opened t = [] ∨ opened t = [d.identity]
  opens_iff : opened t ≠ [] ↔ ∃ first rest, pulled = .ok (first :: rest)
  /-- A drive that offers nothing is refused unasked, and no other drive is. -/
  unsupported_iff : ((∃ text, r = .error (.notSupported text)) ∧
    ∀ e ∈ driven t, reachesDrive e.1 = false) ↔ Unsupported d options
  /-- A read that fails costs its own datasets only. -/
  gathers : ¬Unsupported d options →
    ∃ datasets, pulled = .ok datasets ∧ Gathers d options (driven t) datasets
  nothing_delivered : ¬Unsupported d options → (∀ e ∈ driven t, ¬Delivered e) →
    r = .error nothingRead ∧ opened t = []
  /-- Behind the last request comes the sink, and behind its opening all the datasets go into it.
  The answer is the first failure among these. -/
  follows : ∃ v, t = (driven t).map driveEvent ++ v ∧ Follows d pulled v r
  /-- What was read is kept, unless it fits no file or the sink refuses something. -/
  kept : ∀ datasets layout, pulled = .ok datasets → datasets ≠ [] →
    Layout.plan (inEmissionOrder datasets) = .ok layout → Accepted t →
    r = .ok (layout.summary d.kind d.identity) ∧ written (sunk t) =
      Bytes.join (Emission.pieces layout d.kind d.identity (inEmissionOrder datasets))

theorem refused_iff {t : CombinedTrace} {pulled : Except Error (List Dataset)}
    {r : Except Error Summary} (hroom : Allocates d options (driven t))
    (h : Pulled d options t pulled r) :
    ((∃ text, r = .error (.notSupported text)) ∧ ∀ e ∈ driven t, reachesDrive e.1 = false) ↔
      Unsupported d options := by
  constructor
  · rintro ⟨⟨text, hrefused⟩, hunasked⟩
    refine Classical.byContradiction fun hsupported => ?_
    obtain ⟨datasets, rfl, hgathers⟩ := gathers_of_ends hroom hsupported h.ends
    cases datasets with
    | nil => cases h.eq_of_nil.symm.trans hrefused
    | cons first rest =>
      obtain ⟨e, he, hdelivered⟩ := hgathers.exists_delivered (List.cons_ne_nil first rest)
      have hasked := reachesDrive_of_delivered hdelivered
      rw [hunasked e he] at hasked
      cases hasked
  · intro hunsupported
    obtain ⟨text, hpull⟩ := pull_of_unsupported hunsupported
    have hends := h.ends
    rw [hpull] at hends
    obtain ⟨hunasked, rfl⟩ := ends_done_iff.mp hends
    rw [hunasked]
    exact ⟨⟨text, h.eq_of_error⟩, List.forall_mem_nil _⟩

theorem nothing_of_undelivered {t : CombinedTrace} {pulled : Except Error (List Dataset)}
    {r : Except Error Summary} (hroom : Allocates d options (driven t))
    (h : Pulled d options t pulled r) (hsupported : ¬Unsupported d options)
    (hundelivered : ∀ e ∈ driven t, ¬Delivered e) : r = .error nothingRead ∧ opened t = [] := by
  obtain ⟨datasets, rfl, hgathers⟩ := gathers_of_ends hroom hsupported h.ends
  cases datasets with
  | nil =>
    rcases h.opened_cases with ⟨⟨_, _, hread⟩, _⟩ | ⟨_, hopened⟩
    · cases hread
    · exact ⟨h.eq_of_nil, hopened⟩
  | cons first rest =>
    obtain ⟨e, he, hdelivered⟩ := hgathers.exists_delivered (List.cons_ne_nil first rest)
    exact absurd hdelivered (hundelivered e he)

theorem atomic_of_pulled {t : CombinedTrace} {pulled : Except Error (List Dataset)}
    {r : Except Error Summary} (hroom : Allocates d options (driven t))
    (h : Pulled d options t pulled r) : Atomic d options t pulled r where
  pulls := h.ends
  opens_once := by
    rcases h.opened_cases with ⟨_, hopened⟩ | ⟨_, hopened⟩
    · exact .inr hopened
    · exact .inl hopened
  opens_iff := by
    rcases h.opened_cases with ⟨hread, hopened⟩ | ⟨hnone, hopened⟩
    · exact ⟨fun _ => hread, fun _ => hopened ▸ List.cons_ne_nil _ _⟩
    · exact ⟨fun hne => absurd hopened hne, fun ⟨_, _, hread⟩ => absurd hread (hnone _ _)⟩
  unsupported_iff := refused_iff hroom h
  gathers := fun hsupported => gathers_of_ends hroom hsupported h.ends
  nothing_delivered := nothing_of_undelivered hroom h
  follows := h.exists_follows
  kept := by
    rintro datasets layout rfl hsome hplan haccept
    exact h.told_of_accepted hsome hplan haccept

section Captured

open Capture

/-- A captured drive answers, and a sink in memory takes the file. -/
def answerCaptured (c : CombinedCall) (s : Device × Sink) : c.Reply × Device × Sink :=
  match c with
  | .drive r => ((Device.answer r s.1).1, (Device.answer r s.1).2, s.2)
  | .openSink _ => (.ok (), s)
  | .sink c => ((Sink.answer c s.2).1, s.1, (Sink.answer c s.2).2)

theorem bufferSize_lt {length alignment : Nat} (hlength : length < 2 ^ 32)
    (halignment : alignment < 2 ^ 46) : bufferSize length alignment < addressSpace := by
  have hround := Nat.div_mul_le_self (length + max alignment 1 - 1) (max alignment 1)
  have hunit : max alignment 1 ≤ 2 ^ 46 := by omega
  unfold bufferSize addressSpace
  dsimp only
  omega

theorem subset_of_plan {c : FarmCapabilities} {copy : Copy} {reads : List Ata.LogRead}
    (h : Ata.plan c copy = .ok reads) :
    reads ⊆ Ata.farmReads ++ [Ata.discSeries, Ata.flashSeries, Ata.workload] := by
  intro l hl
  cases copy <;> unfold Ata.plan at h <;> dsimp only at h <;> split at h <;>
    grind [Ata.farmReads]

/-- A capture holds pages of a size that has room. -/
theorem allocates_of_captured (device : Device) (options : PullOptions) (sink : Sink)
    (halignment : device.drive.dmaAlignment < 2 ^ 46) :
    Allocates device.drive options
      (driven (conversation answerCaptured (pull device.drive options) (device, sink))) where
  log _ reads hplan l hl := by
    have hlengths : ∀ l ∈ Ata.farmReads ++ [Ata.discSeries, Ata.flashSeries, Ata.workload],
        l.length < 2 ^ 32 := by decide
    exact bufferSize_lt (hlengths l (subset_of_plan hplan hl)) halignment
  subpage _ subpage size hmem := by
    obtain ⟨e, he, hdrive⟩ := List.mem_filterMap.mp hmem
    obtain ⟨⟨captured, _⟩, hreply⟩ := reply_of_mem_conversation he
    obtain ⟨c, reply⟩ := e
    cases c with
    | openSink identity => cases hdrive
    | sink c => cases hdrive
    | drive r =>
      cases hdrive
      have hsize : Except.ok size = (captured.logSenseSize Scsi.logPage subpage).1 := hreply
      unfold Device.logSenseSize at hsize
      dsimp only at hsize
      split at hsize
      · cases hsize
        exact bufferSize_lt (Nat.mod_lt _ (by decide)) halignment
      · cases hsize

end Captured

/-- Whatever the drive and the sink reply, a combined pull is atomic. -/
theorem pull_atomic {σ : Type} (handler : (c : CombinedCall) → σ → c.Reply × σ) (d : Drive)
    (options : PullOptions) (s : σ)
    (hroom : Allocates d options (driven (conversation handler (pull d options) s))) :
    ∃ pulled, Atomic d options (conversation handler (pull d options) s) pulled
      (run handler (pull d options) s).1 := by
  obtain ⟨pulled, hpulled⟩ := pulled_of_ends (ends_conversation handler (pull d options) s)
  exact ⟨pulled, atomic_of_pulled hroom hpulled⟩

/-- Two subpages of a group that was captured in part. -/
def partOfGroup : Capture.Device where
  manifest :=
    { identity := {}, kind := .scsi, farm := { sticky := true },
      restrictions := { alignment := 512 } }
  pages := [(.scsiLog 0x3D 0xC3, .fill 100 3), (.scsiLog 0x3D 0xC5, .fill 50 5)]

theorem pull_atomic_partOfGroup :
    Allocates partOfGroup.drive {}
      (driven (conversation answerCaptured (pull partOfGroup.drive {}) (partOfGroup, {}))) ∧
    ∃ pulled,
      Atomic partOfGroup.drive {} (conversation answerCaptured (pull partOfGroup.drive {})
        (partOfGroup, {})) pulled
        (run answerCaptured (pull partOfGroup.drive {}) (partOfGroup, {})).1 :=
  have hroom := allocates_of_captured partOfGroup {} {} (by decide)
  ⟨hroom, pull_atomic answerCaptured partOfGroup.drive {} (partOfGroup, {}) hroom⟩

end DriveHealth.Farm.Combined
