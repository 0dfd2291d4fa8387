import DriveHealth.Proofs.ErrorLog.Requests

/-!
Which error log is read of a drive whose answers depend on nothing but the request. The logs that
the drive has are tried from the most detailed one on. The first that can be read is the answer,
and nothing is asked for those behind it.
-/
namespace DriveHealth.ErrorLog

open Program

/-- A drive that answers every request in one way, whatever it was asked before. -/
def constant {σ : Type} (answers : (r : Request) → r.Reply) (next : Request → σ → σ) :
    (r : Request) → σ → r.Reply × σ :=
  fun r s => (answers r, next r s)

section Constant

variable {σ α : Type} {answers : (r : Request) → r.Reply} {next : Request → σ → σ}

/-- The answer of a run does not tell when it was started. -/
theorem run_constant (p : Session α) (s t : σ) :
    (run (constant answers next) p s).1 = (run (constant answers next) p t).1 := by
  induction p generalizing s t with
  | done a => rfl
  | ask r k ih => exact ih _ _ _

theorem conversation_constant (p : Session α) (s t : σ) :
    conversation (constant answers next) p s = conversation (constant answers next) p t := by
  induction p generalizing s t with
  | done a => rfl
  | ask r k ih => exact congrArg (List.cons _) (ih _ _ _)

end Constant

namespace Directory

/-- The count of pages that the reply to the request for a directory lists for a log. -/
def listed (reply : Except TransportError Bytes) (address : UInt8) : Option UInt16 :=
  match reply with
  | .ok page =>
    if page.size < Transport.sector then none else some (page.le16 (2 * address.toNat))
  | .error _ => none

/-- The directory in a reply. -/
def ofReply (reply : Except TransportError Bytes) : Except Error Directory :=
  (Session.ofTransport reply).bind ofPage

theorem pages_ofFn (version : UInt16) (page : Bytes) {address : UInt8} (ha : address ≠ 0) :
    pages ⟨version, .ofFn fun i => page.le16 (2 * (i + 1))⟩ address =
      page.le16 (2 * address.toNat) := by
  have hne : address.toNat ≠ 0 := fun heq => ha (UInt8.toNat_inj.mp heq)
  have hlt := address.toNat_lt
  have hback : address.toNat - 1 + 1 = address.toNat := by omega
  unfold pages
  rw [if_neg ha, List.getD_eq_getElem _ _ (by simp; omega)]
  simp [hback]

theorem listed_eq (reply : Except TransportError Bytes) {address : UInt8} (ha : address ≠ 0) :
    listed reply address = (ofReply reply).toOption.map fun dir => dir.pages address := by
  cases reply with
  | error e => rfl
  | ok page =>
    change (if page.size < Transport.sector then _ else _) = (ofPage page).toOption.map _
    unfold ofPage
    by_cases hsize : page.size < Transport.sector
    · rw [if_pos hsize, if_pos hsize]
      rfl
    · rw [if_neg hsize, if_neg hsize]
      exact congrArg some (pages_ofFn _ page ha).symm

theorem readGeneral_eq : readGeneral.run =
    Program.ask (.readLog 0 0 0 0 (.zeros 512)) fun reply => .done (ofReply reply) := by
  refine congrArg (Program.ask _) (funext fun reply => ?_)
  cases reply <;> rfl

theorem readSmart_eq : readSmart.run =
    Program.ask (.smartReadLog 0 (.zeros 512)) fun reply => .done (ofReply reply) := by
  refine congrArg (Program.ask _) (funext fun reply => ?_)
  cases reply <;> rfl

def generalReply (answers : (r : Request) → r.Reply) : Except TransportError Bytes :=
  answers (.readLog 0 0 0 0 (.zeros 512))

def smartReply (answers : (r : Request) → r.Reply) : Except TransportError Bytes :=
  answers (.smartReadLog 0 (.zeros 512))

/-- A directory that is read by one request. -/
structure Given {σ : Type} (handler : (r : Request) → σ → r.Reply × σ)
    (directory : Session (Except Error Directory)) (request : (r : Request) × r.Reply)
    (reply : Except TransportError Bytes) : Prop where
  run_eq : ∀ s, (run handler directory s).1 = ofReply reply
  conversation_eq : ∀ s, conversation handler directory s = [request]

section Constant

variable {σ : Type} (answers : (r : Request) → r.Reply) (next : Request → σ → σ)

theorem given_readGeneral : Given (constant answers next) readGeneral.run
    ⟨.readLog 0 0 0 0 (.zeros 512), generalReply answers⟩ (generalReply answers) := by
  rw [readGeneral_eq]
  exact ⟨fun _ => rfl, fun _ => rfl⟩

theorem given_readSmart : Given (constant answers next) readSmart.run
    ⟨.smartReadLog 0 (.zeros 512), smartReply answers⟩ (smartReply answers) := by
  rw [readSmart_eq]
  exact ⟨fun _ => rfl, fun _ => rfl⟩

end Constant

end Directory

/-- The logs that a drive has, by the directories it gives: the most detailed one first. -/
structure Offered (answers : (r : Request) → r.Reply) (d : Drive) (l : List (Source × UInt16)) :
    Prop where
  extended_iff : ∀ n, (.extended, n) ∈ l ↔ d.features.gplSupported = true ∧ n ≠ 0 ∧
    Directory.listed (Directory.generalReply answers) 3 = some n
  /-- If the directory cannot be read, one page is taken for granted. -/
  comprehensive_iff : ∀ n, (.comprehensive, n) ∈ l ↔ d.features.smartErrorLogging = true ∧ n ≠ 0 ∧
    (Directory.listed (Directory.smartReply answers) 2).getD 1 = n
  summary_iff : ∀ n, (.summary, n) ∈ l ↔ n = 1
  inOrder : (l.map Prod.fst).Sublist Source.all

section Candidate

/-- A log of no pages is no candidate. -/
def unlessEmpty (source : Source) (n : UInt16) : List (Source × UInt16) :=
  if n = 0 then [] else [(source, n)]

/-- A log that is tried if its directory lists pages of it. If the directory cannot be read, a
count may be taken for granted. -/
def candidate (source : Source) (supported : Bool) (directory : Session (Except Error Directory))
    (assumed : Option UInt16) : Session (List (Source × UInt16)) :=
  if supported then
    directory.bind fun r =>
      match r with
      | .ok dir => .done (unlessEmpty source (dir.pages source.address))
      | .error _ => .done (assumed.elim [] (unlessEmpty source))
  else .done []

theorem extendedCandidate_eq (d : Drive) : extendedCandidate d =
    candidate .extended d.features.gplSupported Directory.readGeneral.run none :=
  rfl

theorem comprehensiveCandidate_eq (d : Drive) : comprehensiveCandidate d =
    candidate .comprehensive d.features.smartErrorLogging Directory.readSmart.run (some 1) :=
  rfl

variable {σ : Type} {handler : (r : Request) → σ → r.Reply × σ} {source : Source}
  {directory : Session (Except Error Directory)} {request : (r : Request) × r.Reply}
  {reply : Except TransportError Bytes}

theorem address_ne_zero (source : Source) : source.address ≠ 0 := by
  cases source <;> decide

theorem mem_unlessEmpty (n : UInt16) (e : Source × UInt16) :
    e ∈ unlessEmpty source n ↔ e.1 = source ∧ e.2 ≠ 0 ∧ n = e.2 := by
  obtain ⟨source', n'⟩ := e
  unfold unlessEmpty
  by_cases hn : n = 0
  · subst hn
    simp [eq_comm]
  · rw [if_neg hn, List.mem_singleton, Prod.mk.injEq]
    constructor
    · rintro ⟨rfl, rfl⟩
      exact ⟨rfl, hn, rfl⟩
    · rintro ⟨rfl, -, rfl⟩
      exact ⟨rfl, rfl⟩

theorem sources_unlessEmpty (n : UInt16) :
    ((unlessEmpty source n).map Prod.fst).Sublist [source] := by
  unfold unlessEmpty
  by_cases hn : n = 0
  · rw [if_pos hn]
    exact List.nil_sublist _
  · rw [if_neg hn]
    exact List.Sublist.refl _

theorem run_candidate (h : Directory.Given handler directory request reply)
    (assumed : Option UInt16) (supported : Bool) (s : σ) :
    (run handler (candidate source supported directory assumed) s).1 =
      if supported then
        ((Directory.listed reply source.address).or assumed).elim [] (unlessEmpty source)
      else [] := by
  unfold candidate
  cases supported with
  | false => rfl
  | true =>
    rw [if_pos rfl, if_pos rfl, run_bind, h.run_eq, Directory.listed_eq _ (address_ne_zero source)]
    cases Directory.ofReply reply <;> rfl

theorem mem_candidate (h : Directory.Given handler directory request reply)
    (assumed : Option UInt16) (supported : Bool) (s : σ) (e : Source × UInt16) :
    e ∈ (run handler (candidate source supported directory assumed) s).1 ↔
      e.1 = source ∧ supported = true ∧ e.2 ≠ 0 ∧
        (Directory.listed reply source.address).or assumed = some e.2 := by
  rw [run_candidate h]
  cases supported with
  | false => simp
  | true =>
    cases (Directory.listed reply source.address).or assumed with
    | none => simp
    | some n => simpa using mem_unlessEmpty n e

theorem sources_candidate (h : Directory.Given handler directory request reply)
    (assumed : Option UInt16) (supported : Bool) (s : σ) :
    ((run handler (candidate source supported directory assumed) s).1.map Prod.fst).Sublist
      [source] := by
  rw [run_candidate h]
  cases supported with
  | false => exact List.nil_sublist _
  | true =>
    cases (Directory.listed reply source.address).or assumed with
    | none => exact List.nil_sublist _
    | some n => exact sources_unlessEmpty n

theorem conversation_candidate (h : Directory.Given handler directory request reply)
    (assumed : Option UInt16) (supported : Bool) (s : σ) :
    conversation handler (candidate source supported directory assumed) s =
      if supported then [request] else [] := by
  unfold candidate
  cases supported with
  | false => rfl
  | true =>
    rw [if_pos rfl, if_pos rfl, conversation_bind, h.conversation_eq, h.run_eq]
    cases Directory.ofReply reply <;> rfl

end Candidate

section Selection

variable {σ : Type} {answers : (r : Request) → r.Reply} {next : Request → σ → σ} {d : Drive}

theorem offered_candidates (s : σ) :
    Offered answers d (run (constant answers next) (candidates d) s).1 := by
  have heq : (run (constant answers next) (candidates d) s).1 =
      (run (constant answers next) (extendedCandidate d) s).1 ++
        (run (constant answers next) (comprehensiveCandidate d) s).1 ++ [(.summary, 1)] := by
    rw [run_constant (comprehensiveCandidate d) s
      (run (constant answers next) (extendedCandidate d) s).2]
    unfold candidates
    rw [run_bind, run_bind]
    rfl
  have hgeneral := Directory.given_readGeneral answers next
  have hsmart := Directory.given_readSmart answers next
  rw [heq, extendedCandidate_eq, comprehensiveCandidate_eq]
  refine ⟨?_, ?_, ?_, ?_⟩
  · intro n
    simp [mem_candidate hgeneral, mem_candidate hsmart, Source.address]
  · intro n
    simp [mem_candidate hgeneral, mem_candidate hsmart, Source.address]
  · intro n
    simp [mem_candidate hgeneral, mem_candidate hsmart]
  · rw [List.map_append, List.map_append]
    exact ((sources_candidate hgeneral _ _ s).append (sources_candidate hsmart _ _ s)).append
      (List.Sublist.refl _)

/-- The directories that are read. -/
def directoryEvents (answers : (r : Request) → r.Reply) (d : Drive) :
    Trace Request Request.Reply :=
  (if d.features.gplSupported then
    [⟨.readLog 0 0 0 0 (.zeros 512), Directory.generalReply answers⟩] else []) ++
  (if d.features.smartErrorLogging then
    [⟨.smartReadLog 0 (.zeros 512), Directory.smartReply answers⟩] else [])

theorem conversation_candidates (s : σ) :
    conversation (constant answers next) (candidates d) s = directoryEvents answers d := by
  unfold candidates directoryEvents
  rw [conversation_bind, conversation_bind]
  rw [extendedCandidate_eq, comprehensiveCandidate_eq,
    conversation_candidate (Directory.given_readGeneral answers next),
    conversation_candidate (Directory.given_readSmart answers next)]
  exact congrArg _ (List.append_nil _)

end Selection

/-- The candidates that are tried: those that cannot be read, and the first that can. -/
inductive Tried (read : Source × UInt16 → Except Error ErrorLog) :
    List (Source × UInt16) → List (Source × UInt16) → Except Error ErrorLog → Prop
  | none : Tried read [] [] (.error (.notSupported "no SMART error log could be read"))
  | found {c : Source × UInt16} {rest : List (Source × UInt16)} {log : ErrorLog} :
      read c = .ok log → Tried read (c :: rest) [c] (.ok log)
  | failed {c : Source × UInt16} {rest tried : List (Source × UInt16)} {e : Error}
      {result : Except Error ErrorLog} : read c = .error e → Tried read rest tried result →
      Tried read (c :: rest) (c :: tried) result

namespace Tried

variable {read : Source × UInt16 → Except Error ErrorLog} {l tried : List (Source × UInt16)}
  {result : Except Error ErrorLog}

theorem exists_of_ok (h : Tried read l tried result) {log : ErrorLog} (hok : result = .ok log) :
    ∃ before c after, l = before ++ c :: after ∧ read c = .ok log ∧
      ∀ b ∈ before, ∃ e, read b = .error e := by
  induction h with
  | none => cases hok
  | @found c rest _ hc =>
    cases hok
    exact ⟨[], c, rest, rfl, hc, List.forall_mem_nil _⟩
  | failed he _ ih =>
    obtain ⟨before, c, after, rfl, hc, hbefore⟩ := ih hok
    exact ⟨_ :: before, c, after, rfl, hc, List.forall_mem_cons.mpr ⟨⟨_, he⟩, hbefore⟩⟩

/-- The first log that can be read is the last that is tried, and it is the answer. -/
theorem of_split (h : Tried read l tried result) {before after : List (Source × UInt16)}
    {c : Source × UInt16} {log : ErrorLog} (hl : l = before ++ c :: after)
    (hc : read c = .ok log) (hbefore : ∀ b ∈ before, ∃ e, read b = .error e) :
    tried = before ++ [c] ∧ result = .ok log := by
  induction h generalizing before with
  | none => simp at hl
  | found hfound =>
    rcases List.append_eq_cons_iff.mp hl.symm with ⟨rfl, hfirst⟩ | ⟨rest, rfl, -⟩
    · obtain ⟨rfl, -⟩ := List.cons.inj hfirst
      exact ⟨rfl, hfound.symm.trans hc⟩
    · obtain ⟨e, he⟩ := hbefore _ List.mem_cons_self
      rw [hfound] at he
      cases he
  | failed he _ ih =>
    rcases List.append_eq_cons_iff.mp hl.symm with ⟨rfl, hfirst⟩ | ⟨rest, rfl, hrest⟩
    · obtain ⟨rfl, -⟩ := List.cons.inj hfirst
      rw [he] at hc
      cases hc
    · obtain ⟨rfl, hresult⟩ := ih hrest (List.forall_mem_cons.mp hbefore).2
      exact ⟨rfl, hresult⟩

theorem forall_of_error (h : Tried read l tried result) {e : Error} (he : result = .error e) :
    ∀ c ∈ l, ∃ e, read c = .error e := by
  induction h with
  | none => exact List.forall_mem_nil _
  | found _ => cases he
  | failed hc _ ih => exact List.forall_mem_cons.mpr ⟨⟨_, hc⟩, ih he⟩

/-- If no log can be read, all are tried. -/
theorem of_forall_error (h : Tried read l tried result)
    (hl : ∀ c ∈ l, ∃ e, read c = .error e) :
    tried = l ∧ result = .error (.notSupported "no SMART error log could be read") := by
  induction h with
  | none => exact ⟨rfl, rfl⟩
  | found hc =>
    obtain ⟨e, he⟩ := hl _ List.mem_cons_self
    rw [hc] at he
    cases he
  | failed _ _ ih =>
    obtain ⟨rfl, hresult⟩ := ih (List.forall_mem_cons.mp hl).2
    exact ⟨rfl, hresult⟩

end Tried

/-- Whether a request reads from a log. -/
def ReadsLog (source : Source) : Request → Prop
  | .readLog log _ _ _ _ => source.isExtended = true ∧ log = source.address
  | .smartReadLog log _ => source.isExtended = false ∧ log = source.address
  | _ => False

theorem readsLog_event_iff {source source' : Source} {load : PageLoad} :
    ReadsLog source (load.event source').1 ↔ source' = source := by
  cases source <;> cases source' <;> simp [ReadsLog, PageLoad.event] <;> decide

/-- What the candidates for a log lead to, by what each gives and asks. -/
structure Selects (read : Source × UInt16 → Except Error ErrorLog)
    (traffic : Source × UInt16 → Trace Request Request.Reply) (l : List (Source × UInt16))
    (directories : Trace Request Request.Reply) (result : Except Error ErrorLog)
    (requests : Trace Request Request.Reply) : Prop where
  /-- The answer is the first log that can be read. -/
  ok_iff : ∀ log, result = .ok log ↔ ∃ before c after, l = before ++ c :: after ∧
    read c = .ok log ∧ ∀ b ∈ before, ∃ e, read b = .error e
  error_iff : result = .error (.notSupported "no SMART error log could be read") ↔
    ∀ c ∈ l, ∃ e, read c = .error e
  requests_of_ok : ∀ before c after log, l = before ++ c :: after → read c = .ok log →
    (∀ b ∈ before, ∃ e, read b = .error e) →
    requests = directories ++ (before ++ [c]).flatMap traffic
  requests_of_error : (∀ c ∈ l, ∃ e, read c = .error e) →
    requests = directories ++ l.flatMap traffic
  /-- Nothing is read of a log behind the one that is answered. -/
  unasked : ∀ before c after log, l = before ++ c :: after → read c = .ok log →
    (∀ b ∈ before, ∃ e, read b = .error e) →
    ∀ later ∈ after, ∀ e ∈ requests, ¬ ReadsLog later.1 e.1

section Selection

variable {σ : Type} (answers : (r : Request) → r.Reply) (next : Request → σ → σ) (d : Drive)

theorem tried_readFirst (l : List (Source × UInt16)) (s t : σ) :
    ∃ tried,
      Tried (fun c => (run (constant answers next) (readSource c.1 c.2) t).1) l tried
        (run (constant answers next) (readFirst l) s).1 ∧
      conversation (constant answers next) (readFirst l) s =
        tried.flatMap fun c => conversation (constant answers next) (readSource c.1 c.2) t := by
  induction l generalizing s with
  | nil => exact ⟨[], .none, rfl⟩
  | cons c rest ih =>
    have hrun := @run_constant _ _ answers next (readSource c.1 c.2) s t
    have htraffic := @conversation_constant _ _ answers next (readSource c.1 c.2) s t
    unfold readFirst
    rw [run_bind, conversation_bind, htraffic]
    cases hresult : (run (constant answers next) (readSource c.1 c.2) s).1 with
    | ok log =>
      rw [hresult] at hrun
      refine ⟨[c], .found hrun.symm, ?_⟩
      rw [List.flatMap_singleton]
      exact List.append_nil _
    | error e =>
      rw [hresult] at hrun
      obtain ⟨tried, htried, hrest⟩ := ih (run (constant answers next) (readSource c.1 c.2) s).2
      refine ⟨c :: tried, .failed hrun.symm htried, ?_⟩
      rw [List.flatMap_cons, ← hrest]

theorem not_readsLog_of_directory {source : Source} {e : (r : Request) × r.Reply}
    (he : e ∈ directoryEvents answers d) : ¬ ReadsLog source e.1 := by
  have haddress : ∀ source : Source, (0 : UInt8) ≠ source.address := by
    intro source
    cases source <;> decide
  unfold directoryEvents at he
  rcases List.mem_append.mp he with he | he <;> split at he
  · obtain rfl := List.mem_singleton.mp he
    exact fun h => haddress source h.2
  · cases he
  · obtain rfl := List.mem_singleton.mp he
    exact fun h => haddress source h.2
  · cases he

/-- The candidates that are tried read each from their own log, and the directories from none. -/
theorem exists_of_readsLog {source : Source} {tried : List (Source × UInt16)} {s : σ}
    {e : (r : Request) × r.Reply}
    (he : e ∈ directoryEvents answers d ++
      tried.flatMap fun c => conversation (constant answers next) (readSource c.1 c.2) s)
    (h : ReadsLog source e.1) : ∃ c ∈ tried, c.1 = source := by
  rcases List.mem_append.mp he with hdirectory | hlog
  · exact absurd h (not_readsLog_of_directory answers d hdirectory)
  · obtain ⟨c, hc, hmem⟩ := List.mem_flatMap.mp hlog
    obtain ⟨first, rest, visited, hsplit, -⟩ :=
      readsSource_of_ends (ends_conversation (constant answers next) (readSource c.1 c.2) s)
    rw [hsplit] at hmem
    obtain ⟨load, -, rfl⟩ := List.mem_map.mp hmem
    exact ⟨c, hc, readsLog_event_iff.mp h⟩

/-- With one candidate for each log, the requests up to a candidate read from no log behind it. -/
theorem not_readsLog_behind {before after : List (Source × UInt16)} {c later : Source × UInt16}
    (hnodup : ((before ++ c :: after).map Prod.fst).Nodup) (hlater : later ∈ after) {s : σ}
    {e : (r : Request) × r.Reply}
    (he : e ∈ directoryEvents answers d ++
      (before ++ [c]).flatMap fun c => conversation (constant answers next) (readSource c.1 c.2) s) :
    ¬ ReadsLog later.1 e.1 := by
  intro hreads
  obtain ⟨c', hc', hsame⟩ := exists_of_readsLog answers next d he hreads
  rw [List.append_cons, List.map_append, List.nodup_append] at hnodup
  exact hnodup.2.2 _ (List.mem_map_of_mem hc') _ (List.mem_map_of_mem hlater) hsame

theorem read_selects (s : σ) :
    (d.features.smartEnabled = false →
      (run (constant answers next) (read d) s).1 =
        .error (.notSupported "SMART is not enabled on this device") ∧
      conversation (constant answers next) (read d) s = []) ∧
    (d.features.smartEnabled = true → ∃ l, Offered answers d l ∧
      Selects (fun c => (run (constant answers next) (readSource c.1 c.2) s).1)
        (fun c => conversation (constant answers next) (readSource c.1 c.2) s) l
        (directoryEvents answers d) (run (constant answers next) (read d) s).1
        (conversation (constant answers next) (read d) s)) := by
  unfold ErrorLog.read
  constructor
  · intro hdisabled
    rw [if_neg (Bool.eq_false_iff.mp hdisabled)]
    exact ⟨rfl, rfl⟩
  · intro henabled
    rw [if_pos henabled, run_bind, conversation_bind, conversation_candidates]
    obtain ⟨tried, htried, hrequests⟩ := tried_readFirst answers next
      (run (constant answers next) (candidates d) s).1
      (run (constant answers next) (candidates d) s).2 s
    have hoffered := @offered_candidates _ answers next d s
    rw [hrequests]
    refine ⟨_, hoffered, ?_⟩
    exact {
      ok_iff := by
        intro log
        refine ⟨htried.exists_of_ok, ?_⟩
        rintro ⟨before, c, after, hl, hc, hbefore⟩
        exact (htried.of_split hl hc hbefore).2
      error_iff := ⟨htried.forall_of_error, fun hl => (htried.of_forall_error hl).2⟩
      requests_of_ok := by
        intro before c after log hl hc hbefore
        rw [(htried.of_split hl hc hbefore).1]
      requests_of_error := by
        intro hl
        rw [(htried.of_forall_error hl).1]
      unasked := by
        intro before c after log hl hc hbefore later hlater e he
        rw [(htried.of_split hl hc hbefore).1] at he
        have hnodup := hoffered.inOrder.nodup (by decide)
        rw [hl] at hnodup
        exact not_readsLog_behind answers next d hnodup hlater he
    }

end Selection
end DriveHealth.ErrorLog
