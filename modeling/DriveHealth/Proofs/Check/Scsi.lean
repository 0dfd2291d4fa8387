import DriveHealth.Check.Scsi
import DriveHealth.Proofs.Scsi.Modes

/-!
The conversations of a SCSI check. There are seven kinds of them, by what the drive replies: two
end at the log, two at the mode page, one waits for a report that is due anyway, and two change
the page for as long as the question takes, or try to.
-/
namespace DriveHealth.Check.Scsi

open DriveHealth.Scsi Transport Program

/-- What a reply to LOG SENSE says. -/
def ExceptionsLog.ofAnswer : Except TransportError (Bytes × Nat) → ExceptionsLog
  | .ok (buffer, n) => .ofReply buffer n
  | .error _ => .unavailable

/-- What a reply to REQUEST SENSE says. -/
def senseOf : Except TransportError (Bytes × Nat) → CheckResult
  | .ok (buffer, n) => senseVerdict (buffer.extract 0 (min n senseBuffer))
  | .error _ => .ofStatus .unknown

def logEvent (reply : Except TransportError (Bytes × Nat)) : (r : Request) × r.Reply :=
  ⟨.logSense logPage 0 (.zeros logBuffer), reply⟩

def senseEvent (reply : Except TransportError (Bytes × Nat)) : (r : Request) × r.Reply :=
  ⟨.requestSense (.zeros senseBuffer), reply⟩

def pauses (milliseconds : Nat) : DriveTrace :=
  if milliseconds = 0 then [] else [⟨.pause milliseconds, ()⟩]

/-- The time that is waited at most. -/
def ceiling (options : Options) : Nat := min options.waitLimit longestWait

/-- The time until the drive reports by itself. -/
def natural (current : ExceptionsPage) : Nat := current.interval.toNat * 100

def temporaryEvent (current : ExceptionsPage) (reply : Except TransportError Unit) :
    (r : Request) × r.Reply :=
  ⟨.modeSelect (Override.temporary current).form (Override.temporary current).selectData false,
    reply⟩

/-- The page that is written back. -/
def restoredBy (current : ExceptionsPage) (saved : Except Error ExceptionsPage) :
    ExceptionsPage :=
  current.withReportingOf (saved.toOption.getD current)

/-- The conversations of a check, with the results they end in. -/
inductive Checks (options : Options) : DriveTrace → CheckResult → Prop
  | codes {reply : Except TransportError (Bytes × Nat)} {asc ascq : UInt8} :
      ExceptionsLog.ofAnswer reply = .codes asc ascq →
      Checks options [logEvent reply] (Sense.verdict ⟨0, asc, ascq⟩)
  | foreign {reply : Except TransportError (Bytes × Nat)} {parameter : UInt16} :
      ExceptionsLog.ofAnswer reply = .foreign parameter →
      Checks options [logEvent reply] (.ofStatus .unknown)
  | unread {reply : Except TransportError (Bytes × Nat)} {u : DriveTrace} {e : Error} :
      ExceptionsLog.ofAnswer reply = .unavailable → Reads .current u (.error e) →
      Checks options (logEvent reply :: u) (.ofStatus .notSupported)
  | silent {reply : Except TransportError (Bytes × Nat)} {u : DriveTrace}
      {current : ExceptionsPage} :
      ExceptionsLog.ofAnswer reply = .unavailable → Reads .current u (.ok current) →
      current.method = 0 →
      Checks options (logEvent reply :: u) (.ofStatus .notSupported)
  | waited {reply : Except TransportError (Bytes × Nat)} {u : DriveTrace}
      {current : ExceptionsPage} (sense : Except TransportError (Bytes × Nat)) :
      ExceptionsLog.ofAnswer reply = .unavailable → Reads .current u (.ok current) →
      current.method = ExceptionsPage.onRequest → natural current ≤ ceiling options →
      Checks options (logEvent reply :: (u ++ pauses (natural current)) ++ [senseEvent sense])
        (senseOf sense)
  | refused {reply : Except TransportError (Bytes × Nat)} {u v : DriveTrace}
      {current : ExceptionsPage} {saved : Except Error ExceptionsPage} (e : TransportError) :
      ExceptionsLog.ofAnswer reply = .unavailable → Reads .current u (.ok current) →
      Reads .saved v saved →
      Checks options (logEvent reply :: (u ++ (v ++ [temporaryEvent current (.error e)])))
        (.ofStatus .unknown)
  | switched {reply : Except TransportError (Bytes × Nat)} {u v w : DriveTrace}
      {current : ExceptionsPage} {saved : Except Error ExceptionsPage}
      (sense : Except TransportError (Bytes × Nat)) :
      ExceptionsLog.ofAnswer reply = .unavailable → Reads .current u (.ok current) →
      Reads .saved v saved → Restores (restoredBy current saved) (selects w) →
      (∀ e ∈ w, isModeSelect e.1 = true) →
      Checks options (logEvent reply :: (u ++ (v ++ temporaryEvent current (.ok ()) ::
        pauses (ceiling options))) ++ senseEvent sense :: w) (senseOf sense)

variable {t : DriveTrace} {result : CheckResult}

theorem ends_readLog {log : ExceptionsLog} (h : Ends readLog t log) :
    ∃ reply, t = [logEvent reply] ∧ log = ExceptionsLog.ofAnswer reply := by
  unfold readLog at h
  obtain ⟨u, v, reply, rfl, hu, hrest⟩ := ends_bind_iff.mp h
  obtain rfl := ends_perform_iff.mp hu
  refine ⟨reply, ?_⟩
  cases reply with
  | ok x =>
    obtain ⟨rfl, rfl⟩ := ends_done_iff.mp hrest
    exact ⟨rfl, rfl⟩
  | error e =>
    obtain ⟨rfl, rfl⟩ := ends_done_iff.mp hrest
    exact ⟨rfl, rfl⟩

theorem ends_askSense (h : Ends askSense t result) :
    ∃ reply, t = [senseEvent reply] ∧ result = senseOf reply := by
  unfold askSense at h
  obtain ⟨u, v, reply, rfl, hu, hrest⟩ := ends_bind_iff.mp h
  obtain rfl := ends_perform_iff.mp hu
  refine ⟨reply, ?_⟩
  cases reply with
  | ok x =>
    obtain ⟨rfl, rfl⟩ := ends_done_iff.mp hrest
    exact ⟨rfl, rfl⟩
  | error e =>
    obtain ⟨rfl, rfl⟩ := ends_done_iff.mp hrest
    exact ⟨rfl, rfl⟩

theorem ends_wait {milliseconds : Nat} {a : Unit} (h : Ends (wait milliseconds) t a) :
    t = pauses milliseconds := by
  unfold wait at h
  unfold pauses
  by_cases hzero : milliseconds = 0
  · rw [if_pos hzero] at h ⊢
    exact (ends_done_iff.mp h).1
  · rw [if_neg hzero] at h ⊢
    exact ends_perform_iff.mp h

theorem ends_askSenseAfter {milliseconds : Nat}
    (h : Ends (askSenseAfter milliseconds) t result) :
    ∃ reply, t = pauses milliseconds ++ [senseEvent reply] ∧ result = senseOf reply := by
  unfold askSenseAfter at h
  obtain ⟨u, v, a, rfl, hwait, hsense⟩ := ends_bind_iff.mp h
  obtain rfl := ends_wait hwait
  obtain ⟨reply, rfl, rfl⟩ := ends_askSense hsense
  exact ⟨reply, rfl, rfl⟩

theorem ends_savedOr {current page : ExceptionsPage} (h : Ends (savedOr current) t page) :
    ∃ saved, Reads .saved t saved ∧ page = saved.toOption.getD current := by
  unfold savedOr at h
  obtain ⟨u, v, saved, rfl, hread, hrest⟩ := ends_bind_iff.mp h
  have hreads := reads_of_ends hread
  refine ⟨saved, ?_⟩
  cases saved with
  | ok page =>
    obtain ⟨rfl, rfl⟩ := ends_done_iff.mp hrest
    rw [List.append_nil]
    exact ⟨hreads, rfl⟩
  | error e =>
    obtain ⟨rfl, rfl⟩ := ends_done_iff.mp hrest
    rw [List.append_nil]
    exact ⟨hreads, rfl⟩

/-- A drive is asked under the temporary settings, or it has refused them. -/
theorem ends_askSwitchedOver {current : ExceptionsPage} {longest : Nat}
    (h : Ends (askSwitchedOver current longest) t result) :
    ∃ v saved, Reads .saved v saved ∧
      ((∃ e, t = v ++ [temporaryEvent current (.error e)] ∧ result = .ofStatus .unknown) ∨
      (∃ w sense, t = v ++ (temporaryEvent current (.ok ()) ::
          (pauses longest ++ [senseEvent sense] ++ w)) ∧
        Restores (restoredBy current saved) (selects w) ∧
        (∀ e ∈ w, isModeSelect e.1 = true) ∧ result = senseOf sense)) := by
  unfold askSwitchedOver at h
  obtain ⟨v, u, page, rfl, hsaved, hrest⟩ := ends_bind_iff.mp h
  obtain ⟨saved, hreads, rfl⟩ := ends_savedOr hsaved
  obtain ⟨u, w, r, rfl, hduring, hdone⟩ := ends_bind_iff.mp hrest
  refine ⟨v, saved, hreads, ?_⟩
  rcases Override.ends_during hduring with
    ⟨e, rfl, rfl⟩ | ⟨u, w, a, rfl, hsense, hrestores, honly, rfl⟩
  · obtain ⟨rfl, rfl⟩ := ends_done_iff.mp hdone
    exact .inl ⟨e, rfl, rfl⟩
  · obtain ⟨rfl, rfl⟩ := ends_done_iff.mp hdone
    obtain ⟨sense, rfl, rfl⟩ := ends_askSenseAfter hsense
    refine .inr ⟨w, sense, ?_, hrestores, honly, rfl⟩
    rw [List.append_nil]
    rfl

theorem askPage_eq (options : Options) (current : ExceptionsPage) :
    askPage options current =
      if current.method = 0 then .done (.ofStatus .notSupported)
      else if current.method = ExceptionsPage.onRequest ∧ natural current ≤ ceiling options then
        askSenseAfter (natural current)
      else askSwitchedOver current (ceiling options) :=
  rfl

/-- What follows when the drive has an exceptions page. -/
theorem checks_of_askPage {options : Options} {current : ExceptionsPage}
    {reply : Except TransportError (Bytes × Nat)} {u : DriveTrace}
    (hanswer : ExceptionsLog.ofAnswer reply = .unavailable)
    (hreads : Reads .current u (.ok current)) (h : Ends (askPage options current) t result) :
    Checks options (logEvent reply :: (u ++ t)) result := by
  rw [askPage_eq] at h
  by_cases hmethod : current.method = 0
  · rw [if_pos hmethod] at h
    obtain ⟨rfl, rfl⟩ := ends_done_iff.mp h
    rw [List.append_nil]
    exact Checks.silent hanswer hreads hmethod
  · rw [if_neg hmethod] at h
    by_cases hwait : current.method = ExceptionsPage.onRequest ∧
        natural current ≤ ceiling options
    · rw [if_pos hwait] at h
      obtain ⟨sense, rfl, rfl⟩ := ends_askSenseAfter h
      have hchecks := Checks.waited sense hanswer hreads hwait.1 hwait.2
      rwa [List.cons_append, List.append_assoc] at hchecks
    · rw [if_neg hwait] at h
      obtain ⟨v, saved, hsaved, ⟨e, rfl, rfl⟩ | ⟨w, sense, rfl, hrestores, honly, rfl⟩⟩ :=
        ends_askSwitchedOver h
      · exact Checks.refused e hanswer hreads hsaved
      · have hchecks : Checks options _ (senseOf sense) :=
          Checks.switched sense hanswer hreads hsaved hrestores honly
        simpa only [List.cons_append, List.append_assoc, List.nil_append] using hchecks

theorem checks_of_ends {options : Options} (h : Ends (check options) t result) :
    Checks options t result := by
  unfold check at h
  obtain ⟨u, v, log, rfl, hlog, hrest⟩ := ends_bind_iff.mp h
  obtain ⟨reply, rfl, rfl⟩ := ends_readLog hlog
  cases hanswer : ExceptionsLog.ofAnswer reply with
  | codes asc ascq =>
    rw [hanswer] at hrest
    obtain ⟨rfl, rfl⟩ := ends_done_iff.mp hrest
    exact Checks.codes hanswer
  | foreign parameter =>
    rw [hanswer] at hrest
    obtain ⟨rfl, rfl⟩ := ends_done_iff.mp hrest
    exact Checks.foreign hanswer
  | unavailable =>
    rw [hanswer] at hrest
    obtain ⟨u, w, r, rfl, hread, hpage⟩ := ends_bind_iff.mp hrest
    have hreads := reads_of_ends hread
    cases r with
    | error e =>
      obtain ⟨rfl, rfl⟩ := ends_done_iff.mp hpage
      rw [List.append_nil]
      exact Checks.unread hanswer hreads
    | ok current =>
      show Checks options (logEvent reply :: (u ++ w)) result
      exact checks_of_askPage hanswer hreads hpage

end DriveHealth.Check.Scsi
