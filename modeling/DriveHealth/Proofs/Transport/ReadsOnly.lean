import DriveHealth.Farm.Pull
import DriveHealth.Proofs.Scsi.Modes
import DriveHealth.Proofs.Transport.Requests

/-!
Sessions that only read. Every session but the check of a drive that takes SCSI commands sends
nothing to the drive, whatever the drive replies, and that check sends nothing either until it
changes the exceptions page.
-/
namespace DriveHealth

open Program Scsi

theorem Request.isModeSelect_of_isPlain (r : Request) (h : r.isPlain = true) :
    isModeSelect r = false := by
  cases r <;> first | rfl | cases h

theorem Request.isModeSelect_of_isSense (r : Request) (h : r.isSense = true) :
    isModeSelect r = false :=
  isModeSelect_of_isPlain r (r.isPlain_of_isSense h)

theorem readsOnly_perform {r : Request} (h : isModeSelect r = false) :
    ReadsOnly (perform r : Session r.Reply) :=
  asks_perform h

theorem Scsi.ExceptionsPage.readsOnly_read (control : Transport.PageControl) :
    ReadsOnly (ExceptionsPage.read control) :=
  ExceptionsPage.asks_read Request.isModeSelect_of_isSense control

namespace Check

namespace Scsi

theorem readsOnly_readLog : ReadsOnly readLog := asks_readLog rfl

theorem readsOnly_askSenseAfter (milliseconds : Nat) : ReadsOnly (askSenseAfter milliseconds) :=
  asks_askSenseAfter Request.isModeSelect_of_isSense milliseconds

theorem readsOnly_savedOr (current : DriveHealth.Scsi.ExceptionsPage) :
    ReadsOnly (savedOr current) :=
  asks_savedOr Request.isModeSelect_of_isSense current

end Scsi

/-- Before SCSI commands are tried, an ATA drive is only asked. -/
theorem Ata.readsOnly_checkSmart (d : Drive) : ReadsOnly (checkSmart d) :=
  asks_checkSmart Request.isModeSelect_of_isPlain d

theorem Nvme.readsOnly_check : ReadsOnly Nvme.check :=
  asks_check Request.isModeSelect_of_isPlain

end Check

theorem Drive.readsOnly_readSmart (d : Drive) : ReadsOnly d.readSmart := by
  unfold readSmart
  cases d.kind with
  | ata =>
    exact (Attribute.Table.asks_read Request.isModeSelect_of_isPlain d.features).bind
      fun _ => Asks.done _
  | nvme =>
    exact (Check.Nvme.asks_readHealth Request.isModeSelect_of_isPlain).bind fun _ => Asks.done _
  | scsi => exact Asks.done _

theorem ErrorLog.Directory.readsOnly_readGeneral : ReadsOnly readGeneral.run :=
  asks_readGeneral fun _ _ => rfl

theorem ErrorLog.readsOnly_read (d : Drive) : ReadsOnly (read d) :=
  asks_read Request.isModeSelect_of_isPlain (fun _ _ => rfl) d

namespace Farm

namespace Pull

theorem readsOnly_timed {ask : Session (Except TransportError Bytes)} (h : ReadsOnly ask) :
    ReadsOnly (timed ask) := by
  refine (readsOnly_perform rfl).bind fun start => h.bind fun r => ?_
  cases r with
  | ok data => exact (readsOnly_perform rfl).bind fun _ => Asks.done _
  | error e => exact Asks.done _

namespace Ata

theorem readsOnly_pullRead (l : LogRead) (alignment : Nat) (hint : UInt32) :
    ReadsOnly (l.pull alignment hint) := by
  unfold LogRead.pull
  split
  · exact Asks.done _
  · refine (readsOnly_timed (readsOnly_perform rfl)).bind fun r => ?_
    cases r with
    | some reading => exact Asks.done _
    | none => exact Asks.done _

theorem readsOnly_pullAll (alignment : Nat) (hint : UInt32) (l : List LogRead) :
    ReadsOnly (pullAll alignment hint l) := by
  induction l with
  | nil => exact Asks.done _
  | cons l r ih =>
    refine (readsOnly_pullRead l alignment hint).bind fun first => ?_
    cases first with
    | ok a => exact ih.bind fun _ => Asks.done _
    | error e => exact Asks.done _

end Ata

namespace Scsi

theorem readsOnly_pullSubpage (alignment : Nat) (subpage : UInt8) :
    ReadsOnly (pullSubpage alignment subpage) := by
  refine (readsOnly_perform rfl).bind fun r => ?_
  split
  · exact Asks.done _
  · exact Asks.done _
  · split
    · exact Asks.done _
    · exact (readsOnly_timed ((readsOnly_perform rfl).bind fun _ => Asks.done _)).bind
        fun _ => Asks.done _

theorem readsOnly_pullSubpages (alignment : Nat) (kind : Kind) (d : Option Dataset)
    (l : List UInt8) : ReadsOnly (pullSubpages alignment kind d l) := by
  induction l generalizing d with
  | nil => exact Asks.done _
  | cons subpage rest ih =>
    refine (readsOnly_pullSubpage alignment subpage).bind fun r => ?_
    cases r with
    | error e => exact Asks.done _
    | ok reading =>
      cases reading with
      | none => exact ih d
      | some reading => exact ih _

theorem readsOnly_pullAll (alignment : Nat) (l : List Group) :
    ReadsOnly (pullAll alignment l) := by
  induction l with
  | nil => exact Asks.done _
  | cons g r ih =>
    refine (readsOnly_pullSubpages alignment g.kind none g.subpages).bind fun first => ?_
    cases first with
    | ok d => exact ih.bind fun _ => Asks.done _
    | error e => exact Asks.done _

end Scsi
end Pull

theorem readsOnly_pull (d : Drive) (options : PullOptions) : ReadsOnly (pull d options) := by
  unfold pull
  cases d.kind with
  | ata =>
    show ReadsOnly (Pull.Ata.pull d options)
    unfold Pull.Ata.pull
    split
    · exact Asks.done _
    · exact Pull.Ata.readsOnly_pullAll _ _ _
  | scsi =>
    show ReadsOnly (Pull.Scsi.pull d)
    unfold Pull.Scsi.pull
    split
    · exact Pull.Scsi.readsOnly_pullAll _ _
    · exact Asks.done _
  | nvme => exact Asks.done _

end Farm
end DriveHealth
