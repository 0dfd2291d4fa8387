import DriveHealth.Scsi.ExceptionsPage

/-!
A temporary change of how a SCSI drive reports exceptions. While it lasts the drive reports on
REQUEST SENSE, every tenth of a second and without limit; nothing of it is saved. Afterwards the
earlier settings are written back, saved if the drive lets them be saved.
-/
namespace DriveHealth.Scsi.Override

def temporary (current : ExceptionsPage) : ExceptionsPage :=
  current.withReporting ExceptionsPage.onRequest 1 0

def apply (current : ExceptionsPage) : Session (Except Error Unit) :=
  ((temporary current).write false).bind fun r => .done (Session.ofTransport r)

/-- Whether either write succeeded. -/
def restore (page : ExceptionsPage) : Session Bool :=
  (page.write true).bind fun r =>
    match r with
    | .ok () => .done true
    | .error _ => (page.write false).bind fun r => .done r.isOk

/-- Runs a session under the temporary settings, if the drive takes them. -/
def during {α : Type} (current restored : ExceptionsPage) (body : Session α) :
    Session (Except Error α) :=
  (apply current).bind fun r =>
    match r with
    | .error e => .done (.error e)
    | .ok () => body.bind fun a => (restore restored).bind fun _ => .done (.ok a)

end DriveHealth.Scsi.Override
