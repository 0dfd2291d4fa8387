import DriveHealth.CommandLine.OpenDrive
import DriveHealth.Proofs.Conversation.Asked

/-!
Opening the path of a drive. The conversations in which no drive is opened are those in which the
manifest of a capture cannot be read or is none, a page file of a capture cannot be read, or the
node of a drive cannot be opened or does not tell what it is.
-/
namespace DriveHealth.CommandLine

open Program

abbrev ActionTrace := Trace Call Call.Reply

def fileEvent (e : (c : Files.Call) × c.Reply) : (c : Call) × c.Reply := ⟨.files e.1, e.2⟩

def nodeEvent (e : (c : Node.Call) × c.Reply) : (c : Call) × c.Reply := ⟨.node e.1, e.2⟩

theorem ends_ofAccess_iff {α : Type} {p : Files.Access α} {t : ActionTrace} {a : α} :
    Ends (Action.ofAccess p) t a ↔ ∃ u, Ends p u a ∧ t = u.map fileEvent :=
  ends_interpret_iff fun _ _ _ => ends_perform_iff

theorem ends_ofExchange_iff {α : Type} {p : Node.Exchange α} {t : ActionTrace} {a : α} :
    Ends (Action.ofExchange p) t a ↔ ∃ u, Ends p u a ∧ t = u.map nodeEvent :=
  ends_interpret_iff fun _ _ _ => ends_perform_iff

/-- What is made of the outcome of a program fails with the program and not without it. -/
theorem ends_map_error_iff {Op ε ε' α β : Type} {Reply : Op → Type}
    {p : Program Op Reply (Except ε α)} {g : Except ε α → Except ε' β}
    (hg : ∀ r, (g r).isOk = r.isOk) {t : Trace Op Reply} :
    (∃ f, Ends (p.bind fun r => .done (g r)) t (.error f)) ↔ ∃ e, Ends p t (.error e) := by
  constructor
  · rintro ⟨f, hends⟩
    obtain ⟨r, hp, heq⟩ := ends_bind_done_iff.mp hends
    have hok := hg r
    rw [← heq] at hok
    cases r with
    | error e => exact ⟨e, hp⟩
    | ok a => cases hok
  · rintro ⟨e, hp⟩
    have hok := hg (.error e)
    cases hfailed : g (.error e) with
    | error f => exact ⟨f, ends_bind_done_iff.mpr ⟨_, hp, hfailed.symm⟩⟩
    | ok b =>
      rw [hfailed] at hok
      cases hok

section Capture

open Files Capture

abbrev FileTrace := Trace Files.Call Files.Call.Reply

def readEvent (path : String) (reply : Except SystemError Bytes) : (c : Files.Call) × c.Reply :=
  ⟨.read path, reply⟩

/-- The manifest in the text of a file, if there is one. -/
def manifest? (data : Bytes) : Option Manifest :=
  (String.fromUTF8? data).bind fun text => (Json.Reader.ofString? text).bind Manifest.ofJson?

/-- One of the page files cannot be read. -/
inductive PageMissing (directory : String) : List (String × String) → FileTrace → Prop
  | here (name file : String) (rest : List (String × String)) (e : SystemError) :
      PageMissing directory ((name, file) :: rest) [readEvent (join directory file) (.error e)]
  | behind (name file : String) {rest : List (String × String)} {t : FileTrace} (data : Bytes) :
      PageMissing directory rest t →
      PageMissing directory ((name, file) :: rest)
        (readEvent (join directory file) (.ok data) :: t)

/-- The files of a directory make no capture. -/
inductive Broken (directory : String) : FileTrace → Prop
  | noManifest (e : SystemError) :
      Broken directory [readEvent (join directory manifestName) (.error e)]
  | malformed {data : Bytes} : manifest? data = none →
      Broken directory [readEvent (join directory manifestName) (.ok data)]
  | pageMissing {data : Bytes} {m : Manifest} {t : FileTrace} : manifest? data = some m →
      PageMissing directory m.pages t →
      Broken directory (readEvent (join directory manifestName) (.ok data) :: t)

variable {directory : String} {t : FileTrace}

theorem ends_readPages_error_iff {pages : List (String × String)} :
    (∃ e, Ends (readPages directory pages) t (.error e)) ↔ PageMissing directory pages t := by
  induction pages generalizing t with
  | nil =>
    constructor
    · rintro ⟨e, hends⟩
      cases (ends_done_iff.mp hends).2
    · intro hmissing
      cases hmissing
  | cons entry rest ih =>
    obtain ⟨name, file⟩ := entry
    constructor
    · rintro ⟨e, hends⟩
      obtain ⟨reply, u, rfl, hrest⟩ := ends_perform_bind_iff.mp hends
      cases reply with
      | error cause =>
        obtain ⟨rfl, -⟩ := ends_done_iff.mp hrest
        exact .here name file rest cause
      | ok data =>
        obtain ⟨others, hothers, heq⟩ := ends_bind_done_iff.mp hrest
        cases others with
        | error e' => exact .behind name file data (ih.mp ⟨e', hothers⟩)
        | ok pages => cases heq
    · intro hmissing
      cases hmissing with
      | here _ _ _ cause =>
        exact ⟨_, ends_perform_bind_iff.mpr ⟨.error cause, [], rfl, Ends.done _⟩⟩
      | behind _ _ data hbehind =>
        obtain ⟨e, hends⟩ := ih.mpr hbehind
        exact ⟨e, ends_perform_bind_iff.mpr
          ⟨.ok data, _, rfl, ends_bind_done_iff.mpr ⟨_, hends, rfl⟩⟩⟩

/-- The text in the reply to a read. -/
def textOf : Except SystemError Bytes → Except SystemError String
  | .error e => .error e
  | .ok data =>
    match String.fromUTF8? data with
    | some text => .ok text
    | none => .error .invalidText

theorem readText_eq (path : String) :
    Access.readText path = (Access.read path).bind fun reply => .done (textOf reply) := by
  refine congrArg (Program.bind (Access.read path)) (funext fun reply => ?_)
  cases reply with
  | error e => rfl
  | ok data =>
    dsimp only [textOf]
    cases String.fromUTF8? data <;> rfl

/-- The manifest in the text of its file. -/
def manifestOf (directory : String) : Except SystemError String → Except Error Manifest
  | .error e => .error (.fileOpen (join directory manifestName) e)
  | .ok text =>
    match (Json.Reader.ofString? text).bind Manifest.ofJson? with
    | some m => .ok m
    | none => .error (malformed (join directory manifestName))

theorem readManifest_eq (directory : String) :
    readManifest directory = (Access.readText (join directory manifestName)).bind fun r =>
      .done (manifestOf directory r) := by
  refine congrArg (Program.bind (Access.readText _)) (funext fun r => ?_)
  cases r with
  | error e => rfl
  | ok text =>
    dsimp only [manifestOf]
    cases (Json.Reader.ofString? text).bind Manifest.ofJson? <;> rfl

theorem ends_readManifest_iff {r : Except Error Manifest} :
    Ends (readManifest directory) t r ↔
      ∃ reply, t = [readEvent (join directory manifestName) reply] ∧
        r = manifestOf directory (textOf reply) := by
  rw [readManifest_eq, ends_bind_done_iff]
  simp only [readText_eq, ends_bind_done_iff]
  constructor
  · rintro ⟨_, ⟨reply, hread, rfl⟩, rfl⟩
    exact ⟨reply, ends_perform_iff.mp hread, rfl⟩
  · rintro ⟨reply, rfl, rfl⟩
    exact ⟨_, ⟨reply, ends_perform_iff.mpr rfl, rfl⟩, rfl⟩

theorem manifestOf_ok_iff {data : Bytes} {m : Manifest} :
    manifestOf directory (textOf (.ok data)) = .ok m ↔ manifest? data = some m := by
  dsimp only [textOf, manifest?]
  cases String.fromUTF8? data with
  | none => simp [manifestOf]
  | some text =>
    dsimp only [manifestOf, Option.bind_some]
    cases (Json.Reader.ofString? text).bind Manifest.ofJson? <;> simp

theorem exists_manifestOf_error_iff {reply : Except SystemError Bytes} :
    (∃ e, manifestOf directory (textOf reply) = .error e) ↔
      (∃ e, reply = .error e) ∨ ∃ data, reply = .ok data ∧ manifest? data = none := by
  cases reply with
  | error e => exact ⟨fun _ => .inl ⟨e, rfl⟩, fun _ => ⟨_, rfl⟩⟩
  | ok data =>
    have hok := @manifestOf_ok_iff directory data
    cases hfound : manifestOf directory (textOf (.ok data)) with
    | error e =>
      refine iff_of_true ⟨e, rfl⟩ (.inr ⟨data, rfl, Option.eq_none_iff_forall_ne_some.mpr ?_⟩)
      intro m hm
      rw [hok.mpr hm] at hfound
      cases hfound
    | ok m =>
      refine iff_of_false nofun ?_
      rintro (⟨e, he⟩ | ⟨_, hdata, hnone⟩)
      · cases he
      · cases hdata
        rw [hok.mp hfound] at hnone
        cases hnone

theorem ends_openDirectory_error_iff :
    (∃ e, Ends (openDirectory directory) t (.error e)) ↔ Broken directory t := by
  constructor
  · rintro ⟨e, hends⟩
    obtain ⟨u, v, r, rfl, hmanifest, hrest⟩ := ends_bind_iff.mp hends
    obtain ⟨reply, rfl, rfl⟩ := ends_readManifest_iff.mp hmanifest
    cases hfound : manifestOf directory (textOf reply) with
    | error e' =>
      rw [hfound] at hrest
      obtain ⟨rfl, -⟩ := ends_done_iff.mp hrest
      rcases exists_manifestOf_error_iff.mp ⟨e', hfound⟩ with ⟨cause, rfl⟩ | ⟨data, rfl, hnone⟩
      · exact .noManifest cause
      · exact .malformed hnone
    | ok m =>
      rw [hfound] at hrest
      obtain ⟨pages, hpages, heq⟩ := ends_bind_done_iff.mp hrest
      cases reply with
      | error cause => cases hfound
      | ok data =>
        cases pages with
        | error e' =>
          exact .pageMissing (manifestOf_ok_iff.mp hfound) (ends_readPages_error_iff.mp ⟨e', hpages⟩)
        | ok pages => cases heq
  · intro hbroken
    unfold openDirectory
    have hunread : ∀ reply e, manifestOf directory (textOf reply) = .error e →
        Ends (openDirectory directory) [readEvent (join directory manifestName) reply]
          (.error e) := by
      intro reply e hfound
      refine ends_bind_iff.mpr ⟨_, [], _, rfl, ends_readManifest_iff.mpr ⟨reply, rfl, rfl⟩, ?_⟩
      rw [hfound]
      exact Ends.done _
    cases hbroken with
    | noManifest cause => exact ⟨_, hunread (.error cause) _ rfl⟩
    | @malformed data hnone =>
      obtain ⟨e, hfound⟩ := exists_manifestOf_error_iff.mpr (.inr ⟨data, rfl, hnone⟩)
      exact ⟨e, hunread _ e hfound⟩
    | @pageMissing data m t hsome hmissing =>
      obtain ⟨e, hpages⟩ := ends_readPages_error_iff.mpr hmissing
      refine ⟨e, ends_bind_iff.mpr
        ⟨[_], t, _, rfl, ends_readManifest_iff.mpr ⟨.ok data, rfl, rfl⟩, ?_⟩⟩
      rw [manifestOf_ok_iff.mpr hsome]
      exact ends_bind_done_iff.mpr ⟨_, hpages, rfl⟩

end Capture

/-- The node of a drive is not opened, or what is behind it does not tell what it is. -/
inductive Unidentified (path : String) : Trace Node.Call Node.Call.Reply → Prop
  | refused (e e' : SystemError) :
      Unidentified path [⟨.openFile path true, .error e⟩, ⟨.openFile path false, .error e'⟩]
  | unanswered {u t : Trace Node.Call Node.Call.Reply} {e : Error} :
      Ends (Node.openFile path) u (.ok ()) → Ends (Node.probe path) t (.error e) →
      Unidentified path (u ++ t)

theorem ends_openFile_error_iff {path : String} {t : Trace Node.Call Node.Call.Reply}
    {e' : SystemError} : Ends (Node.openFile path) t (.error e') ↔
      ∃ e, t = [⟨.openFile path true, .error e⟩, ⟨.openFile path false, .error e'⟩] := by
  constructor
  · intro hends
    obtain ⟨reply, u, rfl, hrest⟩ := ends_perform_bind_iff.mp hends
    cases reply with
    | ok a => cases (ends_done_iff.mp hrest).2
    | error e =>
      obtain rfl := ends_perform_iff.mp hrest
      exact ⟨e, rfl⟩
  · rintro ⟨e, rfl⟩
    exact ends_perform_bind_iff.mpr ⟨.error e, _, rfl, ends_perform_iff.mpr rfl⟩

theorem ends_openDrive_error_iff {path : String} {t : Trace Node.Call Node.Call.Reply} :
    (∃ e, Ends (Node.openDrive path) t (.error e)) ↔ Unidentified path t := by
  constructor
  · rintro ⟨e, hends⟩
    obtain ⟨u, v, opened, rfl, hopen, hrest⟩ := ends_bind_iff.mp hends
    cases opened with
    | error cause =>
      obtain ⟨rfl, -⟩ := ends_done_iff.mp hrest
      obtain ⟨first, rfl⟩ := ends_openFile_error_iff.mp hopen
      exact .refused first cause
    | ok a =>
      obtain ⟨found, hprobe, heq⟩ := ends_bind_done_iff.mp hrest
      cases found with
      | error e' => exact .unanswered hopen hprobe
      | ok f => cases heq
  · intro hunidentified
    cases hunidentified with
    | refused first cause =>
      exact ⟨_, ends_bind_iff.mpr
        ⟨_, [], _, rfl, ends_openFile_error_iff.mpr ⟨first, rfl⟩, Ends.done _⟩⟩
    | unanswered hopen hprobe =>
      exact ⟨_, ends_bind_iff.mpr
        ⟨_, _, _, rfl, hopen, ends_bind_done_iff.mpr ⟨_, hprobe, rfl⟩⟩⟩

/-- The conversations in which a path is not opened. -/
inductive Shut (path : String) : ActionTrace → Prop
  | capture {t : FileTrace} : Broken path t →
      Shut path (fileEvent ⟨.isDirectory path, true⟩ :: t.map fileEvent)
  | node {t : Trace Node.Call Node.Call.Reply} : Unidentified path t →
      Shut path (fileEvent ⟨.isDirectory path, false⟩ :: t.map nodeEvent)

namespace OpenDrive

variable {path : String} {t : ActionTrace}

theorem ends_openCapture_error_iff :
    (∃ f, Ends (openCapture path) t (.error f)) ↔
      ∃ u, Broken path u ∧ t = u.map fileEvent := by
  refine (ends_map_error_iff fun r => by cases r <;> rfl).trans ?_
  constructor
  · rintro ⟨e, haccess⟩
    obtain ⟨u, hopen, rfl⟩ := ends_ofAccess_iff.mp haccess
    exact ⟨u, ends_openDirectory_error_iff.mp ⟨e, hopen⟩, rfl⟩
  · rintro ⟨u, hbroken, rfl⟩
    obtain ⟨e, hopen⟩ := ends_openDirectory_error_iff.mpr hbroken
    exact ⟨e, ends_ofAccess_iff.mpr ⟨u, hopen, rfl⟩⟩

theorem ends_openNode_error_iff :
    (∃ f, Ends (openNode path) t (.error f)) ↔
      ∃ u, Unidentified path u ∧ t = u.map nodeEvent := by
  refine (ends_map_error_iff fun r => by cases r <;> rfl).trans ?_
  constructor
  · rintro ⟨e, hexchange⟩
    obtain ⟨u, hopen, rfl⟩ := ends_ofExchange_iff.mp hexchange
    exact ⟨u, ends_openDrive_error_iff.mp ⟨e, hopen⟩, rfl⟩
  · rintro ⟨u, hunidentified, rfl⟩
    obtain ⟨e, hopen⟩ := ends_openDrive_error_iff.mpr hunidentified
    exact ⟨e, ends_ofExchange_iff.mpr ⟨u, hopen, rfl⟩⟩

theorem ends_openPath_error_iff :
    (∃ f, Ends (openPath path) t (.error f)) ↔ Shut path t := by
  constructor
  · rintro ⟨f, hends⟩
    obtain ⟨isDirectory, u, rfl, hrest⟩ := ends_perform_bind_iff.mp hends
    cases isDirectory with
    | true =>
      obtain ⟨v, hbroken, rfl⟩ := ends_openCapture_error_iff.mp ⟨f, hrest⟩
      exact .capture hbroken
    | false =>
      obtain ⟨v, hunidentified, rfl⟩ := ends_openNode_error_iff.mp ⟨f, hrest⟩
      exact .node hunidentified
  · intro hshut
    cases hshut with
    | capture hbroken =>
      obtain ⟨f, hends⟩ := ends_openCapture_error_iff.mpr ⟨_, hbroken, rfl⟩
      exact ⟨f, ends_perform_bind_iff.mpr ⟨true, _, rfl, hends⟩⟩
    | node hunidentified =>
      obtain ⟨f, hends⟩ := ends_openNode_error_iff.mpr ⟨_, hunidentified, rfl⟩
      exact ⟨f, ends_perform_bind_iff.mpr ⟨false, _, rfl, hends⟩⟩

/-- Whichever family a drive is taken for, its path is opened or not. -/
theorem ends_openAs_error_iff {family : Option VendorFamily} :
    (∃ f, Ends (openAs path family) t (.error f)) ↔ Shut path t :=
  (ends_map_error_iff fun r => by cases r <;> rfl).trans ends_openPath_error_iff

end OpenDrive
end DriveHealth.CommandLine
