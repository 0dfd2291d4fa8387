import DriveHealth.Proofs.Capture.Mode
import DriveHealth.Proofs.Scsi.Edited

/-!
An edited exceptions page on its way back to a captured drive. A page that was read, however its
reporting fields were changed, is found by the drive behind the header that it came with, and
stored as it is but for the bit that tells of a saved copy.
-/
namespace DriveHealth.Capture.Device

open DriveHealth.Scsi Transport

/-- A drive without restrictions takes the page: it becomes the current copy, and the saved one if
it is to be saved, and no other page changes. -/
structure Stores (d : Device) (p : ExceptionsPage) (save : Bool) : Prop where
  accepted : (d.modeSelect p.form p.selectData save).1 = .ok ()
  stored : ∃ page, ExceptionsPage.Unmarked p.page page ∧
    ∀ key, (d.modeSelect p.form p.selectData save).2.find? key =
      if key = .scsiMode ExceptionsPage.code false ∨
        (key = .scsiMode ExceptionsPage.code true ∧ save = true) then some page
      else d.find? key

/-- The list of a page is header and page, and a drive without restrictions stores the page. -/
structure Delivered (p : ExceptionsPage) : Prop where
  lists : p.Lists p.selectData
  stores : ∀ d : Device, d.manifest.restrictions = {} → ∀ save, Stores d p save

theorem stores_of_framed {d : Device} (h : d.manifest.restrictions = {}) {p : ExceptionsPage}
    (hp : p.Framed) (save : Bool) : Stores d p save := by
  have htaken : ¬ (p.form = .ten ∧ d.manifest.restrictions.noModeTen = true) := by
    rw [h]
    exact fun hten => Bool.false_ne_true hten.2
  have hsaves : ¬ (save = true ∧ d.manifest.restrictions.saveRefused = true) := by
    rw [h]
    exact fun hrefused => Bool.false_ne_true hrefused.2
  have hselect := modeSelect_selectData hp htaken save
  rw [if_neg hsaves] at hselect
  constructor
  · rw [hselect]
  · refine ⟨p.selectPage, hp.unmarked_selectPage, fun key => ?_⟩
    rw [hselect]
    exact find?_store hp.code_selectPage _ save key

theorem delivered_of_framed {p : ExceptionsPage} (hp : p.Framed) : Delivered p :=
  ⟨hp.lists_selectData, fun _ h save => stores_of_framed h hp save⟩

/-- A page that was read keeps all bytes of the reply, its fields can be changed and changed back
without a trace, and the drive stores it as it is, changed or not. -/
theorem editing_lossless {reply : Bytes} {form : ModeForm} {p : ExceptionsPage}
    (h : ExceptionsPage.ofReply reply form = .ok p) :
    p.header ++ p.page =
        reply.extract 0 (min (ExceptionsPage.totalLength reply form) reply.size) ∧
      p.Editable ∧ Delivered p ∧
      ∀ m interval count, Delivered (p.withReporting m interval count) := by
  have hcut := ExceptionsPage.cutFrom_of_ofReply h
  have hframed := hcut.framed
  exact ⟨hcut.header_append_page, ExceptionsPage.editable_of_leastLength_le hcut.page_size,
    delivered_of_framed hframed, fun m interval count =>
      delivered_of_framed (ExceptionsPage.framed_withReporting hframed m interval count)⟩

/-- A reply to MODE SENSE(6) with a block descriptor, a page that is longer than its fields and
has its bit and all its flags set, and a byte behind the page. -/
def describedReply : Bytes :=
  .ofList [25, 0, 0, 8, 0, 0, 0, 0, 0, 0, 2, 0, 0x9C, 12, 8, 0xF3, 0, 0, 0x17, 0x70, 0, 0, 0, 5,
    0xAA, 0xBB, 0xCC]

/-- The page that is read from it. -/
def describedPage : ExceptionsPage :=
  ⟨.six, .ofList [25, 0, 0, 8, 0, 0, 0, 0, 0, 0, 2, 0],
    .ofList [0x9C, 12, 8, 0xF3, 0, 0, 0x17, 0x70, 0, 0, 0, 5, 0xAA, 0xBB]⟩

theorem ofReply_describedReply :
    ExceptionsPage.ofReply describedReply .six = .ok describedPage := by
  rfl

theorem editing_lossless_described :
    ExceptionsPage.ofReply describedReply .six = .ok describedPage ∧
      describedPage.header ++ describedPage.page =
        describedReply.extract 0
          (min (ExceptionsPage.totalLength describedReply .six) describedReply.size) ∧
      describedPage.Editable ∧ Delivered describedPage ∧
      ∀ m interval count, Delivered (describedPage.withReporting m interval count) :=
  ⟨ofReply_describedReply, editing_lossless ofReply_describedReply⟩

end DriveHealth.Capture.Device
