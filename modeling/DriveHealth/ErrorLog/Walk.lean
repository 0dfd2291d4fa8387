import DriveHealth.ErrorLog.Pages
import DriveHealth.ErrorLog.Record

/-!
The walk over the ring of entries, from the latest one backwards. It visits as many slots as
errors were counted, but none twice, passes over unused slots, and stops at the first page that
cannot be read.
-/
namespace DriveHealth.ErrorLog

structure NumberedEntry where
  /-- Counted from one, back from the newest entry that is used. -/
  number : UInt32
  entry : Entry
  deriving DecidableEq

structure Walk where
  /-- Newest first. -/
  entries : List NumberedEntry
  truncated : Bool
  pages : Pages

namespace Walk

/-- The slot that was written before. -/
def previous (capacity slot : Nat) : Nat := if slot = 0 then capacity - 1 else slot - 1

def pageOf (source : Source) (slot : Nat) : UInt16 := .ofNat (slot / source.entriesPerPage)

def entryOf? (source : Source) (page : Bytes) (slot : Nat) : Option Entry :=
  Entry.inPage? source.isExtended page (slot % source.entriesPerPage)

/-- Adds the entry of a slot, if it has one, to the entries so far, newest last. -/
def collect (found : List NumberedEntry) (slotEntry : Option Entry) : List NumberedEntry :=
  match slotEntry with
  | some e => ⟨.ofNat (found.length + 1), e⟩ :: found
  | none => found

/-- Visits at most `n` slots; `found` are the entries so far, newest last. -/
def visit (source : Source) (capacity : Nat) :
    Nat → Nat → List NumberedEntry → Pages → Session Walk
  | 0, _, found, c => .done ⟨found.reverse, false, c⟩
  | n + 1, slot, found, c =>
    (Pages.page source c (pageOf source slot)).bind fun (r, c) =>
      match r with
      | .error _ => .done ⟨found.reverse, true, c⟩
      | .ok page =>
        visit source capacity n (previous capacity slot)
          (collect found (entryOf? source page slot)) c

def visits (h : Header) (capacity : Nat) : Nat :=
  if h.index = 0 ∨ capacity = 0 then 0 else min capacity h.errorCount.toNat

def firstSlot (h : Header) (capacity : Nat) : Nat :=
  (max h.index.toNat 1 - 1) % max capacity 1

def ofHeader (source : Source) (h : Header) (capacity : Nat) (c : Pages) : Session Walk :=
  visit source capacity (visits h capacity) (firstSlot h capacity) [] c

end Walk
end DriveHealth.ErrorLog
