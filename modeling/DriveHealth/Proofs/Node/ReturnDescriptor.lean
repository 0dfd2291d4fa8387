import DriveHealth.Node.PassThrough
import DriveHealth.Proofs.Bytes
import Mathlib.Logic.Relation

/-!
The walk through the descriptors of sense data. Each descriptor tells its own length, so what the
drive wrote decides where the next one is. Registers are returned exactly if the descriptors lead,
without leaving the data, to one that holds registers, and they are those of the first such one.
The walk ends after half as many visits as there are bytes, and no visit looks behind the end.
-/
namespace DriveHealth.Node.ReturnDescriptor

open Transport

/-- The place behind the descriptor at a place. -/
def following (sense : Bytes) (p : Nat) : Nat := p + (sense.byteAt (p + 1)).toNat + 2

/-- A descriptor that lies in the data leads to the place behind it. -/
structure Leads (sense : Bytes) (p q : Nat) : Prop where
  header_inside : p + 2 ≤ sense.size
  eq_following : q = following sense p
  inside : q ≤ sense.size

/-- The descriptors from a place on lead to another place. -/
abbrev Reaches (sense : Bytes) : Nat → Nat → Prop := Relation.ReflTransGen (Leads sense)

/-- A descriptor with all the registers. -/
structure Holds (sense : Bytes) (p : Nat) : Prop where
  type_eq : sense.byteAt p = 0x09
  inside : p + 14 ≤ sense.size

/-- The first descriptor with registers, from a place on. -/
structure First (sense : Bytes) (start p : Nat) : Prop where
  reaches : Reaches sense start p
  holds : Holds sense p
  le : ∀ q, Reaches sense start q → Holds sense q → p ≤ q

def registersAt (sense : Bytes) (p : Nat) : TaskFile where
  error := sense.byteAt (p + 3)
  count := sense.byteAt (p + 5)
  lbaLow := sense.byteAt (p + 7)
  lbaMid := sense.byteAt (p + 9)
  lbaHigh := sense.byteAt (p + 11)
  device := sense.byteAt (p + 12)
  status := sense.byteAt (p + 13)

/-! The walk with every access checked, one visit at a time. -/

/-- What a visit ends by: a place to visit next, or the answer. -/
inductive Visit where
  | onward (p : Nat)
  | answer (registers : Option TaskFile)

def registersAt? (sense : Bytes) (p : Nat) : Option TaskFile := do
  return {
    error := ← sense.data[p + 3]?
    count := ← sense.data[p + 5]?
    lbaLow := ← sense.data[p + 7]?
    lbaMid := ← sense.data[p + 9]?
    lbaHigh := ← sense.data[p + 11]?
    device := ← sense.data[p + 12]?
    status := ← sense.data[p + 13]? }

/-- A visit to a place. It has no outcome if it looks behind the end. -/
def visit? (sense : Bytes) (p : Nat) : Option Visit := do
  if sense.size < p + 2 then return .answer none
  else
    let type ← sense.data[p]?
    let length ← sense.data[p + 1]?
    if type = 0x09 ∧ p + 14 ≤ sense.size then return .answer (some (← registersAt? sense p))
    else if sense.size < p + length.toNat + 2 then return .answer none
    else return .onward (p + length.toNat + 2)

/-- So many visits at most. -/
def visits? (sense : Bytes) : Nat → Nat → Option Visit
  | 0, p => some (.onward p)
  | n + 1, p => do
    match ← visit? sense p with
    | .onward q => visits? sense n q
    | .answer registers => return .answer registers

def ofSenseWithin? (n : Nat) (sense : Bytes) : Option Visit := do
  if sense.size < 22 then return .answer none
  else if (← sense.data[0]?) &&& 0x7F ≠ 0x72 then return .answer none
  else visits? sense n 8

/-- The walk from a place on. -/
def walkFrom (sense : Bytes) (p : Nat) : Option TaskFile := walk (sense.data.toList.drop p)

section Reading

variable {sense : Bytes} {p : Nat}

theorem drop_eq_cons (h : p + 2 ≤ sense.size) : sense.data.toList.drop p =
    sense.byteAt p :: sense.byteAt (p + 1) :: sense.data.toList.drop (p + 2) := by
  have hfirst : p < sense.data.toList.length := show p < sense.size by omega
  have hsecond : p + 1 < sense.data.toList.length := show p + 1 < sense.size by omega
  rw [List.drop_eq_getElem_cons hfirst, List.drop_eq_getElem_cons hsecond,
    ← List.getD_eq_getElem _ 0 hfirst, ← List.getD_eq_getElem _ 0 hsecond, Bytes.getD_toList,
    Bytes.getD_toList]

theorem registers_drop (sense : Bytes) (p : Nat) :
    registers (sense.data.toList.drop (p + 2)) = registersAt sense p := by
  have hbyte : ∀ i, (sense.data.toList.drop (p + 2)).getD i 0 = sense.byteAt (p + (2 + i)) := by
    intro i
    rw [← Bytes.getD_toList, List.getD_eq_getElem?_getD, List.getElem?_drop,
      ← List.getD_eq_getElem?_getD, Nat.add_assoc]
  simp only [registers, registersAt, hbyte, Nat.reduceAdd]

theorem registersAt?_of_le (h : p + 14 ≤ sense.size) :
    registersAt? sense p = some (registersAt sense p) := by
  have hbyte : ∀ i < 14, sense.data[p + i]? = some (sense.byteAt (p + i)) := fun i hi =>
    Bytes.getElem?_data (by omega)
  rw [registersAt?, hbyte 3 (by decide), hbyte 5 (by decide), hbyte 7 (by decide),
    hbyte 9 (by decide), hbyte 11 (by decide), hbyte 12 (by decide), hbyte 13 (by decide)]
  rfl

/-- Nothing begins where less than two bytes are left. -/
theorem walk_of_length_lt {l : List UInt8} (h : l.length < 2) : walk l = none := by
  match l, h with
  | [], _ => unfold walk; rfl
  | [_], _ => unfold walk; rfl

/-- The highest bit of the first byte is no part of the format. -/
theorem format_iff (b : UInt8) : b &&& 0x7F = 0x72 ↔ b.toNat % 128 = 0x72 := by
  rw [← UInt8.toNat_inj, UInt8.toNat_and, ← Nat.and_two_pow_sub_one_eq_mod _ 7]
  rfl

end Reading

section Steps

variable {sense : Bytes} {p q : Nat}

theorem walkFrom_of_lt (h : sense.size < p + 2) : walkFrom sense p = none := by
  refine walk_of_length_lt ?_
  rw [List.length_drop]
  exact show sense.size - p < 2 by omega

theorem walkFrom_of_holds (h : Holds sense p) : walkFrom sense p = some (registersAt sense p) := by
  have hinside := h.inside
  have hlength : 12 ≤ (sense.data.toList.drop (p + 2)).length := by
    rw [List.length_drop]
    exact show 12 ≤ sense.size - (p + 2) by omega
  rw [walkFrom, drop_eq_cons (by omega), walk, if_pos ⟨h.type_eq, hlength⟩, registers_drop]

/-- Without registers the walk goes on behind the descriptor, even if that is behind the data. -/
theorem walkFrom_following (hheader : p + 2 ≤ sense.size) (h : ¬ Holds sense p) :
    walkFrom sense p = walkFrom sense (following sense p) := by
  have hno : ¬ (sense.byteAt p = 0x09 ∧ 12 ≤ (sense.data.toList.drop (p + 2)).length) := by
    rintro ⟨htype, hlength⟩
    rw [List.length_drop] at hlength
    have hsize : 12 ≤ sense.size - (p + 2) := hlength
    exact h ⟨htype, by omega⟩
  have hplace : p + 2 + (sense.byteAt (p + 1)).toNat = following sense p := by
    unfold following
    omega
  rw [walkFrom, drop_eq_cons hheader, walk, if_neg hno, List.drop_drop, hplace, walkFrom]

theorem Reaches.le (h : Reaches sense p q) : p ≤ q := by
  induction h with
  | refl => exact Nat.le_refl p
  | tail _ hlast ih =>
    have hplace := hlast.eq_following
    unfold following at hplace
    omega

theorem first_iff_of_holds (h : Holds sense p) : First sense p q ↔ q = p := by
  constructor
  · intro hfirst
    exact Nat.le_antisymm (hfirst.le p .refl h) (Reaches.le hfirst.reaches)
  · rintro rfl
    exact ⟨.refl, h, fun _ hreaches _ => Reaches.le hreaches⟩

/-- A descriptor with registers is reached over the neighbour or not at all. -/
theorem reaches_iff_following (hheader : p + 2 ≤ sense.size) (hno : ¬ Holds sense p)
    (hq : Holds sense q) : Reaches sense p q ↔ Reaches sense (following sense p) q := by
  constructor
  · intro hreaches
    rcases hreaches.cases_head with rfl | ⟨c, hleads, hrest⟩
    · exact absurd hq hno
    · rwa [← hleads.eq_following]
  · intro hrest
    have hle := Reaches.le hrest
    have hinside := hq.inside
    exact .head ⟨hheader, rfl, by omega⟩ hrest

/-- Which descriptor is the first depends only on which ones with registers are reached. -/
theorem First.congr {start start' : Nat}
    (h : ∀ c, Holds sense c → (Reaches sense start c ↔ Reaches sense start' c))
    (hfirst : First sense start q) : First sense start' q where
  reaches := (h q hfirst.holds).mp hfirst.reaches
  holds := hfirst.holds
  le := fun c hreaches hholds => hfirst.le c ((h c hholds).mpr hreaches) hholds

theorem first_iff_following (hheader : p + 2 ≤ sense.size) (hno : ¬ Holds sense p) :
    First sense p q ↔ First sense (following sense p) q := by
  have hreaches := fun c (hc : Holds sense c) => reaches_iff_following hheader hno hc
  exact ⟨First.congr hreaches, First.congr fun c hc => (hreaches c hc).symm⟩

theorem not_first_of_lt (h : sense.size < p + 2) : ¬ First sense p q := by
  intro hfirst
  have hle := Reaches.le hfirst.reaches
  have hinside := hfirst.holds.inside
  omega

/-- The walk from a place on returns the registers of the first descriptor that holds some. -/
theorem walkFrom_eq_some_iff {registers : TaskFile} : walkFrom sense p = some registers ↔
    ∃ q, First sense p q ∧ registers = registersAt sense q := by
  -- The place grows with each descriptor, so the bytes that are left become fewer.
  induction hleft : sense.size - p using Nat.strongRecOn generalizing p with
  | ind left ih =>
    by_cases hend : sense.size < p + 2
    · rw [walkFrom_of_lt hend]
      constructor
      · intro hnone
        cases hnone
      · rintro ⟨q, hfirst, -⟩
        exact absurd hfirst (not_first_of_lt hend)
    have hheader : p + 2 ≤ sense.size := Nat.not_lt.mp hend
    by_cases hholds : Holds sense p
    · rw [walkFrom_of_holds hholds, Option.some.injEq, eq_comm]
      simp only [first_iff_of_holds hholds, exists_eq_left]
    · have hless : sense.size - following sense p < left := by
        unfold following
        omega
      simp only [walkFrom_following hheader hholds, first_iff_following hheader hholds]
      exact ih _ hless rfl

theorem visit?_of_lt (h : sense.size < p + 2) : visit? sense p = some (.answer none) :=
  if_pos h

theorem visit?_of_holds (h : Holds sense p) :
    visit? sense p = some (.answer (some (registersAt sense p))) := by
  obtain ⟨htype, hinside⟩ := h
  rw [visit?, if_neg (by omega), Bytes.getElem?_data (by omega), Bytes.getElem?_data (by omega),
    registersAt?_of_le hinside]
  simp only [Option.bind_eq_bind, Option.bind_some, htype, hinside, and_self, if_true]
  rfl

theorem visit?_of_not_holds (hheader : p + 2 ≤ sense.size) (h : ¬ Holds sense p) :
    visit? sense p = some (if sense.size < following sense p then .answer none
      else .onward (following sense p)) := by
  have hno : ¬ (sense.byteAt p = 0x09 ∧ p + 14 ≤ sense.size) := fun hholds =>
    h ⟨hholds.1, hholds.2⟩
  rw [visit?, if_neg (by omega), Bytes.getElem?_data (by omega), Bytes.getElem?_data (by omega)]
  simp only [Option.bind_eq_bind, Option.bind_some, if_neg hno, apply_ite some]
  rfl

/-- Enough visits end the walk with its answer, and none of them looks behind the end. -/
theorem visits?_eq {n : Nat} (h : sense.size < p + 2 + 2 * n) :
    visits? sense (n + 1) p = some (.answer (walkFrom sense p)) := by
  induction n generalizing p with
  | zero =>
    rw [visits?, visit?_of_lt h, walkFrom_of_lt h]
    rfl
  | succ n ih =>
    by_cases hend : sense.size < p + 2
    · rw [visits?, visit?_of_lt hend, walkFrom_of_lt hend]
      rfl
    have hheader : p + 2 ≤ sense.size := Nat.not_lt.mp hend
    by_cases hholds : Holds sense p
    · rw [visits?, visit?_of_holds hholds, walkFrom_of_holds hholds]
      rfl
    rw [visits?, visit?_of_not_holds hheader hholds, walkFrom_following hheader hholds]
    by_cases hpast : sense.size < following sense p
    · rw [if_pos hpast, walkFrom_of_lt (by omega)]
      rfl
    · have hrest : sense.size < following sense p + 2 + 2 * n := by
        unfold following
        omega
      rw [if_neg hpast]
      exact ih hrest

end Steps

theorem ofSense?_eq (sense : Bytes) : ofSense? sense =
    if sense.size < 22 ∨ (sense.byteAt 0).toNat % 128 ≠ 0x72 then none
    else walkFrom sense 8 := by
  simp only [ofSense?, walkFrom, ne_eq, format_iff]

theorem ofSense?_eq_some_iff {sense : Bytes} {registers : TaskFile} :
    ofSense? sense = some registers ↔ 22 ≤ sense.size ∧ (sense.byteAt 0).toNat % 128 = 0x72 ∧
      ∃ p, First sense 8 p ∧ registers = registersAt sense p := by
  rw [ofSense?_eq, ← walkFrom_eq_some_iff]
  by_cases h : sense.size < 22 ∨ (sense.byteAt 0).toNat % 128 ≠ 0x72
  · rw [if_pos h]
    constructor
    · intro hnone
      cases hnone
    · rintro ⟨hsize, hformat, -⟩
      exact absurd h (by omega)
  · rw [if_neg h]
    constructor
    · intro hwalk
      exact ⟨by omega, by omega, hwalk⟩
    · rintro ⟨-, -, hwalk⟩
      exact hwalk

theorem ofSenseWithin?_eq {n : Nat} {sense : Bytes} (h : sense.size ≤ 2 * n) :
    ofSenseWithin? n sense = some (.answer (ofSense? sense)) := by
  rw [ofSenseWithin?, ofSense?]
  by_cases hshort : sense.size < 22
  · rw [if_pos hshort, if_pos (.inl hshort)]
    rfl
  rw [if_neg hshort, Bytes.getElem?_data (by omega), Option.bind_eq_bind, Option.bind_some]
  by_cases hformat : sense.byteAt 0 &&& 0x7F ≠ 0x72
  · rw [if_pos hformat, if_pos (.inr hformat)]
    rfl
  have hboth : ¬ (sense.size < 22 ∨ sense.byteAt 0 &&& 0x7F ≠ 0x72) := fun hor =>
    hor.elim hshort hformat
  obtain ⟨m, rfl⟩ : ∃ m, n = m + 1 := ⟨n - 1, by omega⟩
  rw [if_neg hformat, if_neg hboth]
  exact visits?_eq (by omega)

/-- Registers are returned exactly if the descriptors lead to some, and the walk that finds them
ends soon and stays in the data. -/
theorem ofSense_walked (sense : Bytes) :
    (∀ registers, ofSense? sense = some registers ↔
      22 ≤ sense.size ∧ (sense.byteAt 0).toNat % 128 = 0x72 ∧
        ∃ p, First sense 8 p ∧ registers = registersAt sense p) ∧
    ∀ n, sense.size ≤ 2 * n → ofSenseWithin? n sense = some (.answer (ofSense? sense)) :=
  ⟨fun _ => ofSense?_eq_some_iff, fun _ => ofSenseWithin?_eq⟩

/-- An empty descriptor of another type comes before the one with registers. -/
def behindEmpty : Bytes := .ofList
  [0x72, 0, 0, 0, 0, 0, 0, 16, 0x00, 0, 0x09, 12, 0, 0x51, 0, 1, 0, 0, 0, 0x2C, 0, 0xF4, 0, 0x50]

theorem first_behindEmpty : First behindEmpty 8 10 := by
  have hother : ¬ Holds behindEmpty 8 := fun h => absurd h.type_eq (by decide)
  have hholds : Holds behindEmpty (following behindEmpty 8) := ⟨by decide, by decide⟩
  rw [first_iff_following (by decide) hother, first_iff_of_holds hholds]
  decide

theorem ofSense_walked_behindEmpty : behindEmpty.size ≤ 2 * 12 ∧
    ofSenseWithin? 12 behindEmpty = some (.answer (ofSense? behindEmpty)) ∧
    ofSense? behindEmpty =
      some { error := 0x51, count := 1, lbaMid := 0x2C, lbaHigh := 0xF4, status := 0x50 } := by
  obtain ⟨hreturned, hends⟩ := ofSense_walked behindEmpty
  have hsize : behindEmpty.size ≤ 2 * 12 := by decide
  refine ⟨hsize, hends 12 hsize, (hreturned _).mpr ⟨?_, ?_, 10, first_behindEmpty, ?_⟩⟩
  · decide
  · decide
  · decide

end DriveHealth.Node.ReturnDescriptor
