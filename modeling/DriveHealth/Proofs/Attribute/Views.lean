import DriveHealth.Attribute.Meanings
import DriveHealth.Attribute.Naming
import DriveHealth.Proofs.Attribute.Quantities
import Mathlib.Data.List.Basic

/-!
The readable value of an attribute beside its explanation. The tables of names and the tables of
meanings show the same fields for every family and attribute but one: the remaining endurance of
a solid state drive is the raw number in the one and the nominal value in the other.
-/
namespace DriveHealth.Attribute

open Text

/-- What the explanation of an attribute states. -/
def explained (family : VendorFamily) (id : UInt8) : List Field :=
  (Meaning.find? family id).elim [] fun m => m.lines.filterMap Meaning.Line.field?

/-- The attribute that stands for the remaining endurance of a solid state drive. -/
def endurance : UInt8 := 231

/-- The families that explain the endurance by its raw bytes. -/
def explainsRawEndurance : VendorFamily → Bool
  | .seagateVendorF | .seagateVendorG => true
  | _ => false

theorem fields_subset (family : VendorFamily) : ∀ n ∈ Naming.ofFamily family,
    (Meaning.find? family n.id).isSome = true →
    (n.id = endurance → explainsRawEndurance family = true) →
    ∀ f ∈ (rawFormat family n.id).fields, f ∈ explained family n.id := by
  cases family <;> decide +kernel

theorem endurance_views (family : VendorFamily) (hfamily : explainsRawEndurance family = false)
    (h : (Meaning.find? family endurance).isSome = true) :
    (rawFormat family endurance).fields = [⟨.percentage, .span 3 0⟩] ∧
      Meaning.find? family endurance =
        some ⟨endurance, [.nominalPercent "Endurance remaining"]⟩ := by
  revert hfamily h
  cases family <;> decide +kernel

/-- A line with one colon states what stands behind it. -/
theorem head?_of_states {label value : String} (hlabel : ':' ∉ label.toList)
    (hvalue : ':' ∉ value.toList) {q : Quantity} (h : States (label ++ ": " ++ value) q) :
    (quantities value).head? = some q := by
  obtain ⟨label', value', htext, hq⟩ := h
  have hlists := congrArg String.toList htext
  have hrest : ':' ∉ ' ' :: value.toList := by simpa using hvalue
  simp only [String.toList_append, List.append_assoc] at hlists
  change label.toList ++ ':' :: ' ' :: value.toList =
    label'.toList ++ ':' :: ' ' :: value'.toList at hlists
  obtain ⟨-, -, hbehind⟩ := (List.append_cons_inj_of_notMem hlabel hrest).mp hlists
  rw [String.toList_inj.mp (List.cons.inj hbehind).2]
  exact hq

theorem colon_not_mem_percent (n : Nat) : ':' ∉ (decimal n ++ "%").toList := by
  intro h
  rw [decimal, String.toList_append, String.toList_ofList, List.mem_append] at h
  rcases h with h | h
  · exact absurd (Nat.isDigit_of_mem_toDigits (by decide) (by decide) h) (by decide)
  · exact absurd h (by decide)

section Views

variable {family : VendorFamily} {a : Attribute}

theorem exists_of_isQuantity (h : (rawFormat family a.id).isQuantity = true) :
    ∃ n ∈ Naming.ofFamily family, n.id = a.id := by
  unfold rawFormat at h
  cases hfind : Naming.find? family a.id with
  | none =>
    rw [hfind] at h
    cases h
  | some n =>
    unfold Naming.find? at hfind
    have hid := List.find?_some hfind
    exact ⟨n, List.mem_of_find?_eq_some hfind, beq_iff_eq.mp hid⟩

/-- What the tables agree on is stated in both views. -/
theorem exists_line_of_field {m : Meaning} (hm : Meaning.find? family a.id = some m)
    (hformat : (rawFormat family a.id).isQuantity = true)
    (hid : a.id = endurance → explainsRawEndurance family = true) {f : Field}
    (hf : f ∈ (rawFormat family a.id).fields) :
    ∃ line ∈ m.lines.map fun l => l.render a, States line (f.quantity a) := by
  obtain ⟨n, hn, hsame⟩ := exists_of_isQuantity hformat
  rw [← hsame] at hm hid hf
  have hmem := fields_subset family n hn (Option.isSome_of_eq_some hm) hid f hf
  rw [explained, hm] at hmem
  obtain ⟨line, hline, hfield⟩ := List.mem_filterMap.mp hmem
  exact ⟨line.render a, List.mem_map_of_mem hline, Meaning.Line.states_render hfield a⟩

/-- The line on the endurance states the nominal value. -/
theorem states_nominalPercent_iff (n : Nat) :
    States ((Meaning.Line.nominalPercent "Endurance remaining").render a) ⟨.percentage, n⟩ ↔
      a.nominal.toNat = n := by
  have hrender : (Meaning.Line.nominalPercent "Endurance remaining").render a =
      "Endurance remaining" ++ ": " ++ (decimal a.nominal.toNat ++ "%") := by
    rw [Meaning.Line.render, String.append_assoc]
  constructor
  · intro h
    rw [hrender] at h
    have hhead := head?_of_states (by decide) (colon_not_mem_percent _) h
    rw [quantities_percent] at hhead
    cases hhead
    rfl
  · rintro rfl
    have hfield : (Meaning.Line.nominalPercent "Endurance remaining").field? =
        some ⟨.percentage, .nominal⟩ := rfl
    exact Meaning.Line.states_render hfield a

/-- Both views report the same quantities, but for an endurance that the one reads from the raw
bytes and the other takes for the nominal value. -/
theorem explain_states_iff {lines : List String}
    (hformat : (rawFormat family a.id).isQuantity = true)
    (hlines : explain? family a = some lines) :
    (∀ q ∈ quantities ((rawFormat family a.id).render a), ∃ line ∈ lines, States line q) ↔
      (a.id = endurance → explainsRawEndurance family = false →
        a.nominal.toNat = a.span 3 0) := by
  obtain ⟨m, hm, rfl⟩ := Option.map_eq_some_iff.mp hlines
  rw [RawFormat.quantities_render hformat, List.forall_mem_map]
  by_cases hid : a.id = endurance ∧ explainsRawEndurance family = false
  · obtain ⟨hid, hfamily⟩ := hid
    have hisSome : (Meaning.find? family endurance).isSome = true := by
      rw [← hid, hm]
      rfl
    obtain ⟨hfields, hfind⟩ := endurance_views family hfamily hisSome
    rw [hid, hfind] at hm
    cases hm
    rw [hid, hfields, List.forall_mem_singleton]
    constructor
    · rintro ⟨line, hline, hstates⟩ - -
      obtain rfl := List.mem_singleton.mp hline
      exact (states_nominalPercent_iff _).mp hstates
    · intro hequal
      exact ⟨_, List.mem_singleton_self _, (states_nominalPercent_iff _).mpr (hequal rfl hfamily)⟩
  · refine iff_of_true ?_ fun h h' => absurd ⟨h, h'⟩ hid
    intro f hf
    refine exists_line_of_field hm hformat ?_ hf
    intro h
    by_contra hraw
    exact hid ⟨h, Bool.eq_false_iff.mpr hraw⟩

end Views

/-- Temperatures in the raw bytes. -/
def warm : Attribute := ⟨194, 50, 36, 50, #v[36, 0, 50, 0, 12, 0, 0], some 0⟩

theorem explain_states_warm : ∃ lines, explain? .seagate warm = some lines ∧
    ∀ q ∈ quantities ((rawFormat .seagate warm.id).render warm), ∃ line ∈ lines, States line q :=
  ⟨_, rfl, (explain_states_iff (by decide) rfl).mpr fun h => absurd h (by decide)⟩

/-- An endurance of 96 in the raw bytes and of 97 in the nominal value. -/
def worn : Attribute := ⟨endurance, 50, 97, 97, #v[96, 0, 0, 0, 0, 0, 0], some 0⟩

theorem not_explain_states :
    ¬ ∀ (family : VendorFamily) (a : Attribute) (lines : List String),
      (rawFormat family a.id).isQuantity = true → explain? family a = some lines →
      ∀ q ∈ quantities ((rawFormat family a.id).render a), ∃ line ∈ lines, States line q := by
  intro hall
  have hquantity : ⟨.percentage, 96⟩ ∈ quantities ((rawFormat .seagate worn.id).render worn) := by
    rw [RawFormat.quantities_render (by decide)]
    decide
  obtain ⟨line, hline, hstates⟩ := hall .seagate worn _ (by decide) rfl _ hquantity
  obtain rfl := List.mem_singleton.mp hline
  exact absurd ((states_nominalPercent_iff 96).mp hstates) (by decide)

end DriveHealth.Attribute
