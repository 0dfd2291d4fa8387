import DriveHealth.Nvme.Report
import DriveHealth.Proofs.Bytes
import DriveHealth.Proofs.Text.Units

/-!
The temperature sensors in the report of a health page. The lines are numbered in the order of the
sensors that report, so a sensor has its own number as long as no sensor before it is silent.
-/
namespace DriveHealth.Nvme.Health

open Text DriveHealth.Units

theorem celsius_injective : Function.Injective celsius := by
  intro t u h
  unfold celsius at h
  exact UInt16.toNat_inj.mp (by omega)

/-- The number of temperature sensors that a page has words for. -/
def sensorCount : Nat := 8

/-- The sensors that report a temperature, counted from zero. -/
def reporting (page : Bytes) : List Nat :=
  (List.range sensorCount).filter fun i => sensorAt page i != 0

/-- The word of a sensor, if it reports. -/
def reading? (page : Bytes) (i : Nat) : Option UInt16 :=
  if sensorAt page i = 0 then none else some (sensorAt page i)

/-- What the line of a sensor begins with. -/
def sensorLabel (k : Nat) : String := "Temperature Sensor " ++ decimal k ++ ":"

def Labelled (k : Nat) (line : String) : Prop := (sensorLabel k).toList <+: line.toList

/-- The line tells the temperature of a word. -/
def Shows (k : Nat) (t : UInt16) (line : String) : Prop :=
  line = sensorLabel k ++ "        " ++ Units.temperature (celsius t)

/-- A sensor has a line exactly if it reports, and the line is its own. -/
structure KeepsNumber (page : Bytes) (text : String) (k : Nat) : Prop where
  labelled_iff : (∃ line ∈ linesOf text, Labelled k line) ↔ sensorAt page (k - 1) ≠ 0
  shows : ∀ line ∈ linesOf text, Labelled k line → Shows k (sensorAt page (k - 1)) line

/-! The lines of the report. -/

theorem toList_sensorLabel (k : Nat) :
    (sensorLabel k).toList = "Temperature Sensor ".toList ++ ((decimal k).toList ++ [':']) := by
  have hcolon : ":".toList = [':'] := by simp
  unfold sensorLabel
  simp only [String.toList_append, List.append_assoc, hcolon]

theorem Shows.labelled {k : Nat} {t : UInt16} {line : String} (h : Shows k t line) :
    Labelled k line := by
  rw [h, Labelled, String.toList_append, String.toList_append, List.append_assoc]
  exact List.prefix_append _ _

theorem labelled_unique {j k : Nat} {line : String} (hj : Labelled j line) (hk : Labelled k line) :
    j = k := by
  obtain ⟨r, hr⟩ := hj
  obtain ⟨s, hs⟩ := hk
  have h := hr.trans hs.symm
  simp only [toList_sensorLabel, List.append_assoc, List.append_cancel_left_eq,
    List.singleton_append] at h
  exact toList_decimal_append_inj (by decide) h

theorem Shows.unique {k : Nat} {t u : UInt16} {line : String} (ht : Shows k t line)
    (hu : Shows k u line) : t = u := by
  have h := congrArg String.toList (ht.symm.trans hu)
  simp only [String.toList_append, List.append_cancel_left_eq] at h
  exact celsius_injective (temperature_injective (String.toList_inj.mp h))

/-- The line of one sensor. -/
theorem shows_line {k : Nat} {t : UInt16} {line : String} :
    line = s!"Temperature Sensor {k}:        " ++ Units.temperature (celsius t) ↔
      Shows k t line := by
  have hgap : ":        " = ":" ++ "        " := by simp
  have htext : s!"Temperature Sensor {k}:        " ++ Units.temperature (celsius t) =
      "Temperature Sensor " ++ decimal k ++ ":        " ++ Units.temperature (celsius t) := rfl
  rw [Shows, htext, hgap]
  unfold sensorLabel
  simp only [String.append_assoc]

theorem mem_sensorLines_iff {k : Nat} {l : List UInt16} {line : String} :
    line ∈ sensorLines k l ↔ ∃ i t, l[i]? = some t ∧ Shows (k + i) t line := by
  induction l generalizing k with
  | nil => simp [sensorLines]
  | cons t r ih =>
    rw [sensorLines, List.mem_cons, ih, shows_line]
    constructor
    · rintro (hline | ⟨i, u, hu, hline⟩)
      · exact ⟨0, t, rfl, hline⟩
      · rw [Nat.add_right_comm] at hline
        exact ⟨i + 1, u, hu, hline⟩
    · rintro ⟨_ | i, u, hu, hline⟩
      · cases hu
        exact .inl hline
      · rw [← Nat.add_assoc, Nat.add_right_comm] at hline
        exact .inr ⟨i, u, hu, hline⟩

theorem not_labelled_append {k : Nat} {c : Char} (hc : c ≠ 'T') (l : List Char) (s : String) :
    ¬ Labelled k (String.ofList (c :: l) ++ s) := by
  intro h
  have hhead : 'T' = c := by
    obtain ⟨r, hr⟩ := h
    rw [String.toList_append, String.toList_ofList, toList_sensorLabel] at hr
    exact (List.cons.inj hr).1
  exact hc hhead.symm

theorem not_labelled_column {k : Nat} {c : Char} (hc : c ≠ 'T') (l : List Char) (value : String) :
    ¬ Labelled k (column (String.ofList (c :: l)) value) := by
  rw [column, padRight, String.append_assoc]
  exact not_labelled_append hc l _

/-- Only the lines of sensors begin as their labels do. -/
theorem mem_sensorLines_of_labelled {h : Health} {k : Nat} {line : String}
    (hline : line ∈ h.lines) (hlabel : Labelled k line) : line ∈ sensorLines 1 h.sensors := by
  rw [lines, List.mem_append] at hline
  refine hline.resolve_left ?_
  simp only [List.mem_cons, List.not_mem_nil, or_false, not_or]
  and_intros
  all_goals
    rintro rfl
    revert hlabel
  any_goals with_reducible refine not_labelled_append ?_ _ _
  any_goals refine not_labelled_column ?_ _ _
  all_goals decide

theorem labelled_mem_lines_iff {h : Health} {k : Nat} {line : String} (hk : 0 < k) :
    line ∈ h.lines ∧ Labelled k line ↔ ∃ t, h.sensors[k - 1]? = some t ∧ Shows k t line := by
  constructor
  · rintro ⟨hline, hlabel⟩
    obtain ⟨i, t, ht, hshows⟩ :=
      mem_sensorLines_iff.mp (mem_sensorLines_of_labelled hline hlabel)
    obtain rfl := labelled_unique hshows.labelled hlabel
    rw [Nat.add_sub_cancel_left]
    exact ⟨t, ht, hshows⟩
  · rintro ⟨t, ht, hshows⟩
    have hnumber : 1 + (k - 1) = k := by omega
    rw [lines, List.mem_append]
    refine ⟨.inr (mem_sensorLines_iff.mpr ⟨k - 1, t, ht, ?_⟩), hshows.labelled⟩
    rwa [hnumber]

@[simp] theorem oneLine_column (label value : String) :
    OneLine (column label value) ↔ OneLine label ∧ OneLine value := by
  simp [column]

theorem oneLine_sensorLines (k : Nat) (l : List UInt16) : ∀ s ∈ sensorLines k l, OneLine s := by
  intro s hs
  obtain ⟨i, t, -, hshows⟩ := mem_sensorLines_iff.mp hs
  unfold Shows sensorLabel at hshows
  simp only [hshows, oneLine_append, oneLine_decimal, oneLine_temperature, and_true]
  and_intros <;> exact oneLine_ofList (by decide)

theorem oneLine_lines (h : Health) : ∀ s ∈ h.lines, OneLine s := by
  unfold lines
  rw [List.forall_mem_append]
  refine ⟨?_, oneLine_sensorLines 1 h.sensors⟩
  simp only [List.forall_mem_cons, List.not_mem_nil, IsEmpty.forall_iff, implies_true, and_true,
    true_and, volume, count, toString, oneLine_column, oneLine_append, oneLine_repr, oneLine_decimal,
    oneLine_hex, oneLine_temperature, oneLine_bytes, hexByte]
  and_intros <;> exact oneLine_ofList (by decide)

theorem linesOf_text (h : Health) : linesOf h.text = h.lines :=
  linesOf_ofLines h.oneLine_lines

/-- A filter that keeps whatever stands before something kept keeps a beginning. -/
theorem exists_filter_range {p : Nat → Bool} {n : Nat}
    (h : ∀ i j, i < j → j < n → p j = true → p i = true) :
    ∃ m ≤ n, (List.range n).filter p = List.range m := by
  induction n with
  | zero => exact ⟨0, Nat.le_refl 0, rfl⟩
  | succ n ih =>
    rw [List.range_succ, List.filter_append, List.filter_singleton]
    cases hp : p n with
    | true =>
      have hall : (List.range n).filter p = List.range n := by
        refine List.filter_eq_self.mpr fun i hi => ?_
        exact h i n (List.mem_range.mp hi) (Nat.lt_succ_self n) hp
      exact ⟨n + 1, Nat.le_refl _, by rw [hall, List.range_succ]; rfl⟩
    | false =>
      obtain ⟨m, hm, hfilter⟩ := ih fun i j hij hj => h i j hij (Nat.lt_succ_of_lt hj)
      exact ⟨m, Nat.le_succ_of_le hm, by rw [hfilter]; exact List.append_nil _⟩

section Report

variable {page : Bytes} {h : Health}

theorem mem_reporting_iff {i : Nat} :
    i ∈ reporting page ↔ i < sensorCount ∧ sensorAt page i ≠ 0 := by
  rw [reporting, List.mem_filter, List.mem_range, bne_iff_ne]

theorem sensors_eq (hpage : ofPage? page = some h) :
    h.sensors = (reporting page).map (sensorAt page) := by
  unfold ofPage? at hpage
  split at hpage
  · cases hpage
  · cases hpage
    exact List.filter_map

/-- The line with a number is that of the sensor which is at this place among those that report. -/
theorem line_iff (hpage : ofPage? page = some h) {k : Nat} {line : String} (hk : 0 < k) :
    line ∈ linesOf h.text ∧ Labelled k line ↔
      ∃ i, (reporting page)[k - 1]? = some i ∧ Shows k (sensorAt page i) line := by
  rw [linesOf_text, labelled_mem_lines_iff hk, sensors_eq hpage]
  simp

theorem keepsNumber_iff (hpage : ofPage? page = some h) {k : Nat} (hk : 0 < k) :
    KeepsNumber page h.text k ↔
      (reporting page)[k - 1]?.map (sensorAt page) = reading? page (k - 1) := by
  have hlines : ∀ line, line ∈ linesOf h.text ∧ Labelled k line ↔
      ∃ i, (reporting page)[k - 1]? = some i ∧ Shows k (sensorAt page i) line :=
    fun line => line_iff hpage hk
  cases hplace : (reporting page)[k - 1]? with
  | none =>
    have hnone : ∀ line ∈ linesOf h.text, ¬ Labelled k line := by
      intro line hline hlabel
      obtain ⟨i, hi, -⟩ := (hlines line).mp ⟨hline, hlabel⟩
      rw [hplace] at hi
      cases hi
    have hsome : ¬ ∃ line ∈ linesOf h.text, Labelled k line := by
      rintro ⟨line, hline, hlabel⟩
      exact hnone line hline hlabel
    constructor
    · intro hkeeps
      have hsilent := not_not.mp (mt hkeeps.labelled_iff.mpr hsome)
      rw [reading?, if_pos hsilent, Option.map_none]
    · intro hread
      have hsilent : sensorAt page (k - 1) = 0 := by
        by_contra hne
        rw [reading?, if_neg hne] at hread
        cases hread
      exact ⟨iff_of_false hsome (not_not.mpr hsilent),
        fun line hline hlabel => absurd hlabel (hnone line hline)⟩
  | some i =>
    obtain ⟨line, hown⟩ : ∃ line, Shows k (sensorAt page i) line := ⟨_, rfl⟩
    obtain ⟨hline, hlabel⟩ := (hlines line).mpr ⟨i, hplace, hown⟩
    constructor
    · intro hkeeps
      have hreports := hkeeps.labelled_iff.mp ⟨line, hline, hlabel⟩
      have hword := hown.unique (hkeeps.shows line hline hlabel)
      rw [reading?, if_neg hreports, Option.map_some, hword]
    · intro hread
      by_cases hsilent : sensorAt page (k - 1) = 0
      · rw [reading?, if_pos hsilent] at hread
        cases hread
      · rw [reading?, if_neg hsilent, Option.map_some] at hread
        refine ⟨iff_of_true ⟨line, hline, hlabel⟩ hsilent, ?_⟩
        intro other hother hlabel'
        obtain ⟨j, hj, hshows⟩ := (hlines other).mp ⟨hother, hlabel'⟩
        rw [hplace] at hj
        cases hj
        rwa [Option.some.inj hread] at hshows

/-- All sensors have their own numbers as long as none is silent before one that reports. -/
theorem keepsNumbers_iff (hpage : ofPage? page = some h) :
    (∀ k, 0 < k → k ≤ sensorCount → KeepsNumber page h.text k) ↔
      ∀ i j, i < j → j < sensorCount → sensorAt page i = 0 → sensorAt page j = 0 := by
  constructor
  · intro hkeeps i j hij hj hi
    by_contra hreports
    have hnumber : ∀ n < sensorCount,
        (reporting page)[n]?.map (sensorAt page) = reading? page n := fun n hn =>
      (keepsNumber_iff hpage (Nat.succ_pos n)).mp (hkeeps (n + 1) (Nat.succ_pos n) hn)
    have hfirst := hnumber i (Nat.lt_trans hij hj)
    have hsecond := hnumber j hj
    rw [reading?, if_pos hi, Option.map_eq_none_iff, List.getElem?_eq_none_iff] at hfirst
    rw [reading?, if_neg hreports, List.getElem?_eq_none (by omega)] at hsecond
    cases hsecond
  · intro hbefore k hk hle
    obtain ⟨m, hm, hrange⟩ := exists_filter_range (n := sensorCount)
      (p := fun i => sensorAt page i != 0) (by
        intro i j hij hj hreports
        rw [bne_iff_ne] at hreports ⊢
        exact fun hi => hreports (hbefore i j hij hj hi))
    have hmem : sensorAt page (k - 1) ≠ 0 ↔ k - 1 < m := by
      have hlt : k - 1 < sensorCount := by omega
      rw [← List.mem_range, ← hrange, ← reporting, mem_reporting_iff, and_iff_right hlt]
    rw [keepsNumber_iff hpage hk, reporting, hrange, reading?]
    by_cases hreports : k - 1 < m
    · rw [List.getElem?_range hreports, if_neg (hmem.mpr hreports)]
      rfl
    · have hsilent : sensorAt page (k - 1) = 0 := by
        by_contra hne
        exact hreports (hmem.mp hne)
      rw [if_pos hsilent, List.getElem?_eq_none (by rw [List.length_range]; omega)]
      rfl

end Report

/-- What the report of a page says of its sensors. -/
structure Numbered (page : Bytes) (text : String) : Prop where
  /-- Numbers are given in the order of the sensors that report. -/
  line_iff : ∀ k line, 0 < k → (line ∈ linesOf text ∧ Labelled k line ↔
    ∃ i, (reporting page)[k - 1]? = some i ∧ Shows k (sensorAt page i) line)
  keepsNumber_iff : ∀ k, 0 < k → k ≤ sensorCount → (KeepsNumber page text k ↔
    (reporting page)[k - 1]?.map (sensorAt page) = reading? page (k - 1))
  keepsNumbers_iff : (∀ k, 0 < k → k ≤ sensorCount → KeepsNumber page text k) ↔
    ∀ i j, i < j → j < sensorCount → sensorAt page i = 0 → sensorAt page j = 0

theorem exists_ofPage {page : Bytes} (hsize : pageLength ≤ page.size) :
    ∃ h, ofPage? page = some h := by
  rw [ofPage?, if_neg (Nat.not_lt.mpr hsize)]
  exact ⟨_, rfl⟩

theorem text_numbered {page : Bytes} (hsize : pageLength ≤ page.size) :
    ∃ h, ofPage? page = some h ∧ Numbered page h.text := by
  obtain ⟨h, hpage⟩ := exists_ofPage hsize
  exact ⟨h, hpage, fun _ _ hk => line_iff hpage hk, fun _ hk _ => keepsNumber_iff hpage hk,
    keepsNumbers_iff hpage⟩

theorem sensorAt_ofList (l : List UInt8) (i : Nat) : sensorAt (.ofList l) i =
    .ofNat ((l.getD (200 + 2 * i) 0).toNat + 256 * (l.getD (200 + 2 * i + 1) 0).toNat) := by
  simp only [sensorAt, Bytes.le16, Bytes.leNat, Bytes.byteAt_ofList, Nat.mul_zero, Nat.add_zero]

/-- A page with a first sensor of 27 C, a silent one and a third of 77 C. -/
def gappedPage : Bytes :=
  .ofList (List.replicate 200 0 ++ [44, 1, 0, 0, 94, 1] ++ List.replicate 306 0)

theorem size_gappedPage : gappedPage.size = pageLength := by
  rw [gappedPage, Bytes.size_ofList, List.length_append, List.length_append,
    List.length_replicate, List.length_replicate]
  rfl

theorem text_numbered_gapped : pageLength ≤ gappedPage.size ∧
    ∃ h, ofPage? gappedPage = some h ∧ Numbered gappedPage h.text :=
  ⟨Nat.le_of_eq size_gappedPage.symm, text_numbered (Nat.le_of_eq size_gappedPage.symm)⟩

/-- The third sensor is shown under the number two. -/
theorem not_text_keepsNumber :
    ¬ ∀ (page : Bytes) (h : Health), page.size = pageLength → ofPage? page = some h →
      ∀ k, 0 < k → k ≤ sensorCount → KeepsNumber page h.text k := by
  intro hall
  obtain ⟨h, hpage⟩ := exists_ofPage (Nat.le_of_eq size_gappedPage.symm)
  have hsilent : sensorAt gappedPage 1 = 0 := by
    rw [gappedPage, sensorAt_ofList]
    decide +kernel
  have hreports : sensorAt gappedPage 2 ≠ 0 := by
    rw [gappedPage, sensorAt_ofList]
    decide +kernel
  have hkeeps := (keepsNumbers_iff hpage).mp (hall gappedPage h size_gappedPage hpage)
  exact hreports (hkeeps 1 2 (by decide) (by decide) hsilent)

end DriveHealth.Nvme.Health
