import DriveHealth.Text.Layout
import Mathlib.Data.List.Basic

/-!
Texts made of lines. A text that ends every line with a line feed falls apart into the lines it
was made of, as long as no line has a line feed of its own; and numbers, padding and texts that
are put together from single lines have none.
-/
namespace DriveHealth.Text

/-- A text without a line feed. -/
def OneLine (s : String) : Prop := '\n' ∉ s.toList

instance (s : String) : Decidable (OneLine s) := inferInstanceAs (Decidable ('\n' ∉ s.toList))

/-- The lines of a text, each of which a line feed ends. -/
def linesOf (s : String) : List String := ((s.toList.splitOn '\n').dropLast).map String.ofList

theorem splitOn_append {a : List Char} (h : '\n' ∉ a) (b : List Char) :
    (a ++ '\n' :: b).splitOn '\n' = a :: b.splitOn '\n' := by
  refine List.splitOnP_append_cons_of_forall_mem ?_ _ rfl _
  intro c hc
  rw [beq_eq_false_iff_ne]
  rintro rfl
  exact h hc

theorem toList_ofLines (l : List String) :
    (ofLines l).toList = l.flatMap fun s => s.toList ++ ['\n'] := by
  have hfold : ∀ s : String, (l.foldl (fun s line => s ++ line ++ "\n") s).toList =
      s.toList ++ l.flatMap fun s => s.toList ++ ['\n'] := by
    induction l with
    | nil => simp
    | cons line r ih =>
      intro s
      rw [List.foldl_cons, ih]
      simp
  exact hfold ""

/-- The lines of a text that was made of lines. -/
theorem linesOf_ofLines {l : List String} (h : ∀ s ∈ l, OneLine s) : linesOf (ofLines l) = l := by
  have hsplit : (l.flatMap fun s => s.toList ++ ['\n']).splitOn '\n' =
      l.map String.toList ++ [[]] := by
    induction l with
    | nil => exact List.splitOn_nil _
    | cons line r ih =>
      obtain ⟨hline, hrest⟩ := List.forall_mem_cons.mp h
      rw [List.flatMap_cons, List.append_assoc, List.singleton_append, splitOn_append hline,
        ih hrest]
      rfl
  have hback : String.ofList ∘ String.toList = id := funext fun s => String.ofList_toList
  rw [linesOf, toList_ofLines, hsplit, List.dropLast_concat, List.map_map, hback, List.map_id]

/-- A text that is written out is compared letter by letter. -/
theorem oneLine_ofList {l : List Char} (h : '\n' ∉ l) : OneLine (String.ofList l) := by
  rwa [OneLine, String.toList_ofList]

theorem oneLine_ite {p : Prop} [Decidable p] {s t : String} (hs : OneLine s) (ht : OneLine t) :
    OneLine (if p then s else t) := by
  split
  · exact hs
  · exact ht

@[simp] theorem oneLine_append (s t : String) : OneLine (s ++ t) ↔ OneLine s ∧ OneLine t := by
  simp [OneLine]

theorem oneLine_intercalate {sep : String} {l : List String} (hsep : OneLine sep)
    (h : ∀ s ∈ l, OneLine s) : OneLine (sep.intercalate l) := by
  induction l with
  | nil => simp [OneLine]
  | cons a r ih =>
    obtain ⟨ha, hr⟩ := List.forall_mem_cons.mp h
    cases r with
    | nil => rwa [String.intercalate_singleton]
    | cons b rest =>
      rw [String.intercalate_cons_cons, oneLine_append, oneLine_append]
      exact ⟨⟨ha, hsep⟩, ih hr⟩

theorem oneLine_lookup {α : Type} [BEq α] [LawfulBEq α] {l : List (α × String)}
    (h : ∀ e ∈ l, OneLine e.2) {a : α} {s : String} (hs : l.lookup a = some s) : OneLine s := by
  obtain ⟨before, after, rfl, -⟩ := List.lookup_eq_some_iff.mp hs
  exact h (a, s) (by simp)

/-- A number is written in digits. -/
theorem exists_of_mem_toDigits {b n : Nat} (hb : 1 < b) {c : Char} (h : c ∈ Nat.toDigits b n) :
    ∃ d < b, c = Nat.digitChar d := by
  induction n using Nat.strongRecOn with
  | ind n ih =>
    rw [Nat.toDigits_eq_if hb] at h
    by_cases hn : n < b
    · rw [if_pos hn, List.mem_singleton] at h
      exact ⟨n, hn, h⟩
    · rw [if_neg hn] at h
      rcases List.mem_append.mp h with h | h
      · exact ih (n / b) (Nat.div_lt_self (by omega) hb) h
      · exact ⟨n % b, Nat.mod_lt n (by omega), List.mem_singleton.mp h⟩

theorem digitChar_ne : ∀ d < 16,
    Nat.digitChar d ≠ '\n' ∧ (Nat.digitChar d).toUpper ≠ '\n' := by
  decide

@[simp] theorem oneLine_decimal (n : Nat) : OneLine (decimal n) := by
  intro h
  rw [decimal, String.toList_ofList] at h
  obtain ⟨d, hd, heq⟩ := exists_of_mem_toDigits (by decide) h
  exact (digitChar_ne d (by omega)).1 heq.symm

@[simp] theorem oneLine_repr (n : Nat) : OneLine n.repr := oneLine_decimal n

@[simp] theorem oneLine_integer (i : Int) : OneLine (integer i) := by
  unfold integer
  refine oneLine_ite ?_ (oneLine_decimal _)
  rw [oneLine_append]
  exact ⟨oneLine_ofList (by decide), oneLine_decimal _⟩

@[simp] theorem oneLine_hexLower (n : Nat) : OneLine (hexLower n) := by
  intro h
  rw [hexLower, String.toList_ofList] at h
  obtain ⟨d, hd, heq⟩ := exists_of_mem_toDigits (by decide) h
  exact (digitChar_ne d hd).1 heq.symm

@[simp] theorem oneLine_hexUpper (n : Nat) : OneLine (hexUpper n) := by
  intro h
  rw [hexUpper, String.toList_ofList] at h
  obtain ⟨c, hc, heq⟩ := List.mem_map.mp h
  obtain ⟨d, hd, rfl⟩ := exists_of_mem_toDigits (by decide) hc
  exact (digitChar_ne d hd).2 heq

theorem oneLine_repeated {c : Char} (hc : c ≠ '\n') (n : Nat) : OneLine (repeated c n) := by
  simp [OneLine, repeated, hc.symm]

@[simp] theorem oneLine_hex (width n : Nat) : OneLine (hex width n) := by
  simp [hex, padLeft, oneLine_repeated]

@[simp] theorem oneLine_hexCaps (width n : Nat) : OneLine (hexCaps width n) := by
  simp [hexCaps, padLeft, oneLine_repeated]

@[simp] theorem oneLine_zeroPadded (width n : Nat) : OneLine (zeroPadded width n) := by
  simp [zeroPadded, padLeft, oneLine_repeated]

@[simp] theorem oneLine_padRight (width : Nat) (s : String) :
    OneLine (padRight width s) ↔ OneLine s := by
  simp [padRight, oneLine_repeated]

end DriveHealth.Text
