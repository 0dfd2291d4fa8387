import DriveHealth.Proofs.Text.Lines
import Mathlib.Algebra.GroupWithZero.Nat

/-!
Phrases in a text. A text tells a phrase if the phrase is in it, and begins with it if it comes
first. What was put together tells each of its parts, and it cannot tell a phrase that has more of
some letter than all the parts together.
-/
namespace DriveHealth.Text

def Tells (phrase text : String) : Prop := phrase.toList <:+: text.toList

def Begins (phrase text : String) : Prop := phrase.toList <+: text.toList

instance (phrase text : String) : Decidable (Begins phrase text) :=
  inferInstanceAs (Decidable (phrase.toList <+: text.toList))

/-- How often a letter is in a text. -/
def letters (c : Char) (s : String) : Nat := s.toList.count c

theorem Begins.append {phrase s : String} (h : Begins phrase s) (t : String) :
    Begins phrase (s ++ t) := by
  rw [Begins, String.toList_append]
  exact h.trans (List.prefix_append _ _)

theorem ne_of_not_begins {phrase s : String} (h : ¬ Begins phrase s) : s ≠ phrase := by
  rintro rfl
  exact h List.prefix_rfl

section Tells

variable {phrase s t : String}

theorem tells_refl (s : String) : Tells s s := List.infix_rfl

theorem Tells.append_left (h : Tells phrase s) : Tells phrase (s ++ t) := by
  rw [Tells, String.toList_append]
  exact h.trans (List.infix_append_left)

theorem Tells.append_right (h : Tells phrase t) : Tells phrase (s ++ t) := by
  rw [Tells, String.toList_append]
  exact h.trans (List.infix_append_right)

theorem tells_intercalate (sep : String) {l : List String} (h : s ∈ l) :
    Tells s (sep.intercalate l) := by
  induction l with
  | nil => cases h
  | cons a r ih =>
    cases r with
    | nil =>
      obtain rfl := List.mem_singleton.mp h
      rw [String.intercalate_singleton]
      exact tells_refl s
    | cons b rest =>
      rw [String.intercalate_cons_cons]
      rcases List.mem_cons.mp h with rfl | hrest
      · exact (tells_refl s).append_left.append_left
      · exact (ih hrest).append_right

theorem Tells.letters_le (c : Char) (h : Tells phrase s) : letters c phrase ≤ letters c s :=
  h.sublist.count_le c

end Tells

section Letters

variable {c : Char}

@[simp] theorem letters_append (s t : String) : letters c (s ++ t) = letters c s + letters c t := by
  rw [letters, String.toList_append, List.count_append]
  rfl

/-- A text that is written out is searched letter by letter. -/
theorem letters_ofList {l : List Char} (h : c ∉ l) : letters c (String.ofList l) = 0 := by
  rw [letters, String.toList_ofList, List.count_eq_zero_of_not_mem h]

theorem letters_intercalate {sep : String} (hsep : letters c sep = 0) (l : List String) :
    letters c (sep.intercalate l) = (l.map (letters c)).sum := by
  induction l with
  | nil => exact letters_ofList List.not_mem_nil
  | cons a r ih =>
    cases r with
    | nil => rw [String.intercalate_singleton, List.map_singleton, List.sum_singleton]
    | cons b rest =>
      simp only [String.intercalate_cons_cons, letters_append, hsep, ih, List.map_cons,
        List.sum_cons, Nat.add_zero]

theorem letters_decimal (hc : ∀ d < 10, Nat.digitChar d ≠ c) (n : Nat) :
    letters c (decimal n) = 0 := by
  refine letters_ofList fun hmem => ?_
  obtain ⟨d, hd, rfl⟩ := exists_of_mem_toDigits (by decide) hmem
  exact hc d hd rfl

theorem letters_hexCaps (hc : ∀ d < 16, (Nat.digitChar d).toUpper ≠ c) (width n : Nat) :
    letters c (hexCaps width n) = 0 := by
  have hdigits : letters c (hexUpper n) = 0 := by
    refine letters_ofList fun hmem => ?_
    obtain ⟨digit, hdigit, rfl⟩ := List.mem_map.mp hmem
    obtain ⟨d, hd, rfl⟩ := exists_of_mem_toDigits (by decide) hdigit
    exact hc d hd rfl
  have hzeros : letters c (repeated '0' (width - (hexUpper n).length)) = 0 := by
    refine letters_ofList fun hmem => ?_
    exact hc 0 (by decide) (List.eq_of_mem_replicate hmem).symm
  rw [hexCaps, padLeft, letters_append, hzeros, hdigits]

end Letters
end DriveHealth.Text
