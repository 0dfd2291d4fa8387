import DriveHealth.Farm.Emission
import Mathlib.Data.List.Destutter
import Mathlib.Data.List.Sort

/-!
The order of the datasets in a combined file. It is the list that a stable sort by kind gives when
only the first of every run of one kind is kept, and it is determined by the first dataset of each
kind alone. So the order in which different kinds were pulled leaves no trace in the file.
-/
namespace DriveHealth.Farm

namespace Kind

/-- The place of a kind in a combined file. -/
def rank (k : Kind) : Nat := emissionOrder.idxOf k

theorem mem_emissionOrder (k : Kind) : k ∈ emissionOrder := by
  cases k <;> decide

theorem rank_injective : Function.Injective rank :=
  fun a _ h => (List.idxOf_inj (mem_emissionOrder a)).mp h

theorem pairwise_emissionOrder : emissionOrder.Pairwise fun a b => a.rank < b.rank := by
  decide

end Kind

/-- One dataset goes before another by its kind. -/
def Before (a b : Dataset) : Prop := a.kind.rank < b.kind.rank

instance : Std.Irrefl Before := ⟨fun a => Nat.lt_irrefl a.kind.rank⟩

instance : Std.Antisymm Before := ⟨fun _ _ h h' => absurd h' (Nat.lt_asymm h)⟩

instance : Trans Before Before Before := ⟨Nat.lt_trans⟩

/-- A dataset is the first one of its kind. -/
def IsFirst (l : List Dataset) (d : Dataset) : Prop :=
  l.find? (fun e => e.kind == d.kind) = some d

section First

variable {l o : List Dataset} {a b d : Dataset}

theorem isFirst_cons_of_eq (h : a.kind = d.kind) : IsFirst (a :: l) d ↔ d = a := by
  rw [IsFirst, List.find?_cons_of_pos (by simpa using h), Option.some.injEq, eq_comm]

theorem isFirst_cons_of_ne (h : a.kind ≠ d.kind) : IsFirst (a :: l) d ↔ IsFirst l d := by
  rw [IsFirst, List.find?_cons_of_neg (by simpa using h), IsFirst]

theorem mem_of_isFirst (h : IsFirst l d) : d ∈ l := List.mem_of_find?_eq_some h

theorem mem_inEmissionOrder_iff : d ∈ inEmissionOrder l ↔ IsFirst l d := by
  rw [inEmissionOrder, List.mem_filterMap]
  constructor
  · rintro ⟨k, -, hfind⟩
    have hkind : d.kind = k := by simpa using List.find?_some hfind
    rw [IsFirst, hkind]
    exact hfind
  · intro h
    exact ⟨d.kind, Kind.mem_emissionOrder d.kind, h⟩

theorem pairwise_inEmissionOrder (l : List Dataset) : (inEmissionOrder l).Pairwise Before := by
  refine Kind.pairwise_emissionOrder.filterMap _ ?_
  intro j k hjk a ha b hb
  have hj : a.kind = j := by simpa using List.find?_some ha
  have hk : b.kind = k := by simpa using List.find?_some hb
  rwa [Before, hj, hk]

/-- The first datasets of their kinds can be put in order in one way only. -/
theorem eq_inEmissionOrder (ho : o.Pairwise Before) (hmem : ∀ d, d ∈ o ↔ IsFirst l d) :
    o = inEmissionOrder l :=
  ho.eq_of_mem_iff (pairwise_inEmissionOrder l) fun d =>
    (hmem d).trans mem_inEmissionOrder_iff.symm

/-- In a list that is in order no kind repeats. -/
theorem isFirst_iff_mem (h : o.Pairwise Before) : IsFirst o d ↔ d ∈ o := by
  refine ⟨mem_of_isFirst, ?_⟩
  intro hd
  induction h with
  | nil => cases hd
  | @cons a r hbefore _ ih =>
    by_cases hkind : a.kind = d.kind
    · rcases List.mem_cons.mp hd with rfl | hmem
      · exact (isFirst_cons_of_eq rfl).mpr rfl
      · have hlt : a.kind.rank < d.kind.rank := hbefore d hmem
        rw [hkind] at hlt
        exact absurd hlt (Nat.lt_irrefl _)
    · rcases List.mem_cons.mp hd with rfl | hmem
      · exact absurd rfl hkind
      · exact (isFirst_cons_of_ne hkind).mpr (ih hmem)

theorem inEmissionOrder_eq_self (h : o.Pairwise Before) : inEmissionOrder o = o :=
  (eq_inEmissionOrder h fun _ => (isFirst_iff_mem h).symm).symm

end First

/-- The same datasets in another order, in which those of each kind keep theirs. -/
structure Reordered (l m : List Dataset) : Prop where
  perm : l.Perm m
  filter_eq : ∀ k, l.filter (fun d => d.kind == k) = m.filter fun d => d.kind == k

theorem Reordered.inEmissionOrder_eq {l m : List Dataset} (h : Reordered l m) :
    inEmissionOrder l = inEmissionOrder m := by
  unfold inEmissionOrder
  refine List.filterMap_congr fun k _ => ?_
  rw [← List.head?_filter, h.filter_eq k, List.head?_filter]

/-- Sorted by kind, those of one kind in the order that they had. -/
def sortedByKind (l : List Dataset) : List Dataset :=
  l.mergeSort fun a b => a.kind.rank ≤ b.kind.rank

/-- The first dataset of every run of one kind. -/
def firstsOfRuns (l : List Dataset) : List Dataset := l.destutter fun a b => a.kind ≠ b.kind

section Sorting

theorem rank_le_trans (a b c : Dataset) (hab : decide (a.kind.rank ≤ b.kind.rank) = true)
    (hbc : decide (b.kind.rank ≤ c.kind.rank) = true) :
    decide (a.kind.rank ≤ c.kind.rank) = true := by
  rw [decide_eq_true_eq] at *
  exact Nat.le_trans hab hbc

theorem rank_le_total (a b : Dataset) :
    (decide (a.kind.rank ≤ b.kind.rank) || decide (b.kind.rank ≤ a.kind.rank)) = true := by
  rw [Bool.or_eq_true, decide_eq_true_eq, decide_eq_true_eq]
  exact Nat.le_total _ _

theorem pairwise_sortedByKind (l : List Dataset) :
    (sortedByKind l).Pairwise fun a b => a.kind.rank ≤ b.kind.rank :=
  (List.pairwise_mergeSort rank_le_trans rank_le_total l).imp of_decide_eq_true

/-- The datasets of one kind are sorted already, so a stable sort leaves them as they are. -/
theorem reordered_sortedByKind (l : List Dataset) : Reordered l (sortedByKind l) where
  perm := (List.mergeSort_perm l _).symm
  filter_eq := by
    intro k
    have hkind : ∀ d ∈ l.filter (fun d => d.kind == k), d.kind = k := by
      intro d hd
      simpa using (List.mem_filter.mp hd).2
    have hsorted : (l.filter fun d => d.kind == k).Pairwise
        fun a b => decide (a.kind.rank ≤ b.kind.rank) = true := by
      refine List.pairwise_of_forall_mem_list fun a ha b hb => ?_
      rw [hkind a ha, hkind b hb]
      exact decide_eq_true (Nat.le_refl _)
    have hsublist := List.sublist_mergeSort rank_le_trans rank_le_total hsorted
      List.filter_sublist
    have hfilter := hsublist.filter fun d => d.kind == k
    simp only [List.filter_filter, Bool.and_self] at hfilter
    exact hfilter.eq_of_length
      (((List.mergeSort_perm l _).symm.filter fun d => d.kind == k).length_eq)

section Runs

variable {a b : Dataset} {l : List Dataset}

/-- Behind the end of a run only later kinds follow. -/
theorem before_of_mem (h : (a :: b :: l).Pairwise fun a b => a.kind.rank ≤ b.kind.rank)
    (hne : a.kind ≠ b.kind) {x : Dataset} (hx : x ∈ b :: l) : Before a x := by
  obtain ⟨hfirst, hrest⟩ := List.pairwise_cons.mp h
  have hab : a.kind.rank < b.kind.rank :=
    Nat.lt_of_le_of_ne (hfirst b List.mem_cons_self) fun heq => hne (Kind.rank_injective heq)
  rcases List.mem_cons.mp hx with rfl | hmem
  · exact hab
  · exact Nat.lt_of_lt_of_le hab ((List.pairwise_cons.mp hrest).1 x hmem)

theorem pairwise_destutter' (h : (a :: l).Pairwise fun a b => a.kind.rank ≤ b.kind.rank) :
    (l.destutter' (fun a b => a.kind ≠ b.kind) a).Pairwise Before := by
  induction l generalizing a with
  | nil => exact List.pairwise_singleton _ _
  | cons b r ih =>
    by_cases hkind : a.kind = b.kind
    · rw [List.destutter'_cons_neg _ (not_not_intro hkind)]
      exact ih (h.sublist ((List.sublist_cons_self b r).cons_cons a))
    · rw [List.destutter'_cons_pos _ hkind, List.pairwise_cons]
      refine ⟨?_, ih h.of_cons⟩
      intro x hx
      exact before_of_mem h hkind ((List.destutter'_sublist _ _ _).subset hx)

/-- What is kept of a sorted list are the first datasets of their kinds. -/
theorem mem_destutter'_iff (h : (a :: l).Pairwise fun a b => a.kind.rank ≤ b.kind.rank)
    (d : Dataset) :
    d ∈ l.destutter' (fun a b => a.kind ≠ b.kind) a ↔ IsFirst (a :: l) d := by
  induction l generalizing a with
  | nil =>
    rw [List.destutter'_nil, List.mem_singleton]
    constructor
    · rintro rfl
      exact (isFirst_cons_of_eq rfl).mpr rfl
    · intro hfirst
      exact List.mem_singleton.mp (mem_of_isFirst hfirst)
  | cons b r ih =>
    by_cases hkind : a.kind = b.kind
    · rw [List.destutter'_cons_neg _ (not_not_intro hkind),
        ih (h.sublist ((List.sublist_cons_self b r).cons_cons a))]
      by_cases had : a.kind = d.kind
      · rw [isFirst_cons_of_eq had, isFirst_cons_of_eq had]
      · rw [isFirst_cons_of_ne had, isFirst_cons_of_ne had, isFirst_cons_of_ne (hkind ▸ had)]
    · rw [List.destutter'_cons_pos _ hkind, List.mem_cons, ih h.of_cons]
      by_cases had : a.kind = d.kind
      · rw [isFirst_cons_of_eq had, or_iff_left]
        intro hfirst
        have hlt : a.kind.rank < d.kind.rank := before_of_mem h hkind (mem_of_isFirst hfirst)
        rw [had] at hlt
        exact Nat.lt_irrefl _ hlt
      · rw [isFirst_cons_of_ne had, or_iff_right]
        rintro rfl
        exact had rfl

end Runs

theorem firstsOfRuns_eq {l : List Dataset}
    (h : l.Pairwise fun a b => a.kind.rank ≤ b.kind.rank) :
    firstsOfRuns l = inEmissionOrder l := by
  cases l with
  | nil => rfl
  | cons a r => exact eq_inEmissionOrder (pairwise_destutter' h) (mem_destutter'_iff h)

/-- A stable sort and one pass over the sorted list put the datasets in order. -/
theorem firstsOfRuns_sortedByKind (l : List Dataset) :
    firstsOfRuns (sortedByKind l) = inEmissionOrder l := by
  rw [firstsOfRuns_eq (pairwise_sortedByKind l), (reordered_sortedByKind l).inEmissionOrder_eq]

end Sorting

/-- The datasets of a combined file, put in order from those that were pulled. -/
structure PutInOrder (l o : List Dataset) : Prop where
  increasing : o.Pairwise fun a b => a.kind.rank < b.kind.rank
  /-- Of each kind that was pulled it holds the first dataset, and nothing else. -/
  mem_iff : ∀ d, d ∈ o ↔ l.find? (fun e => e.kind == d.kind) = some d
  sorted : o = firstsOfRuns (sortedByKind l)
  idempotent : inEmissionOrder o = o

theorem putInOrder_inEmissionOrder (l : List Dataset) : PutInOrder l (inEmissionOrder l) where
  increasing := pairwise_inEmissionOrder l
  mem_iff _ := mem_inEmissionOrder_iff
  sorted := (firstsOfRuns_sortedByKind l).symm
  idempotent := inEmissionOrder_eq_self (pairwise_inEmissionOrder l)

/-- The file that is written does not tell in which order different kinds were pulled. -/
theorem inEmissionOrder_canonical (l : List Dataset) :
    PutInOrder l (inEmissionOrder l) ∧ ∀ m, Reordered l m →
      inEmissionOrder m = inEmissionOrder l ∧
      Layout.plan (inEmissionOrder m) = Layout.plan (inEmissionOrder l) ∧
      ∀ kind identity, Emission.emit kind identity (inEmissionOrder m) =
        Emission.emit kind identity (inEmissionOrder l) := by
  refine ⟨putInOrder_inEmissionOrder l, ?_⟩
  intro m hm
  have horder := hm.inEmissionOrder_eq.symm
  exact ⟨horder, by rw [horder], fun kind identity => by rw [horder]⟩

/-- Two datasets of one kind around one of another kind. -/
def stickyAround : List Dataset :=
  [⟨.sticky, .ofList [1], 1, 2⟩, ⟨.current, .ofList [2], 3, 4⟩, ⟨.sticky, .ofList [3], 5, 6⟩]

/-- The same with the other kind first. -/
def currentAhead : List Dataset :=
  [⟨.current, .ofList [2], 3, 4⟩, ⟨.sticky, .ofList [1], 1, 2⟩, ⟨.sticky, .ofList [3], 5, 6⟩]

theorem inEmissionOrder_canonical_three :
    Reordered stickyAround currentAhead ∧
      inEmissionOrder currentAhead = inEmissionOrder stickyAround ∧
      Layout.plan (inEmissionOrder currentAhead) = Layout.plan (inEmissionOrder stickyAround) := by
  have hreordered : Reordered stickyAround currentAhead :=
    ⟨List.Perm.swap _ _ _, fun k => by cases k <;> rfl⟩
  obtain ⟨horder, hplan, -⟩ := (inEmissionOrder_canonical stickyAround).2 _ hreordered
  exact ⟨hreordered, horder, hplan⟩

end DriveHealth.Farm
