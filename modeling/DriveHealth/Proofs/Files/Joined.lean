import DriveHealth.Files.Tree
import Mathlib.Data.List.Basic

/-!
Where a joined path leads to. A path that ends in the name of an entry leads to the entry of that
name in the directory that the rest of the path leads to, whatever the tree holds.
-/
namespace DriveHealth.Files

/-- A name of one step, and of a step down. -/
structure EntryName (name : String) : Prop where
  no_slash : '/' ∉ name.toList
  ne_empty : name ≠ ""
  ne_dot : name ≠ "."
  ne_dots : name ≠ ".."

theorem startsWith_slash_eq_false {path : String} (h : '/' ∉ path.toList) :
    path.startsWith "/" = false := by
  have hslash : "/".toList = ['/'] := by simp
  rw [← Bool.not_eq_true, String.startsWith_string_iff, hslash]
  rintro ⟨r, hr⟩
  exact h (hr ▸ List.mem_cons_self)

/-- A path joined to a directory is the directory, with or without a last slash, and the name. -/
theorem join_cases {name : String} (h : '/' ∉ name.toList) (directory : String) :
    (directory = "" ∧ join directory name = name) ∨
      ∃ stem, (directory = stem ∧ stem ≠ "" ∨ directory = stem ++ "/") ∧
        join directory name = stem ++ "/" ++ name := by
  rw [join, startsWith_slash_eq_false h, if_neg Bool.false_ne_true]
  by_cases hempty : directory = ""
  · subst hempty
    exact .inl ⟨rfl, by simp⟩
  · refine .inr ?_
    have hisEmpty : directory.isEmpty = false := by simpa using hempty
    cases hlast : directory.endsWith "/" with
    | true =>
      obtain ⟨stem, hstem⟩ := String.Slice.endsWith_string_iff.mp hlast
      rw [String.copy_toSlice] at hstem
      have hdirectory : directory = String.ofList stem ++ "/" := by
        rw [← String.toList_inj, ← hstem]
        simp
      refine ⟨String.ofList stem, .inr hdirectory, ?_⟩
      simp [hdirectory]
    | false => exact ⟨directory, .inl ⟨rfl, hempty⟩, by simp [hisEmpty]⟩

namespace Tree

/-- The directory that a path is joined to; the empty path stands for the current one. -/
def directoryOf (t : Tree) (path : String) : Except SystemError Place :=
  if path.isEmpty then .ok t.current else t.resolve path

/-- The place is that of an entry of the directory at a path. -/
def EntryAt (t : Tree) (directory name : String) (place : Place) : Prop :=
  ∃ parent, t.directoryOf directory = .ok parent ∧ t.find? parent = some .directory ∧
    place = parent ++ [name]

theorem names_of_no_slash {name : String} (h : '/' ∉ name.toList) : names name = [name] := by
  rw [names, List.splitOn_eq_singleton h]
  simp

theorem names_slash (path : String) {name : String} (h : '/' ∉ name.toList) :
    names (path ++ "/" ++ name) = names path ++ [name] := by
  have hslash : "/".toList = ['/'] := by simp
  have hlist : (path ++ "/" ++ name).toList = path.toList ++ '/' :: name.toList := by
    rw [String.toList_append, String.toList_append, hslash, List.append_assoc,
      List.singleton_append]
  rw [names, hlist, List.splitOn_append_cons_self, List.map_append, ← names, ← names,
    names_of_no_slash h]

section Walk

variable {t : Tree} {place last : Place}

theorem walk_concat (t : Tree) (place : Place) (l : List String) (name : String) :
    t.walk place (l ++ [name]) = (t.walk place l).bind fun p => t.walk p [name] := by
  induction l generalizing place with
  | nil => rfl
  | cons a r ih =>
    rw [List.cons_append, walk, walk]
    cases t.find? place with
    | none => rfl
    | some item =>
      cases item with
      | file data => rfl
      | directory =>
        dsimp only
        split
        · rfl
        · exact ih _

theorem walk_concat_eq_ok_iff {l : List String} {name : String} :
    t.walk place (l ++ [name]) = .ok last ↔
      ∃ p, t.walk place l = .ok p ∧ t.walk p [name] = .ok last := by
  rw [walk_concat]
  cases t.walk place l with
  | error e => simp [Except.bind]
  | ok p => simp [Except.bind]

theorem walk_single_eq_ok_iff {name : String} : t.walk place [name] = .ok last ↔
    t.find? place = some .directory ∧ name.utf8ByteSize ≤ longestName ∧
      last = enter place name := by
  rw [walk]
  cases t.find? place with
  | none => simp
  | some item =>
    cases item with
    | file data => simp
    | directory =>
      dsimp only
      split
      case isTrue h => simp [Nat.not_le.mpr h]
      case isFalse h => simp [walk, Nat.not_lt.mp h, eq_comm]

theorem enter_empty (place : Place) : enter place "" = place := by
  simp [enter]

theorem enter_entry {name : String} (h : EntryName name) (place : Place) :
    enter place name = place ++ [name] := by
  simp [enter, h.ne_empty, h.ne_dot, h.ne_dots]

end Walk

section Resolve

variable {t : Tree} {place parent : Place} {path name directory stem : String}

theorem pathError?_eq_none_iff :
    pathError? path = none ↔ '\x00' ∉ path.toList ∧ path.utf8ByteSize ≤ longestPath := by
  unfold pathError?
  rw [String.contains_char_eq]
  by_cases hnul : '\x00' ∈ path.toList
  · simp [hnul]
  · simp [hnul]

theorem pathError?_left {rest : String} (h : pathError? (path ++ rest) = none) :
    pathError? path = none := by
  rw [pathError?_eq_none_iff] at h ⊢
  rw [String.toList_append, List.mem_append, not_or, String.utf8ByteSize_append] at h
  exact ⟨h.1.1, Nat.le_of_add_right_le h.2⟩

theorem start_append (t : Tree) (h : path ≠ "") (rest : String) :
    t.start (path ++ rest) = t.start path := by
  have hslash : "/".toList = ['/'] := by simp
  have hstarts : (path ++ rest).startsWith "/" = path.startsWith "/" := by
    rw [Bool.eq_iff_iff, String.startsWith_string_iff, String.startsWith_string_iff, hslash,
      String.toList_append]
    cases hpath : path.toList with
    | nil => exact absurd (String.toList_eq_nil_iff.mp hpath) h
    | cons c r => simp
  rw [start, hstarts, start]

theorem resolve_eq_ok_iff : t.resolve path = .ok place ↔ pathError? path = none ∧ path ≠ "" ∧
    t.walk (t.start path) (names path) = .ok place := by
  unfold resolve
  cases pathError? path with
  | some e => simp
  | none =>
    by_cases hempty : path = ""
    · simp [hempty]
    · simp [hempty]

/-- A last slash does not change where a path to a directory leads. -/
theorem directoryOf_eq_ok_iff (hpath : directory = stem ∧ stem ≠ "" ∨ directory = stem ++ "/")
    (herror : pathError? directory = none) (hparent : t.find? parent = some .directory) :
    t.directoryOf directory = .ok parent ↔
      t.walk (t.start (stem ++ "/")) (names stem) = .ok parent := by
  have hslash : "/" ≠ "" := by decide
  rcases hpath with ⟨rfl, hstem⟩ | rfl
  · rw [directoryOf, if_neg (by simpa using hstem), resolve_eq_ok_iff, start_append t hstem]
    simp [herror, hstem]
  · have hnames : names (stem ++ "/") = names stem ++ [""] := by
      have hempty := @names_slash stem "" (by simp)
      rwa [String.append_empty] at hempty
    rw [directoryOf, if_neg (by simp [hslash]), resolve_eq_ok_iff, hnames, walk_concat_eq_ok_iff]
    simp only [walk_single_eq_ok_iff, enter_empty]
    constructor
    · rintro ⟨-, -, p, hwalk, -, -, rfl⟩
      exact hwalk
    · intro hwalk
      exact ⟨herror, by simp [hslash], parent, hwalk, hparent, Nat.zero_le _, rfl⟩

/-- A joined path that is resolved leads to the entry in the directory. -/
theorem resolve_join_eq_ok_iff (h : EntryName name) :
    t.resolve (join directory name) = .ok place ↔ pathError? (join directory name) = none ∧
      name.utf8ByteSize ≤ longestName ∧ t.EntryAt directory name place := by
  rw [resolve_eq_ok_iff]
  refine and_congr_right fun herror => ?_
  rcases join_cases h.no_slash directory with ⟨rfl, hjoin⟩ | ⟨stem, hstem, hjoin⟩
  · have hstart : t.start name = t.current := by
      rw [start, startsWith_slash_eq_false h.no_slash, if_neg Bool.false_ne_true]
    have hcurrent : t.directoryOf "" = .ok t.current := rfl
    rw [hjoin, names_of_no_slash h.no_slash, walk_single_eq_ok_iff, enter_entry h, hstart]
    simp only [EntryAt, hcurrent, Except.ok.injEq, ne_eq, h.ne_empty, not_false_eq_true, true_and,
      exists_eq_left']
    exact and_left_comm
  · have hslash : stem ++ "/" ≠ "" := by simp
    have hdirectory : pathError? directory = none := by
      rw [hjoin] at herror
      rcases hstem with ⟨rfl, -⟩ | rfl
      · exact pathError?_left (pathError?_left herror)
      · exact pathError?_left herror
    rw [hjoin, names_slash stem h.no_slash, walk_concat_eq_ok_iff, start_append t hslash]
    simp only [walk_single_eq_ok_iff, enter_entry h]
    constructor
    · rintro ⟨-, p, hwalk, hp, hlength, rfl⟩
      exact ⟨hlength, p, (directoryOf_eq_ok_iff hstem hdirectory hp).mpr hwalk, hp, rfl⟩
    · rintro ⟨hlength, p, hparent, hp, rfl⟩
      exact ⟨by simp [hslash], p, (directoryOf_eq_ok_iff hstem hdirectory hp).mp hparent, hp,
        hlength, rfl⟩

end Resolve

end Tree
end DriveHealth.Files
