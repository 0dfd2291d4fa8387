import DriveHealth.Proofs.Farm.Emitted

/-!
When a sink is closed. Whatever it refuses, a sink is closed once if the datasets have a layout.
Datasets without one are refused before the sink is asked anything, so it is left open.
-/
namespace DriveHealth.Farm

/-- How often a sink is closed. -/
def closes (t : SinkTrace) : Nat := t.countP fun e => e.1 = .close

theorem closes_append (t u : SinkTrace) : closes (t ++ u) = closes t + closes u :=
  List.countP_append

theorem closes_close (closed : Except SystemError Unit) : closes [⟨.close, closed⟩] = 1 := rfl

namespace Layout

/-- Every refusal of a layout is told as a bad parameter. -/
theorem exists_badParameter_of_place {offset : Nat} {l : List Dataset} {e : Error}
    (h : place offset l = .error e) : ∃ text, e = .badParameter text := by
  induction l generalizing offset with
  | nil =>
    rw [place] at h
    cases h
  | cons d r ih =>
    by_cases hsize : d.payload.size < 2 ^ 32
    · by_cases hoffset : offset < 2 ^ 32
      · rw [place_cons hsize hoffset] at h
        cases hrest : place (offset + d.payload.size + (placed offset d r).padding) r with
        | error e' =>
          rw [hrest] at h
          cases h
          exact ih hrest
        | ok x =>
          rw [hrest] at h
          cases h
      · rw [place, if_neg (Nat.not_le.mpr hsize), if_pos (Nat.not_lt.mp hoffset)] at h
        cases h
        exact ⟨_, rfl⟩
    · rw [place, if_pos (Nat.not_lt.mp hsize)] at h
      cases h
      exact ⟨_, rfl⟩

theorem exists_badParameter_of_plan {l : List Dataset} {e : Error} (h : plan l = .error e) :
    ∃ text, e = .badParameter text := by
  by_cases hcount : l.length ≤ 2039
  · rw [plan_eq_map hcount] at h
    cases hplace : place (firstStart l) l with
    | error e' =>
      rw [hplace] at h
      cases h
      exact exists_badParameter_of_place hplace
    | ok x =>
      rw [hplace] at h
      cases h
  · have hlong : 2 ^ 16 ≤ headerSize + descriptorSize * l.length :=
      Nat.not_lt.mp fun hlt => hcount ((tableLength_lt_iff l.length).mp hlt)
    rw [plan] at h
    simp only [if_pos hlong] at h
    cases h
    exact ⟨_, rfl⟩

end Layout

namespace Emission

open Program

variable {σ : Type} (handler : (c : SinkCall) → σ → c.Reply × σ) (s : σ) (kind : DriveKind)
  (identity : Identity)

theorem Attempted.closes_eq_zero {l : List Bytes} {t : SinkTrace}
    {result : Except SystemError Unit} (h : Attempted l t result) : closes t = 0 := by
  rw [closes, List.countP_eq_zero]
  intro e he
  simpa using h.ne_close e he

/-- The close is the last call, and the only one of its kind. -/
theorem exists_close_of_plan {l : List Dataset} {y : Layout} (hplan : Layout.plan l = .ok y) :
    ∃ before closed, conversation handler (emit kind identity l) s =
      before ++ [⟨.close, closed⟩] ∧ closes before = 0 := by
  obtain ⟨u, _, closed, hconversation, hattempt, _⟩ :=
    attempted_of_ends_emit hplan (ends_conversation handler (emit kind identity l) s)
  exact ⟨u, closed, hconversation, hattempt.closes_eq_zero⟩

theorem emit_of_refused {l : List Dataset} {e : Error} (hplan : Layout.plan l = .error e) :
    emit kind identity l = .done (.error e) := by
  rw [emit]
  simp only [hplan]

theorem refused_of_not_fits {l : List Dataset} (h : ¬Layout.Fits l) :
    ∃ text, Layout.plan l = .error (.badParameter text) := by
  cases hplan : Layout.plan l with
  | error e =>
    obtain ⟨text, rfl⟩ := Layout.exists_badParameter_of_plan hplan
    exact ⟨text, rfl⟩
  | ok y => exact absurd ((Layout.exists_plan_iff l).mp ⟨y, hplan⟩) h

/-- A sink is closed once exactly when the datasets have a layout, and then by the last call. It
is asked nothing for datasets that have none. -/
theorem emit_closes_iff (l : List Dataset) :
    (closes (conversation handler (emit kind identity l) s) = 1 ↔ Layout.Fits l) ∧
    (Layout.Fits l → ∃ before closed, conversation handler (emit kind identity l) s =
      before ++ [⟨.close, closed⟩] ∧ closes before = 0) ∧
    (¬Layout.Fits l → conversation handler (emit kind identity l) s = [] ∧
      ∃ text, (run handler (emit kind identity l) s).1 = .error (.badParameter text)) := by
  have hclosed : Layout.Fits l → ∃ before closed,
      conversation handler (emit kind identity l) s = before ++ [⟨.close, closed⟩] ∧
        closes before = 0 := by
    intro hfits
    obtain ⟨y, hplan⟩ := (Layout.exists_plan_iff l).mpr hfits
    exact exists_close_of_plan handler s kind identity hplan
  have hrefused : ¬Layout.Fits l → conversation handler (emit kind identity l) s = [] ∧
      ∃ text, (run handler (emit kind identity l) s).1 = .error (.badParameter text) := by
    intro hfits
    obtain ⟨text, hplan⟩ := refused_of_not_fits hfits
    rw [emit_of_refused kind identity hplan]
    exact ⟨rfl, text, rfl⟩
  refine ⟨⟨?_, ?_⟩, hclosed, hrefused⟩
  · intro hone
    by_contra hfits
    rw [(hrefused hfits).1] at hone
    cases hone
  · intro hfits
    obtain ⟨before, closed, hconversation, hbefore⟩ := hclosed hfits
    rw [hconversation, closes_append, hbefore, closes_close]

/-- One dataset more than a header of 16 bits can count. -/
def tooMany : List Dataset := List.replicate 2040 ⟨.factory, .empty, 0, 0⟩

theorem not_fits_tooMany : ¬Layout.Fits tooMany := by
  intro h
  have hcount := h.count
  rw [tooMany, List.length_replicate] at hcount
  omega

/-- A sink in memory that refuses nothing is left open by datasets without a layout. -/
theorem not_emit_closes_once : ¬ ∀ (s : Sink) (kind : DriveKind) (identity : Identity)
    (l : List Dataset), closes (conversation Sink.answer (emit kind identity l) s) = 1 := by
  intro h
  obtain ⟨text, hplan⟩ := refused_of_not_fits not_fits_tooMany
  have hone := h {} .ata ⟨"", "", ""⟩ tooMany
  rw [emit_of_refused .ata ⟨"", "", ""⟩ hplan] at hone
  cases hone

end Emission
end DriveHealth.Farm
