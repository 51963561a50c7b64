import Mathlib.Data.List.Basic

set_option autoImplicit false

namespace Histories

universe u

variable {Moment : Type u}

theorem split_concat {history before after : List Moment} {last moment : Moment}
    (split : history ++ [last] = before ++ moment :: after) :
    (history = before ∧ last = moment) ∨
      ∃ rest, after = rest ++ [last] ∧ history = before ++ moment :: rest := by
  rcases List.eq_nil_or_concat after with rfl | ⟨rest, final, rfl⟩
  · left
    have parts := List.append_inj' split (by simp)
    exact ⟨parts.1, by simpa using parts.2⟩
  · right
    rw [List.concat_eq_append, ← List.cons_append, ← List.append_assoc] at split
    have parts := List.append_inj' split (by simp)
    obtain rfl : last = final := by simpa using parts.2
    exact ⟨rest, List.concat_eq_append, parts.1⟩

def Always (owes : List Moment → Moment → Prop) (history : List Moment) : Prop :=
  ∀ before moment after, history = before ++ moment :: after → owes before moment

theorem always_nil (owes : List Moment → Moment → Prop) : Always owes [] := by
  intro before moment after split
  simp at split

theorem Always.concat {owes : List Moment → Moment → Prop} {history : List Moment}
    {moment : Moment} (always : Always owes history) (now : owes history moment) :
    Always owes (history ++ [moment]) := by
  intro before earlier after split
  rcases split_concat split with ⟨rfl, rfl⟩ | ⟨rest, -, older⟩
  · exact now
  · exact always before earlier rest older

theorem Always.front {owes : List Moment → Moment → Prop} {history : List Moment} {last : Moment}
    (always : Always owes (history ++ [last])) : Always owes history := by
  intro before moment after split
  exact always before moment (after ++ [last]) (by simp [split])

theorem Always.of_append {owes : List Moment → Moment → Prop} {history later : List Moment}
    (always : Always owes (history ++ later)) : Always owes history := by
  intro before moment after split
  exact always before moment (after ++ later) (by simp [split])

theorem Always.mem {owes : List Moment → Moment → Prop} {before after : List Moment}
    {moment : Moment} (always : Always owes (before ++ after)) (member : moment ∈ after) :
    ∃ between, between <+: after ∧ owes (before ++ between) moment := by
  obtain ⟨between, rest, rfl⟩ := List.append_of_mem member
  exact ⟨between, List.prefix_append _ _, always _ moment rest (by simp)⟩

theorem Always.count_eq_one [DecidableEq Moment] {owes : List Moment → Moment → Prop}
    {history : List Moment} {moment : Moment} (always : Always owes history)
    (first : ∀ before, owes before moment → moment ∉ before) (member : moment ∈ history) :
    history.count moment = 1 := by
  obtain ⟨before, after, rfl⟩ := List.append_of_mem member
  have notBefore := first before (always before moment after rfl)
  have notAfter : moment ∉ after := by
    intro again
    obtain ⟨between, rest, rfl⟩ := List.append_of_mem again
    have owed := always (before ++ moment :: between) moment rest (by simp)
    exact first _ owed (by simp)
  simp [List.count_append, List.count_eq_zero_of_not_mem notBefore,
    List.count_eq_zero_of_not_mem notAfter]

def Since (marks breaks : Moment → Prop) (history : List Moment) : Prop :=
  ∃ before moment after, history = before ++ moment :: after ∧ marks moment ∧
    ∀ later ∈ after, ¬ breaks later

variable {marks breaks : Moment → Prop}

theorem not_since_nil : ¬ Since marks breaks [] := by
  rintro ⟨before, moment, after, split, -⟩
  simp at split

theorem since_concat {history : List Moment} {last : Moment} :
    Since marks breaks (history ++ [last]) ↔
      marks last ∨ Since marks breaks history ∧ ¬ breaks last := by
  constructor
  · rintro ⟨before, moment, after, split, marked, kept⟩
    rcases split_concat split with ⟨-, rfl⟩ | ⟨rest, rfl, older⟩
    · exact .inl marked
    · refine .inr ⟨⟨before, moment, rest, older, marked, ?_⟩, kept last (by simp)⟩
      intro later member
      exact kept later (List.mem_append_left _ member)
  · rintro (marked | ⟨⟨before, moment, after, rfl, marked, kept⟩, keeps⟩)
    · exact ⟨history, last, [], rfl, marked, List.forall_mem_nil _⟩
    · refine ⟨before, moment, after ++ [last], by simp, marked, ?_⟩
      intro later member
      rcases List.mem_append.mp member with earlier | now
      · exact kept later earlier
      · rwa [List.mem_singleton.mp now]

theorem Since.marked {history : List Moment} (since : Since marks breaks history) :
    ∃ moment ∈ history, marks moment := by
  obtain ⟨before, moment, after, rfl, marked, -⟩ := since
  exact ⟨moment, by simp, marked⟩

end Histories
