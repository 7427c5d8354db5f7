import CBUSPicoLib.Library.Runs
import Mathlib.Data.List.Basic

/-!
# A stream with one slot for a refused text

Texts are handed over one after the other. The stream accepts or refuses each;
a refused text is kept in the only slot and offered again later. The stream is in
order as long as it carries a prefix of the texts and the slot holds the rest,
which is then at most one text.
-/

open Runs

/-- The stream written so far, the texts handed over, none of them empty, and the slot. -/
@[ext] structure RetrySlot (α : Type*) where
  written : List α
  texts : List (List α)
  slot : List α
  nonempty : ∀ t ∈ texts, t ≠ []

namespace RetrySlot

variable {α : Type*} (s : RetrySlot α)

/-- What can happen: a text is accepted or refused, the slot is offered again and
accepted, the slot is emptied, or nothing changes. -/
inductive Op (α : Type*)
  | accepted (t : List α) (ht : t ≠ [])
  | refused (t : List α) (ht : t ≠ [])
  | retried
  | emptied
  | idle

def step : RetrySlot α → Op α → RetrySlot α
  | s, .accepted t ht =>
    ⟨s.written ++ t, s.texts ++ [t], s.slot, by simpa [or_imp, forall_and, ht] using s.nonempty⟩
  | s, .refused t ht =>
    ⟨s.written, s.texts ++ [t], t, by simpa [or_imp, forall_and, ht] using s.nonempty⟩
  | s, .retried => ⟨s.written ++ s.slot, s.texts, s.slot, s.nonempty⟩
  | s, .emptied => ⟨s.written, s.texts, [], s.nonempty⟩
  | s, .idle => s

/-- The stream carries the first texts in order, and the slot holds the others. -/
def InOrder : Prop :=
  ∃ k, s.written = (s.texts.take k).flatten ∧ (s.texts.drop k = [] ∨ s.texts.drop k = [s.slot])

/-- The stream carries all texts. -/
def Drained : Prop := s.written = s.texts.flatten

/-- The steps that keep the order: nothing is offered to the stream while a text
waits, but for a text equal to it; the slot is offered or emptied only in time. -/
def Keeps : Op α → Prop
  | .accepted t _ => s.Drained ∨ t = s.slot
  | .refused _ _ => s.Drained
  | .retried => ¬ s.Drained ∨ s.slot = []
  | .emptied => s.Drained
  | .idle => True

variable {s}

theorem inOrder_iff : s.InOrder ↔
    s.Drained ∨ ∃ ts, s.texts = ts ++ [s.slot] ∧ s.written = ts.flatten := by
  constructor
  · rintro ⟨k, hwritten, hnone | hone⟩
    · left
      have hall : s.texts.take k = s.texts := by
        simpa [hnone] using List.take_append_drop k s.texts
      unfold Drained
      rwa [hall] at hwritten
    · right
      refine ⟨s.texts.take k, ?_, hwritten⟩
      rw [← hone, List.take_append_drop]
  · rintro (hall | ⟨ts, htexts, hwritten⟩)
    · exact ⟨s.texts.length, by simpa [Drained] using hall, .inl (by simp)⟩
    · exact ⟨ts.length, by simp [htexts, hwritten], .inr (by simp [htexts])⟩

theorem not_drained_of_waiting {ts : List (List α)} (htexts : s.texts = ts ++ [s.slot])
    (hwritten : s.written = ts.flatten) : ¬ s.Drained := by
  intro hall
  have hslot : s.slot ≠ [] := s.nonempty _ (by simp [htexts])
  unfold Drained at hall
  simp [htexts, hwritten, hslot] at hall

section Steps

variable {t : List α} {ht : t ≠ []} {ts : List (List α)}

theorem step_accepted_waiting (htexts : s.texts = ts ++ [s.slot])
    (hwritten : s.written = ts.flatten) : (s.step (.accepted t ht)).InOrder ↔ t = s.slot := by
  have hslot : s.slot ≠ [] := s.nonempty _ (by simp [htexts])
  rw [inOrder_iff]
  constructor
  · rintro (hall | ⟨ts', htexts', -⟩)
    · simp [step, Drained, htexts, hwritten, hslot] at hall
    · exact (List.append_inj' htexts' rfl).2 |> List.singleton_inj.mp
  · rintro rfl
    exact .inr ⟨s.texts, rfl, by simp [step, htexts, hwritten]⟩

theorem step_refused_waiting (htexts : s.texts = ts ++ [s.slot])
    (hwritten : s.written = ts.flatten) : ¬ (s.step (.refused t ht)).InOrder := by
  have hslot : s.slot ≠ [] := s.nonempty _ (by simp [htexts])
  rw [inOrder_iff]
  rintro (hall | ⟨ts', htexts', hwritten'⟩)
  · simp [step, Drained, htexts, hwritten, hslot] at hall
  · obtain ⟨rfl, -⟩ := List.append_inj' htexts' rfl
    simp [step, htexts, hwritten, hslot] at hwritten'

theorem step_retried_drained (h : s.Drained) : (s.step .retried).InOrder ↔ s.slot = [] := by
  unfold Drained at h
  rw [inOrder_iff]
  constructor
  · rintro (hall | ⟨ts', htexts, hwritten⟩)
    · simpa [step, Drained, h] using hall
    · change s.texts = ts' ++ [s.slot] at htexts
      simpa [step, h, htexts] using hwritten
  · exact fun hslot => .inl (by simp [step, Drained, h, hslot])

theorem step_emptied_waiting (htexts : s.texts = ts ++ [s.slot])
    (hwritten : s.written = ts.flatten) : ¬ (s.step .emptied).InOrder := by
  have hslot : s.slot ≠ [] := s.nonempty _ (by simp [htexts])
  rw [inOrder_iff]
  rintro (hall | ⟨ts', htexts', -⟩)
  · simp [step, Drained, htexts, hwritten, hslot] at hall
  · exact s.nonempty [] (by simp [show s.texts = ts' ++ [[]] from htexts']) rfl

end Steps

theorem step_inOrder_iff (h : s.InOrder) (op : Op α) : (s.step op).InOrder ↔ s.Keeps op := by
  rcases inOrder_iff.mp h with hall | ⟨ts, htexts, hwritten⟩
  · have hall' : s.written = s.texts.flatten := hall
    cases op with
    | accepted t ht => simp [Keeps, inOrder_iff, step, Drained, hall']
    | refused t ht =>
      have hwaits : (s.step (.refused t ht)).InOrder := inOrder_iff.mpr (.inr ⟨s.texts, rfl, hall⟩)
      simp [Keeps, hall, hwaits]
    | retried => simp [Keeps, hall, step_retried_drained hall]
    | emptied => simp [Keeps, inOrder_iff, step, Drained, hall']
    | idle => simpa [Keeps, step] using h
  · have hwaits := not_drained_of_waiting htexts hwritten
    cases op with
    | accepted t ht => simp [Keeps, hwaits, step_accepted_waiting htexts hwritten]
    | refused t ht => simp [Keeps, hwaits, step_refused_waiting htexts hwritten]
    | retried =>
      have hall : (s.step .retried).Drained := by simp [step, Drained, htexts, hwritten]
      exact iff_of_true (inOrder_iff.mpr (.inl hall)) (.inl hwaits)
    | emptied => simp [Keeps, hwaits, step_emptied_waiting htexts hwritten]
    | idle => simpa [Keeps, step] using h

end RetrySlot
