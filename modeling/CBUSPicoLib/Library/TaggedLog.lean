import Mathlib.Data.List.Basic
import Mathlib.Logic.Function.Basic

/-!
# Streams on one line

Messages are sent over one line, each item marked with the stream it belongs to. The account of
the line: on every stream, what is on the line, followed by what is still to come, is what has been
started there, in this order. A stream takes a new message when nothing is to come on it.
-/
namespace TaggedLog

variable {τ α : Type*} [DecidableEq τ] {tag : α → τ} {t : τ}

def ofTag (tag : α → τ) (t : τ) (log : List α) : List α := log.filter fun x => tag x = t

def itemsOf (t : τ) (started : List (τ × List α)) : List α :=
  (started.filter fun m => m.1 = t).flatMap (·.2)

theorem ofTag_append (log more : List α) :
    ofTag tag t (log ++ more) = ofTag tag t log ++ ofTag tag t more := List.filter_append _ _

theorem ofTag_eq_self {log : List α} (h : ∀ x ∈ log, tag x = t) : ofTag tag t log = log :=
  List.filter_eq_self.mpr fun x hx => decide_eq_true (h x hx)

theorem ofTag_eq_nil {log : List α} (h : ∀ x ∈ log, tag x ≠ t) : ofTag tag t log = [] :=
  List.filter_eq_nil_iff.mpr fun x hx => by simpa using h x hx

theorem itemsOf_append (started more : List (τ × List α)) :
    itemsOf t (started ++ more) = itemsOf t started ++ itemsOf t more := by
  simp [itemsOf, List.filter_append]

theorem itemsOf_singleton (s : τ) (items : List α) :
    itemsOf t [(s, items)] = if s = t then items else [] := by
  unfold itemsOf
  by_cases h : s = t <;> simp [h]

/-- On every stream, what is on the line and what is still to come is what has been started since
the line was like `first`. -/
def Balanced (tag : α → τ) (first log : List α) (pending : τ → List α)
    (started : List (τ × List α)) : Prop :=
  ∀ t, ofTag tag t log ++ pending t = ofTag tag t first ++ itemsOf t started

variable {first log : List α} {pending : τ → List α} {started : List (τ × List α)}

theorem balanced_start (first : List α) : Balanced tag first first (fun _ => []) [] :=
  fun _ => rfl

theorem Balanced.emit (h : Balanced tag first log pending started) {x : α} {xs : List α}
    (ht : tag x = t) (hp : pending t = x :: xs) :
    Balanced tag first (log ++ [x]) (Function.update pending t xs) started := by
  intro s
  rw [ofTag_append]
  by_cases hs : s = t
  · subst hs
    have hitem : ofTag tag s [x] = [x] := ofTag_eq_self (by simpa using ht)
    rw [hitem, Function.update_self, List.append_assoc, ← h s, hp]
    rfl
  · have hitem : ofTag tag s [x] = [] := ofTag_eq_nil (by simpa [ht] using Ne.symm hs)
    rw [hitem, Function.update_of_ne hs, List.append_nil]
    exact h s

/-- A message is started on a stream that is free, and its first item goes out. -/
theorem Balanced.begin (h : Balanced tag first log pending started) {x : α} {xs : List α}
    (ht : tag x = t) (hfree : pending t = []) :
    Balanced tag first (log ++ [x]) (Function.update pending t xs) (started ++ [(t, x :: xs)]) := by
  intro s
  rw [ofTag_append, itemsOf_append, itemsOf_singleton]
  by_cases hs : s = t
  · subst hs
    have hitem : ofTag tag s [x] = [x] := ofTag_eq_self (by simpa using ht)
    have hbal := h s
    rw [hfree, List.append_nil] at hbal
    rw [hitem, Function.update_self, if_pos rfl, hbal, List.append_assoc, List.append_assoc]
    rfl
  · have hitem : ofTag tag s [x] = [] := ofTag_eq_nil (by simpa [ht] using Ne.symm hs)
    rw [hitem, Function.update_of_ne hs, if_neg (Ne.symm hs), List.append_nil, List.append_nil]
    exact h s

theorem Balanced.ofTag_prefix (h : Balanced tag first log pending started) (t : τ) :
    ofTag tag t log <+: ofTag tag t first ++ itemsOf t started := ⟨pending t, h t⟩

theorem Balanced.complete (h : Balanced tag first log pending started) (hfree : pending t = []) :
    ofTag tag t log = ofTag tag t first ++ itemsOf t started := by
  have hbal := h t
  rwa [hfree, List.append_nil] at hbal

/-- An item on a stream on which nothing is to come belongs to no message. -/
theorem Balanced.not_prefix_of_free (h : Balanced tag first log pending started) {x : α}
    (ht : tag x = t) (hfree : pending t = []) :
    ¬ ofTag tag t (log ++ [x]) <+: ofTag tag t first ++ itemsOf t started := by
  intro hpre
  have hitem : ofTag tag t [x] = [x] := ofTag_eq_self (by simpa using ht)
  rw [ofTag_append, hitem, ← h.complete hfree] at hpre
  have hlen := hpre.length_le
  rw [List.length_append, List.length_singleton] at hlen
  omega

end TaggedLog
