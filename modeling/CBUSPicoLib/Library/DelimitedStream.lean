import Mathlib.Tactic

/-!
# Streams framed by a start and a stop symbol

A frame starts with the start symbol and ends with the next stop symbol; what
stands between two frames is skipped. `feed` takes the symbols one by one and
carries the frame begun so far, hence it does not depend on how the stream is
cut. A receiver that searches for the delimiters instead follows the three
cases of `search_induction`.
-/

namespace DelimitedStream

variable {α : Type*} [DecidableEq α] {start stop x : α} {p xs ys body before rest : List α}

/-- Take one symbol: the frames that end with it and the frame begun so far, which is
empty outside a frame. -/
def advance (start stop : α) (p : List α) (x : α) : List (List α) × List α :=
  if p = [] then ([], if x = start then [x] else [])
  else if x = stop then ([p ++ [x]], [])
  else ([], p ++ [x])

theorem advance_start : advance start stop [] start = ([], [start]) := by
  rw [advance, if_pos rfl, if_pos rfl]

theorem advance_outside (hx : x ≠ start) : advance start stop [] x = ([], []) := by
  rw [advance, if_pos rfl, if_neg hx]

theorem advance_stop (hp : p ≠ []) : advance start stop p stop = ([p ++ [stop]], []) := by
  rw [advance, if_neg hp, if_pos rfl]

theorem advance_inside (hp : p ≠ []) (hx : x ≠ stop) :
    advance start stop p x = ([], p ++ [x]) := by
  rw [advance, if_neg hp, if_neg hx]

/-- The frames that end among the given symbols and the frame begun so far. -/
def feed (start stop : α) (p : List α) : List α → List (List α) × List α
  | [] => ([], p)
  | x :: xs =>
    ((advance start stop p x).1 ++ (feed start stop (advance start stop p x).2 xs).1,
      (feed start stop (advance start stop p x).2 xs).2)

theorem feed_nil (p : List α) : feed start stop p [] = ([], p) := rfl

theorem feed_cons {q : List α} {fs : List (List α)} (h : advance start stop p x = (fs, q))
    (xs : List α) :
    feed start stop p (x :: xs) = (fs ++ (feed start stop q xs).1, (feed start stop q xs).2) := by
  rw [feed, h]

theorem feed_append (p xs ys : List α) :
    feed start stop p (xs ++ ys) =
      ((feed start stop p xs).1 ++ (feed start stop (feed start stop p xs).2 ys).1,
        (feed start stop (feed start stop p xs).2 ys).2) := by
  induction xs generalizing p with
  | nil => rfl
  | cons x xs ih => simp only [List.cons_append, feed, ih, List.append_assoc]

theorem feed_inside (hp : p ≠ []) (hxs : stop ∉ xs) : feed start stop p xs = ([], p ++ xs) := by
  induction xs generalizing p with
  | nil => rw [List.append_nil, feed_nil]
  | cons x xs ih =>
    rw [List.mem_cons, not_or] at hxs
    rw [feed_cons (advance_inside hp (Ne.symm hxs.1)), ih (by simp) hxs.2, List.append_assoc]
    rfl

theorem feed_outside (hxs : start ∉ xs) : feed start stop [] xs = ([], []) := by
  induction xs with
  | nil => rfl
  | cons x xs ih =>
    rw [List.mem_cons, not_or] at hxs
    rw [feed_cons (advance_outside (Ne.symm hxs.1)), ih hxs.2]
    rfl

theorem feed_begin (hbefore : start ∉ before) (hbody : stop ∉ body) :
    feed start stop [] (before ++ start :: body) = ([], start :: body) := by
  rw [feed_append, feed_outside hbefore, feed_cons advance_start,
    feed_inside (List.cons_ne_nil _ _) hbody]
  rfl

theorem feed_frame (hbefore : start ∉ before) (hbody : stop ∉ body) (rest : List α) :
    feed start stop [] (before ++ start :: body ++ stop :: rest) =
      ((start :: body ++ [stop]) :: (feed start stop [] rest).1, (feed start stop [] rest).2) := by
  rw [feed_append, feed_begin hbefore hbody, feed_cons (advance_stop (List.cons_ne_nil _ _))]
  rfl

/-- Nothing, or a frame that has begun and not ended. -/
def Pending (start stop : α) (p : List α) : Prop :=
  p = [] ∨ ∃ body, p = start :: body ∧ stop ∉ body

/-- Putting the carried symbols in front of the next segment is carrying them. -/
theorem Pending.feed_append (hp : Pending start stop p) (xs : List α) :
    feed start stop [] (p ++ xs) = feed start stop p xs := by
  rcases hp with rfl | ⟨body, rfl, hbody⟩
  · rfl
  · have hbegin : feed start stop [] ([] ++ start :: body) = ([], start :: body) :=
      feed_begin List.not_mem_nil hbody
    rw [List.nil_append] at hbegin
    rw [DelimitedStream.feed_append, hbegin]
    rfl

/-- From the start to the first stop symbol behind it. -/
def IsFrame (start stop : α) (c : List α) : Prop :=
  ∃ body, c = start :: body ++ [stop] ∧ stop ∉ body

theorem Pending.advance (hp : Pending start stop p) (x : α) :
    Pending start stop (advance start stop p x).2 ∧
      ∀ c ∈ (DelimitedStream.advance start stop p x).1, IsFrame start stop c := by
  rcases hp with rfl | ⟨body, rfl, hbody⟩
  · by_cases hx : x = start
    · rw [hx, advance_start]
      exact ⟨Or.inr ⟨[], rfl, List.not_mem_nil⟩, fun c hc => absurd hc List.not_mem_nil⟩
    · rw [advance_outside hx]
      exact ⟨Or.inl rfl, fun c hc => absurd hc List.not_mem_nil⟩
  · by_cases hx : x = stop
    · rw [hx, advance_stop (List.cons_ne_nil _ _)]
      exact ⟨Or.inl rfl, fun c hc => ⟨body, List.mem_singleton.mp hc, hbody⟩⟩
    · rw [advance_inside (List.cons_ne_nil _ _) hx]
      refine ⟨Or.inr ⟨body ++ [x], rfl, ?_⟩, fun c hc => absurd hc List.not_mem_nil⟩
      rw [List.mem_append, List.mem_singleton, not_or]
      exact ⟨hbody, Ne.symm hx⟩

theorem Pending.feed (hp : Pending start stop p) (xs : List α) :
    Pending start stop (feed start stop p xs).2 ∧
      ∀ c ∈ (DelimitedStream.feed start stop p xs).1, IsFrame start stop c := by
  induction xs generalizing p with
  | nil => exact ⟨hp, fun c hc => absurd hc List.not_mem_nil⟩
  | cons x xs ih =>
    obtain ⟨hadv, hframe⟩ := hp.advance x
    obtain ⟨hrest, hframes⟩ := ih hadv
    refine ⟨hrest, fun c hc => ?_⟩
    rcases List.mem_append.mp hc with hc | hc
    · exact hframe c hc
    · exact hframes c hc

theorem length_feed_le (p xs : List α) :
    (feed start stop p xs).2.length ≤ p.length + xs.length := by
  induction xs generalizing p with
  | nil => exact le_rfl
  | cons x xs ih =>
    have hadv : (advance start stop p x).2.length ≤ p.length + 1 := by
      unfold advance
      split_ifs <;> simp
    have hrest := ih (advance start stop p x).2
    rw [List.length_cons]
    exact hrest.trans (by omega)

/-- If the stream ends outside a frame, what is carried now is the beginning of a frame to come. -/
theorem exists_frame_of_carried {fs : List (List α)} (hp : p ≠ [])
    (h : feed start stop p xs = (fs, [])) : ∃ c ∈ fs, p <+: c ∧ p.length < c.length := by
  induction xs generalizing p fs with
  | nil => exact absurd (congrArg Prod.snd h) hp
  | cons x xs ih =>
    by_cases hx : x = stop
    · subst hx
      rw [feed_cons (advance_stop hp)] at h
      have hfs : [p ++ [x]] ++ (feed start x [] xs).1 = fs := congrArg Prod.fst h
      rw [← hfs]
      exact ⟨p ++ [x], List.mem_append_left _ (List.mem_singleton_self _), List.prefix_append _ _,
        by simp⟩
    · rw [feed_cons (advance_inside hp hx)] at h
      obtain ⟨c, hc, hbegins, hlen⟩ := ih (p := p ++ [x]) (by simp) h
      refine ⟨c, hc, (List.prefix_append p [x]).trans hbegins, ?_⟩
      rw [List.length_append] at hlen
      omega

/-- The cases of a receiver that looks for the first start symbol and then for the first stop
symbol behind it, and goes on behind the frame found. -/
theorem search_induction (start stop : α) {motive : List α → Prop}
    (outside : ∀ xs, start ∉ xs → motive xs)
    (begun : ∀ before body, start ∉ before → stop ∉ body → motive (before ++ start :: body))
    (frame : ∀ before body rest, start ∉ before → stop ∉ body → motive rest →
      motive (before ++ start :: body ++ stop :: rest)) (xs : List α) : motive xs := by
  induction hn : xs.length using Nat.strong_induction_on generalizing xs with
  | _ n ih =>
    subst hn
    by_cases hstart : start ∈ xs
    · obtain ⟨before, ys, rfl, hbefore⟩ := List.eq_append_cons_of_mem hstart
      by_cases hstop : stop ∈ ys
      · obtain ⟨body, rest, rfl, hbody⟩ := List.eq_append_cons_of_mem hstop
        have hrest := ih rest.length (by simp; omega) rest rfl
        simpa using frame before body rest hbefore hbody hrest
      · exact begun before ys hbefore hstop
    · exact outside xs hstart

end DelimitedStream
