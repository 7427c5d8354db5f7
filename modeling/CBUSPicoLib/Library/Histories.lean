import Mathlib.Data.List.Basic

/-!
# What lies between the marks of a history

A history is a list that grows at its end. `Since` says what has followed every mark so
far, `Separated` what lies between any two marks; the first is what the second needs
when the next mark is set.
-/

namespace Histories

variable {α : Type*} {mark : α → Prop} {good good' : List α → Prop} {h : List α} {e : α}

/-- What has followed each mark so far is good. -/
def Since (mark : α → Prop) (good : List α → Prop) (h : List α) : Prop :=
  ∀ a x b, mark x → h = a ++ x :: b → good b

/-- What lies between any two marks is good. -/
def Separated (mark : α → Prop) (good : List α → Prop) (h : List α) : Prop :=
  ∀ a x b y c, mark x → mark y → h = a ++ x :: b ++ y :: c → good b

/-- A position in a history with one more entry is the last one or an old one. -/
theorem snoc_eq_append_cons {a b : List α} {x : α} (he : h ++ [e] = a ++ x :: b) :
    b = [] ∧ a = h ∧ x = e ∨ ∃ b', b = b' ++ [e] ∧ h = a ++ x :: b' := by
  rcases List.eq_nil_or_concat b with rfl | ⟨b', y, rfl⟩
  · obtain ⟨ha, hx⟩ := List.append_inj' he rfl
    exact Or.inl ⟨rfl, ha.symm, (List.cons.inj hx).1.symm⟩
  · have hassoc : a ++ x :: (b' ++ [y]) = (a ++ x :: b') ++ [y] := by simp
    rw [List.concat_eq_append, hassoc] at he
    obtain ⟨hh, hy⟩ := List.append_inj' he rfl
    obtain rfl := (List.cons.inj hy).1
    exact Or.inr ⟨b', List.concat_eq_append, hh⟩

theorem since_nil : Since mark good [] := by
  intro a x b _ he
  exact absurd he (by simp)

theorem separated_nil : Separated mark good [] := by
  intro a x b y c _ _ he
  exact absurd he (by simp)

theorem Since.snoc (hs : Since mark good h) (hstep : ∀ b, good b → good' (b ++ [e]))
    (he : ¬ mark e) : Since mark good' (h ++ [e]) := by
  intro a x b hx heq
  rcases snoc_eq_append_cons heq with ⟨-, -, rfl⟩ | ⟨b', rfl, hb'⟩
  · exact absurd hx he
  · exact hstep b' (hs a x b' hx hb')

/-- Two marks of a longer history: either the second one is new or both are old. -/
theorem Separated.snoc (hsep : Separated mark good h) (hs : mark e → Since mark good h) :
    Separated mark good (h ++ [e]) := by
  intro a x b y c hx hy heq
  rcases snoc_eq_append_cons heq with ⟨-, hh, rfl⟩ | ⟨c', -, hh⟩
  · exact hs hy a x b hx hh.symm
  · exact hsep a x b y c' hx hy hh

theorem not_separated_snoc {a b : List α} {x : α} (hx : mark x) (he : mark e) (hb : ¬ good b) :
    ¬ Separated mark good (a ++ x :: b ++ [e]) :=
  fun hsep => hb (hsep a x b e [] hx he rfl)

end Histories
