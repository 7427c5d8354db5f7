import CBUSPicoLib.Library.Runs
import Mathlib.Data.List.Induction
import Mathlib.Data.List.Sublists
import Mathlib.Tactic

/-!
# Stations on a shared medium

Every station has a queue of outgoing and a queue of incoming messages. What one station transmits,
all others hear, so the medium puts the messages of all stations into one order. A station whose
incoming queue is full loses the oldest message that waits in it. In every run a station's messages
reach the medium in the order in which they were offered, and what a station takes are messages it
heard, each at most once and in the order of the medium.
-/

open Runs

namespace Broadcast

variable {ι α β : Type*} [DecidableEq ι]

def sentBy (i : ι) (wire : List (ι × α)) : List α :=
  wire.filterMap fun t => if t.1 = i then some t.2 else none

def heardBy (j : ι) (wire : List (ι × α)) : List α :=
  wire.filterMap fun t => if t.1 = j then none else some t.2

variable {i j : ι} {wire : List (ι × α)} {x : α}

theorem sentBy_append (i : ι) (wire : List (ι × α)) (t : ι × α) :
    sentBy i (wire ++ [t]) = sentBy i wire ++ if t.1 = i then [t.2] else [] := by
  unfold sentBy
  rw [List.filterMap_append]
  by_cases h : t.1 = i <;> simp [h]

theorem heardBy_append (f : α → Option β) (j : ι) (wire : List (ι × α)) (t : ι × α) :
    (heardBy j (wire ++ [t])).filterMap f =
      (heardBy j wire).filterMap f ++ if t.1 = j then [] else (f t.2).toList := by
  unfold heardBy
  rw [List.filterMap_append, List.filterMap_append]
  by_cases h : t.1 = j <;> cases hf : f t.2 <;> simp [h, hf]

/-- To read the messages on the medium is to read what each station sent. -/
theorem sentBy_filterMap (f : α → Option β) (i : ι) (wire : List (ι × α)) :
    sentBy i (wire.filterMap fun t => (f t.2).map (t.1, ·)) = (sentBy i wire).filterMap f := by
  unfold sentBy
  rw [List.filterMap_filterMap, List.filterMap_filterMap]
  apply List.filterMap_congr
  intro t _
  by_cases h : t.1 = i <;> cases hf : f t.2 <;> simp [h, hf]

theorem heardBy_filterMap (f : α → Option β) (j : ι) (wire : List (ι × α)) :
    heardBy j (wire.filterMap fun t => (f t.2).map (t.1, ·)) = (heardBy j wire).filterMap f := by
  unfold heardBy
  rw [List.filterMap_filterMap, List.filterMap_filterMap]
  apply List.filterMap_congr
  intro t _
  by_cases h : t.1 = j <;> cases hf : f t.2 <;> simp [h, hf]

/-- The medium with the stations' queues; `hear` says what a station makes of a message. The
messages taken and the number of those lost are part of the state, and so is the account of all. -/
structure Medium (ι : Type*) [DecidableEq ι] {α β : Type*} (hear : α → Option β) where
  offered : ι → List α
  outbox : ι → List α
  wire : List (ι × α)
  inbox : ι → List β
  taken : ι → List β
  lost : ι → ℕ
  fifo : ∀ i, sentBy i wire ++ outbox i = offered i
  order : ∀ j, (taken j ++ inbox j).Sublist ((heardBy j wire).filterMap hear)
  account : ∀ j, ((heardBy j wire).filterMap hear).length =
    (taken j).length + (inbox j).length + lost j

namespace Medium

variable {hear : α → Option β}

def idle (hear : α → Option β) : Medium ι hear where
  offered := fun _ => []
  outbox := fun _ => []
  wire := []
  inbox := fun _ => []
  taken := fun _ => []
  lost := fun _ => 0
  fifo := fun _ => rfl
  order := fun _ => List.Sublist.refl []
  account := fun _ => rfl

/-- A station that has lost nothing has taken what it heard, up to what waits. -/
theorem taken_append_inbox (m : Medium ι hear) (h : m.lost j = 0) :
    m.taken j ++ m.inbox j = (heardBy j m.wire).filterMap hear := by
  apply (m.order j).eq_of_length
  rw [m.account j, h, List.length_append]
  rfl

def offer (m : Medium ι hear) (xs : ι → List α) : Medium ι hear where
  offered := fun i => m.offered i ++ xs i
  outbox := fun i => m.outbox i ++ xs i
  wire := m.wire
  inbox := m.inbox
  taken := m.taken
  lost := m.lost
  fifo := fun i => by rw [← m.fifo i, List.append_assoc]
  order := m.order
  account := m.account

def take (m : Medium ι hear) (j : ι) : Medium ι hear where
  offered := m.offered
  outbox := m.outbox
  wire := m.wire
  inbox := fun k => if k = j then (m.inbox k).tail else m.inbox k
  taken := fun k => if k = j then m.taken k ++ (m.inbox k).head?.toList else m.taken k
  lost := m.lost
  fifo := m.fifo
  order := fun k => by
    have h := m.order k
    split_ifs
    · cases hin : m.inbox k <;> simpa [hin] using h
    · exact h
  account := fun k => by
    have h := m.account k
    split_ifs
    · cases hin : m.inbox k
      · simpa [hin] using h
      · simp only [hin, List.length_cons] at h
        simp
        omega
    · exact h

/-- What arrives at an incoming queue; a full one drops its oldest message. -/
def arrivals (full : Bool) (inbox : List β) (y : β) : List β :=
  if full then (inbox ++ [y]).tail else inbox ++ [y]

theorem arrivals_sublist (full : Bool) (inbox : List β) (y : β) :
    (arrivals full inbox y).Sublist (inbox ++ [y]) := by
  unfold arrivals
  split_ifs
  · exact List.tail_sublist _
  · exact List.Sublist.refl _

theorem length_arrivals (full : Bool) (inbox : List β) (y : β) :
    (arrivals full inbox y).length + (if full then 1 else 0) = inbox.length + 1 := by
  unfold arrivals
  split_ifs <;> simp

/-- The incoming queue of a station that hears `x`. -/
def hearing (hear : α → Option β) (full : Bool) (inbox : List β) (x : α) : List β :=
  (hear x).elim inbox (arrivals full inbox)

theorem sublist_hearing {heard taken inbox : List β} (h : (taken ++ inbox).Sublist heard)
    (full : Bool) (x : α) :
    (taken ++ hearing hear full inbox x).Sublist (heard ++ (hear x).toList) := by
  cases hx : hear x with
  | none => simpa [hearing, hx] using h
  | some y =>
    have harrive := (arrivals_sublist full inbox y).append_left taken
    rw [← List.append_assoc] at harrive
    simpa [hearing, hx] using harrive.trans (h.append_right [y])

theorem length_hearing (full : Bool) (inbox : List β) (x : α) :
    (hearing hear full inbox x).length +
        (if (hear x).isSome = true ∧ full = true then 1 else 0) =
      inbox.length + (hear x).toList.length := by
  cases hx : hear x with
  | none => simp [hearing, hx]
  | some y => simpa [hearing, hx] using length_arrivals full inbox y

/-- The first outgoing message of a station goes over the medium. -/
def transmit (m : Medium ι hear) (i : ι) (full : ι → Bool) (hout : m.outbox i ≠ []) :
    Medium ι hear where
  offered := m.offered
  outbox := fun k => if k = i then (m.outbox k).tail else m.outbox k
  wire := m.wire ++ [(i, (m.outbox i).head hout)]
  inbox := fun k => if k = i then m.inbox k
    else hearing hear (full k) (m.inbox k) ((m.outbox i).head hout)
  taken := m.taken
  lost := fun k => if k = i then m.lost k
    else m.lost k + if (hear ((m.outbox i).head hout)).isSome = true ∧ full k = true then 1 else 0
  fifo := fun k => by
    have h := m.fifo k
    rw [sentBy_append]
    by_cases hk : k = i
    · subst hk
      rw [if_pos rfl, if_pos rfl, List.append_assoc, List.singleton_append, List.cons_head_tail]
      exact h
    · simpa [hk, Ne.symm hk] using h
  order := fun k => by
    have h := m.order k
    rw [heardBy_append]
    by_cases hk : k = i
    · simpa [hk] using h
    · simpa [hk, Ne.symm hk] using sublist_hearing h (full k) ((m.outbox i).head hout)
  account := fun k => by
    have h := m.account k
    rw [heardBy_append]
    by_cases hk : k = i
    · simpa [hk] using h
    · have hlen : _ = (m.inbox k).length + (hear _).toList.length :=
        length_hearing (full k) (m.inbox k) ((m.outbox i).head hout)
      simp only [hk, Ne.symm hk, if_false, List.length_append]
      omega

/-- A message is lost only by a station that hears it with a full queue. -/
theorem lost_transmit (m : Medium ι hear) (full : ι → Bool) (hout : m.outbox i ≠ [])
    (h : j = i ∨ full j = false) : (m.transmit i full hout).lost j = m.lost j := by
  rcases h with hj | hj
  · exact if_pos hj
  · simp [transmit, hj]

end Medium
end Broadcast
