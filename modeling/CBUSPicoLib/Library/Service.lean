import Mathlib.Data.List.Basic

/-!
# Serving a queue in rounds

A queue of requests, each from a source, is served from its front for a bounded number
of rounds. In a round the source of the first request may be refused; the request then
keeps its place. Several queues of falling priority that nothing is added to are one such
queue.
-/

namespace Service

variable {σ α : Type*}

/-- A request that has been served, with the number of rounds that were left. -/
structure Served (σ α : Type*) where
  round : ℕ
  source : σ
  item : α

def serve (ok : ℕ → σ → Bool) : ℕ → List (σ × α) → List (Served σ α) × List (σ × α)
  | 0, queue => ([], queue)
  | _ + 1, [] => ([], [])
  | k + 1, (s, a) :: queue =>
    if ok k s then
      let r := serve ok k queue
      (⟨k, s, a⟩ :: r.1, r.2)
    else serve ok k ((s, a) :: queue)

variable {ok : ℕ → σ → Bool}

end Service
