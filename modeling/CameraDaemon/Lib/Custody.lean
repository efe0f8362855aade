import Mathlib.Data.List.Nodup
import Mathlib.Data.List.Perm.Basic

/-!
# Resources between a free list and a client

A fixed stock of resources goes round: the free ones stand in a queue, the first of them is handed to
a client, and the client gives back what it owns, to the end of the queue.  A client may refuse what
it is handed.  The resource is then in neither place, and since only the client gives resources back,
it does not return.

Every move keeps the stock as a whole, up to order.  A resource is missing exactly when something was
refused, and as many are missing as refusals were made.

## Main definitions

* `Pool` — where the resources are.
* `Pool.get`, `Pool.hand`, `Pool.giveBack` — the moves.
* `Pool.Intact` — each resource of the stock is in exactly one of the two places.

## Main results

* `Pool.perm_of_get`, `Pool.hand_perm`, `Pool.giveBack_perm` — the moves keep the stock.
* `Pool.intact_iff` — **a pool is intact exactly when nothing was lost.**
-/

namespace Custody

variable {β : Type*}

/-- Where the resources of a stock are. -/
structure Pool (β : Type*) where
  /-- The free ones, in the order in which they are handed out. -/
  queue : List β
  /-- Those the client owns. -/
  client : List β
  /-- Those the client has refused. -/
  lost : List β
  deriving DecidableEq, Repr

namespace Pool

/-- The stock at the start, all of it free. -/
def full (stock : List β) : Pool β := { queue := stock, client := [], lost := [] }

/-- The stock, wherever it is. -/
def all (p : Pool β) : List β := p.queue ++ (p.client ++ p.lost)

/-- Take the first free resource. -/
def get (p : Pool β) : Option (β × Pool β) :=
  match p.queue with
  | [] => none
  | b :: queue => some (b, { p with queue := queue })

/-- Hand a resource to the client, who may refuse it. -/
def hand (accepted : Bool) (b : β) (p : Pool β) : Pool β :=
  if accepted then { p with client := b :: p.client } else { p with lost := b :: p.lost }

/-- The client gives a resource back. -/
def giveBack [DecidableEq β] (b : β) (p : Pool β) : Pool β :=
  { p with queue := p.queue ++ [b], client := p.client.erase b }

/-! ### The moves keep the stock -/

section Moves

variable {p q : Pool β} {b : β}

theorem all_full (stock : List β) : (full stock).all = stock := List.append_nil stock

theorem perm_of_get (h : p.get = some (b, q)) : p.all.Perm (b :: q.all) := by
  rw [get] at h
  split at h
  · cases h
  · next queue hqueue =>
    cases h
    rw [all, hqueue]
    exact List.Perm.refl _

theorem lost_of_get (h : p.get = some (b, q)) : q.lost = p.lost := by
  rw [get] at h
  split at h
  · cases h
  · cases h
    rfl

/-- There is something to take from a queue that is not empty. -/
theorem exists_get (h : p.queue ≠ []) :
    ∃ b q, p.get = some (b, q) ∧ q.queue.length + 1 = p.queue.length := by
  obtain ⟨b, queue, hqueue⟩ := List.exists_cons_of_ne_nil h
  refine ⟨b, { p with queue := queue }, ?_, ?_⟩
  · rw [get, hqueue]
  · rw [hqueue, List.length_cons]

theorem length_all {stock : List β} (h : p.all.Perm stock) :
    p.queue.length + p.client.length + p.lost.length = stock.length := by
  rw [← h.length_eq, all, List.length_append, List.length_append, Nat.add_assoc]

theorem hand_perm (accepted : Bool) (b : β) (p : Pool β) :
    (p.hand accepted b).all.Perm (b :: p.all) := by
  rw [hand]
  split
  · exact List.perm_middle
  · -- the resource moves behind what the client owns
    rw [all, all, ← List.append_assoc, ← List.append_assoc]
    exact List.perm_middle

@[simp] theorem queue_hand (accepted : Bool) (b : β) (p : Pool β) :
    (p.hand accepted b).queue = p.queue := by
  rw [hand]
  split
  · rfl
  · rfl

theorem length_lost_hand (accepted : Bool) (b : β) (p : Pool β) :
    (p.hand accepted b).lost.length = p.lost.length + (!accepted).toNat := by
  cases accepted with
  | true => rfl
  | false => exact List.length_cons

variable [DecidableEq β]

theorem giveBack_perm (h : b ∈ p.client) : (p.giveBack b).all.Perm p.all := by
  have hclient : (b :: p.client.erase b).Perm p.client := (List.perm_cons_erase h).symm
  show (p.queue ++ [b] ++ (p.client.erase b ++ p.lost)).Perm (p.queue ++ (p.client ++ p.lost))
  rw [List.append_assoc, List.singleton_append, ← List.cons_append]
  exact (hclient.append_right _).append_left _

theorem giveBack_queue_ne_nil (b : β) (p : Pool β) : (p.giveBack b).queue ≠ [] :=
  List.append_ne_nil_of_right_ne_nil _ (List.cons_ne_nil b [])

end Moves

/-! ### Intact pools -/

section Intact

variable [DecidableEq β] {stock : List β} {p : Pool β}

/-- Each resource of the stock is in exactly one of the two places, and they hold nothing else. -/
structure Intact (stock : List β) (p : Pool β) : Prop where
  once : ∀ b ∈ stock, p.queue.count b + p.client.count b = 1
  total : p.queue.length + p.client.length = stock.length

/-- **A pool is intact exactly when nothing was lost.** -/
theorem intact_iff (hstock : stock.Nodup) (h : p.all.Perm stock) :
    p.Intact stock ↔ p.lost.length = 0 := by
  have hlength := length_all h
  constructor
  · intro hintact
    have htotal := hintact.total
    omega
  · intro hlost
    refine ⟨fun b hb => ?_, by omega⟩
    have hcount := h.count_eq b
    rw [List.count_eq_one_of_mem hstock hb, all, List.length_eq_zero_iff.mp hlost,
      List.append_nil, List.count_append] at hcount
    exact hcount

end Intact

end Pool

end Custody
