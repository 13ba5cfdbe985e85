/-!
# What is new in a list

Two ways to compare a list with an earlier one: how long they agree from the start, and which
members the earlier one does not account for.
-/

namespace Whiteboard

variable {α : Type} [DecidableEq α]

/-- The length of the longest common prefix of two lists. -/
def commonPrefix : List α → List α → Nat
  | a :: as, b :: bs => if a = b then commonPrefix as bs + 1 else 0
  | _, _ => 0

/-- The members of a list that an earlier list does not account for. Each member of the earlier list
accounts for one equal member, the first ones first. -/
def unseen (earlier : List α) : List α → List α
  | [] => []
  | a :: as => if a ∈ earlier then unseen (earlier.erase a) as else a :: unseen earlier as

end Whiteboard
