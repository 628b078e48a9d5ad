/-
# Counting what remains

A search through finitely many things ends because fewer of them remain unseen at every step.
-/

namespace CatalogClient

/-- A pair goes down when its second part does and its first part does not go up. -/
theorem lex_of_le {β : Type} {lower : β → β → Prop} {a a' : Nat} {b b' : β} (first : a' ≤ a)
    (second : lower b' b) : Prod.Lex (· < ·) lower (a', b') (a, b) := by
  rcases Nat.lt_or_eq_of_le first with h | h
  · exact .left _ _ h
  · subst h
    exact .right _ second

variable {α : Type} [DecidableEq α]

/-- How many entries of a list are not among those already seen. -/
def remaining (all seen : List α) : Nat :=
  all.countP fun entry => decide (entry ∉ seen)

/-- Seeing more leaves no more to see. -/
theorem remaining_le_of_subset (all : List α) {seen seen' : List α} (more : seen ⊆ seen') :
    remaining all seen' ≤ remaining all seen := by
  refine List.countP_mono_left fun entry _ unseen => ?_
  have absent : entry ∉ seen' := of_decide_eq_true unseen
  exact decide_eq_true fun present => absent (more present)

/-- Seeing a new entry of the list leaves strictly less to see. -/
theorem remaining_lt_of_mem {all seen seen' : List α} (more : seen ⊆ seen') {entry : α}
    (listed : entry ∈ all) (fresh : entry ∉ seen) (now : entry ∈ seen') :
    remaining all seen' < remaining all seen := by
  induction all with
  | nil => cases listed
  | cons head tail ih =>
      have rest := remaining_le_of_subset tail more
      unfold remaining at *
      by_cases same : entry = head
      · subst same
        rw [List.countP_cons_of_neg (by simpa using now),
          List.countP_cons_of_pos (by simpa using fresh)]
        omega
      · have listed : entry ∈ tail := by
          rcases List.mem_cons.mp listed with h | h
          · exact absurd h same
          · exact h
        have strict := ih listed
        by_cases old : head ∈ seen
        · rw [List.countP_cons_of_neg (by simpa using more old),
            List.countP_cons_of_neg (by simpa using old)]
          exact strict
        · rw [List.countP_cons_of_pos (a := head) (p := fun entry => decide (entry ∉ seen))
            (by simpa using old)]
          by_cases new : head ∈ seen'
          · rw [List.countP_cons_of_neg (by simpa using new)]
            omega
          · rw [List.countP_cons_of_pos (by simpa using new)]
            omega

end CatalogClient
