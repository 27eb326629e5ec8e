import EngineCall.Chain.Milestone
import Mathlib.Data.List.Pairwise
import Mathlib.Data.Nat.Basic
import Mathlib.Order.Basic

/-!
# The order of milestones

Milestones are ordered by their places, and the list of all of them goes through the places one by
one. So what holds along the list holds of any two milestones in order.
-/

namespace EngineCall

/-- The items in front of one are those before it, if the items ascend. -/
theorem mem_front_iff_of_pairwise {α : Type} {r : α → α → Prop} [Std.Asymm r] {front back : List α}
    {a b : α} (hascending : (front ++ b :: back).Pairwise r) (ha : a ∈ front ++ b :: back) :
    a ∈ front ↔ r a b := by
  rw [List.pairwise_append, List.pairwise_cons] at hascending
  obtain ⟨-, ⟨hbehind, -⟩, hbefore⟩ := hascending
  constructor
  · intro hmem
    exact hbefore a hmem b List.mem_cons_self
  · intro hrel
    rcases List.mem_append.mp ha with hmem | hmem
    · exact hmem
    rcases List.mem_cons.mp hmem with rfl | hmem
    · exact absurd hrel (Std.Asymm.asymm a a hrel)
    · exact absurd hrel (Std.Asymm.asymm b a (hbehind a hmem))

namespace Milestone

theorem order_injective : Function.Injective order := by
  intro a b horder
  cases a <;> cases b <;> first | rfl | cases horder

instance : LinearOrder Milestone := LinearOrder.lift' order order_injective

/-! ## Milestones along a list -/

/-- The last of ascending milestones is the greatest. -/
theorem le_getLast_of_ascending {milestones : List Milestone} {last m : Milestone}
    (hascending : milestones.Pairwise (· < ·)) (hlast : milestones.getLast? = some last)
    (hm : m ∈ milestones) : m ≤ last := by
  have hle : milestones.Pairwise (· ≤ ·) := hascending.imp le_of_lt
  rw [List.getLast?_eq_some_getLast (List.ne_nil_of_mem hm), Option.some.injEq] at hlast
  rw [← hlast]
  exact hle.rel_getLast hm

section

variable {front back : List Milestone} {a b m : Milestone}

/-- A milestone stands at its place in the list of all of them. -/
theorem order_eq_length_of_all_eq (hall : all = front ++ m :: back) :
    m.order = front.length := by
  have horders : all.map order = List.range 5 := by decide
  have hget : (all.map order)[front.length]? = some m.order := by
    simp [hall]
  rw [horders] at hget
  obtain ⟨hlt, horder⟩ := List.getElem?_eq_some_iff.mp hget
  rw [← horder, List.getElem_range]

/-- The milestones in front of one are those before it. -/
theorem mem_front_iff (hall : all = front ++ m :: back) : a ∈ front ↔ a < m :=
  mem_front_iff_of_pairwise (hall ▸ all_ascending) (hall ▸ mem_all a)

/-- A relation that holds along the list of all milestones holds of any two in order. -/
theorem rel_of_pairwise_all {r : Milestone → Milestone → Prop} (hpairwise : all.Pairwise r)
    (hlt : a < b) : r a b := by
  obtain ⟨front, back, hall⟩ := List.append_of_mem (mem_all b)
  rw [hall, List.pairwise_append] at hpairwise
  exact hpairwise.2.2 a ((mem_front_iff hall).mpr hlt) b List.mem_cons_self

end

end Milestone

end EngineCall
