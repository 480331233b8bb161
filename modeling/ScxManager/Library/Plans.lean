import Mathlib.Tactic.Common

/-!
# Plans with early ends

A plan is a list of items. Each of them performs some steps and then either goes on to the next item or
ends the whole plan with a result. What a plan performs is the beginning of what it holds.
-/

namespace Plans

universe u v

variable {T : Type u} {R : Type v}

/-- The steps an item performs, and the result it ends the plan with, if it does. -/
structure Item (T : Type u) (R : Type v) where
  performed : List T
  ends : Option R

/-- The steps a plan performs, and its result. -/
structure Report (T : Type u) (R : Type v) where
  log : List T
  result : R

/-- Perform the items one by one until one of them ends the plan. -/
def carryOut (finish : R) : List (Item T R) → Report T R
  | [] => ⟨[], finish⟩
  | item :: rest =>
    match item.ends with
    | some result => ⟨item.performed, result⟩
    | none => ⟨item.performed ++ (carryOut finish rest).log, (carryOut finish rest).result⟩

/-- The steps of all items. -/
def steps (plan : List (Item T R)) : List T := plan.flatMap Item.performed

/-- What comes after an item that ends the plan is not performed. -/
theorem carryOut_cons_ends {finish : R} {item : Item T R} {result : R} (h : item.ends = some result)
    (rest : List (Item T R)) : carryOut finish (item :: rest) = ⟨item.performed, result⟩ := by
  unfold carryOut
  rw [h]

/-- What comes after an item that does not end the plan is performed next. -/
theorem carryOut_cons_goes {finish : R} {item : Item T R} (h : item.ends = none)
    (rest : List (Item T R)) :
    carryOut finish (item :: rest) =
      ⟨item.performed ++ (carryOut finish rest).log, (carryOut finish rest).result⟩ := by
  conv_lhs => unfold carryOut
  rw [h]

/-- A plan performs the beginning of its steps. -/
theorem log_carryOut_isPrefix (finish : R) (plan : List (Item T R)) :
    (carryOut finish plan).log <+: steps plan := by
  induction plan with
  | nil => exact List.prefix_rfl
  | cons item rest ih =>
    unfold steps
    rw [List.flatMap_cons]
    cases hends : item.ends with
    | some result =>
      rw [carryOut_cons_ends hends]
      exact List.prefix_append _ _
    | none =>
      rw [carryOut_cons_goes hends]
      exact (List.prefix_append_right_inj _).mpr ih

end Plans
