import Mathlib.Data.List.Induction
import Mathlib.Tactic.Common

/-!
# Writes laid over one another

A write that starts at the beginning of a file replaces as many units as it has and keeps what
lies beyond. After several such writes every position holds the unit of the last write that
reaches it.
-/

namespace Overlay

universe u

variable {B : Type u}

/-- The content after one write from the beginning. -/
def lay (units old : List B) : List B := units ++ old.drop units.length

/-- The content of an empty file after several writes, the earliest one first. -/
def layAll (writes : List (List B)) : List B := writes.foldl (fun old units => lay units old) []

/-- A write decides the positions it reaches and no others. -/
theorem lay_getElem? (units old : List B) (n : ℕ) :
    (lay units old)[n]? = if n < units.length then units[n]? else old[n]? := by
  unfold lay
  by_cases hn : n < units.length
  · rw [if_pos hn, List.getElem?_append_left hn]
  · have hle : units.length ≤ n := by omega
    rw [if_neg hn, List.getElem?_append_right hle, List.getElem?_drop]
    congr 1
    omega

/-- One more write lies over all the earlier ones. -/
theorem layAll_append_singleton (writes : List (List B)) (units : List B) :
    layAll (writes ++ [units]) = lay units (layAll writes) := by
  unfold layAll
  rw [List.foldl_append]
  rfl

/-- A single write leaves exactly its units. -/
theorem layAll_singleton (units : List B) : layAll [units] = units := by
  simp [layAll, lay]

/-- Every position holds the unit of the last write that reaches it. -/
theorem layAll_getElem? (writes : List (List B)) (n : ℕ) :
    (layAll writes)[n]? =
      ((writes.filter fun units => n < units.length).getLast?).bind fun units => units[n]? := by
  induction writes using List.reverseRecOn with
  | nil => rfl
  | append_singleton writes units ih =>
    rw [layAll_append_singleton, lay_getElem?, ih, List.filter_append]
    by_cases hn : n < units.length
    · have hfilter : [units].filter (fun units => n < units.length) = [units] := by simp [hn]
      rw [if_pos hn, hfilter, List.getLast?_append]
      rfl
    · have hfilter : [units].filter (fun units => n < units.length) = [] := by simp [hn]
      rw [if_neg hn, hfilter, List.append_nil]

end Overlay
