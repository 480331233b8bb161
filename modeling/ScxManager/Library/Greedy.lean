import Mathlib.Algebra.Order.Monoid.Canonical.Defs
import Mathlib.Data.Prod.Lex
import Mathlib.Tactic.Common

/-!
# Filling rows greedily

Pieces are put into rows in their order, with a gap behind each. A piece goes behind the earlier
ones of its row if it fits there, and otherwise starts the next row; a row that nothing takes up
room in yet takes any piece. What fits is an arbitrary measure, so two fillings with different
measures can be compared: a looser one is never behind a stricter one, and both are the same
exactly if the stricter measure accepts every piece that the looser one puts behind others.
-/

namespace Greedy

universe u

/-- The row that is being filled, and where its next piece would begin. -/
@[ext] structure Place (α : Type u) where
  row : ℕ
  offset : α

variable {α : Type u} [LinearOrder α]

/-- A filling is no further than another one: it is in an earlier row, or in the same row and not
further to the right. -/
def NoFurther (p q : Place α) : Prop := toLex (p.row, p.offset) ≤ toLex (q.row, q.offset)

theorem noFurther_iff {p q : Place α} :
    NoFurther p q ↔ p.row < q.row ∨ p.row = q.row ∧ p.offset ≤ q.offset :=
  Prod.Lex.toLex_le_toLex

variable [AddCommMonoid α]

/-- The next row is started for a piece. -/
def breaks (fits : α → Bool) (p : Place α) (width : α) : Bool :=
  decide (0 < p.offset) && !fits (p.offset + width)

/-- Where a piece is put. -/
def put (fits : α → Bool) (p : Place α) (width : α) : Place α :=
  if breaks fits p width then ⟨p.row + 1, 0⟩ else p

/-- Where the piece behind would begin. -/
def behind (gap : α) (p : Place α) (width : α) : Place α := ⟨p.row, p.offset + (width + gap)⟩

/-- Where the next piece would begin once a piece is put. -/
def step (fits : α → Bool) (gap : α) (p : Place α) (width : α) : Place α :=
  behind gap (put fits p width) width

/-- For each piece, whether it starts the next row. -/
def allBreaks (fits : α → Bool) (gap : α) : Place α → List α → List Bool
  | _, [] => []
  | p, width :: rest => breaks fits p width :: allBreaks fits gap (step fits gap p width) rest

/-- For each piece, where it is put. -/
def places (fits : α → Bool) (gap : α) : Place α → List α → List (Place α)
  | _, [] => []
  | p, width :: rest => put fits p width :: places fits gap (step fits gap p width) rest

/-- A piece is put where the filling stands, or at the start of the next row. -/
theorem put_cases (fits : α → Bool) (p : Place α) (width : α) :
    (breaks fits p width = true ∧ put fits p width = ⟨p.row + 1, 0⟩) ∨
      (breaks fits p width = false ∧ put fits p width = p) := by
  unfold put
  cases hbreaks : breaks fits p width with
  | true => exact Or.inl ⟨rfl, rfl⟩
  | false => exact Or.inr ⟨rfl, rfl⟩

/-- The next row is started exactly if something takes up room already and the piece does not fit
behind it. -/
theorem breaks_eq_true {fits : α → Bool} {p : Place α} {width : α} :
    breaks fits p width = true ↔ 0 < p.offset ∧ fits (p.offset + width) = false := by
  simp [breaks]

/-- A piece that is put behind others fits there. -/
theorem fits_put (fits : α → Bool) (p : Place α) (width : α) (hpos : 0 < (put fits p width).offset) :
    fits ((put fits p width).offset + width) = true := by
  obtain ⟨-, hput⟩ | ⟨hbreaks, hput⟩ := put_cases fits p width
  · rw [hput] at hpos
    exact absurd hpos (lt_irrefl _)
  · rw [hput] at hpos ⊢
    by_contra hfits
    rw [breaks_eq_true.mpr ⟨hpos, Bool.eq_false_iff.mpr hfits⟩] at hbreaks
    cases hbreaks

/-- Of a filling, every piece that is put behind others fits there. -/
theorem fits_places (fits : α → Bool) (gap : α) (p : Place α) (widths : List α) :
    ∀ x ∈ (places fits gap p widths).zip widths,
      0 < x.1.offset → fits (x.1.offset + x.2) = true := by
  induction widths generalizing p with
  | nil => simp [places]
  | cons width rest ih =>
    change ∀ x ∈ (put fits p width, width) :: _, _
    rw [List.forall_mem_cons]
    exact ⟨fits_put fits p width, ih _⟩

section Monotone

variable [CanonicallyOrderedAdd α] [IsOrderedAddMonoid α]

/-- A filling that is no further and whose measure is looser stays no further. -/
theorem step_noFurther {loose strict : α → Bool} (hloose : ∀ x, strict x = true → loose x = true)
    (hdown : ∀ x y, x ≤ y → loose y = true → loose x = true) (gap : α) {p q : Place α}
    (h : NoFurther p q) (width : α) :
    NoFurther (step loose gap p width) (step strict gap q width) := by
  rw [noFurther_iff] at h ⊢
  unfold step behind
  obtain ⟨hp, hput⟩ | ⟨hp, hput⟩ := put_cases loose p width
  · obtain ⟨hq, hput'⟩ | ⟨hq, hput'⟩ := put_cases strict q width
    · -- both start a row
      rw [hput, hput']
      obtain hrow | ⟨hrow, -⟩ := h
      · exact Or.inl (Nat.succ_lt_succ hrow)
      · exact Or.inr ⟨congrArg Nat.succ hrow, le_rfl⟩
    · -- only the looser one starts a row, so it was in an earlier one
      rw [hput, hput']
      obtain hrow | ⟨hrow, hoffset⟩ := h
      · obtain hlt | heq := Nat.lt_or_eq_of_le (Nat.succ_le_of_lt hrow)
        · exact Or.inl hlt
        · exact Or.inr ⟨heq, add_le_add_left zero_le _⟩
      · obtain ⟨hpos, hfits⟩ := breaks_eq_true.mp hp
        have hstrict : strict (q.offset + width) = false := by
          rw [Bool.eq_false_iff]
          intro htrue
          have hle : p.offset + width ≤ q.offset + width := add_le_add_left hoffset width
          rw [hdown _ _ hle (hloose _ htrue)] at hfits
          cases hfits
        rw [breaks_eq_true.mpr ⟨lt_of_lt_of_le hpos hoffset, hstrict⟩] at hq
        cases hq
  · obtain ⟨-, hput'⟩ | ⟨-, hput'⟩ := put_cases strict q width
    · -- only the stricter one starts a row
      rw [hput, hput']
      refine Or.inl (Nat.lt_succ_of_le ?_)
      obtain hrow | ⟨hrow, -⟩ := h
      · exact hrow.le
      · exact hrow.le
    · rw [hput, hput']
      obtain hrow | ⟨hrow, hoffset⟩ := h
      · exact Or.inl hrow
      · exact Or.inr ⟨hrow, add_le_add_left hoffset _⟩

/-- A looser filling of the same pieces never ends further. -/
theorem foldl_noFurther {loose strict : α → Bool} (hloose : ∀ x, strict x = true → loose x = true)
    (hdown : ∀ x y, x ≤ y → loose y = true → loose x = true) (gap : α) {p q : Place α}
    (h : NoFurther p q) (widths : List α) :
    NoFurther (widths.foldl (step loose gap) p) (widths.foldl (step strict gap) q) := by
  induction widths generalizing p q with
  | nil => exact h
  | cons width rest ih => exact ih (step_noFurther hloose hdown gap h width)

/-- A looser filling of the same pieces never needs more rows. -/
theorem foldl_row_le {loose strict : α → Bool} (hloose : ∀ x, strict x = true → loose x = true)
    (hdown : ∀ x y, x ≤ y → loose y = true → loose x = true) (gap : α) (p : Place α)
    (widths : List α) :
    (widths.foldl (step loose gap) p).row ≤ (widths.foldl (step strict gap) p).row := by
  have hstart : NoFurther p p := noFurther_iff.mpr (Or.inr ⟨rfl, le_rfl⟩)
  obtain hrow | ⟨hrow, -⟩ := noFurther_iff.mp (foldl_noFurther hloose hdown gap hstart widths)
  · exact hrow.le
  · exact hrow.le

end Monotone

/-- One piece: a stricter filling starts a row with it where the looser one does exactly if it fits by
the stricter measure where the looser one puts it behind others. -/
theorem breaks_eq_iff {loose strict : α → Bool} (hloose : ∀ x, strict x = true → loose x = true)
    (p : Place α) (width : α) :
    breaks strict p width = breaks loose p width ↔
      (0 < (put loose p width).offset → strict ((put loose p width).offset + width) = true) := by
  obtain ⟨hbreaks, hput⟩ | ⟨hbreaks, hput⟩ := put_cases loose p width
  · obtain ⟨hpos, hfits⟩ := breaks_eq_true.mp hbreaks
    have hstrict : strict (p.offset + width) = false := by
      rw [Bool.eq_false_iff]
      intro htrue
      rw [hloose _ htrue] at hfits
      cases hfits
    rw [hbreaks, hput, breaks_eq_true]
    exact iff_of_true ⟨hpos, hstrict⟩ fun h => absurd h (lt_irrefl _)
  · rw [hbreaks, hput, ← Bool.not_eq_true, breaks_eq_true, not_and, Bool.not_eq_false]

/-- Two fillings start their rows with the same pieces exactly if the stricter measure accepts every
piece that the looser one puts behind others. -/
theorem allBreaks_eq_iff {loose strict : α → Bool} (hloose : ∀ x, strict x = true → loose x = true)
    (gap : α) (p : Place α) (widths : List α) :
    allBreaks strict gap p widths = allBreaks loose gap p widths ↔
      ∀ x ∈ (places loose gap p widths).zip widths,
        0 < x.1.offset → strict (x.1.offset + x.2) = true := by
  induction widths generalizing p with
  | nil => simp [allBreaks, places]
  | cons width rest ih =>
    unfold allBreaks places
    rw [List.cons.injEq, List.zip_cons_cons, List.forall_mem_cons, breaks_eq_iff hloose]
    refine and_congr_right fun hfits => ?_
    have hstep : step strict gap p width = step loose gap p width := by
      unfold step put
      rw [(breaks_eq_iff hloose p width).mpr hfits]
    rw [hstep]
    exact ih _

end Greedy
