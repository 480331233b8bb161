import Mathlib.Algebra.BigOperators.Group.List.Basic
import ScxManager.Library.Greedy

/-!
# The rows of a greedy filling

A filling told piece by piece says where each piece goes. Told row by row, it cuts the pieces into rows
that fit, each as long as it can be: the piece that begins a row does not fit behind the row before. No
other way to cut the same pieces into rows that fit has fewer rows.
-/

namespace Greedy

universe u v

variable {α : Type u} [LinearOrder α] [AddCommMonoid α] {ι : Type v}

section Rows

variable (width : ι → α) (fits : α → Bool) (gap : α)

/-- The room a row takes up, with the gap behind its last piece. -/
def extent (row : List ι) : α := (row.map fun item => width item + gap).sum

/-- The rows from one on that has begun. -/
def fill (row : List ι) : List ι → List (List ι)
  | [] => [row]
  | item :: rest =>
    if breaks fits ⟨0, extent width gap row⟩ (width item) then row :: fill [item] rest
    else fill (row ++ [item]) rest

/-- The rows of some pieces, none if there are no pieces. -/
def rows : List ι → List (List ι)
  | [] => []
  | item :: rest => fill width fits gap [item] rest

/-- Pieces from some offset on fit wherever they are behind others. -/
def FitsFrom (offset : α) : List ι → Prop
  | [] => True
  | item :: rest =>
    (0 < offset → fits (offset + width item) = true) ∧ FitsFrom (offset + (width item + gap)) rest

/-- The second row could not begin in the first one. -/
def Tight (row row' : List ι) : Prop :=
  ∃ item rest, row' = item :: rest ∧ 0 < extent width gap row ∧
    fits (extent width gap row + width item) = false

end Rows

variable {width : ι → α} {fits : α → Bool} {gap : α}

omit [LinearOrder α] in
/-- A piece adds its width and the gap behind it. -/
theorem extent_append_singleton (row : List ι) (item : ι) :
    extent width gap (row ++ [item]) = extent width gap row + (width item + gap) := by
  simp [extent]

/-- A row goes on with a piece that fits. -/
theorem fitsFrom_append_singleton (offset : α) (row : List ι) (item : ι) :
    FitsFrom width fits gap offset (row ++ [item]) ↔ FitsFrom width fits gap offset row ∧
      (0 < offset + extent width gap row →
        fits (offset + extent width gap row + width item) = true) := by
  induction row generalizing offset with
  | nil => simp [FitsFrom, extent]
  | cons first rest ih =>
    have hextent : offset + (width first + gap) + extent width gap rest =
        offset + extent width gap (first :: rest) := by
      simp [extent, add_assoc]
    change _ ∧ FitsFrom width fits gap (offset + (width first + gap)) (rest ++ [item]) ↔ _
    rw [ih, hextent, ← and_assoc]
    rfl

/-- The rows hold the pieces in their order. -/
theorem flatten_fill (row items : List ι) :
    (fill width fits gap row items).flatten = row ++ items := by
  induction items generalizing row with
  | nil => simp [fill]
  | cons item rest ih =>
    unfold fill
    split
    · rw [List.flatten_cons, ih]
      rfl
    · rw [ih, List.append_assoc]
      rfl

/-- The row that has begun is the beginning of the first one. -/
theorem fill_head (width : ι → α) (fits : α → Bool) (gap : α) (row items : List ι) :
    ∃ more later, fill width fits gap row items = (row ++ more) :: later := by
  induction items generalizing row with
  | nil => exact ⟨[], [], by rw [List.append_nil]; rfl⟩
  | cons item rest ih =>
    unfold fill
    split
    · exact ⟨[], _, by rw [List.append_nil]⟩
    · obtain ⟨more, later, h⟩ := ih (row ++ [item])
      exact ⟨item :: more, later, by rw [h, List.append_assoc]; rfl⟩

/-- Every row fits. -/
theorem fitsFrom_fill {row : List ι} (hrow : FitsFrom width fits gap 0 row) (items : List ι) :
    ∀ r ∈ fill width fits gap row items, FitsFrom width fits gap 0 r := by
  induction items generalizing row with
  | nil =>
    intro r hr
    rwa [List.mem_singleton.mp hr]
  | cons item rest ih =>
    unfold fill
    split
    case isTrue hbreaks =>
      rw [List.forall_mem_cons]
      have hitem : FitsFrom width fits gap 0 [item] := ⟨fun h => absurd h (lt_irrefl _), trivial⟩
      exact ⟨hrow, ih hitem⟩
    case isFalse hbreaks =>
      refine ih ((fitsFrom_append_singleton 0 row item).mpr ⟨hrow, fun hpos => ?_⟩)
      rw [zero_add] at hpos ⊢
      rw [breaks_eq_true, not_and, Bool.not_eq_false] at hbreaks
      exact hbreaks hpos

/-- No row is empty. -/
theorem fill_ne_nil {row : List ι} (hrow : row ≠ []) (items : List ι) :
    ∀ r ∈ fill width fits gap row items, r ≠ [] := by
  induction items generalizing row with
  | nil =>
    intro r hr
    rwa [List.mem_singleton.mp hr]
  | cons item rest ih =>
    unfold fill
    split
    · rw [List.forall_mem_cons]
      exact ⟨hrow, ih (List.cons_ne_nil item [])⟩
    · exact ih (by simp)

/-- No row could have gone on. -/
theorem isChain_fill (row items : List ι) :
    (fill width fits gap row items).IsChain (Tight width fits gap) := by
  induction items generalizing row with
  | nil => exact List.IsChain.singleton row
  | cons item rest ih =>
    unfold fill
    split
    case isTrue hbreaks =>
      have hchain := ih [item]
      obtain ⟨more, later, hfill⟩ := fill_head width fits gap [item] rest
      rw [hfill] at hchain ⊢
      obtain ⟨hpos, hfits⟩ := breaks_eq_true.mp hbreaks
      exact List.IsChain.cons_cons ⟨item, more, rfl, hpos, hfits⟩ hchain
    case isFalse hbreaks => exact ih (row ++ [item])

/-- There are as many rows as the filling goes through. -/
theorem length_fill (width : ι → α) (fits : α → Bool) (gap : α) (row items : List ι) (n : ℕ) :
    n + (fill width fits gap row items).length =
      ((items.map width).foldl (step fits gap) ⟨n, extent width gap row⟩).row + 1 := by
  induction items generalizing row n with
  | nil => rfl
  | cons item rest ih =>
    rw [List.map_cons, List.foldl_cons]
    obtain ⟨hbreaks, hput⟩ | ⟨hbreaks, hput⟩ :=
      put_cases fits ⟨n, extent width gap row⟩ (width item)
    · have hfill : fill width fits gap row (item :: rest) = row :: fill width fits gap [item] rest :=
        if_pos hbreaks
      have hstep : step fits gap ⟨n, extent width gap row⟩ (width item) =
          ⟨n + 1, extent width gap [item]⟩ := by
        unfold step behind
        rw [hput]
        simp [extent]
      rw [hfill, hstep, ← ih, List.length_cons]
      omega
    · have hfill : fill width fits gap row (item :: rest) = fill width fits gap (row ++ [item]) rest :=
        if_neg (Bool.eq_false_iff.mp hbreaks)
      have hstep : step fits gap ⟨n, extent width gap row⟩ (width item) =
          ⟨n, extent width gap (row ++ [item])⟩ := by
        unfold step behind
        rw [hput, extent_append_singleton]
      rw [hfill, hstep, ← ih]

section Monotone

variable [CanonicallyOrderedAdd α] [IsOrderedAddMonoid α]

/-- A filling stays no further than one that puts the next piece behind others where it fits. -/
theorem step_noFurther_behind (hdown : ∀ x y, x ≤ y → fits y = true → fits x = true)
    {p q : Place α} (h : NoFurther p q) {size : α}
    (hfits : 0 < q.offset → fits (q.offset + size) = true) :
    NoFurther (step fits gap p size) (behind gap q size) := by
  rw [noFurther_iff] at h ⊢
  unfold step
  obtain ⟨hbreaks, hput⟩ | ⟨-, hput⟩ := put_cases fits p size
  · rw [hput]
    obtain hrow | ⟨hrow, hoffset⟩ := h
    · obtain hlt | heq := Nat.lt_or_eq_of_le (Nat.succ_le_of_lt hrow)
      · exact .inl hlt
      · exact .inr ⟨heq, add_le_add_left zero_le _⟩
    · -- in the same row the piece would fit here too
      obtain ⟨hpos, hnot⟩ := breaks_eq_true.mp hbreaks
      have hthere := hfits (lt_of_lt_of_le hpos hoffset)
      rw [hdown _ _ (add_le_add_left hoffset size) hthere] at hnot
      cases hnot
  · rw [hput]
    obtain hrow | ⟨hrow, hoffset⟩ := h
    · exact .inl hrow
    · exact .inr ⟨hrow, add_le_add_left hoffset _⟩

omit [CanonicallyOrderedAdd α] [IsOrderedAddMonoid α] in
/-- A filling stays no further than one that puts the next piece at the start of the next row. -/
theorem step_noFurther_next {p q : Place α} (h : NoFurther p q) (size : α) :
    NoFurther (step fits gap p size) (behind gap ⟨q.row + 1, 0⟩ size) := by
  rw [noFurther_iff] at h ⊢
  have hle : p.row ≤ q.row := by
    obtain hrow | ⟨hrow, -⟩ := h
    · exact hrow.le
    · exact hrow.le
  unfold step
  obtain ⟨-, hput⟩ | ⟨-, hput⟩ := put_cases fits p size
  · rw [hput]
    obtain hlt | heq := Nat.lt_or_eq_of_le hle
    · exact .inl (Nat.succ_lt_succ hlt)
    · exact .inr ⟨congrArg Nat.succ heq, le_rfl⟩
  · rw [hput]
    exact .inl (Nat.lt_succ_of_le hle)

/-- A filling stays no further than a row that fits. -/
theorem foldl_noFurther_row (hdown : ∀ x y, x ≤ y → fits y = true → fits x = true) {p q : Place α}
    (h : NoFurther p q) {row : List ι} (hrow : FitsFrom width fits gap q.offset row) :
    NoFurther ((row.map width).foldl (step fits gap) p) ⟨q.row, q.offset + extent width gap row⟩ := by
  induction row generalizing p q with
  | nil => simpa [extent] using h
  | cons item rest ih =>
    have hextent : q.offset + extent width gap (item :: rest) =
        (behind gap q (width item)).offset + extent width gap rest := by
      simp [extent, behind, add_assoc]
    rw [hextent]
    exact ih (step_noFurther_behind hdown h hrow.1) hrow.2

/-- A filling is never further than rows of the same pieces that fit. -/
theorem foldl_noFurther_rows (hdown : ∀ x y, x ≤ y → fits y = true → fits x = true) {p q : Place α}
    (h : NoFurther p q) {others : List (List ι)}
    (hothers : ∀ row ∈ others, row ≠ [] ∧ FitsFrom width fits gap 0 row) :
    ((others.flatten.map width).foldl (step fits gap) p).row ≤ q.row + others.length := by
  induction others generalizing p q with
  | nil =>
    obtain hrow | ⟨hrow, -⟩ := noFurther_iff.mp h
    · exact hrow.le
    · exact hrow.le
  | cons row rest ih =>
    rw [List.forall_mem_cons] at hothers
    obtain ⟨⟨hne, hfits⟩, hrest⟩ := hothers
    obtain ⟨item, more, rfl⟩ := List.exists_cons_of_ne_nil hne
    have hstart : NoFurther (step fits gap p (width item)) ⟨q.row + 1, 0 + (width item + gap)⟩ :=
      step_noFurther_next h (width item)
    have hend := ih (foldl_noFurther_row hdown hstart hfits.2) hrest
    rw [List.flatten_cons, List.map_append, List.foldl_append, List.length_cons]
    dsimp only at hend
    change ((rest.flatten.map width).foldl (step fits gap)
      ((more.map width).foldl (step fits gap) (step fits gap p (width item)))).row ≤ _
    omega

/-- No rows of the same pieces that fit are fewer. -/
theorem length_rows_le (hdown : ∀ x y, x ≤ y → fits y = true → fits x = true)
    {others : List (List ι)} (hothers : ∀ row ∈ others, row ≠ [] ∧ FitsFrom width fits gap 0 row) :
    (rows width fits gap others.flatten).length ≤ others.length := by
  cases others with
  | nil => exact le_rfl
  | cons row rest =>
    rw [List.forall_mem_cons] at hothers
    obtain ⟨⟨hne, hfits⟩, hrest⟩ := hothers
    obtain ⟨item, more, rfl⟩ := List.exists_cons_of_ne_nil hne
    have hstart : NoFurther (⟨0, extent width gap [item]⟩ : Place α) ⟨0, 0 + (width item + gap)⟩ :=
      noFurther_iff.mpr (.inr ⟨rfl, by simp [extent]⟩)
    have hend := foldl_noFurther_rows hdown (foldl_noFurther_row hdown hstart hfits.2) hrest
    have hlength := length_fill width fits gap [item] (more ++ rest.flatten) 0
    rw [List.map_append, List.foldl_append] at hlength
    dsimp only at hend
    change (fill width fits gap [item] (more ++ rest.flatten)).length ≤ rest.length + 1
    omega

end Monotone

end Greedy
