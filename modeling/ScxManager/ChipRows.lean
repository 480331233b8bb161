import ScxManager.FlowLayout
import ScxManager.Library.Wrap

/-!
# Chips row by row

Both loops of the layout go through the chips one by one, and neither of them has a list of rows. The
height that is computed is that of the rows the chips are cut into: the highest chip of each row, and
the spacing between the rows. The rows are as few as they can be, so among chips of one height no other
way to break them is lower. As in `FlowLayout`, no sum overflows.
-/

namespace ScxManager.FlowLayout

/-- The rows that the items are cut into at a width. -/
def rows (flow : FlowLayout) (width : ℤ) : List (List QSize) :=
  Greedy.rows QSize.width (fits width) flow.hSpacing flow.items

/-- Behind other items of its row, every item ends at the width at the latest. -/
def RowFits (flow : FlowLayout) (width : ℤ) (row : List QSize) : Prop :=
  Greedy.FitsFrom QSize.width (fits width) flow.hSpacing 0 row

/-- The height of the highest item of a row. -/
def rowHeight (row : List QSize) : ℕ := (row.map QSize.height).foldr max 0

/-- The height of rows on top of each other. -/
def stackedHeight (vSpacing : ℕ) : List (List QSize) → ℕ
  | [] => 0
  | [row] => rowHeight row
  | row :: rest => rowHeight row + vSpacing + stackedHeight vSpacing rest

/-- An item added to a row makes it at least as high. -/
theorem rowHeight_append_singleton (row : List QSize) (item : QSize) :
    rowHeight (row ++ [item]) = max (rowHeight row) item.height := by
  unfold rowHeight
  induction row with
  | nil => simp
  | cons first rest ih =>
    rw [List.cons_append, List.map_cons, List.foldr_cons, ih, List.map_cons, List.foldr_cons,
      max_assoc]

/-- A row of items of one height has that height. -/
theorem rowHeight_eq {itemHeight : ℕ} {row : List QSize} (hne : row ≠ [])
    (hitems : ∀ item ∈ row, item.height = itemHeight) : rowHeight row = itemHeight := by
  induction row with
  | nil => exact absurd rfl hne
  | cons first rest ih =>
    rw [List.forall_mem_cons] at hitems
    change max first.height (rowHeight rest) = itemHeight
    rw [hitems.1]
    by_cases hrest : rest = []
    · subst hrest
      exact max_eq_left (Nat.zero_le _)
    · rw [ih hrest hitems.2, max_self]

/-- The cursor stands behind a row. -/
structure Behind (flow : FlowLayout) (row : List QSize) (cursor : Cursor) : Prop where
  x : cursor.x = Greedy.extent QSize.width flow.hSpacing row
  rowH : cursor.rowH = rowHeight row

/-- From behind a row the height loop ends below it and the rows that are still to be filled. -/
theorem foldl_heightStep_eq (flow : FlowLayout) (width : ℤ) {row : List QSize} {cursor : Cursor}
    (h : flow.Behind row cursor) (items : List QSize) :
    (items.foldl (flow.heightStep width) cursor).y + (items.foldl (flow.heightStep width) cursor).rowH =
      cursor.y + stackedHeight flow.vSpacing
        (Greedy.fill QSize.width (fits width) flow.hSpacing row items) := by
  induction items generalizing row cursor with
  | nil => exact congrArg (cursor.y + ·) h.rowH
  | cons item rest ih =>
    have hbreaks : heightBreaks width cursor item = Greedy.breaks (fits width)
        ⟨0, Greedy.extent QSize.width flow.hSpacing row⟩ item.width := by
      rw [heightBreaks_eq width cursor item 0, h.x]
    rw [List.foldl_cons]
    unfold Greedy.fill
    rw [← hbreaks]
    split
    case isTrue hstarts =>
      have hbehind : flow.Behind [item] (flow.heightStep width cursor item) := by
        unfold heightStep
        rw [if_pos hstarts]
        exact ⟨by simp [Greedy.extent], by simp [rowHeight]⟩
      have hy : (flow.heightStep width cursor item).y = cursor.y + (cursor.rowH + flow.vSpacing) := by
        unfold heightStep
        rw [if_pos hstarts]
      obtain ⟨more, later, hfill⟩ := Greedy.fill_head QSize.width (fits width) flow.hSpacing
        [item] rest
      rw [ih hbehind, hy, hfill, h.rowH, stackedHeight.eq_3 _ _ _ (List.cons_ne_nil _ _)]
      omega
    case isFalse hstarts =>
      have hbehind : flow.Behind (row ++ [item]) (flow.heightStep width cursor item) := by
        unfold heightStep
        rw [if_neg hstarts]
        refine ⟨?_, ?_⟩
        · rw [Greedy.extent_append_singleton, ← h.x]
        · rw [rowHeight_append_singleton, ← h.rowH]
      have hy : (flow.heightStep width cursor item).y = cursor.y := by
        unfold heightStep
        rw [if_neg hstarts]
      rw [ih hbehind, hy]

/-- The height that is computed is that of the rows. -/
theorem computeHeight_eq_stackedHeight (flow : FlowLayout) (width : ℤ) :
    flow.computeHeight width = stackedHeight flow.vSpacing (flow.rows width) := by
  unfold computeHeight rows
  cases hitems : flow.items with
  | nil => rfl
  | cons first rest =>
    have hbehind : flow.Behind [first] (flow.heightStep width ⟨0, 0, 0⟩ first) := by
      refine ⟨?_, ?_⟩
      · simp [heightStep, heightBreaks, Greedy.extent]
      · simp [heightStep, heightBreaks, rowHeight]
    have hy : (flow.heightStep width ⟨0, 0, 0⟩ first).y = 0 := by
      simp [heightStep, heightBreaks]
    rw [if_neg (List.cons_ne_nil first rest)]
    dsimp only
    rw [List.foldl_cons, flow.foldl_heightStep_eq width hbehind, hy, Nat.zero_add]
    rfl

/-- What is placed in a rectangle is as high as the rows at its last column. -/
theorem bottomEdge_eq_stackedHeight (flow : FlowLayout) (rect : QRect) :
    bottomEdge (flow.setGeometry rect) = stackedHeight flow.vSpacing (flow.rows rect.right) := by
  rw [bottomEdge_setGeometry, heightForWidth, computeHeight_eq_stackedHeight]

/-- Rows of one height are stacked to as many times that height and the spacing. -/
theorem stackedHeight_eq (vSpacing : ℕ) {itemHeight : ℕ} {lines : List (List QSize)}
    (hlines : ∀ row ∈ lines, row ≠ [] ∧ ∀ item ∈ row, item.height = itemHeight) (hne : lines ≠ []) :
    stackedHeight vSpacing lines + vSpacing = lines.length * (itemHeight + vSpacing) := by
  induction lines with
  | nil => exact absurd rfl hne
  | cons row rest ih =>
    rw [List.forall_mem_cons] at hlines
    have hrow := rowHeight_eq hlines.1.1 hlines.1.2
    cases rest with
    | nil =>
      change rowHeight row + vSpacing = 1 * (itemHeight + vSpacing)
      rw [hrow, Nat.one_mul]
    | cons next later =>
      have hlater := ih hlines.2 (List.cons_ne_nil next later)
      change rowHeight row + vSpacing + stackedHeight vSpacing (next :: later) + vSpacing =
        ((next :: later).length + 1) * (itemHeight + vSpacing)
      rw [Nat.add_assoc, hlater, hrow, Nat.succ_mul, Nat.add_comm]

/-- The heights computed at a width and placed in a rectangle are those of the rows that the items are
cut into. These hold the items in their order, none is empty, each one fits, and no row could have gone
on with the first item of the next one. -/
theorem rows_filled (flow : FlowLayout) (width : ℤ) :
    (flow.rows width).flatten = flow.items ∧
      (∀ row ∈ flow.rows width, row ≠ [] ∧ flow.RowFits width row) ∧
      (flow.rows width).IsChain (Greedy.Tight QSize.width (fits width) flow.hSpacing) ∧
      flow.computeHeight width = stackedHeight flow.vSpacing (flow.rows width) ∧
      ∀ height, bottomEdge (flow.setGeometry ⟨0, 0, width + 1, height⟩) =
        stackedHeight flow.vSpacing (flow.rows width) := by
  have hplaced : ∀ height, bottomEdge (flow.setGeometry ⟨0, 0, width + 1, height⟩) =
      stackedHeight flow.vSpacing (flow.rows width) := by
    intro height
    have hright : QRect.right ⟨0, 0, width + 1, height⟩ = width := by
      change 0 + (width + 1) - 1 = width
      omega
    rw [bottomEdge_eq_stackedHeight, hright]
  have hheight := flow.computeHeight_eq_stackedHeight width
  unfold rows at hplaced hheight ⊢
  cases hitems : flow.items with
  | nil =>
    rw [hitems] at hplaced hheight
    exact ⟨rfl, List.forall_mem_nil _, List.IsChain.nil, hheight, hplaced⟩
  | cons first rest =>
    rw [hitems] at hplaced hheight
    have hfirst : Greedy.FitsFrom QSize.width (fits width) flow.hSpacing 0 [first] :=
      ⟨fun h => absurd h (lt_irrefl 0), trivial⟩
    refine ⟨Greedy.flatten_fill [first] rest, fun row hrow => ⟨?_, ?_⟩, Greedy.isChain_fill [first] rest,
      hheight, hplaced⟩
    · exact Greedy.fill_ne_nil (List.cons_ne_nil first []) rest row hrow
    · exact Greedy.fitsFrom_fill hfirst rest row hrow

/-- No way to break the items into rows that fit has fewer rows, and if all items are of one height, none
is lower. -/
theorem rows_fewest (flow : FlowLayout) (width : ℤ) {others : List (List QSize)}
    (hflatten : others.flatten = flow.items)
    (hothers : ∀ row ∈ others, row ≠ [] ∧ flow.RowFits width row) :
    (flow.rows width).length ≤ others.length ∧
      ((∃ itemHeight, ∀ item ∈ flow.items, item.height = itemHeight) →
        flow.computeHeight width ≤ stackedHeight flow.vSpacing others) := by
  have hdown : ∀ extent extent' : ℕ, extent ≤ extent' → fits width extent' = true →
      fits width extent = true := by
    intro extent extent' hle h
    unfold fits at h ⊢
    rw [decide_eq_true_eq] at h ⊢
    omega
  have hlength := Greedy.length_rows_le hdown hothers
  rw [hflatten] at hlength
  refine ⟨hlength, fun hheights => ?_⟩
  obtain ⟨itemHeight, hitems⟩ := hheights
  rw [computeHeight_eq_stackedHeight]
  by_cases hnil : others = []
  · subst hnil
    have hrows : flow.rows width = [] := List.eq_nil_of_length_eq_zero (Nat.le_zero.mp hlength)
    rw [hrows]
  · obtain ⟨hflatten', hrows', -⟩ := flow.rows_filled width
    have hmem {lines : List (List QSize)} (h : lines.flatten = flow.items) :
        ∀ row ∈ lines, ∀ item ∈ row, item.height = itemHeight := by
      intro row hrow item hitem
      exact hitems item (h ▸ List.mem_flatten.mpr ⟨row, hrow, hitem⟩)
    have hne : flow.rows width ≠ [] := by
      intro h
      rw [h] at hflatten'
      obtain ⟨row, rest, rfl⟩ := List.exists_cons_of_ne_nil hnil
      rw [List.forall_mem_cons] at hothers
      have hempty := (List.append_eq_nil_iff.mp (hflatten.trans hflatten'.symm)).1
      exact hothers.1.1 hempty
    have hours := stackedHeight_eq flow.vSpacing
      (fun row hrow => ⟨(hrows' row hrow).1, hmem hflatten' row hrow⟩) hne
    have htheirs := stackedHeight_eq flow.vSpacing
      (fun row hrow => ⟨(hothers row hrow).1, hmem hflatten row hrow⟩) hnil
    have hmul := Nat.mul_le_mul_right (itemHeight + flow.vSpacing) hlength
    change (flow.rows width).length * _ ≤ _ at hmul
    omega

/-- Two chips of one height that share a row are no higher than one below the other. -/
theorem rows_fewest_two :
    (rows ⟨[⟨20, 18⟩, ⟨24, 18⟩], 6, 6⟩ 50).length ≤ ([[⟨20, 18⟩], [⟨24, 18⟩]] : List (List QSize)).length ∧
      computeHeight ⟨[⟨20, 18⟩, ⟨24, 18⟩], 6, 6⟩ 50 ≤ stackedHeight 6 [[⟨20, 18⟩], [⟨24, 18⟩]] := by
  have hothers : ∀ row ∈ ([[⟨20, 18⟩], [⟨24, 18⟩]] : List (List QSize)),
      row ≠ [] ∧ RowFits ⟨[⟨20, 18⟩, ⟨24, 18⟩], 6, 6⟩ 50 row := by
    intro row hrow
    have hfits (item : QSize) : RowFits ⟨[⟨20, 18⟩, ⟨24, 18⟩], 6, 6⟩ 50 [item] :=
      ⟨fun h => absurd h (lt_irrefl 0), trivial⟩
    obtain rfl | rfl : row = [⟨20, 18⟩] ∨ row = [⟨24, 18⟩] := by simpa using hrow
    · exact ⟨List.cons_ne_nil _ _, hfits _⟩
    · exact ⟨List.cons_ne_nil _ _, hfits _⟩
  obtain ⟨hlength, hheight⟩ := rows_fewest ⟨[⟨20, 18⟩, ⟨24, 18⟩], 6, 6⟩ 50 rfl hothers
  exact ⟨hlength, hheight ⟨18, by decide⟩⟩

/-- Among chips of different heights the fewest rows need not be the lowest. -/
example : stackedHeight 6 [[⟨20, 1⟩], [⟨20, 9⟩, ⟨20, 9⟩]] <
    computeHeight ⟨[⟨20, 1⟩, ⟨20, 9⟩, ⟨20, 9⟩], 6, 6⟩ 46 := by decide

end ScxManager.FlowLayout
