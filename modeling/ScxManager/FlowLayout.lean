import ScxManager.Library.Greedy
import Mathlib.Algebra.Order.Ring.Nat

/-!
# The rows of chips

A row of chips wraps at its width. One loop of the layout computes how high the chips are at a
given width, another one places them in a rectangle. Both fill rows greedily, with the same
pieces and the same gap. They differ in what fits: the first loop lets a chip end at the width, the
second one compares with the last column of the rectangle, which is one less. Sizes, spacings and widths
are integers of any size here, so the sums of the source are taken not to overflow; they stay below the
sizes of all items with their spacings, added up.
-/

namespace ScxManager

/-- A size an item hints at; hints are not negative. -/
structure QSize where
  width : ℕ
  height : ℕ
  deriving DecidableEq

/-- A rectangle, by its first column and line and its size. -/
structure QRect where
  left : ℤ
  top : ℤ
  width : ℤ
  height : ℤ
  deriving DecidableEq

/-- The last column of a rectangle. -/
def QRect.right (rect : QRect) : ℤ := rect.left + rect.width - 1

/-- A point is in a rectangle. -/
def QRect.Contains (rect : QRect) (x y : ℤ) : Prop :=
  (rect.left ≤ x ∧ x < rect.left + rect.width) ∧ (rect.top ≤ y ∧ y < rect.top + rect.height)

/-- No point is in both of two rectangles. -/
def QRect.Apart (a b : QRect) : Prop := ∀ x y, a.Contains x y → ¬ b.Contains x y

/-- The lower edge of some rectangles, zero if there are none. -/
def bottomEdge (geometries : List QRect) : ℤ :=
  geometries.foldr (fun geometry edge => max (geometry.top + geometry.height) edge) 0

/-- The lower edge is never above zero. -/
theorem bottomEdge_nonneg (geometries : List QRect) : 0 ≤ bottomEdge geometries := by
  induction geometries with
  | nil => exact le_rfl
  | cons geometry rest ih => exact le_max_of_le_right ih

/-- A layout, by the hints of its items and two spacings, which are not negative either. -/
structure FlowLayout where
  items : List QSize
  hSpacing : ℕ
  vSpacing : ℕ

/-- What both loops keep: where the next item would begin and how high the current row is. -/
structure Cursor where
  x : ℕ
  y : ℕ
  rowH : ℕ
  deriving DecidableEq

namespace FlowLayout

/-- When the loop that computes a height starts a row. -/
def heightBreaks (width : ℤ) (row : Cursor) (item : QSize) : Bool :=
  decide (0 < row.x) && decide (width < row.x + item.width)

/-- One round of the loop that computes a height. -/
def heightStep (flow : FlowLayout) (width : ℤ) (row : Cursor) (item : QSize) : Cursor :=
  let row := if heightBreaks width row item then ⟨0, row.y + (row.rowH + flow.vSpacing), 0⟩ else row
  { row with x := row.x + (item.width + flow.hSpacing), rowH := max row.rowH item.height }

def computeHeight (flow : FlowLayout) (width : ℤ) : ℕ :=
  if flow.items = [] then 0
  else
    let row := flow.items.foldl (flow.heightStep width) ⟨0, 0, 0⟩
    row.y + row.rowH

def heightForWidth (flow : FlowLayout) (width : ℤ) : ℕ := flow.computeHeight width

/-- When the loop that places the items starts a row. -/
def layoutBreaks (rect : QRect) (cursor : Cursor) (item : QSize) : Bool :=
  decide (0 < cursor.x) && decide (rect.right < cursor.x + item.width)

/-- Where an item is placed. -/
def layoutPlace (flow : FlowLayout) (rect : QRect) (cursor : Cursor) (item : QSize) : Cursor :=
  if layoutBreaks rect cursor item then ⟨0, cursor.y + (cursor.rowH + flow.vSpacing), 0⟩ else cursor

/-- One round of the loop that places the items. -/
def layoutStep (flow : FlowLayout) (rect : QRect) (cursor : Cursor) (item : QSize) : Cursor :=
  let cursor := flow.layoutPlace rect cursor item
  { cursor with x := cursor.x + (item.width + flow.hSpacing), rowH := max cursor.rowH item.height }

/-- The geometry of an item placed there. -/
def geometry (cursor : Cursor) (item : QSize) : QRect :=
  ⟨cursor.x, cursor.y, item.width, item.height⟩

/-- The geometries that are set from some item on; none if they are not to be saved. -/
def doLayoutFrom (flow : FlowLayout) (rect : QRect) (save : Bool) : Cursor → List QSize → List QRect
  | _, [] => []
  | cursor, item :: rest =>
    let later := doLayoutFrom flow rect save (flow.layoutStep rect cursor item) rest
    if save then geometry (flow.layoutPlace rect cursor item) item :: later else later

/-- The geometries that are set, in the order of the items. -/
def doLayout (flow : FlowLayout) (rect : QRect) (save : Bool) : List QRect :=
  flow.doLayoutFrom rect save ⟨0, 0, 0⟩ flow.items

def setGeometry (flow : FlowLayout) (rect : QRect) : List QRect := flow.doLayout rect true

/-- For each item, whether a loop starts a row with it. -/
def startsRow (breaks : Cursor → QSize → Bool) (step : Cursor → QSize → Cursor) :
    Cursor → List QSize → List Bool
  | _, [] => []
  | cursor, item :: rest => breaks cursor item :: startsRow breaks step (step cursor item) rest

/-- The items that `computeHeight` starts rows with. -/
def heightRows (flow : FlowLayout) (width : ℤ) : List Bool :=
  startsRow (heightBreaks width) (flow.heightStep width) ⟨0, 0, 0⟩ flow.items

/-- The items that `doLayout` starts rows with. -/
def layoutRows (flow : FlowLayout) (rect : QRect) : List Bool :=
  startsRow (layoutBreaks rect) (flow.layoutStep rect) ⟨0, 0, 0⟩ flow.items

/-- An extent ends at a width at the latest. -/
def fits (width : ℤ) (extent : ℕ) : Bool := decide (extent ≤ width)

/-- Where each item goes if rows are filled greedily up to a width, with the width of the item. -/
def rowPlaces (flow : FlowLayout) (width : ℤ) : List (Greedy.Place ℕ × ℕ) :=
  let widths := flow.items.map QSize.width
  (Greedy.places (fits width) flow.hSpacing ⟨0, 0⟩ widths).zip widths

/-- Behind other items of its row an item ends exactly at the width. -/
def FillsRow (flow : FlowLayout) (width : ℤ) : Prop :=
  ∃ x ∈ flow.rowPlaces width, 0 < x.1.offset ∧ ((x.1.offset + x.2 : ℕ) : ℤ) = width

/-- The height loop tells rows apart as the greedy filling does. -/
theorem heightBreaks_eq (width : ℤ) (row : Cursor) (item : QSize) (number : ℕ) :
    heightBreaks width row item = Greedy.breaks (fits width) ⟨number, row.x⟩ item.width := by
  unfold heightBreaks Greedy.breaks fits
  rw [← decide_not]
  congr 1
  exact decide_eq_decide.mpr (by push_cast; omega)

/-- A round of the height loop moves on as the greedy filling does. -/
theorem heightStep_x (flow : FlowLayout) (width : ℤ) (row : Cursor) (item : QSize) (number : ℕ) :
    (flow.heightStep width row item).x =
      (Greedy.step (fits width) flow.hSpacing ⟨number, row.x⟩ item.width).offset := by
  unfold heightStep Greedy.step Greedy.behind Greedy.put
  rw [heightBreaks_eq width row item number]
  dsimp only
  split <;> rfl

/-- The rows of the height loop are those of the greedy filling. -/
theorem startsRow_eq_allBreaks (flow : FlowLayout) (width : ℤ) (row : Cursor) (items : List QSize)
    (number : ℕ) :
    startsRow (heightBreaks width) (flow.heightStep width) row items =
      Greedy.allBreaks (fits width) flow.hSpacing ⟨number, row.x⟩ (items.map QSize.width) := by
  induction items generalizing row number with
  | nil => rfl
  | cons item rest ih =>
    change heightBreaks width row item :: startsRow _ _ (flow.heightStep width row item) rest = _
    rw [heightBreaks_eq width row item number, ih _ (Greedy.step (fits width) flow.hSpacing
      ⟨number, row.x⟩ item.width).row, heightStep_x flow width row item number]
    rfl

/-- The loop that places the items is the height loop at the last column of the rectangle. -/
theorem layoutStep_eq (flow : FlowLayout) (rect : QRect) :
    flow.layoutStep rect = flow.heightStep rect.right := by
  funext cursor item
  rfl

/-- A round adds the size of the item and the spacing at most. -/
theorem heightStep_le (flow : FlowLayout) (width : ℤ) (row : Cursor) (item : QSize) :
    (flow.heightStep width row item).x ≤ row.x + (item.width + flow.hSpacing) ∧
      (flow.heightStep width row item).y + (flow.heightStep width row item).rowH ≤
        row.y + row.rowH + (item.height + flow.vSpacing) := by
  unfold heightStep
  by_cases hbreaks : heightBreaks width row item
  · rw [if_pos hbreaks]
    dsimp only
    omega
  · rw [if_neg hbreaks]
    dsimp only
    omega

/-- Neither loop comes to a value beyond the sizes of its items and their spacings, added up. While these
sums fit into an `int`, no sum of the loops overflows. -/
theorem foldl_heightStep_le (flow : FlowLayout) (width : ℤ) (row : Cursor) (items : List QSize) :
    (items.foldl (flow.heightStep width) row).x ≤
        row.x + (items.map fun item => item.width + flow.hSpacing).sum ∧
      (items.foldl (flow.heightStep width) row).y + (items.foldl (flow.heightStep width) row).rowH ≤
        row.y + row.rowH + (items.map fun item => item.height + flow.vSpacing).sum := by
  induction items generalizing row with
  | nil => exact ⟨Nat.le_refl _, Nat.le_refl _⟩
  | cons item rest ih =>
    obtain ⟨hx, hy⟩ := flow.heightStep_le width row item
    obtain ⟨hrestx, hresty⟩ := ih (flow.heightStep width row item)
    rw [List.foldl_cons, List.map_cons, List.sum_cons, List.map_cons, List.sum_cons]
    omega

/-- The items that `doLayout` starts rows with are those of the height loop at the last column. -/
theorem layoutRows_eq (flow : FlowLayout) (rect : QRect) :
    flow.layoutRows rect = flow.heightRows rect.right := by
  unfold layoutRows heightRows
  rw [layoutStep_eq]
  rfl

/-- The lower edge of what is placed from some item on, with the current row, is where the loop
ends. -/
theorem max_bottomEdge (flow : FlowLayout) (rect : QRect) (cursor : Cursor) (items : List QSize) :
    max ((cursor.y + cursor.rowH : ℕ) : ℤ) (bottomEdge (flow.doLayoutFrom rect true cursor items)) =
      ((items.foldl (flow.layoutStep rect) cursor).y +
        (items.foldl (flow.layoutStep rect) cursor).rowH : ℕ) := by
  induction items generalizing cursor with
  | nil => exact max_eq_left (Int.natCast_nonneg _)
  | cons item rest ih =>
    rw [List.foldl_cons, ← ih]
    change max _ (max (((flow.layoutPlace rect cursor item).y : ℤ) + item.height)
      (bottomEdge (flow.doLayoutFrom rect true (flow.layoutStep rect cursor item) rest))) = _
    generalize bottomEdge _ = later
    unfold layoutStep layoutPlace
    by_cases hbreaks : layoutBreaks rect cursor item
    · rw [if_pos hbreaks]
      dsimp only
      omega
    · rw [if_neg hbreaks]
      dsimp only
      omega

/-- Of what is placed, the lower edge is the height at the last column of the rectangle. -/
theorem bottomEdge_setGeometry (flow : FlowLayout) (rect : QRect) :
    bottomEdge (flow.setGeometry rect) = flow.heightForWidth rect.right := by
  have hmax := flow.max_bottomEdge rect ⟨0, 0, 0⟩ flow.items
  rw [layoutStep_eq] at hmax
  unfold heightForWidth computeHeight
  by_cases hitems : flow.items = []
  · unfold setGeometry doLayout
    rw [if_pos hitems, hitems]
    rfl
  · rw [if_neg hitems, ← hmax]
    exact (max_eq_right (bottomEdge_nonneg _)).symm

/-- What ends at a width ends at every larger one. -/
theorem fits_of_le {width width' : ℤ} (hwidth : width ≤ width') (extent : ℕ)
    (h : fits width extent = true) : fits width' extent = true := by
  unfold fits at h ⊢
  rw [decide_eq_true_eq] at h ⊢
  omega

/-- Both loops start their rows with the same items exactly if no item fills up a row. -/
theorem heightRows_pred_iff (flow : FlowLayout) (width : ℤ) :
    flow.heightRows (width - 1) = flow.heightRows width ↔ ¬ flow.FillsRow width := by
  have hpred : width - 1 ≤ width := by omega
  unfold heightRows
  rw [startsRow_eq_allBreaks flow (width - 1) _ _ 0, startsRow_eq_allBreaks flow width _ _ 0,
    Greedy.allBreaks_eq_iff (fits_of_le hpred)]
  constructor
  · intro hstrict ⟨x, hx, hpos, hfills⟩
    have hfits := hstrict x hx hpos
    unfold fits at hfits
    rw [decide_eq_true_eq] at hfits
    omega
  · intro hfills x hx hpos
    have hfits := Greedy.fits_places (fits width) flow.hSpacing ⟨0, 0⟩ _ x hx hpos
    have hne : ((x.1.offset + x.2 : ℕ) : ℤ) ≠ width := fun h => hfills ⟨x, hx, hpos, h⟩
    unfold fits at hfits ⊢
    rw [decide_eq_true_eq] at hfits ⊢
    omega

/-- The height loop ends alike at two widths at which it starts rows with the same items. -/
theorem foldl_heightStep_congr (flow : FlowLayout) (width width' : ℤ) (row : Cursor)
    (items : List QSize)
    (h : startsRow (heightBreaks width) (flow.heightStep width) row items =
      startsRow (heightBreaks width') (flow.heightStep width') row items) :
    items.foldl (flow.heightStep width) row = items.foldl (flow.heightStep width') row := by
  induction items generalizing row with
  | nil => rfl
  | cons item rest ih =>
    obtain ⟨hbreaks, hrest⟩ := List.cons.inj h
    have hstep : flow.heightStep width row item = flow.heightStep width' row item := by
      unfold heightStep
      rw [hbreaks]
    rw [← hstep] at hrest
    rw [List.foldl_cons, List.foldl_cons, ← hstep]
    exact ih _ hrest

/-- The height that is reported is the one that is used, with the same items starting rows in both
loops, exactly if no item that is placed behind others fills up its row. What is used always is the
height for one column less. -/
theorem heightForWidth_eq_bottomEdge_iff (flow : FlowLayout) (width height : ℤ) :
    ((flow.heightRows width = flow.layoutRows ⟨0, 0, width, height⟩ ∧
        (flow.heightForWidth width : ℤ) = bottomEdge (flow.setGeometry ⟨0, 0, width, height⟩)) ↔
      ¬ flow.FillsRow width) ∧
    bottomEdge (flow.setGeometry ⟨0, 0, width, height⟩) = flow.heightForWidth (width - 1) := by
  have hright : QRect.right ⟨0, 0, width, height⟩ = width - 1 := by
    change 0 + width - 1 = width - 1
    omega
  have hbottom := flow.bottomEdge_setGeometry ⟨0, 0, width, height⟩
  rw [hright] at hbottom
  rw [hbottom, layoutRows_eq, hright, ← heightRows_pred_iff]
  refine ⟨⟨fun h => h.1.symm, fun h => ⟨h.symm, ?_⟩⟩, rfl⟩
  unfold heightForWidth computeHeight
  rw [flow.foldl_heightStep_congr _ _ _ _ h]

/-- Two chips that fill up the first row: one row is reported and two are used. -/
theorem filled_row_used_twice :
    ¬ ∀ (flow : FlowLayout) (width height : ℤ), 1 ≤ width →
      (flow.heightForWidth width : ℤ) = bottomEdge (flow.setGeometry ⟨0, 0, width, height⟩) := by
  intro h
  have hfilled := h ⟨[⟨20, 20⟩, ⟨24, 20⟩], 6, 6⟩ 50 20 (by decide)
  revert hfilled
  decide

/-- The row of the next item. -/
def nextRow (starts : Bool) (row : ℕ) : ℕ := if starts then row + 1 else row

/-- The row of each item, by the items that start one. -/
def rowNumbers : ℕ → List Bool → List ℕ
  | _, [] => []
  | row, starts :: rest => nextRow starts row :: rowNumbers (nextRow starts row) rest

/-- A geometry with its row follows another one: it is in the same row, further right by the
spacing, or in a later row and below it by the spacing. -/
def Follows (flow : FlowLayout) (a b : QRect × ℕ) : Prop :=
  (a.2 = b.2 ∧ a.1.top = b.1.top ∧ a.1.left + a.1.width + flow.hSpacing ≤ b.1.left) ∨
    (a.2 < b.2 ∧ a.1.top + a.1.height + flow.vSpacing ≤ b.1.top)

/-- A geometry with its row is not before a cursor in some row. -/
def Beyond (flow : FlowLayout) (cursor : Cursor) (row : ℕ) (a : QRect × ℕ) : Prop :=
  (a.2 = row ∧ a.1.top = cursor.y ∧ (cursor.x : ℤ) ≤ a.1.left) ∨
    (row < a.2 ∧ ((cursor.y + cursor.rowH + flow.vSpacing : ℕ) : ℤ) ≤ a.1.top)

/-- An item is placed at the cursor, or at the start of the next row. -/
theorem layoutPlace_cases (flow : FlowLayout) (rect : QRect) (cursor : Cursor) (item : QSize) :
    (layoutBreaks rect cursor item = true ∧
        flow.layoutPlace rect cursor item = ⟨0, cursor.y + (cursor.rowH + flow.vSpacing), 0⟩) ∨
      (layoutBreaks rect cursor item = false ∧ flow.layoutPlace rect cursor item = cursor) := by
  unfold layoutPlace
  cases hbreaks : layoutBreaks rect cursor item with
  | true => exact Or.inl ⟨rfl, rfl⟩
  | false => exact Or.inr ⟨rfl, rfl⟩

/-- The geometries that are set from some item on, with their rows. -/
def numberedFrom (flow : FlowLayout) (rect : QRect) (row : ℕ) (cursor : Cursor)
    (items : List QSize) : List (QRect × ℕ) :=
  (flow.doLayoutFrom rect true cursor items).zip
    (rowNumbers row (startsRow (layoutBreaks rect) (flow.layoutStep rect) cursor items))

/-- The first of some items with its row. -/
def numbered (flow : FlowLayout) (rect : QRect) (row : ℕ) (cursor : Cursor) (item : QSize) :
    QRect × ℕ :=
  (geometry (flow.layoutPlace rect cursor item) item, nextRow (layoutBreaks rect cursor item) row)

theorem numberedFrom_cons (flow : FlowLayout) (rect : QRect) (row : ℕ) (cursor : Cursor)
    (item : QSize) (rest : List QSize) :
    flow.numberedFrom rect row cursor (item :: rest) =
      flow.numbered rect row cursor item ::
        flow.numberedFrom rect (nextRow (layoutBreaks rect cursor item) row)
          (flow.layoutStep rect cursor item) rest :=
  rfl

/-- An item is not placed before the cursor. -/
theorem numbered_beyond (flow : FlowLayout) (rect : QRect) (row : ℕ) (cursor : Cursor)
    (item : QSize) : flow.Beyond cursor row (flow.numbered rect row cursor item) := by
  unfold numbered nextRow geometry Beyond
  obtain ⟨hbreaks, hplace⟩ | ⟨hbreaks, hplace⟩ := flow.layoutPlace_cases rect cursor item
  · rw [hbreaks, hplace]
    exact Or.inr ⟨Nat.lt_succ_self row, by dsimp only; omega⟩
  · rw [hbreaks, hplace]
    exact Or.inl ⟨rfl, rfl, le_rfl⟩

/-- What is not before the next cursor follows the item in between. -/
theorem numbered_follows (flow : FlowLayout) (rect : QRect) (row : ℕ) (cursor : Cursor)
    (item : QSize) (a : QRect × ℕ)
    (h : flow.Beyond (flow.layoutStep rect cursor item)
      (nextRow (layoutBreaks rect cursor item) row) a) :
    flow.Follows (flow.numbered rect row cursor item) a := by
  unfold Beyond layoutStep at h
  unfold numbered geometry Follows
  dsimp only at h ⊢
  generalize flow.layoutPlace rect cursor item = place at h ⊢
  obtain ⟨hrow, htop, hleft⟩ | ⟨hrow, htop⟩ := h
  · exact Or.inl ⟨hrow.symm, htop.symm, by omega⟩
  · exact Or.inr ⟨hrow, by omega⟩

/-- The cursor never goes back. -/
theorem beyond_of_layoutStep (flow : FlowLayout) (rect : QRect) (row : ℕ) (cursor : Cursor)
    (item : QSize) (a : QRect × ℕ)
    (h : flow.Beyond (flow.layoutStep rect cursor item)
      (nextRow (layoutBreaks rect cursor item) row) a) : flow.Beyond cursor row a := by
  unfold Beyond layoutStep nextRow at h
  unfold Beyond
  obtain ⟨hbreaks, hplace⟩ | ⟨hbreaks, hplace⟩ := flow.layoutPlace_cases rect cursor item
  · -- the item starts the next row, and all that is behind it is below the current one
    rw [hbreaks, hplace] at h
    dsimp only at h
    obtain ⟨hrow, htop, hleft⟩ | ⟨hrow, htop⟩ := h
    · exact Or.inr ⟨by simp at hrow; omega, by omega⟩
    · exact Or.inr ⟨by simp at hrow; omega, by omega⟩
  · rw [hbreaks, hplace] at h
    dsimp only at h
    obtain ⟨hrow, htop, hleft⟩ | ⟨hrow, htop⟩ := h
    · exact Or.inl ⟨hrow, htop, by omega⟩
    · exact Or.inr ⟨hrow, by omega⟩

/-- Nothing is placed before the cursor. -/
theorem numberedFrom_beyond (flow : FlowLayout) (rect : QRect) (row : ℕ) (cursor : Cursor)
    (items : List QSize) : ∀ a ∈ flow.numberedFrom rect row cursor items, flow.Beyond cursor row a := by
  induction items generalizing row cursor with
  | nil => exact List.forall_mem_nil _
  | cons item rest ih =>
    rw [numberedFrom_cons, List.forall_mem_cons]
    exact ⟨flow.numbered_beyond rect row cursor item, fun a ha =>
      flow.beyond_of_layoutStep rect row cursor item a (ih _ _ a ha)⟩

/-- Each geometry is followed by all later ones. -/
theorem numberedFrom_pairwise (flow : FlowLayout) (rect : QRect) (row : ℕ) (cursor : Cursor)
    (items : List QSize) : (flow.numberedFrom rect row cursor items).Pairwise flow.Follows := by
  induction items generalizing row cursor with
  | nil => exact List.Pairwise.nil
  | cons item rest ih =>
    rw [numberedFrom_cons, List.pairwise_cons]
    exact ⟨fun a ha => flow.numbered_follows rect row cursor item a
      (flow.numberedFrom_beyond rect _ _ rest a ha), ih _ _⟩

/-- Geometries that follow each other have no point in common. -/
theorem Follows.apart {flow : FlowLayout} {a b : QRect × ℕ} (h : flow.Follows a b) :
    a.1.Apart b.1 := by
  intro x y ha hb
  obtain ⟨⟨-, hright⟩, -, hbottom⟩ := ha
  obtain ⟨⟨hleft, -⟩, htop, -⟩ := hb
  obtain ⟨-, -, hbehind⟩ | ⟨-, hbelow⟩ := h
  · omega
  · omega

/-- Each item gets a geometry of the size it hints at. -/
theorem doLayoutFrom_sizes (flow : FlowLayout) (rect : QRect) (cursor : Cursor) (items : List QSize) :
    (flow.doLayoutFrom rect true cursor items).map (fun a => (a.width, a.height)) =
      items.map fun item => ((item.width : ℤ), (item.height : ℤ)) := by
  induction items generalizing cursor with
  | nil => rfl
  | cons item rest ih =>
    rw [List.map_cons, ← ih (flow.layoutStep rect cursor item)]
    rfl

/-- Each item gets a row. -/
theorem rowNumbers_length (breaks : Cursor → QSize → Bool) (step : Cursor → QSize → Cursor) (row : ℕ)
    (cursor : Cursor) (items : List QSize) :
    (rowNumbers row (startsRow breaks step cursor items)).length = items.length := by
  induction items generalizing row cursor with
  | nil => rfl
  | cons item rest ih => exact congrArg Nat.succ (ih _ _)

/-- What is placed behind others ends before the last column. -/
theorem layoutPlace_inside (flow : FlowLayout) (rect : QRect) (cursor : Cursor) (item : QSize) :
    (flow.layoutPlace rect cursor item).x = 0 ∨
      ((flow.layoutPlace rect cursor item).x : ℤ) + item.width ≤ rect.right := by
  obtain ⟨-, hplace⟩ | ⟨hbreaks, hplace⟩ := flow.layoutPlace_cases rect cursor item
  · rw [hplace]
    exact Or.inl rfl
  · rw [hplace]
    by_cases hx : cursor.x = 0
    · exact Or.inl hx
    · unfold layoutBreaks at hbreaks
      rw [Bool.and_eq_false_iff, decide_eq_false_iff_not, decide_eq_false_iff_not] at hbreaks
      omega

/-- All that is placed behind others ends before the last column. -/
theorem doLayoutFrom_inside (flow : FlowLayout) (rect : QRect) (cursor : Cursor)
    (items : List QSize) : ∀ a ∈ flow.doLayoutFrom rect true cursor items,
      a.left = 0 ∨ (0 ≤ a.left ∧ a.left + a.width ≤ rect.right) := by
  induction items generalizing cursor with
  | nil => exact List.forall_mem_nil _
  | cons item rest ih =>
    change ∀ a ∈ geometry (flow.layoutPlace rect cursor item) item :: _, _
    rw [List.forall_mem_cons]
    refine ⟨?_, ih _⟩
    unfold geometry
    have hinside := flow.layoutPlace_inside rect cursor item
    dsimp only
    omega

/-- In a rectangle at the origin every item gets exactly one geometry, of the size it hints at. Each
geometry is followed by all later ones, in its row or below it. No two have a point in common, and
each one is inside the rectangle unless it begins its row. -/
theorem doLayout_laidOut (flow : FlowLayout) (width height : ℤ) :
    let rect : QRect := ⟨0, 0, width, height⟩
    let geometries := flow.doLayout rect true
    let rows := rowNumbers 0 (flow.layoutRows rect)
    geometries.map (fun a => (a.width, a.height)) =
        flow.items.map (fun item => ((item.width : ℤ), (item.height : ℤ))) ∧
      rows.length = geometries.length ∧
      (geometries.zip rows).Pairwise flow.Follows ∧
      geometries.Pairwise QRect.Apart ∧
      ∀ a ∈ geometries, a.left = 0 ∨ (0 ≤ a.left ∧ a.left + a.width ≤ width) := by
  intro rect geometries rows
  have hsizes := flow.doLayoutFrom_sizes rect ⟨0, 0, 0⟩ flow.items
  have hlength : rows.length = geometries.length := by
    have hsame := congrArg List.length hsizes
    rw [List.length_map, List.length_map] at hsame
    exact (rowNumbers_length _ _ 0 _ _).trans hsame.symm
  have hfollows : (geometries.zip rows).Pairwise flow.Follows :=
    flow.numberedFrom_pairwise rect 0 ⟨0, 0, 0⟩ flow.items
  refine ⟨hsizes, hlength, hfollows, ?_, ?_⟩
  · rw [← List.map_fst_zip hlength.ge, List.pairwise_map]
    exact hfollows.imp Follows.apart
  · intro a ha
    have hinside := flow.doLayoutFrom_inside rect ⟨0, 0, 0⟩ flow.items a ha
    change a.left = 0 ∨ (0 ≤ a.left ∧ a.left + a.width ≤ 0 + width - 1) at hinside
    omega

/-- The row and the offset of a filling with pieces of one height, as a cursor of the loops. -/
structure StandsAt (flow : FlowLayout) (itemHeight : ℕ) (row : Cursor) (p : Greedy.Place ℕ) :
    Prop where
  x : row.x = p.offset
  y : row.y = p.row * (itemHeight + flow.vSpacing)
  rowH : row.rowH = itemHeight

/-- A round of the height loop moves on in the filling. -/
theorem StandsAt.step {flow : FlowLayout} {itemHeight : ℕ} {row : Cursor} {p : Greedy.Place ℕ}
    (h : flow.StandsAt itemHeight row p) (width : ℤ) (item : QSize) (hitem : item.height = itemHeight) :
    flow.StandsAt itemHeight (flow.heightStep width row item)
      (Greedy.step (fits width) flow.hSpacing p item.width) := by
  have hbreaks : heightBreaks width row item = Greedy.breaks (fits width) p item.width := by
    rw [heightBreaks_eq width row item p.row, h.x]
  unfold heightStep Greedy.step Greedy.behind
  rw [hbreaks]
  obtain ⟨hstarts, hput⟩ | ⟨hstarts, hput⟩ := Greedy.put_cases (fits width) p item.width
  · have hy : row.y + (row.rowH + flow.vSpacing) = (p.row + 1) * (itemHeight + flow.vSpacing) := by
      rw [h.y, h.rowH, Nat.succ_mul]
    have hrowH : max 0 item.height = itemHeight := by omega
    rw [hstarts, hput]
    exact ⟨rfl, hy, hrowH⟩
  · have hx : row.x + (item.width + flow.hSpacing) = p.offset + (item.width + flow.hSpacing) := by
      rw [h.x]
    have hrowH : max row.rowH item.height = itemHeight := by
      rw [h.rowH, hitem, max_self]
    rw [hstarts, hput]
    exact ⟨hx, h.y, hrowH⟩

/-- The height loop stays at the filling. -/
theorem StandsAt.foldl {flow : FlowLayout} {itemHeight : ℕ} {row : Cursor} {p : Greedy.Place ℕ}
    (h : flow.StandsAt itemHeight row p) (width : ℤ) (items : List QSize)
    (hitems : ∀ item ∈ items, item.height = itemHeight) :
    flow.StandsAt itemHeight (items.foldl (flow.heightStep width) row)
      ((items.map QSize.width).foldl (Greedy.step (fits width) flow.hSpacing) p) := by
  induction items generalizing row p with
  | nil => exact h
  | cons item rest ih =>
    rw [List.forall_mem_cons] at hitems
    exact ih (h.step width item hitems.1) hitems.2

/-- The height of items of one height, by the row that their filling ends in. -/
theorem computeHeight_eq (flow : FlowLayout) (width : ℤ) (itemHeight : ℕ)
    (hitems : ∀ item ∈ flow.items, item.height = itemHeight) (hne : flow.items ≠ []) :
    flow.computeHeight width =
      ((flow.items.map QSize.width).foldl (Greedy.step (fits width) flow.hSpacing) ⟨0, 0⟩).row *
        (itemHeight + flow.vSpacing) + itemHeight := by
  unfold computeHeight
  rw [if_neg hne]
  obtain ⟨first, rest, hcons⟩ := List.exists_cons_of_ne_nil hne
  rw [hcons, List.forall_mem_cons] at hitems
  rw [hcons]
  -- the first item begins the first row, and from it on the loop stands at the filling
  have hfirst : flow.StandsAt itemHeight (flow.heightStep width ⟨0, 0, 0⟩ first)
      (Greedy.step (fits width) flow.hSpacing ⟨0, 0⟩ first.width) := by
    have hrowH : max 0 first.height = itemHeight := by omega
    exact ⟨rfl, (Nat.zero_mul _).symm, hrowH⟩
  have hlast := hfirst.foldl width rest hitems.2
  dsimp only
  rw [List.foldl_cons, List.map_cons, List.foldl_cons, hlast.y, hlast.rowH]

/-- Items of one height never need more height at a larger width. -/
theorem computeHeight_antitone (flow : FlowLayout) (itemHeight : ℕ)
    (hitems : ∀ item ∈ flow.items, item.height = itemHeight) {width width' : ℤ}
    (hwidth : width ≤ width') : flow.computeHeight width' ≤ flow.computeHeight width := by
  by_cases hne : flow.items = []
  · unfold computeHeight
    rw [if_pos hne, if_pos hne]
  · rw [flow.computeHeight_eq width itemHeight hitems hne,
      flow.computeHeight_eq width' itemHeight hitems hne]
    have hdown : ∀ extent extent' : ℕ, extent ≤ extent' → fits width' extent' = true →
        fits width' extent = true := by
      intro extent extent' hle h
      unfold fits at h ⊢
      rw [decide_eq_true_eq] at h ⊢
      omega
    have hrow := Greedy.foldl_row_le (fits_of_le hwidth) hdown flow.hSpacing ⟨0, 0⟩
      (flow.items.map QSize.width)
    exact Nat.add_le_add_right (Nat.mul_le_mul_right _ hrow) _

/-- Three chips take two rows at one width and one row at a larger one. -/
theorem three_chips_computeHeight :
    computeHeight ⟨[⟨20, 18⟩, ⟨24, 18⟩, ⟨30, 18⟩], 6, 6⟩ 86 ≤
      computeHeight ⟨[⟨20, 18⟩, ⟨24, 18⟩, ⟨30, 18⟩], 6, 6⟩ 50 :=
  computeHeight_antitone _ 18 (by decide) (by decide)

end FlowLayout

end ScxManager
