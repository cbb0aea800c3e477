import FleetBoard.Screen.Grid

/-!
# Pages Part by Part

A page has a title, a body and some parts below the body, and each of them is an area as wide
as the screen. The title and the parts below ask for a number of rows, and the body has what is
left. Where the screen is too small for all of them the body still has a row, and the others
share the rest. Who of them is cut is not for the pages to say: the layout is a parameter, and
a page may only rely on what every layout has to keep.

## Main definitions

* `Heights`: The rows of the parts of a page.
* `Layout`: How the rows of a screen are shared among the parts of a page.
* `Layout.inOrder`: The layout that serves the parts from the top down.
* `Part`, `Sheet`: What stands on a page.
* `Sheet.draw`: The rows of a page.

## Theorems

* `serve_of_fits`, `sumRows_serve_le`: What the parts have, one after the other.
* `Sheet.length_draw`, `Sheet.length_of_mem_draw`: A page is as high and as wide as the screen.
* `Sheet.draw_of_fits`: A page on a screen with enough rows.
-/

namespace FleetBoard

namespace Screen

/-- The rows of some parts together. -/
def sumRows (rows : List Nat) : Nat :=
  rows.foldr (· + ·) 0

@[simp] theorem sumRows_cons (n : Nat) (rows : List Nat) :
    sumRows (n :: rows) = n + sumRows rows :=
  rfl

/-- The rows of the parts of a page. -/
structure Heights where
  title : Nat
  body : Nat
  /-- The rows of the parts below the body. -/
  below : List Nat
  deriving DecidableEq, Repr

/-- The rows of a page. -/
def Heights.total (h : Heights) : Nat :=
  h.title + h.body + sumRows h.below

/-- The rows that the title of a page asks for. -/
def titleRows : Nat := 2

/-- How the rows of a screen are shared among the parts of a page. -/
structure Layout where
  /-- The rows of the parts on a screen of a height, where each part below the body asks for
      some rows. -/
  heights : Nat → List Nat → Heights
  length_below : ∀ height below, (heights height below).below.length = below.length
  /-- No row is left over, and none is given away twice. -/
  total_heights : ∀ height below, (heights height below).total = height
  /-- The body has a row before any other part has one. -/
  body_pos : ∀ height below, 0 < height → 0 < (heights height below).body
  /-- Where there is a row for the body besides, all other parts have what they ask for. -/
  heights_of_fits : ∀ height below, titleRows + sumRows below < height →
    heights height below = ⟨titleRows, height - (titleRows + sumRows below), below⟩

/-- What some parts have of a number of rows, each as many as it asks for as long as there are
    any. -/
def serve : Nat → List Nat → List Nat
  | _, [] => []
  | rows, n :: below => min n rows :: serve (rows - n) below

theorem length_serve (rows : Nat) (below : List Nat) :
    (serve rows below).length = below.length := by
  induction below generalizing rows with
  | nil => rfl
  | cons n below ih => rw [serve, List.length_cons, List.length_cons, ih]

theorem sumRows_serve_le (rows : Nat) (below : List Nat) : sumRows (serve rows below) ≤ rows := by
  induction below generalizing rows with
  | nil => exact Nat.zero_le rows
  | cons n below ih =>
      have hrest := ih (rows - n)
      rw [serve, sumRows_cons]
      omega

theorem serve_of_fits (rows : Nat) (below : List Nat) (hfits : sumRows below ≤ rows) :
    serve rows below = below := by
  induction below generalizing rows with
  | nil => rfl
  | cons n below ih =>
      rw [sumRows_cons] at hfits
      -- The first part is served in full, and what is left is enough for the others.
      rw [serve, ih (rows - n) (by omega), Nat.min_eq_left (by omega)]

/-- The title and what is served after it leave the row that is set aside for the body. -/
theorem title_add_sumRows_serve_le (height : Nat) (below : List Nat) :
    min titleRows (height - 1) + sumRows (serve (height - 1 - min titleRows (height - 1)) below) ≤
      height - 1 := by
  have hserved := sumRows_serve_le (height - 1 - min titleRows (height - 1)) below
  omega

/-- The layout that sets a row for the body aside and serves the other parts from the top
    down. -/
def Layout.inOrder : Layout where
  heights height below :=
    let title := min titleRows (height - 1)
    let below := serve (height - 1 - title) below
    ⟨title, height - (title + sumRows below), below⟩
  length_below height below := length_serve _ below
  total_heights height below := by
    have hbelow := title_add_sumRows_serve_le height below
    rw [Heights.total]
    dsimp only
    omega
  body_pos height below hpos := by
    have hbelow := title_add_sumRows_serve_le height below
    dsimp only
    omega
  heights_of_fits height below hfits := by
    -- The title is not cut either, so the parts below it are served from all the rest.
    have htitle : min titleRows (height - 1) = titleRows := Nat.min_eq_left (by omega)
    dsimp only
    rw [htitle, serve_of_fits _ below (by omega)]

/-- How lines are fitted to the width of an area. -/
inductive Fitting
  | clipped
  /-- Broken, with some rows scrolled away. -/
  | wrapped (scroll : Nat)
  deriving DecidableEq, Repr

/-- A part of a page below its body. -/
structure Part where
  /-- The rows that it asks for. -/
  rows : Nat
  fitting : Fitting
  lines : List Line
  deriving DecidableEq, Repr

/-- What stands on a page. The lines of its body may depend on the rows that it has. -/
structure Sheet where
  title : List Line
  fitting : Fitting
  body : Nat → List Line
  below : List Part

/-- The rows of the parts of a page on a screen. -/
def Sheet.heights (s : Sheet) (layout : Layout) (height : Nat) : Heights :=
  layout.heights height (s.below.map Part.rows)

variable {Look : Type} (look : Role → Look)

/-- An area with lines that are fitted to its width. -/
def Fitting.draw (fitting : Fitting) (width height : Nat) (lines : List Line) : List (Row Look) :=
  match fitting with
  | .clipped => Screen.clipped look width height lines
  | .wrapped scroll => Screen.wrapped look width height scroll lines

/-- Some parts of a page, each in its rows. -/
def drawParts (width : Nat) : List Part → List Nat → List (Row Look)
  | p :: below, rows :: heights =>
    p.fitting.draw look width rows p.lines ++ drawParts width below heights
  | _, _ => []

/-- The rows of a page. -/
def Sheet.draw (layout : Layout) (s : Sheet) (width height : Nat) : List (Row Look) :=
  let heights := s.heights layout height
  clipped look width heights.title s.title ++
    s.fitting.draw look width heights.body (s.body heights.body) ++
    drawParts look width s.below heights.below

section Size

theorem Fitting.length_draw (fitting : Fitting) (width height : Nat) (lines : List Line) :
    (fitting.draw look width height lines).length = height := by
  cases fitting with
  | clipped => exact length_clipped look width height lines
  | wrapped scroll => exact area_length look width height _

theorem Fitting.length_of_mem_draw (fitting : Fitting) (width height : Nat) (lines : List Line) :
    ∀ row ∈ fitting.draw look width height lines, row.length = width := by
  cases fitting with
  | clipped => exact length_of_mem_area look width height _
  | wrapped scroll => exact length_of_mem_area look width height _

theorem length_drawParts (width : Nat) (below : List Part) (heights : List Nat)
    (hlength : heights.length = below.length) :
    (drawParts look width below heights).length = sumRows heights := by
  -- Parts and heights are used up together, so no height is left without a part.
  induction below generalizing heights with
  | nil =>
      rw [List.eq_nil_of_length_eq_zero hlength]
      rfl
  | cons p below ih =>
      cases heights with
      | nil => exact absurd hlength (Nat.succ_ne_zero _).symm
      | cons rows heights =>
          rw [drawParts, List.length_append, Fitting.length_draw, sumRows_cons,
            ih heights (Nat.succ.inj hlength)]

theorem length_of_mem_drawParts (width : Nat) (below : List Part) (heights : List Nat) :
    ∀ row ∈ drawParts look width below heights, row.length = width := by
  induction below generalizing heights with
  | nil => exact fun row hrow => absurd hrow List.not_mem_nil
  | cons p below ih =>
      cases heights with
      | nil => exact fun row hrow => absurd hrow List.not_mem_nil
      | cons rows heights =>
          intro row hrow
          rcases List.mem_append.mp hrow with hpart | hrest
          · exact p.fitting.length_of_mem_draw look width rows p.lines row hpart
          · exact ih heights row hrest

variable (layout : Layout) (s : Sheet) (width height : Nat)

/-- A page has all rows of the screen, on the smallest screen too. -/
theorem Sheet.length_draw : (s.draw look layout width height).length = height := by
  have hbelow : (s.heights layout height).below.length = s.below.length :=
    (layout.length_below height _).trans (List.length_map Part.rows)
  rw [Sheet.draw, List.length_append, List.length_append, length_clipped, Fitting.length_draw,
    length_drawParts look width s.below _ hbelow]
  exact layout.total_heights height _

theorem Sheet.length_of_mem_draw :
    ∀ row ∈ s.draw look layout width height, row.length = width := by
  intro row hrow
  rcases List.mem_append.mp hrow with habove | hbelow
  · rcases List.mem_append.mp habove with htitle | hbody
    · exact length_of_mem_area look width _ _ row htitle
    · exact s.fitting.length_of_mem_draw look width _ _ row hbody
  · exact length_of_mem_drawParts look width s.below _ row hbelow

/-- On a screen with enough rows every part but the body has those that it asks for. -/
theorem Sheet.draw_of_fits (hfits : titleRows + sumRows (s.below.map Part.rows) < height) :
    s.draw look layout width height =
      clipped look width titleRows s.title ++
        s.fitting.draw look width (height - (titleRows + sumRows (s.below.map Part.rows)))
          (s.body (height - (titleRows + sumRows (s.below.map Part.rows)))) ++
        drawParts look width s.below (s.below.map Part.rows) := by
  have hheights := layout.heights_of_fits height _ hfits
  rw [Sheet.draw, Sheet.heights, hheights]

end Size

end Screen

end FleetBoard
