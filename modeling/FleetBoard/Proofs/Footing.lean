import FleetBoard.Page

/-!
# What a Page Stands on

Every page stands on the project list or on the page of a project, and leads back
there. The page of a project is shown, or it is parked under the logs that are
followed from it or under the operation that was launched from it. While it is
parked it can still be reached: it is loaded, told that it waits for a load, and
given up, without ever being shown.

`Footing` is that part of a page. Streams and their lines are not in it, so it is
the counterpart of what a page tells of its stream. A page is left by taking its
footing for the next page, and every change to a description is a `map` over the
footing, wherever the description is.

## Main definitions

* `Footing`: What a page stands on.
* `Footing.detail?`: The page of a project that can be reached.
* `Footing.mode`: Which kind of page stands there.
* `Footing.ofOrigin`: The footing after a page that was opened from there.
* `Page.footing`: The footing of a page.

## Theorems

* `detail?_map`, `detail?_drop`: What can be reached after a change.
* `footing_mapDetail`, `footing_dropDetail`: Pages change as their footings do.
* `eq_dashboard_of_footing`, `eq_detail_of_footing`: Two footings are whole pages.
* `footing_leave`: An operation is left for its origin.
-/

namespace FleetBoard

/-- What a page stands on: the project list, or the page of a project that is
    shown or parked. An operation also knows which kind of page comes after it. -/
inductive Footing
  | list
  | detail (page : DetailPage)
  | logs (page : DetailPage)
  | operation (origin : Option DetailPage) (returnMode : Mode)
  deriving DecidableEq, Repr

namespace Footing

/-- The page of a project that can be reached. -/
def detail? : Footing → Option DetailPage
  | .list => none
  | .detail page => some page
  | .logs page => some page
  | .operation origin _ => origin

/-- Which kind of page stands there. -/
def mode : Footing → Mode
  | .list => .dashboard
  | .detail _ => .detail
  | .logs _ => .logs
  | .operation _ _ => .operation

/-- The footing with a change to the page of a project. -/
def map (f : DetailPage → DetailPage) : Footing → Footing
  | .list => .list
  | .detail page => .detail (f page)
  | .logs page => .logs (f page)
  | .operation origin returnMode => .operation (origin.map f) returnMode

/-- The footing after its project could not be loaded. Logs keep theirs. -/
def drop : Footing → Footing
  | .detail _ => .list
  | .operation _ _ => .operation none .dashboard
  | footing => footing

/-- The footing after a page that was opened from there. -/
def ofOrigin : Option DetailPage → Footing
  | none => .list
  | some page => .detail page

theorem detail?_map (f : DetailPage → DetailPage) (footing : Footing) :
    (footing.map f).detail? = footing.detail?.map f := by
  cases footing <;> rfl

/-- What can be reached after a page was given up could be reached before. -/
theorem detail?_drop (footing : Footing) (page : DetailPage)
    (h : footing.drop.detail? = some page) : footing.detail? = some page := by
  cases footing with
  | list => exact h
  | detail shown => exact absurd h (by simp only [drop, detail?, reduceCtorEq, not_false_eq_true])
  | logs parked => exact h
  | operation origin returnMode =>
      exact absurd h (by simp only [drop, detail?, reduceCtorEq, not_false_eq_true])

theorem detail?_ofOrigin (origin : Option DetailPage) : (ofOrigin origin).detail? = origin := by
  cases origin <;> rfl

end Footing

namespace Page

/-- What a page stands on. -/
def footing : Page → Footing
  | .dashboard => .list
  | .detail page => .detail page
  | .logs page => .logs page.detail
  | .operation op => .operation op.origin op.returnMode

theorem mode_footing (p : Page) : p.footing.mode = p.mode := by
  cases p <;> rfl

/-- A page that stands on the list only is the list. -/
theorem eq_dashboard_of_footing (p : Page) (h : p.footing = .list) : p = .dashboard := by
  cases p <;> simp only [footing, reduceCtorEq] at h ⊢

/-- A page of a project that is shown is all there is on its footing. -/
theorem eq_detail_of_footing (p : Page) (page : DetailPage) (h : p.footing = .detail page) :
    p = .detail page := by
  cases p <;> simp only [footing, reduceCtorEq, Footing.detail.injEq] at h
  rw [h]

theorem detail?_footing (p : Page) : p.footing.detail? = p.detail? := by
  cases p <;> rfl

/-- What can be reached from a page is told by its footing. -/
theorem detail?_of_footing (p : Page) (footing : Footing) (h : p.footing = footing) :
    p.detail? = footing.detail? := by
  rw [← h, detail?_footing]

theorem detail?_eq_of_footing (p p' : Page) (h : p'.footing = p.footing) :
    p'.detail? = p.detail? := by
  rw [detail?_of_footing p' _ h, detail?_footing]

theorem footing_setSlot (p : Page) (slot : Slot) : (p.setSlot slot).footing = p.footing := by
  cases p <;> rfl

theorem footing_pushLine (p : Page) (text : String) : (p.pushLine text).footing = p.footing := by
  cases p <;> rfl

theorem footing_mapDetail (p : Page) (f : DetailPage → DetailPage) :
    (p.mapDetail f).footing = p.footing.map f := by
  cases p <;> rfl

theorem footing_dropDetail (p : Page) : p.dropDetail.footing = p.footing.drop := by
  cases p <;> rfl

theorem footing_leave (op : OperationPage) : op.leave.footing = .ofOrigin op.origin := by
  rw [OperationPage.leave]
  cases op.origin <;> rfl

end Page

end FleetBoard
