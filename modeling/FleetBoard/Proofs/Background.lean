import FleetBoard.Proofs.Run
import FleetBoard.Proofs.Turn
import Mathlib.Data.List.Pairwise

/-!
# Background Results in Any Order

Loads, lines, the health of the router and the size of the screen come when they come,
and nobody orders them. Here it is shown that they need no order: two of different
kinds leave the same board whichever comes first, in every state, also in one that no
run comes to.

Most of them keep to parts of the board of their own. Two parts are shared. The status
line is written by loads of the list and by loads of a project: a load that succeeded
takes only the note of a refresh away, and a failure never leaves that note, so the
failure is told in both orders. Two failures are the exception, since the later one is
told. The page is changed by a description and by a line. A description looks at what
can be reached from the page and a line at the slot of its stream, and neither changes
what the other one looks at.

## Main definitions

* `Background`, `Message.background?`: Results that come in the background.
* `Page.isOn`: A load of a project counts on a page.
* `Page.hear`, `Page.receive`: What a line and a description do to a page.
* `Board.listStatus`, `Page.detailStatus`: What loads do to the status line.
* `Message.Commutes`: The order of two messages does not matter.
* `Message.Independent`: Results of different kinds that commute.

## Theorems

* `takeLine_eq`, `takeDescription_eq`: Results by the parts that they change.
* `hear_receive`: A line and a description on a page.
* `detailStatus_listStatus`: Two loads on the status line.
* `background_results_commute`: Results of different kinds commute.
* `after_perm`: Any number of results of different kinds, in any order.
-/

namespace FleetBoard

/-- The kinds of results that come in the background. -/
inductive Background
  | size
  | health
  | list
  | description
  | line
  deriving DecidableEq, Repr

namespace Message

/-- The kind of result that a message brings, if it comes in the background. -/
def background? : Message → Option Background
  | .resized .. => some .size
  | .routerStatus _ => some .health
  | .projectsLoaded _ => some .list
  | .detailLoaded .. => some .description
  | .line .. => some .line
  | _ => none

/-- Whether a message tells of a load that failed. -/
def isFailedLoad : Message → Bool
  | .projectsLoaded (.error _) => true
  | .detailLoaded _ (.error _) => true
  | _ => false

/-- The order of two messages makes no difference to the board. -/
def Commutes (m n : Message) : Prop :=
  ∀ b : Board, ((b.update m).1.update n).1 = ((b.update n).1.update m).1

/-- Results of different kinds that come in the background, of which at most one is a load
    that failed. -/
def Independent (m n : Message) : Prop :=
  ∃ j k, m.background? = some j ∧ n.background? = some k ∧ j ≠ k ∧
    (m.isFailedLoad = false ∨ n.isFailedLoad = false)

instance : Std.Symm Independent where
  symm := by
    rintro m n ⟨j, k, hm, hn, hne, hload⟩
    exact ⟨k, j, hn, hm, hne.symm, hload.symm⟩

theorem Commutes.symm {m n : Message} (h : m.Commutes n) : n.Commutes m :=
  fun b => (h b).symm

/-- What comes in the background asks for nothing. -/
theorem no_jobs_of_background (m : Message) (k : Background) (hm : m.background? = some k)
    (b : Board) : (b.update m).2 = [] := by
  cases m with
  | resized width height => rfl
  | routerStatus status => rfl
  | projectsLoaded result => rfl
  | detailLoaded root result => rfl
  | line launch text => rfl
  | _ => cases hm

end Message

namespace Page

/-- Whether a load of a project counts on the page. -/
def isOn (p : Page) (root : Path) : Bool :=
  p.detail?.any fun page => page.root.same root

/-- The page after a line of a stream. -/
def hear (p : Page) (launch : LaunchId) (text : String) : Page :=
  if p.slot?.any fun slot => slot.expects launch then p.pushLine text else p

/-- The page after a load of a project. -/
def receive (p : Page) (root : Path) (result : Except String Description) : Page :=
  if p.isOn root then
    match result with
    | .ok d => p.mapDetail fun page => { page with loading := false, description := some d }
    | .error _ => (p.mapDetail fun page => { page with loading := false }).dropDetail
  else p

/-- The status line after a load of a project. -/
def detailStatus (p : Page) (root : Path) (result : Except String Description)
    (status : String) : String :=
  if p.isOn root then
    match result with
    | .ok _ => Board.withoutRefreshing status
    | .error e => "Error loading detail: " ++ e
  else status

variable (p : Page) (launch : LaunchId) (text : String) (root : Path)
  (result : Except String Description)

/-- A line does not change what can be reached. -/
theorem isOn_hear : (p.hear launch text).isOn root = p.isOn root := by
  rw [hear]
  split
  · cases p <;> rfl
  · rfl

theorem detailStatus_hear (status : String) :
    (p.hear launch text).detailStatus root result status =
      p.detailStatus root result status := by
  unfold detailStatus
  rw [isOn_hear]

/-- A description does not change the stream that a page waits for. -/
theorem slot?_receive : (p.receive root result).slot? = p.slot? := by
  unfold receive
  split
  · cases result <;> cases p <;> rfl
  · rfl

/-- A line and a description go to different parts of a page. -/
theorem hear_receive :
    (p.receive root result).hear launch text = (p.hear launch text).receive root result := by
  -- What each of them looks at is left alone by the other one, so both decide alike in
  -- both orders.
  rw [hear, slot?_receive]
  unfold receive
  rw [isOn_hear, hear]
  by_cases hline : p.slot?.any (fun slot => slot.expects launch) = true
  · rw [if_pos hline, if_pos hline]
    split
    · cases result <;> cases p <;> rfl
    · rfl
  · rw [if_neg hline, if_neg hline]

end Page

namespace Board

/-- The status line after a load of the list. -/
def listStatus (result : Except String (List Project)) (status : String) : String :=
  match result with
  | .ok _ => withoutRefreshing status
  | .error e => "Error loading projects: " ++ e

variable (b : Board)

theorem takeLine_eq (launch : LaunchId) (text : String) :
    b.takeLine launch text = { b with page := b.page.hear launch text } := by
  have hexpects : b.expects launch = b.page.slot?.any fun slot => slot.expects launch := by
    rw [expects]
    cases b.page.slot? <;> rfl
  rw [takeLine, hexpects, Page.hear]
  split
  · rfl
  · rfl

theorem takeDescription_eq (root : Path) (result : Except String Description) :
    b.takeDescription root result =
      { b with
        page := b.page.receive root result
        status := b.page.detailStatus root result b.status } := by
  unfold takeDescription Page.receive Page.detailStatus Page.isOn
  cases b.page.detail? with
  | none => rfl
  | some page =>
      -- Both sides ask whether the result is of the project that can be reached.
      dsimp only
      rw [Option.any_some]
      by_cases hroot : page.root.same root = true
      · rw [if_pos hroot, if_pos hroot, if_pos hroot]
        cases result <;> rfl
      · rw [if_neg hroot, if_neg hroot, if_neg hroot]

theorem page_takeProjects (result : Except String (List Project)) :
    (b.takeProjects result).page = b.page := by
  cases result <;> rfl

theorem status_takeProjects (result : Except String (List Project)) :
    (b.takeProjects result).status = listStatus result b.status := by
  cases result <;> rfl

theorem withoutRefreshing_of_ne (status : String) (h : status ≠ refreshingStatus) :
    withoutRefreshing status = status :=
  if_neg h

/-- Two loads of which one succeeded leave the same status line in both orders: the
    failure, or what was there without the note of a refresh. -/
theorem detailStatus_listStatus (p : Page) (root : Path) (detail : Except String Description)
    (list : Except String (List Project)) (status : String)
    (hload : ∀ e f, ¬(detail = .error e ∧ list = .error f)) :
    p.detailStatus root detail (listStatus list status) =
      listStatus list (p.detailStatus root detail status) := by
  -- Neither failure can be taken for the note of a refresh, whatever it tells.
  have hdetail : ∀ e, "Error loading detail: " ++ e ≠ refreshingStatus :=
    fun e => ne_refreshing_of_append _ e 'E' rfl (by decide)
  have hlist : ∀ e, "Error loading projects: " ++ e ≠ refreshingStatus :=
    fun e => ne_refreshing_of_append _ e 'E' rfl (by decide)
  unfold Page.detailStatus
  split
  · rcases detail with e | d
    · rcases list with f | projects
      · exact absurd ⟨rfl, rfl⟩ (hload e f)
      · exact (withoutRefreshing_of_ne _ (hdetail e)).symm
    · rcases list with f | projects
      · exact withoutRefreshing_of_ne _ (hlist f)
      · rfl
  · rfl

end Board

namespace Message

variable (n : Message) (k : Background)

/-- Nothing in the background looks at the size of the screen. -/
theorem commutes_resized (width height : Nat) (hn : n.background? = some k) (hne : k ≠ .size) :
    (resized width height).Commutes n := by
  intro b
  cases n with
  | resized width height => exact absurd (Option.some.inj hn).symm hne
  | routerStatus status => rfl
  | projectsLoaded result => cases result <;> rfl
  | detailLoaded root result => simp only [Board.update, Board.takeDescription_eq]
  | line launch text => simp only [Board.update, Board.takeLine_eq]
  | _ => cases hn

/-- Nothing in the background looks at the health of the router. -/
theorem commutes_routerStatus (status : String) (hn : n.background? = some k)
    (hne : k ≠ .health) : (routerStatus status).Commutes n := by
  intro b
  cases n with
  | resized width height => rfl
  | routerStatus status => exact absurd (Option.some.inj hn).symm hne
  | projectsLoaded result => cases result <;> rfl
  | detailLoaded root result => simp only [Board.update, Board.takeDescription_eq]
  | line launch text => simp only [Board.update, Board.takeLine_eq]
  | _ => cases hn

theorem commutes_list_line (list : Except String (List Project)) (launch : LaunchId)
    (text : String) : (projectsLoaded list).Commutes (line launch text) := by
  intro b
  dsimp only [Board.update]
  rw [Board.takeLine_eq, Board.takeLine_eq]
  cases list <;> rfl

theorem commutes_list_description (list : Except String (List Project)) (root : Path)
    (detail : Except String Description)
    (hload : ∀ e f, ¬(detail = .error e ∧ list = .error f)) :
    (projectsLoaded list).Commutes (detailLoaded root detail) := by
  intro b
  dsimp only [Board.update]
  rw [Board.takeDescription_eq, Board.takeDescription_eq, Board.page_takeProjects,
    Board.status_takeProjects, Board.detailStatus_listStatus _ _ _ _ _ hload]
  cases list <;> rfl

theorem commutes_description_line (root : Path) (detail : Except String Description)
    (launch : LaunchId) (text : String) :
    (detailLoaded root detail).Commutes (line launch text) := by
  intro b
  dsimp only [Board.update]
  rw [Board.takeLine_eq, Board.takeLine_eq, Board.takeDescription_eq, Board.takeDescription_eq]
  dsimp only
  rw [Page.hear_receive, Page.detailStatus_hear]

/-- Results of different kinds commute, unless both are loads that failed. -/
theorem commutes_of_background (m : Message) (j : Background) (hm : m.background? = some j)
    (hn : n.background? = some k) (hne : j ≠ k)
    (hload : m.isFailedLoad = false ∨ n.isFailedLoad = false) : m.Commutes n := by
  have hfailed : ∀ root detail list e f,
      (detailLoaded root detail).isFailedLoad = false ∨ (projectsLoaded list).isFailedLoad = false →
      ¬(detail = .error e ∧ list = .error f) := by
    rintro root detail list e f hload ⟨hdetail, hlist⟩
    rw [hdetail, hlist] at hload
    exact hload.elim Bool.noConfusion Bool.noConfusion
  -- The lemmas above have each pair in one order; the other one is their mirror image.
  cases m with
  | resized width height =>
      cases hm
      exact n.commutes_resized k width height hn hne.symm
  | routerStatus status =>
      cases hm
      exact n.commutes_routerStatus k status hn hne.symm
  | projectsLoaded list =>
      cases hm
      cases n with
      | resized width height => exact (commutes_resized _ .list width height rfl (by decide)).symm
      | routerStatus status => exact (commutes_routerStatus _ .list status rfl (by decide)).symm
      | projectsLoaded other => exact absurd (Option.some.inj hn) hne
      | detailLoaded root detail =>
          exact commutes_list_description list root detail fun e f => hfailed root _ _ e f hload.symm
      | line launch text => exact commutes_list_line list launch text
      | _ => cases hn
  | detailLoaded root detail =>
      cases hm
      cases n with
      | resized width height =>
          exact (commutes_resized _ .description width height rfl (by decide)).symm
      | routerStatus status =>
          exact (commutes_routerStatus _ .description status rfl (by decide)).symm
      | projectsLoaded list =>
          exact (commutes_list_description list root detail fun e f => hfailed root _ _ e f hload).symm
      | detailLoaded other result => exact absurd (Option.some.inj hn) hne
      | line launch text => exact commutes_description_line root detail launch text
      | _ => cases hn
  | line launch text =>
      cases hm
      cases n with
      | resized width height => exact (commutes_resized _ .line width height rfl (by decide)).symm
      | routerStatus status => exact (commutes_routerStatus _ .line status rfl (by decide)).symm
      | projectsLoaded list => exact (commutes_list_line list launch text).symm
      | detailLoaded root detail => exact (commutes_description_line root detail launch text).symm
      | line other words => exact absurd (Option.some.inj hn) hne
      | _ => cases hn
  | _ => cases hm

end Message

/-- Background results commute. In every state two results of different kinds leave the
    same board in either order, unless both tell of a load that failed, and nothing is
    asked for in either order. -/
theorem Board.background_results_commute (b : Board) (m n : Message) (j k : Background)
    (hm : m.background? = some j) (hn : n.background? = some k) (hne : j ≠ k)
    (hload : m.isFailedLoad = false ∨ n.isFailedLoad = false) :
    ((b.update m).1.update n).1 = ((b.update n).1.update m).1 ∧
      (b.update m).2 = [] ∧ ((b.update m).1.update n).2 = [] ∧
      (b.update n).2 = [] ∧ ((b.update n).1.update m).2 = [] :=
  ⟨n.commutes_of_background k m j hm hn hne hload b,
    m.no_jobs_of_background j hm _, n.no_jobs_of_background k hn _,
    n.no_jobs_of_background k hn _, m.no_jobs_of_background j hm _⟩

/-- The list cannot be loaded while a refresh of a project is on its way. The failure is
    told whether it comes before the description or after it. -/
theorem Board.failure_is_told_either_way :
    let board : Board :=
      { status := refreshingStatus, page := .detail { name := "shop", root := ⟨"/srv/shop"⟩ } }
    let list : Message := .projectsLoaded (.error "offline")
    let detail : Message := .detailLoaded ⟨"/srv/shop"⟩ (.ok {})
    list.background? = some .list ∧ detail.background? = some .description ∧
      Background.list ≠ .description ∧
      (list.isFailedLoad = false ∨ detail.isFailedLoad = false) ∧
      ((board.update list).1.update detail).1 = ((board.update detail).1.update list).1 ∧
      (board.update list).2 = [] ∧ ((board.update list).1.update detail).2 = [] ∧
      (board.update detail).2 = [] ∧ ((board.update detail).1.update list).2 = [] := by
  intro board list detail
  have hne : Background.list ≠ .description := by decide
  have hload : list.isFailedLoad = false ∨ detail.isFailedLoad = false := Or.inr rfl
  exact ⟨rfl, rfl, hne, hload,
    board.background_results_commute list detail .list .description rfl rfl hne hload⟩

-- Of two failures the later one is told.
example :
    let board : Board := { page := .detail { name := "shop", root := ⟨"/srv/shop"⟩ } }
    let list : Message := .projectsLoaded (.error "offline")
    let detail : Message := .detailLoaded ⟨"/srv/shop"⟩ (.error "gone")
    ((board.update list).1.update detail).1.status = "Error loading detail: gone" ∧
      ((board.update detail).1.update list).1.status = "Error loading projects: offline" := by
  decide

/-- Any number of results of different kinds leave the same board in every order, if at most
    one of the loads failed. -/
theorem Board.after_perm (b : Board) (ms ns : List Message) (hperm : ms.Perm ns)
    (hkinds : ms.Pairwise Message.Independent) : b.after ms = b.after ns := by
  -- A swap of two results is enough, in whatever state it happens.
  refine hperm.foldl_eq' (fun m hm n hn board => ?_) b
  by_cases hsame : m = n
  · rw [hsame]
  · rcases hkinds.forall hm hn hsame with ⟨j, k, hj, hk, hne, hload⟩
    exact n.commutes_of_background k m j hj hk hne hload board

end FleetBoard
