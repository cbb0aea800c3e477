import FleetBoard.Board.Update

/-!
# What Leaves the Project List Alone

Most messages are about the page that is shown: a description that was loaded, a
stream that goes on, a key on the page of a project. They change the page, the
status line, the mark that something is loaded and the count of launches, and
nothing besides. The project list, the row that is selected in it and whatever
lies over it stay as they are, even while the page is another one.

That is said once here, for every message but the two that do more: a list that
was loaded, and a key on the list itself. Laws about the cursor, the filter and
the overlays need to look at those two only.

## Main definitions

* `Message.key?`: The key that a message brings.
* `Board.SameOverlays`: Two boards have the same overlays, with the same filter.
* `Board.SameList`: Two boards have the same list, with the same row selected.

## Theorems

* `sameList_of_news`: Only a key or a list that was loaded changes the list.
* `sameList_pressKey`: A key on another page changes nothing about the list.
* `sameOverlays_of_news`: Only a key changes an overlay.
-/

namespace FleetBoard

/-- The key that a message brings. -/
def Message.key? : Message → Option Key
  | .key pressed => some pressed
  | _ => none

theorem Message.key?_eq_some_iff (m : Message) (key : Key) :
    m.key? = some key ↔ m = .key key := by
  cases m <;> simp only [Message.key?, Option.some.injEq, reduceCtorEq, Message.key.injEq]

namespace Board

/-- Two boards have the same overlays, with the same filter. -/
structure SameOverlays (b b' : Board) : Prop where
  confirmation : b'.confirmation = b.confirmation
  filter : b'.filter = b.filter
  helpShown : b'.helpShown = b.helpShown

/-- Two boards have the same project list, with the same row selected and the same
    overlays over it. -/
structure SameList (b b' : Board) : Prop extends SameOverlays b b' where
  projects : b'.projects = b.projects
  cursor : b'.cursor = b.cursor

variable (b : Board)

/-- A board that changes in its page, and in what goes with the page, has the same
    list. -/
theorem sameList_page (page : Page) (status : String) (loading : Bool) (launches : Nat) :
    b.SameList
      { b with page := page, status := status, loading := loading, launches := launches } :=
  ⟨⟨rfl, rfl, rfl⟩, rfl, rfl⟩

theorem sameList_refl : b.SameList b :=
  sameList_page b b.page b.status b.loading b.launches

theorem sameList_takeDescription (root : Path) (result : Except String Description) :
    b.SameList (b.takeDescription root result) := by
  unfold takeDescription
  cases b.page.detail? with
  | none => exact sameList_refl b
  | some page =>
      dsimp only
      by_cases hroot : page.root.same root = true
      · rw [if_pos hroot]
        cases result <;> exact sameList_page b _ _ _ _
      · rw [if_neg hroot]
        exact sameList_refl b

theorem sameList_takeDebugger (result : Except String Bool) :
    b.SameList (b.takeDebugger result).1 := by
  unfold takeDebugger
  dsimp only
  cases b.page.detail? with
  | none => exact sameList_page b _ _ _ _
  | some page =>
      dsimp only
      by_cases hd : page.description.isSome = true
      · rw [if_pos hd]
        exact sameList_page b _ _ _ _
      · rw [if_neg hd]
        exact sameList_page b _ _ _ _

theorem sameList_takeInteractive (origin : Mode) (error : Option String) :
    b.SameList (b.takeInteractive origin error).1 := by
  unfold takeInteractive
  dsimp only
  by_cases ho : origin = .detail
  · rw [if_pos ho]
    exact sameList_page b _ _ _ _
  · rw [if_neg ho]
    exact sameList_page b _ _ _ _

theorem sameList_takeStream (s : Stream) : b.SameList (b.takeStream s).1 := by
  unfold takeStream
  by_cases h : b.page.slot? = some (.pending s.launch)
  · rw [if_pos h]
    exact sameList_page b _ _ _ _
  · rw [if_neg h]
    exact sameList_refl b

theorem sameList_takeLine (launch : LaunchId) (text : String) :
    b.SameList (b.takeLine launch text) := by
  unfold takeLine
  by_cases h : b.expects launch = true
  · rw [if_pos h]
    exact sameList_page b _ _ _ _
  · rw [if_neg h]
    exact sameList_refl b

theorem sameList_takeEnd (launch : LaunchId) (error : Option String) :
    b.SameList (b.takeEnd launch error).1 := by
  unfold takeEnd
  cases b.page with
  | dashboard => exact sameList_refl b
  | detail page => exact sameList_refl b
  | logs page =>
      by_cases h : page.slot.expects launch = true
      · simp only [if_pos h]
        cases error <;> exact sameList_page b _ _ _ _
      · simp only [if_neg h]
        exact sameList_refl b
  | operation op =>
      by_cases h : op.slot.expects launch = true
      · simp only [if_pos h]
        exact sameList_page b _ _ _ _
      · simp only [if_neg h]
        exact sameList_refl b

theorem sameList_takeReturn (launch : LaunchId) : b.SameList (b.takeReturn launch) := by
  unfold takeReturn
  cases b.page with
  | operation op =>
      by_cases h : op.launch = launch ∧ op.done ∧ op.error = none
      · simp only [if_pos h]
        exact sameList_page b _ _ _ _
      · simp only [if_neg h]
        exact sameList_refl b
  | _ => exact sameList_refl b

/-- Only a key, or a list that was loaded, changes the list. -/
theorem sameList_of_news (m : Message) (hm : m.key? = none)
    (hlisted : ∀ projects, m ≠ .projectsLoaded (.ok projects)) :
    b.SameList (b.update m).1 := by
  cases m with
  | projectsLoaded result =>
      cases result with
      | ok projects => exact absurd rfl (hlisted projects)
      | error e => exact ⟨⟨rfl, rfl, rfl⟩, rfl, rfl⟩
  | detailLoaded root result => exact sameList_takeDescription b root result
  | debuggerToggled result => exact sameList_takeDebugger b result
  | interactiveFinished origin error => exact sameList_takeInteractive b origin error
  | streamStarted s => exact sameList_takeStream b s
  | line launch text => exact sameList_takeLine b launch text
  | streamEnded launch kind error => exact sameList_takeEnd b launch error
  | returnDue launch => exact sameList_takeReturn b launch
  | key key => exact absurd hm (Option.some_ne_none key)
  | textCopied error => exact sameList_page b _ _ _ _
  | tick => exact sameList_refl b
  | resized width height => exact ⟨⟨rfl, rfl, rfl⟩, rfl, rfl⟩
  | routerStatus status => exact ⟨⟨rfl, rfl, rfl⟩, rfl, rfl⟩

/-- Only a key changes an overlay. A list that was loaded moves the cursor at
    most. -/
theorem sameOverlays_of_news (m : Message) (hm : m.key? = none) :
    b.SameOverlays (b.update m).1 := by
  by_cases hlisted : ∃ projects, m = .projectsLoaded (.ok projects)
  · rcases hlisted with ⟨projects, hprojects⟩
    rw [hprojects]
    exact ⟨rfl, rfl, rfl⟩
  · exact (sameList_of_news b m hm (not_exists.mp hlisted)).toSameOverlays

theorem sameList_runDescribed (page : DetailPage) (d : Description) (command : DetailCommand) :
    b.SameList (b.runDescribed page d command).1 := by
  cases command with
  | browse site => cases site <;> exact sameList_refl b
  | toggleDebugger =>
      simp only [runDescribed]
      split <;> exact sameList_page b _ _ _ _
  | copyUrl =>
      simp only [runDescribed]
      split <;> exact sameList_page b _ _ _ _
  | _ => exact sameList_page b _ _ _ _

theorem sameList_detailKey (page : DetailPage) (key : Key) :
    b.SameList (b.detailKey page key).1 := by
  unfold detailKey
  cases DetailCommand.ofKey? key with
  | none => exact sameList_refl b
  | some command =>
      cases command with
      | scrollUp => exact sameList_page b _ _ _ _
      | scrollDown => exact sameList_page b _ _ _ _
      | pageUp => exact sameList_page b _ _ _ _
      | pageDown => exact sameList_page b _ _ _ _
      | back => exact sameList_page b _ _ _ _
      | quit => exact sameList_page b _ _ _ _
      | _ =>
          -- What works only on a description does nothing without one.
          simp only [runDetail]
          split
          · exact sameList_runDescribed b page _ _
          · exact sameList_refl b

/-- An interrupt gives up a stream, and has nothing to do with the list. -/
theorem sameList_quit : b.SameList b.quit.1 :=
  sameList_page b _ _ _ _

/-- A key on another page changes nothing about the list. -/
theorem sameList_pressKey (key : Key) (hp : b.page ≠ .dashboard) :
    b.SameList (b.pressKey key).1 := by
  by_cases hinterrupt : key = .interrupt
  · rw [hinterrupt, pressKey_interrupt]
    exact sameList_quit b
  cases hpage : b.page with
  | dashboard => exact absurd hpage hp
  | detail page =>
      rw [pressKey_of_detail b page key hpage hinterrupt]
      exact sameList_detailKey b page key
  | logs page =>
      rcases pressKey_of_logs b page key hpage with ⟨_, hkey⟩ | ⟨_, hkey⟩ | ⟨_, _, hkey⟩
      all_goals
        rw [hkey]
        exact sameList_page b _ _ _ _
  | operation op =>
      rcases pressKey_of_operation b op key hpage with ⟨_, hkey⟩ | ⟨_, hkey⟩ | ⟨_, _, hkey⟩
      all_goals
        rw [hkey]
        exact sameList_page b _ _ _ _

end Board

end FleetBoard
