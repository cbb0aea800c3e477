import FleetBoard.Proofs.Deed
import FleetBoard.Proofs.Opener
import FleetBoard.Proofs.SameList
import FleetBoard.Screen.Follow

/-!
# What is Retained of a Stream

A page keeps the newest lines of its stream. Each line makes it one longer, until
there would be more than the cap, and then it falls back to fewer at once. So the
number of lines that are kept goes up and down with the number that came, and
`Scrollback.retained` tells it from the latter alone. Which lines these are needs
no history either: always the last ones that came, in their order.

The pages add nothing to that. A launch opens its page with no lines, a line is
put there only while the page waits for results of its launch, and nothing else
touches the lines until the page is left. What the screen shows of them is cut
from the same end.

## Main definitions

* `Scrollback.retained`: How many of so many lines are kept.
* `Scrollback.Holds`: What is kept of some lines.
* `Message.lineOf?`: The line that a message brings for a launch.
* `Run.acceptedBetween`: The lines of a launch that were accepted.
* `Run.ShowsSince`: The page of a launch is shown since its step.
* `Screen.StreamPage.ofPage?`: What a page of a stream shows.

## Theorems

* `retained_succ`: One more line, and what becomes of the number.
* `holds_push`: A line that is added.
* `scrollback_update`: What a message does to the lines of a page.
* `holds_accepted`: What is kept is what was accepted last.
* `retainedLines_of_holds`: What the screen shows of it.
* `newest_lines_retained`: The retained lines over runs, and on the screen.
-/

namespace FleetBoard

namespace Scrollback

/-- How many of so many lines are kept: all up to the cap, and then between the
    smaller number and the cap, one more with each line. -/
def retained (n : Nat) : Nat :=
  if n ≤ cap then n else keep + (n - (cap + 1)) % (cap + 1 - keep)

theorem retained_le (n : Nat) : retained n ≤ n := by
  unfold retained cap keep
  split <;> omega

theorem retained_le_cap (n : Nat) : retained n ≤ cap := by
  unfold retained cap keep
  split <;> omega

theorem retained_pos (n : Nat) (h : 0 < n) : 0 < retained n := by
  unfold retained cap keep
  split <;> omega

/-- One more line is kept as well, or too many are let go. -/
theorem retained_succ (n : Nat) :
    retained (n + 1) = if retained n + 1 ≤ cap then retained n + 1 else keep := by
  unfold retained cap keep
  by_cases hn : n ≤ 1000
  · rw [if_pos hn]
    by_cases hroom : n + 1 ≤ 1000
    · rw [if_pos hroom, if_pos hroom]
    · rw [if_neg hroom, if_neg hroom]
      omega
  · rw [if_neg hn, if_neg (by omega : ¬ n + 1 ≤ 1000)]
    split <;> omega

section TakeNewest

variable {α : Type} (n : Nat) (items : List α)

theorem length_takeNewest : (takeNewest n items).length = min n items.length := by
  rw [takeNewest, List.length_drop]
  omega

theorem takeNewest_suffix : takeNewest n items <:+ items :=
  List.drop_suffix _ _

/-- The newest of the newest are the newest of all. -/
theorem takeNewest_takeNewest (m : Nat) (h : m ≤ items.length) :
    takeNewest n (takeNewest m items) = takeNewest (min n m) items := by
  rw [takeNewest, length_takeNewest, takeNewest, takeNewest, List.drop_drop]
  congr 1
  omega

theorem takeNewest_concat (item : α) (h : n ≤ items.length) :
    takeNewest n items ++ [item] = takeNewest (n + 1) (items ++ [item]) := by
  have hskip : items.length + 1 - (n + 1) = items.length - n := by omega
  rw [takeNewest, takeNewest, List.length_append, List.length_singleton, hskip,
    List.drop_append_of_le_length (by omega)]

/-- The newest item of all is among the newest. -/
theorem getLast?_takeNewest (h : 0 < n) : (takeNewest n items).getLast? = items.getLast? := by
  rw [takeNewest, List.getLast?_drop]
  split
  next hskip =>
    -- All items are skipped only where there are none.
    have hnone : items = [] := List.eq_nil_of_length_eq_zero (by omega)
    rw [hnone]
    rfl
  next => rfl

/-- Whatever is kept, the newest of all is. -/
theorem getLast?_takeNewest_retained :
    (takeNewest (retained items.length) items).getLast? = items.getLast? := by
  cases items with
  | nil => rfl
  | cons item rest => exact getLast?_takeNewest _ _ (retained_pos _ (Nat.succ_pos _))

end TakeNewest

/-- What is kept of some lines that were added one by one. -/
def Holds (s : Scrollback) (lines : List String) : Prop :=
  s.lines = takeNewest (retained lines.length) lines

theorem holds_nil : Holds {} [] := rfl

variable (s : Scrollback) (lines : List String)

theorem length_of_holds (h : s.Holds lines) : s.lines.length = retained lines.length := by
  have hle := retained_le lines.length
  rw [h, length_takeNewest]
  omega

/-- What is kept after one more line is what is kept of all of them. -/
theorem holds_push (line : String) (h : s.Holds lines) :
    (s.push line).Holds (lines ++ [line]) := by
  have hle := retained_le lines.length
  have hall : s.lines ++ [line] = takeNewest (retained lines.length + 1) (lines ++ [line]) := by
    rw [h, takeNewest_concat _ _ _ hle]
  have hlength : (s.lines ++ [line]).length = retained lines.length + 1 := by
    rw [List.length_append, length_of_holds s lines h, List.length_singleton]
  rw [Holds, List.length_append, List.length_singleton, retained_succ, push, hlength]
  by_cases hroom : retained lines.length + 1 ≤ cap
  · rw [if_pos hroom, if_pos hroom]
    exact hall
  · rw [if_neg hroom, if_neg hroom]
    dsimp only
    -- The cap is above what is kept, so the newest are taken from the newest.
    have hkeep : min keep (retained lines.length + 1) = keep := by
      unfold cap at hroom
      unfold keep
      omega
    rw [hall, takeNewest_takeNewest, hkeep]
    rw [List.length_append, List.length_singleton]
    omega

end Scrollback

namespace Screen

/-- What a page of a stream shows. -/
def StreamPage.ofPage? : Page → Option StreamPage
  | .logs page => some (.ofLogs page)
  | .operation op => some (.ofOperation op)
  | _ => none

variable (p : StreamPage)

/-- What is drawn for a page with lines is drawn from these. -/
theorem exists_ofPage? (page : Page) (s : Scrollback) (h : page.scrollback? = some s) :
    ∃ p, StreamPage.ofPage? page = some p ∧ p.scrollback = s := by
  cases page with
  | logs page => exact ⟨.ofLogs page, rfl, Option.some.inj h⟩
  | operation op => exact ⟨.ofOperation op, rfl, Option.some.inj h⟩
  | _ => exact absurd h (Option.some_ne_none s).symm

/-- The screen shows the newest of what is kept, so the newest of all, as long as
    there is anything to show. -/
theorem retainedLines_of_holds (lines : List String) (height : Nat)
    (hholds : p.scrollback.Holds lines) (hsome : lines ≠ []) :
    retainedLines p height =
      (Scrollback.takeNewest (min height (Scrollback.retained lines.length)) lines).map
        fun line => [⟨line, .text⟩] := by
  have hkept : p.scrollback.lines.isEmpty = false := by
    rw [← Bool.not_eq_true, List.isEmpty_iff_length_eq_zero,
      Scrollback.length_of_holds _ lines hholds]
    have hpos := Scrollback.retained_pos lines.length (List.length_pos_iff.mpr hsome)
    omega
  rw [retainedLines, hkept, if_neg Bool.false_ne_true, Scrollback.newest, hholds,
    Scrollback.takeNewest_takeNewest _ _ _ (Scrollback.retained_le _)]

end Screen

namespace Page

variable (p : Page)

theorem scrollback?_eq_none_iff : p.scrollback? = none ↔ p.watch = .idle := by
  cases p <;> simp only [scrollback?, watch, reduceCtorEq]

theorem scrollback?_setSlot (slot : Slot) : (p.setSlot slot).scrollback? = p.scrollback? := by
  cases p <;> rfl

theorem scrollback?_mapDetail (f : DetailPage → DetailPage) :
    (p.mapDetail f).scrollback? = p.scrollback? := by
  cases p <;> rfl

theorem scrollback?_dropDetail : p.dropDetail.scrollback? = p.scrollback? := by
  cases p <;> rfl

theorem scrollback?_pushLine (line : String) :
    (p.pushLine line).scrollback? = p.scrollback?.map fun s => s.push line := by
  cases p <;> rfl

/-- A page without a stream, or one with a stream that has no lines yet. -/
def Unwritten : Prop :=
  p.scrollback? = none ∨ p.scrollback? = some {}

end Page

/-- The line that a message brings for a launch. -/
def Message.lineOf? (launch : LaunchId) : Message → Option String
  | .line id text => if id = launch then some text else none
  | _ => none

namespace Board

variable (b : Board)

theorem unwritten_of_dashboard (hp : b.page = .dashboard) : b.page.Unwritten := by
  rw [hp]
  exact Or.inl rfl

/-- The page of an operation has no lines to begin with. -/
theorem unwritten_launchOperation (name : String) (dir : Option Path) (args : List String) :
    (b.launchOperation name dir args).1.page.Unwritten :=
  Or.inr rfl

theorem unwritten_runDashboard (hp : b.page = .dashboard) (command : DashboardCommand) :
    (b.runDashboard command).1.page.Unwritten := by
  have hstay : ∀ b' : Board, (b.runDashboard command).1 = b' → b'.page = b.page →
      (b.runDashboard command).1.page.Unwritten := by
    intro b' hboard hpage
    rw [hboard]
    exact unwritten_of_dashboard b' (hpage.trans hp)
  cases deed_runDashboard b command with
  | opened p _ _ hboard _ =>
      rw [hboard]
      exact Or.inl rfl
  | launched action p _ _ hboard _ =>
      rw [hboard]
      exact unwritten_launchOperation b _ _ _
  | idle hboard _ => exact hstay _ hboard rfl
  | moved _ _ hboard _ => exact hstay _ hboard rfl
  | widened _ hboard _ => exact hstay _ hboard rfl
  | quit _ hboard _ => exact hstay _ hboard rfl
  | browsed _ _ _ _ hboard _ => exact hstay _ hboard rfl
  | asked _ _ _ hboard _ => exact hstay _ hboard rfl
  | configured _ hboard _ => exact hstay _ hboard rfl
  | refreshed _ hboard _ => exact hstay _ hboard rfl
  | begun _ hboard _ => exact hstay _ hboard rfl
  | helped _ hboard _ => exact hstay _ hboard rfl

theorem unwritten_dashboardKey (hp : b.page = .dashboard) (key : Key) :
    (b.dashboardKey key).1.page.Unwritten := by
  rcases dashboardKey_cases b key with ⟨action, _, hkey⟩ | ⟨_, hkey⟩ | ⟨_, hkey⟩ |
    ⟨command, _, hkey⟩ | hkey
  · rw [hkey, answerKey]
    split
    · exact unwritten_launchOperation _ _ _ _
    · exact unwritten_of_dashboard _ hp
  · rw [hkey]
    refine unwritten_of_dashboard _ ?_
    cases key <;> simp only [filterKey]
    all_goals try exact hp
    split <;> exact hp
  · rw [hkey]
    exact unwritten_of_dashboard _ hp
  · rw [hkey]
    exact unwritten_runDashboard b hp command
  · rw [hkey]
    exact unwritten_of_dashboard b hp

theorem unwritten_runDescribed (page : DetailPage) (hp : b.page = .detail page) (d : Description)
    (command : DetailCommand) : (b.runDescribed page d command).1.page.Unwritten := by
  have hstay : b.page.Unwritten := by
    rw [hp]
    exact Or.inl rfl
  cases command with
  | followLogs => exact Or.inr rfl
  | lifecycle action => exact unwritten_launchOperation b _ _ _
  | browse site => cases site <;> exact hstay
  | toggleDebugger =>
      simp only [runDescribed]
      split <;> exact hstay
  | copyUrl =>
      simp only [runDescribed]
      split <;> exact hstay
  | refresh => exact Or.inl rfl
  | _ => exact hstay

theorem unwritten_detailKey (page : DetailPage) (hp : b.page = .detail page) (key : Key) :
    (b.detailKey page key).1.page.Unwritten := by
  have hstay : b.page.Unwritten := by
    rw [hp]
    exact Or.inl rfl
  unfold detailKey
  cases DetailCommand.ofKey? key with
  | none => exact hstay
  | some command =>
      cases command with
      | scrollUp => exact Or.inl rfl
      | scrollDown => exact Or.inl rfl
      | pageUp => exact Or.inl rfl
      | pageDown => exact Or.inl rfl
      | back => exact Or.inl rfl
      | quit => exact hstay
      | _ =>
          -- What works only on a description does nothing without one.
          simp only [runDetail]
          split
          · exact unwritten_runDescribed b page hp _ _
          · exact hstay

/-- News other than a line leave the lines as they are, or leave the page. -/
theorem scrollback_of_news (m : Message) (hm : m.key? = none)
    (hline : ∀ id text, m ≠ .line id text) :
    (b.update m).1.page.scrollback? = none ∨
      (b.update m).1.page.scrollback? = b.page.scrollback? := by
  cases m with
  | projectsLoaded result => exact Or.inr (by cases result <;> rfl)
  | detailLoaded root result =>
      right
      simp only [update, takeDescription]
      cases b.page.detail? with
      | none => rfl
      | some page =>
          dsimp only
          split
          · cases result with
            | ok d => exact Page.scrollback?_mapDetail _ _
            | error e =>
                exact (Page.scrollback?_dropDetail _).trans (Page.scrollback?_mapDetail _ _)
          · rfl
  | debuggerToggled result =>
      right
      simp only [update, takeDebugger]
      split
      · split
        · exact Page.scrollback?_mapDetail _ _
        · rfl
      · rfl
  | interactiveFinished origin error =>
      right
      simp only [update, takeInteractive]
      split
      · exact Page.scrollback?_mapDetail _ _
      · rfl
  | streamStarted stream =>
      right
      simp only [update, takeStream]
      split
      · exact Page.scrollback?_setSlot _ _
      · rfl
  | line id text => exact absurd rfl (hline id text)
  | streamEnded id kind error =>
      right
      simp only [update, takeEnd]
      cases hp : b.page with
      | logs page =>
          dsimp only
          split
          · cases error <;> rfl
          · rw [hp]
      | operation op =>
          dsimp only
          split
          · rfl
          · rw [hp]
      | _ => rw [hp]
  | returnDue id =>
      simp only [update, takeReturn]
      cases hp : b.page with
      | operation op =>
          dsimp only
          split
          · left
            rw [OperationPage.leave]
            cases op.origin <;> rfl
          · exact Or.inr (by rw [hp])
      | _ => exact Or.inr (by rw [hp])
  | key key => exact absurd hm (Option.some_ne_none key)
  | _ => exact Or.inr rfl

/-- A key leaves the lines as they are, or leaves the page, or opens a page
    without lines. -/
theorem scrollback_of_key (key : Key) :
    (b.update (.key key)).1.page.scrollback? = none ∨
    (b.page.scrollback? = none ∧ (b.update (.key key)).1.page.scrollback? = some {}) ∨
    (b.update (.key key)).1.page.scrollback? = b.page.scrollback? := by
  rw [update]
  have hquit : b.quit.1.page.scrollback? = b.page.scrollback? := Page.scrollback?_setSlot _ _
  by_cases hinterrupt : key = .interrupt
  · rw [hinterrupt, pressKey_interrupt]
    exact Or.inr (Or.inr hquit)
  -- Only a page without a stream opens another one.
  have hopens : b.page.scrollback? = none → (b.pressKey key).1.page.Unwritten →
      (b.pressKey key).1.page.scrollback? = none ∨
      (b.page.scrollback? = none ∧ (b.pressKey key).1.page.scrollback? = some {}) ∨
      (b.pressKey key).1.page.scrollback? = b.page.scrollback? :=
    fun hbefore hafter => hafter.imp_right fun hnew => Or.inl ⟨hbefore, hnew⟩
  cases hp : b.page with
  | dashboard =>
      rw [hp] at hopens
      refine hopens rfl ?_
      rw [pressKey_of_dashboard b key hp hinterrupt]
      exact unwritten_dashboardKey b hp key
  | detail page =>
      rw [hp] at hopens
      refine hopens rfl ?_
      rw [pressKey_of_detail b page key hp hinterrupt]
      exact unwritten_detailKey b page hp key
  | logs page =>
      rw [← hp]
      rcases pressKey_of_logs b page key hp with ⟨_, hkey⟩ | ⟨_, hkey⟩ | ⟨_, _, hkey⟩
      · rw [hkey]
        exact Or.inr (Or.inr hquit)
      · rw [hkey]
        exact Or.inl rfl
      · rw [hkey]
        exact Or.inr (Or.inr rfl)
  | operation op =>
      rw [← hp]
      rcases pressKey_of_operation b op key hp with ⟨_, hkey⟩ | ⟨_, hkey⟩ | ⟨_, _, hkey⟩
      · rw [hkey]
        exact Or.inr (Or.inr hquit)
      · left
        rw [hkey, Page.scrollback?_eq_none_iff]
        exact Page.watch_mapDetail_leave op awaitLoad
      · rw [hkey]
        exact Or.inr (Or.inr rfl)

/-- The line that a board accepts for a launch by a message. -/
def accepted? (launch : LaunchId) (m : Message) : Option String :=
  if b.expects launch then m.lineOf? launch else none

/-- What a message does to the lines of a page, when results are expected of
    `launch` only: the page is one without lines afterwards, or a new one, or it is
    the same one with the line that was accepted, if one was. -/
theorem scrollback_update (launch : LaunchId) (honly : ∀ id, b.expects id = true → id = launch)
    (m : Message) :
    (b.update m).1.page.scrollback? = none ∨
    (b.page.scrollback? = none ∧ (b.update m).1.page.scrollback? = some {}) ∨
    (b.update m).1.page.scrollback? =
      b.page.scrollback?.map fun s => (b.accepted? launch m).elim s s.push := by
  -- Where no line is accepted the lines are the same ones.
  have hsame : b.accepted? launch m = none →
      b.page.scrollback? = b.page.scrollback?.map fun s => (b.accepted? launch m).elim s s.push := by
    intro hnone
    rw [hnone]
    exact Option.map_id'.symm
  cases hkey : m.key? with
  | some key =>
      have hm := (Message.key?_eq_some_iff m key).mp hkey
      have hnone : b.accepted? launch m = none := by
        rw [hm]
        exact ite_self none
      rw [← hsame hnone, hm]
      exact scrollback_of_key b key
  | none =>
      by_cases hline : ∃ id text, m = .line id text
      · rcases hline with ⟨id, text, hm⟩
        right
        right
        rw [hm, update, takeLine, accepted?, Message.lineOf?]
        by_cases hexpects : b.expects id = true
        · -- A line that is accepted is one of the launch.
          have hid := honly id hexpects
          rw [if_pos hexpects, if_pos hid, ← hid, if_pos hexpects]
          exact Page.scrollback?_pushLine _ _
        · rw [if_neg hexpects]
          by_cases hid : id = launch
          · rw [← hid, if_neg hexpects]
            exact Option.map_id'.symm
          · rw [if_neg hid, ite_self]
            exact Option.map_id'.symm
      · have hother : ∀ id text, m ≠ .line id text := fun id text hm => hline ⟨id, text, hm⟩
        have hnone : b.accepted? launch m = none := by
          rw [accepted?]
          cases m <;> simp only [Message.lineOf?, ite_self]
          exact absurd rfl (hother _ _)
        rw [← hsame hnone]
        exact (scrollback_of_news b m hkey hother).imp_right Or.inr

end Board

namespace Run

/-- The line that a step of a run brings for a launch, if it is accepted. -/
def acceptedAt (r : Run) (launch : LaunchId) (k : Nat) : Option String :=
  r.messages[k]?.bind ((r.boardAt k).accepted? launch)

/-- The lines of a launch that are accepted from one step on, before another
    one. -/
def acceptedBetween (r : Run) (launch : LaunchId) (j k : Nat) : List String :=
  (List.range' j (k - j)).filterMap (r.acceptedAt launch)

/-- A launch is made in step `j`, and the page that is opened then is shown at every
    point up to `k`. -/
def ShowsSince (r : Run) (launch : Launch) (j k : Nat) : Prop :=
  launch ∈ Job.launches (r.jobsAt j) ∧ j < k ∧
    ∀ i, j < i → i ≤ k → (r.boardAt i).page.scrollback?.isSome = true

variable (r : Run)

theorem acceptedBetween_self (launch : LaunchId) (k : Nat) : r.acceptedBetween launch k k = [] := by
  rw [acceptedBetween, Nat.sub_self]
  rfl

theorem acceptedBetween_succ (launch : LaunchId) (j k : Nat) (h : j ≤ k) :
    r.acceptedBetween launch j (k + 1) =
      r.acceptedBetween launch j k ++ (r.acceptedAt launch k).toList :=
  filterMap_range'_succ (r.acceptedAt launch) j k h

/-- A page with lines makes no launch, so it is shown for the launch that it was
    shown for before. -/
theorem openerAt_of_kept (k : Nat) (hbefore : (r.boardAt k).page.scrollback?.isSome = true)
    (hafter : (r.boardAt (k + 1)).page.scrollback?.isSome = true) :
    r.openerAt (k + 1) = r.openerAt k := by
  have hwatch : ∀ p : Page, p.scrollback?.isSome = true → p.watch ≠ .idle := by
    intro p hp hidle
    rw [(Page.scrollback?_eq_none_iff p).mpr hidle] at hp
    exact Bool.false_ne_true hp
  have hslot : (r.boardAt (k + 1)).page.slot?.isSome = true := by
    rw [← Page.slot?_watch]
    exact (Watch.isSome_slot?_iff _).mpr (hwatch _ hafter)
  have hnone : Job.launches (r.jobsAt k) = [] := by
    rcases hm : r.messages[k]? with _ | m
    · rw [jobsAt_idle r k hm]
      rfl
    · rcases Board.launches_of_move _ _ m _ (move r k m hm) with ⟨hnone, _⟩ |
        ⟨_, _, _, _, hidle, _⟩
      · exact hnone
      · exact absurd hidle (hwatch _ hbefore)
  rw [openerAt, Page.openedBy, hnone]
  exact if_pos hslot

/-- The page that is shown since a launch was opened for it. -/
theorem openerAt_of_showsSince (launch : Launch) (j k : Nat) (h : r.ShowsSince launch j k) :
    r.openerAt k = some launch := by
  rcases h with ⟨hlaunch, hjk, hshown⟩
  induction k with
  | zero => omega
  | succ k ih =>
      by_cases hnow : j = k
      · -- In its own step the launch is the only one.
        rw [hnow] at hlaunch
        rcases launches_step r k with ⟨hnone, _⟩ | ⟨new, hsome, _, _⟩
        · rw [hnone] at hlaunch
          exact absurd hlaunch List.not_mem_nil
        · rw [hsome, List.mem_singleton] at hlaunch
          rw [openerAt, Page.openedBy, hsome, hlaunch]
      · rw [openerAt_of_kept r k (hshown k (by omega) (by omega))
          (hshown (k + 1) hjk (Nat.le_refl _))]
        exact ih (by omega) fun i hji hik => hshown i hji (by omega)

/-- Results are expected of no other launch than the one that opened the page. -/
theorem expects_of_openerAt (launch : Launch) (k : Nat) (h : r.openerAt k = some launch)
    (id : LaunchId) (hexpects : (r.boardAt k).expects id = true) : id = launch.id := by
  rcases Board.opener_of_expects _ _ id (sound_boardAt r k) (openedBy_boardAt r k)
    hexpects with ⟨other, hother, hid⟩
  rw [h, Option.some.injEq] at hother
  rw [← hid, hother]

/-- An operation carries the launch that opened its page. -/
theorem launch_of_openerAt (launch : Launch) (k : Nat) (h : r.openerAt k = some launch)
    (op : OperationPage) (hp : (r.boardAt k).page = .operation op) : op.launch = launch.id := by
  have hsound := sound_boardAt r k
  have hopened := openedBy_boardAt r k
  rw [hp, Page.watch_eq_operation] at hsound
  rw [h] at hopened
  rw [LaunchId.mk.injEq, hsound.1]
  exact hopened.1.symm

/-- Wherever lines are shown, a launch was made for them, and its page is shown
    since. -/
theorem exists_showsSince (k : Nat) (h : (r.boardAt k).page.scrollback?.isSome = true) :
    ∃ launch j, r.ShowsSince launch j k := by
  induction k with
  | zero =>
      rw [boardAt_zero] at h
      exact absurd h Bool.false_ne_true
  | succ k ih =>
      by_cases hbefore : (r.boardAt k).page.scrollback?.isSome = true
      · rcases ih hbefore with ⟨launch, j, hlaunch, hjk, hshown⟩
        refine ⟨launch, j, hlaunch, by omega, fun i hji hik => ?_⟩
        by_cases hi : i = k + 1
        · rw [hi]
          exact h
        · exact hshown i hji (by omega)
      · -- Lines come up only with a launch.
        have hidle : (r.boardAt k).page.watch = .idle := by
          rw [← Page.scrollback?_eq_none_iff]
          exact Option.not_isSome_iff_eq_none.mp hbefore
        have hshown : (r.boardAt (k + 1)).page.watch ≠ .idle := by
          rw [ne_eq, ← Page.scrollback?_eq_none_iff]
          exact Option.isSome_iff_ne_none.mp h
        rcases hm : r.messages[k]? with _ | m
        · rw [boardAt_idle r k hm] at hshown
          exact absurd hidle hshown
        rcases Board.launches_of_move _ _ m _ (move r k m hm) with ⟨_, _, hsame⟩ |
          ⟨launch, hsome, _⟩
        · rw [hidle, ← Watch.kind?_eq_none_iff] at hsame
          exact absurd ((Watch.kind?_eq_none_iff _).mp (hsame.elim id id)) hshown
        · refine ⟨launch, k, ?_, by omega, fun i hki hik => ?_⟩
          · rw [hsome]
            exact List.mem_singleton.mpr rfl
          · rw [show i = k + 1 by omega]
            exact h

/-- A launch opens a page without lines. -/
theorem scrollback_of_launch (launch : Launch) (k : Nat)
    (h : launch ∈ Job.launches (r.jobsAt k)) :
    (r.boardAt (k + 1)).page.scrollback? = some {} := by
  rcases hm : r.messages[k]? with _ | m
  · rw [jobsAt_idle r k hm] at h
    exact absurd h List.not_mem_nil
  rcases Board.launches_of_move _ _ m _ (move r k m hm) with ⟨hnone, _⟩ |
    ⟨new, _, _, _, hidle, hopening⟩
  · rw [hnone] at h
    exact absurd h List.not_mem_nil
  have hbefore := (Page.scrollback?_eq_none_iff _).mpr hidle
  have hnoother : ∀ id, (r.boardAt k).expects id = true → id = launch.id := by
    intro id hexpects
    rcases (Board.expects_iff _ id).mp hexpects with ⟨slot, hslot, _⟩
    rw [hidle] at hslot
    exact absurd hslot (Option.some_ne_none slot).symm
  -- The page has a stream now, so it is not one that was left.
  have hafter : (r.boardAt (k + 1)).page.scrollback? ≠ none := by
    rw [ne_eq, Page.scrollback?_eq_none_iff, ← Watch.kind?_eq_none_iff, hopening,
      Watch.kind?_opening]
    exact Option.some_ne_none _
  rw [boardAt_step r k m hm] at hafter ⊢
  rcases Board.scrollback_update _ launch.id hnoother m with hnone | ⟨_, hnew⟩ | hsame
  · exact absurd hnone hafter
  · exact hnew
  · rw [hbefore] at hsame
    exact absurd hsame hafter

/-- What is kept on the page of a launch is what was accepted for it. -/
theorem holds_accepted (launch : Launch) (j k : Nat) (h : r.ShowsSince launch j k) :
    ∃ s, (r.boardAt k).page.scrollback? = some s ∧
      s.Holds (r.acceptedBetween launch.id (j + 1) k) := by
  rcases h with ⟨hlaunch, hjk, hshown⟩
  -- Induction on the steps since the launch: the page is not left, so every step adds the
  -- line that was accepted in it.
  induction k with
  | zero => omega
  | succ k ih =>
      have hhere := hshown (k + 1) hjk (Nat.le_refl _)
      by_cases hnow : j = k
      · -- The page that is opened has no lines.
        rw [hnow] at hlaunch ⊢
        rw [acceptedBetween_self]
        exact ⟨{}, scrollback_of_launch r launch k hlaunch, Scrollback.holds_nil⟩
      · have hbefore : r.ShowsSince launch j k :=
          ⟨hlaunch, by omega, fun i hji hik => hshown i hji (by omega)⟩
        rcases ih (by omega) hbefore.2.2 with ⟨s, hs, hholds⟩
        rw [acceptedBetween_succ r launch.id (j + 1) k (by omega), acceptedAt]
        rcases hm : r.messages[k]? with _ | m
        · rw [boardAt_idle r k hm, Option.bind_none, Option.toList_none, List.append_nil]
          exact ⟨s, hs, hholds⟩
        rw [boardAt_step r k m hm] at hhere ⊢
        have honly := expects_of_openerAt r launch k (openerAt_of_showsSince r launch j k hbefore)
        rcases Board.scrollback_update _ launch.id honly m with hnone | ⟨hnone, _⟩ | hafter
        · rw [hnone] at hhere
          exact absurd hhere Bool.false_ne_true
        · rw [hs] at hnone
          exact absurd hnone (Option.some_ne_none s)
        · rw [hs] at hafter
          refine ⟨_, hafter, ?_⟩
          rw [Option.bind_some]
          cases (r.boardAt k).accepted? launch.id m with
          | none =>
              rw [Option.toList_none, List.append_nil]
              exact hholds
          | some text => exact Scrollback.holds_push s _ text hholds

/-- Wherever a page of logs or of an operation is shown, it was opened by a launch.
    Of the lines of that launch that were accepted since then exactly the newest are
    retained, and how many these are follows from how many came: all up to the cap,
    never more than that, and always the last one that came. Results are expected
    of no other launch. The screen shows as many of the retained lines as it has
    rows for, from the same end. -/
theorem newest_lines_retained :
    (∀ k, (r.boardAt k).page.scrollback?.isSome = true → ∃ launch j, r.ShowsSince launch j k) ∧
    ∀ launch j k, r.ShowsSince launch j k →
      ∀ lines, lines = r.acceptedBetween launch.id (j + 1) k →
      ∀ kept, kept = (if lines.length ≤ 1000 then lines.length
        else 500 + (lines.length - 1001) % 501) →
        (∃ s, (r.boardAt k).page.scrollback? = some s ∧
          s.lines = Scrollback.takeNewest kept lines ∧ s.lines.length = kept ∧ kept ≤ 1000 ∧
          s.lines <:+ lines ∧ s.lines.getLast? = lines.getLast?) ∧
        (∀ id, (r.boardAt k).expects id = true → id = launch.id) ∧
        (∀ op, (r.boardAt k).page = .operation op → op.launch = launch.id) ∧
        ∃ p, Screen.StreamPage.ofPage? (r.boardAt k).page = some p ∧
          (lines ≠ [] → ∀ height, Screen.retainedLines p height =
            (Scrollback.takeNewest (min height kept) lines).map fun line => [⟨line, .text⟩]) := by
  refine ⟨exists_showsSince r, fun launch j k hshows lines hlines kept hkept => ?_⟩
  have hretained : kept = Scrollback.retained lines.length := hkept
  rw [hretained]
  rcases holds_accepted r launch j k hshows with ⟨s, hs, hholds⟩
  rw [← hlines] at hholds
  have hopener := openerAt_of_showsSince r launch j k hshows
  refine ⟨⟨s, hs, hholds, Scrollback.length_of_holds s lines hholds,
    Scrollback.retained_le_cap _, ?_, ?_⟩, ?_, ?_, ?_⟩
  · rw [hholds]
    exact Scrollback.takeNewest_suffix _ lines
  · rw [hholds]
    exact Scrollback.getLast?_takeNewest_retained lines
  · exact fun id => expects_of_openerAt r launch k hopener id
  · exact fun op hp => launch_of_openerAt r launch k hopener op hp
  · rcases Screen.exists_ofPage? _ s hs with ⟨p, hp, hlines⟩
    refine ⟨p, hp, fun hsome height => Screen.retainedLines_of_holds p lines height ?_ hsome⟩
    rw [hlines]
    exact hholds

/-- An operation that shows two lines, with a line of another launch between them
    that is not accepted. In one row the screen shows the last line. -/
theorem other_launch_not_retained :
    let run : Run :=
      { timings := {}
        messages := [.projectsLoaded (.ok [⟨"shop", .running, "php", "", ⟨"/srv/shop"⟩⟩]),
          .key (.char 'S'), .line ⟨1⟩ "Stopping", .line ⟨7⟩ "Tailing", .line ⟨1⟩ "Stopped"] }
    run.ShowsSince ⟨⟨1⟩, .operation⟩ 1 5 ∧
    (∃ s, (run.boardAt 5).page.scrollback? = some s ∧ s.lines = ["Stopping", "Stopped"]) ∧
    ∃ p, Screen.StreamPage.ofPage? (run.boardAt 5).page = some p ∧
      Screen.retainedLines p 1 = [[⟨"Stopped", .text⟩]] := by
  intro run
  have hshown : ∀ i ∈ List.range' 2 4, (run.boardAt i).page.scrollback?.isSome = true := by decide
  have hshows : run.ShowsSince ⟨⟨1⟩, .operation⟩ 1 5 := by
    refine ⟨by decide, by decide, fun i hji hik => hshown i ?_⟩
    rw [List.mem_range'_1]
    omega
  have haccepted : ["Stopping", "Stopped"] = run.acceptedBetween ⟨1⟩ 2 5 := by decide
  rcases (newest_lines_retained run).2 _ 1 5 hshows _ haccepted 2 rfl with
    ⟨⟨s, hs, hlines, _⟩, _, _, p, hp, hscreen⟩
  exact ⟨hshows, ⟨s, hs, hlines⟩, p, hp, hscreen (by decide) 1⟩

end Run

end FleetBoard
