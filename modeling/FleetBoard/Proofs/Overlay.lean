import FleetBoard.Proofs.Deed
import FleetBoard.Proofs.Run
import FleetBoard.Proofs.SameList

/-!
# Overlays

Three things may lie over the project list: the question whether an action on all
projects is meant, the line in which the filter is typed, and the help. Each takes
every key for itself while it is there. Nothing on the board says that there is
only one of them, and nothing checks it: keys are looked at in a fixed order, an
overlay is opened only by a key that no overlay has taken, and nothing but a key
opens one, closes one, or shows another page underneath.

That is why what is typed after the filter was opened arrives in it whole, whatever
is loaded, started or ended in between.

## Main definitions

* `Overlay`, `Board.overlays`: What lies over the project list.
* `Board.Covered`: One overlay at most, over the project list.
* `Key.retype`, `Key.typed`: A text after keys.
* `Run.keyAt`, `Run.keysBetween`: The keys of a run.

## Theorems

* `page_of_news`: Only a key leaves the project list.
* `covered_update`: No message puts an overlay over another one.
* `update_typing`, `update_help`: Where keys go while an overlay is there.
* `filter_after_begin`: The filter holds what was typed.
* `overlays_exclude`: The laws of overlays over runs.
-/

namespace FleetBoard

/-- What may lie over the project list. -/
inductive Overlay
  | question (action : BulkAction)
  | filter
  | help
  deriving DecidableEq, Repr

namespace Key

/-- A text after one more key: a character is added, and backspace takes the last
    one away. -/
def retype (text : List Char) : Key → List Char
  | .char c => text ++ [c]
  | .backspace => text.dropLast
  | _ => text

/-- The text that keys leave behind. -/
def typed (keys : List Key) : String :=
  String.ofList (keys.foldl retype [])

end Key

namespace Board

/-- What lies over the project list. -/
def overlays (b : Board) : List Overlay :=
  (b.confirmation.map Overlay.question).toList ++ (if b.filter.active then [.filter] else []) ++
    if b.helpShown then [.help] else []

/-- One overlay at most is there, and only over the project list. -/
inductive Covered (b : Board) : Prop
  | bare (hquestion : b.confirmation = none) (hfilter : b.filter.active = false)
      (hhelp : b.helpShown = false)
  | question (action : BulkAction) (hpage : b.page = .dashboard)
      (hquestion : b.confirmation = some action) (hfilter : b.filter.active = false)
      (hhelp : b.helpShown = false)
  | typing (hpage : b.page = .dashboard) (hquestion : b.confirmation = none)
      (hfilter : b.filter.active = true) (hhelp : b.helpShown = false)
  | help (hpage : b.page = .dashboard) (hquestion : b.confirmation = none)
      (hfilter : b.filter.active = false) (hhelp : b.helpShown = true)

variable (b b' : Board)

theorem overlays_eq_nil_iff : b.overlays = [] ↔
    b.confirmation = none ∧ b.filter.active = false ∧ b.helpShown = false := by
  rw [overlays]
  cases b.confirmation <;> cases b.filter.active <;> cases b.helpShown <;> simp

/-- Where one overlay at most is there, they are at most one, and none is there on
    another page. -/
theorem overlays_of_covered (h : b.Covered) :
    b.overlays.length ≤ 1 ∧ (b.overlays ≠ [] → b.mode = .dashboard) := by
  have hlist : b.page = .dashboard → b.mode = .dashboard := fun hpage => by
    rw [mode, hpage]
    rfl
  cases h with
  | bare hquestion hfilter hhelp =>
      have hnil := (overlays_eq_nil_iff b).mpr ⟨hquestion, hfilter, hhelp⟩
      rw [hnil]
      exact ⟨Nat.zero_le 1, fun h => absurd rfl h⟩
  | question action hpage hquestion hfilter hhelp =>
      rw [overlays, hquestion, hfilter, hhelp]
      exact ⟨Nat.le_refl 1, fun _ => hlist hpage⟩
  | typing hpage hquestion hfilter hhelp =>
      rw [overlays, hquestion, hfilter, hhelp]
      exact ⟨Nat.le_refl 1, fun _ => hlist hpage⟩
  | help hpage hquestion hfilter hhelp =>
      rw [overlays, hquestion, hfilter, hhelp]
      exact ⟨Nat.le_refl 1, fun _ => hlist hpage⟩

/-- The overlays of a board go on on another one that shows the list where it
    did. -/
theorem covered_of_same (h : b.SameOverlays b')
    (hpage : b.page = .dashboard → b'.page = .dashboard) (hb : b.Covered) : b'.Covered := by
  rcases h with ⟨hconfirmation, hfilter', hhelp'⟩
  cases hb with
  | bare hquestion hfilter hhelp =>
      exact .bare (by rw [hconfirmation, hquestion]) (by rw [hfilter', hfilter])
        (by rw [hhelp', hhelp])
  | question action hlist hquestion hfilter hhelp =>
      exact .question action (hpage hlist) (by rw [hconfirmation, hquestion])
        (by rw [hfilter', hfilter]) (by rw [hhelp', hhelp])
  | typing hlist hquestion hfilter hhelp =>
      exact .typing (hpage hlist) (by rw [hconfirmation, hquestion]) (by rw [hfilter', hfilter])
        (by rw [hhelp', hhelp])
  | help hlist hquestion hfilter hhelp =>
      exact .help (hpage hlist) (by rw [hconfirmation, hquestion]) (by rw [hfilter', hfilter])
        (by rw [hhelp', hhelp])

/-- Only a key leaves the project list. -/
theorem page_of_news (m : Message) (hm : m.key? = none) (hp : b.page = .dashboard) :
    (b.update m).1.page = .dashboard := by
  cases m with
  | projectsLoaded result => cases result <;> exact hp
  | detailLoaded root result => simp only [update, takeDescription, hp, Page.detail?]
  | debuggerToggled result => simp only [update, takeDebugger, hp, Page.detail?]
  | interactiveFinished origin error =>
      simp only [update, takeInteractive, hp]
      split <;> rfl
  | streamStarted s =>
      have hno_slot : b.page.slot? ≠ some (.pending s.launch) := by
        rw [hp]
        exact (Option.some_ne_none _).symm
      rw [update, takeStream, if_neg hno_slot]
      exact hp
  | line launch text =>
      rw [update, takeLine, expects, hp]
      exact hp
  | streamEnded launch kind error =>
      rw [update, takeEnd, hp]
      exact hp
  | returnDue launch =>
      rw [update, takeReturn, hp]
      exact hp
  | key key => exact absurd hm (Option.some_ne_none key)
  | _ => exact hp

/-- A question takes every key. -/
theorem update_question (key : Key) (action : BulkAction) (hp : b.page = .dashboard)
    (hquestion : b.confirmation = some action) (hkey : key ≠ .interrupt) :
    b.update (.key key) = b.answerKey action key := by
  rw [update, pressKey_of_dashboard b key hp hkey, dashboardKey, hquestion]

/-- A filter that is typed takes every key. -/
theorem update_typing (key : Key) (hp : b.page = .dashboard) (hquestion : b.confirmation = none)
    (hfilter : b.filter.active = true) (hkey : key ≠ .interrupt) :
    b.update (.key key) = (b.filterKey key, []) := by
  rw [update, pressKey_of_dashboard b key hp hkey, dashboardKey, hquestion]
  dsimp only
  rw [if_pos hfilter]

/-- The help takes every key, and goes. -/
theorem update_help (key : Key) (hp : b.page = .dashboard) (hquestion : b.confirmation = none)
    (hfilter : b.filter.active = false) (hhelp : b.helpShown = true) (hkey : key ≠ .interrupt) :
    b.update (.key key) = ({ b with helpShown := false }, []) := by
  rw [update, pressKey_of_dashboard b key hp hkey, dashboardKey, hquestion]
  dsimp only
  rw [if_neg (Bool.eq_false_iff.mp hfilter), if_pos hhelp]

/-- Where nothing lies over the list, a key is looked up as a command. -/
theorem update_bare (key : Key) (hp : b.page = .dashboard) (hquestion : b.confirmation = none)
    (hfilter : b.filter.active = false) (hhelp : b.helpShown = false) (hkey : key ≠ .interrupt) :
    b.update (.key key) = (DashboardCommand.ofKey? key).elim (b, []) b.runDashboard := by
  rw [update, pressKey_of_dashboard b key hp hkey, dashboardKey, hquestion]
  dsimp only
  rw [if_neg (Bool.eq_false_iff.mp hfilter), if_neg (Bool.eq_false_iff.mp hhelp)]
  cases DashboardCommand.ofKey? key <;> rfl

/-- A key while the filter is typed changes the filter and the cursor only. -/
theorem filterKey_eq (key : Key) : ∃ filter cursor,
    b.filterKey key = { b with filter := filter, cursor := cursor } := by
  cases key with
  | char c => exact ⟨_, _, rfl⟩
  | escape => exact ⟨_, _, rfl⟩
  | enter => exact ⟨_, b.cursor, rfl⟩
  | backspace =>
      rw [filterKey]
      split
      · exact ⟨_, _, rfl⟩
      · exact ⟨b.filter, b.cursor, rfl⟩
  | _ => exact ⟨b.filter, b.cursor, rfl⟩

/-- A command is carried out where nothing lies over the list, and puts one
    overlay there at most. -/
theorem covered_runDashboard (hp : b.page = .dashboard) (hquestion : b.confirmation = none)
    (hfilter : b.filter.active = false) (hhelp : b.helpShown = false)
    (command : DashboardCommand) : (b.runDashboard command).1.Covered := by
  have hstay : ∀ b' : Board, (b.runDashboard command).1 = b' → b.SameOverlays b' →
      (b.runDashboard command).1.Covered := by
    intro b' hboard hsame
    rw [hboard]
    exact .bare (by rw [hsame.confirmation, hquestion]) (by rw [hsame.filter, hfilter])
      (by rw [hsame.helpShown, hhelp])
  cases deed_runDashboard b command with
  | idle hboard _ => exact hstay _ hboard ⟨rfl, rfl, rfl⟩
  | moved _ _ hboard _ => exact hstay _ hboard ⟨rfl, rfl, rfl⟩
  | widened _ hboard _ =>
      rw [hboard]
      exact .bare hquestion rfl hhelp
  | quit _ hboard _ => exact hstay _ hboard ⟨rfl, rfl, rfl⟩
  | opened _ _ _ hboard _ => exact hstay _ hboard ⟨rfl, rfl, rfl⟩
  | launched _ _ _ _ hboard _ => exact hstay _ hboard ⟨rfl, rfl, rfl⟩
  | browsed _ _ _ _ hboard _ => exact hstay _ hboard ⟨rfl, rfl, rfl⟩
  | asked action _ _ hboard _ =>
      rw [hboard]
      exact .question action hp rfl hfilter hhelp
  | configured _ hboard _ => exact hstay _ hboard ⟨rfl, rfl, rfl⟩
  | refreshed _ hboard _ => exact hstay _ hboard ⟨rfl, rfl, rfl⟩
  | begun _ hboard _ =>
      rw [hboard]
      exact .typing hp hquestion rfl hhelp
  | helped _ hboard _ =>
      rw [hboard]
      exact .help hp hquestion hfilter rfl

/-- No key puts an overlay over another one, or another page under one. -/
theorem covered_pressKey (key : Key) (hb : b.Covered) : (b.update (.key key)).1.Covered := by
  by_cases hinterrupt : key = .interrupt
  · rw [hinterrupt, update, pressKey_interrupt]
    refine covered_of_same b _ ⟨rfl, rfl, rfl⟩ (fun hp => ?_) hb
    rw [quit, hp]
    rfl
  by_cases hp : b.page = .dashboard
  · cases hb with
    | bare hquestion hfilter hhelp =>
        rw [update_bare b key hp hquestion hfilter hhelp hinterrupt]
        cases DashboardCommand.ofKey? key with
        | none => exact .bare hquestion hfilter hhelp
        | some command => exact covered_runDashboard b hp hquestion hfilter hhelp command
    | question action _ hquestion hfilter hhelp =>
        rw [update_question b key action hp hquestion hinterrupt, answerKey]
        dsimp only
        split <;> exact .bare rfl hfilter hhelp
    | typing _ hquestion hfilter hhelp =>
        rw [update_typing b key hp hquestion hfilter hinterrupt]
        rcases filterKey_eq b key with ⟨filter, cursor, hafter⟩
        rw [hafter]
        cases hactive : filter.active with
        | false => exact .bare hquestion hactive hhelp
        | true => exact .typing hp hquestion hactive hhelp
    | help _ hquestion hfilter hhelp =>
        rw [update_help b key hp hquestion hfilter hhelp hinterrupt]
        exact .bare hquestion hfilter rfl
  · exact covered_of_same b _ (sameList_pressKey b key hp).toSameOverlays
      (fun hlist => absurd hlist hp) hb

theorem covered_update (m : Message) (hb : b.Covered) : (b.update m).1.Covered := by
  cases hm : m.key? with
  | none => exact covered_of_same b _ (sameOverlays_of_news b m hm) (page_of_news b m hm) hb
  | some key =>
      rw [(Message.key?_eq_some_iff m key).mp hm]
      exact covered_pressKey b key hb

/-- Where the filter is typed, nothing else lies over the list. -/
theorem typing_of_covered (hb : b.Covered) (hfilter : b.filter.active = true) :
    b.page = .dashboard ∧ b.confirmation = none := by
  cases hb with
  | typing hp hquestion _ _ => exact ⟨hp, hquestion⟩
  | bare _ hinactive _ => exact absurd (hfilter.symm.trans hinactive) Bool.noConfusion
  | question _ _ _ hinactive _ => exact absurd (hfilter.symm.trans hinactive) Bool.noConfusion
  | help _ _ hinactive _ => exact absurd (hfilter.symm.trans hinactive) Bool.noConfusion

/-- Where the help is shown, nothing else lies over the list. -/
theorem help_of_covered (hb : b.Covered) (hhelp : b.helpShown = true) :
    b.page = .dashboard ∧ b.confirmation = none ∧ b.filter.active = false := by
  cases hb with
  | help hp hquestion hfilter _ => exact ⟨hp, hquestion, hfilter⟩
  | bare _ _ hhidden => exact absurd (hhelp.symm.trans hhidden) Bool.noConfusion
  | question _ _ _ _ hhidden => exact absurd (hhelp.symm.trans hhidden) Bool.noConfusion
  | typing _ _ _ hhidden => exact absurd (hhelp.symm.trans hhidden) Bool.noConfusion

/-- Where a question is asked, nothing else lies over the list. -/
theorem question_of_covered (action : BulkAction) (hb : b.Covered)
    (hquestion : b.confirmation = some action) : b.page = .dashboard := by
  cases hb with
  | question _ hp _ _ _ => exact hp
  | bare hnone _ _ => exact absurd (hquestion.symm.trans hnone) (Option.some_ne_none action)
  | typing _ hnone _ _ => exact absurd (hquestion.symm.trans hnone) (Option.some_ne_none action)
  | help _ hnone _ _ => exact absurd (hquestion.symm.trans hnone) (Option.some_ne_none action)

/-- A key that is neither confirmed nor cancelled by is typed into the filter. -/
theorem filter_filterKey (key : Key) (henter : key ≠ .enter) (hescape : key ≠ .escape) :
    (b.filterKey key).filter.active = b.filter.active ∧
      (b.filterKey key).filter.text.toList = Key.retype b.filter.text.toList key := by
  cases key with
  | char c => exact ⟨rfl, String.toList_push c⟩
  | enter => exact absurd rfl henter
  | escape => exact absurd rfl hescape
  | backspace =>
      rw [filterKey]
      by_cases hnarrowing : b.filter.isNarrowing = true
      · rw [if_pos hnarrowing]
        exact ⟨rfl, String.toList_ofList⟩
      · rw [if_neg hnarrowing]
        refine ⟨rfl, ?_⟩
        -- Nothing can be taken away from an empty text.
        have hempty : b.filter.text = "" := by
          simpa [Filter.isNarrowing] using hnarrowing
        rw [hempty]
        rfl
  | _ => exact ⟨rfl, rfl⟩

end Board

namespace Run

/-- The key that a step of a run brings. -/
def keyAt (r : Run) (k : Nat) : Option Key :=
  r.messages[k]?.bind Message.key?

/-- The keys of a run from one step on, before another one. -/
def keysBetween (r : Run) (j k : Nat) : List Key :=
  (List.range' j (k - j)).filterMap r.keyAt

variable (r : Run)

theorem covered_boardAt (k : Nat) : (r.boardAt k).Covered :=
  boardAt_invariant Board.Covered (fun _ => .bare rfl rfl rfl) Board.covered_update r k

theorem keysBetween_self (k : Nat) : r.keysBetween k k = [] := by
  rw [keysBetween, Nat.sub_self]
  rfl

theorem keysBetween_succ (j k : Nat) (h : j ≤ k) :
    r.keysBetween j (k + 1) = r.keysBetween j k ++ (r.keyAt k).toList :=
  filterMap_range'_succ r.keyAt j k h

/-- What a step without a key does to overlays: nothing. -/
theorem sameOverlays_step (k : Nat) (h : r.keyAt k = none) :
    (r.boardAt k).SameOverlays (r.boardAt (k + 1)) := by
  rcases hm : r.messages[k]? with _ | m
  · rw [boardAt_idle r k hm]
    exact (Board.sameList_refl _).toSameOverlays
  · rw [keyAt, hm, Option.bind_some] at h
    rw [boardAt_step r k m hm]
    exact Board.sameOverlays_of_news _ m h

theorem message_of_keyAt (k : Nat) (key : Key) (h : r.keyAt k = some key) :
    r.messages[k]? = some (.key key) := by
  rw [keyAt, Option.bind_eq_some_iff] at h
  rcases h with ⟨m, hm, hkey⟩
  rw [hm, (Message.key?_eq_some_iff m key).mp hkey]

/-- A step types its key into the filter, if it brings one. -/
theorem filter_step (k : Nat) (hactive : (r.boardAt k).filter.active = true)
    (hkeys : ∀ key ∈ r.keyAt k, key ≠ .enter ∧ key ≠ .escape ∧ key ≠ .interrupt) :
    (r.boardAt (k + 1)).filter.active = true ∧
      (r.boardAt (k + 1)).filter.text.toList =
        (r.keyAt k).toList.foldl Key.retype (r.boardAt k).filter.text.toList := by
  cases hkey : r.keyAt k with
  | none =>
      rw [(sameOverlays_step r k hkey).filter]
      exact ⟨hactive, rfl⟩
  | some key =>
      rcases hkeys key hkey with ⟨henter, hescape, hinterrupt⟩
      rcases Board.typing_of_covered _ (covered_boardAt r k) hactive with ⟨hp, hquestion⟩
      rw [boardAt_step r k _ (message_of_keyAt r k key hkey),
        Board.update_typing _ key hp hquestion hactive hinterrupt]
      rcases Board.filter_filterKey _ key henter hescape with ⟨hstill, htext⟩
      exact ⟨hstill.trans hactive, htext⟩

/-- The filter goes on being typed, and holds what was typed meanwhile after what
    it held. -/
theorem filter_typed (j k : Nat) (hjk : j ≤ k) (hactive : (r.boardAt j).filter.active = true)
    (hkeys : ∀ key ∈ r.keysBetween j k, key ≠ .enter ∧ key ≠ .escape ∧ key ≠ .interrupt) :
    (r.boardAt k).filter.active = true ∧
      (r.boardAt k).filter.text.toList =
        (r.keysBetween j k).foldl Key.retype (r.boardAt j).filter.text.toList := by
  induction hjk with
  | refl =>
      rw [keysBetween_self]
      exact ⟨hactive, rfl⟩
  | @step k hjk ih =>
      rw [keysBetween_succ r j k hjk] at hkeys ⊢
      rcases ih fun key hkey => hkeys key (List.mem_append.mpr (Or.inl hkey)) with
        ⟨hstill, htext⟩
      rcases filter_step r k hstill fun key hkey =>
        hkeys key (List.mem_append.mpr (Or.inr (Option.mem_toList.mpr hkey))) with ⟨hnow, hadded⟩
      refine ⟨hnow, ?_⟩
      rw [hadded, htext, List.foldl_append]

/-- A slash on the bare list begins the filter anew. -/
theorem filter_begun (k : Nat) (hkey : r.messages[k]? = some (.key (.char '/')))
    (hp : (r.boardAt k).page = .dashboard) (hbare : (r.boardAt k).overlays = []) :
    (r.boardAt (k + 1)).filter = .begin := by
  rcases (Board.overlays_eq_nil_iff _).mp hbare with ⟨hquestion, hfilter, hhelp⟩
  have hno_interrupt : Key.char '/' ≠ .interrupt := Key.noConfusion
  rw [boardAt_step r k _ hkey, Board.update_bare _ _ hp hquestion hfilter hhelp hno_interrupt]
  rfl

/-- The filter holds what was typed since it was begun. -/
theorem filter_after_begin (j k : Nat) (hjk : j < k)
    (hkey : r.messages[j]? = some (.key (.char '/'))) (hp : (r.boardAt j).page = .dashboard)
    (hbare : (r.boardAt j).overlays = [])
    (hkeys : ∀ key ∈ r.keysBetween (j + 1) k, key ≠ .enter ∧ key ≠ .escape ∧ key ≠ .interrupt) :
    (r.boardAt k).filter = { active := true, text := Key.typed (r.keysBetween (j + 1) k) } := by
  have hbegun := filter_begun r j hkey hp hbare
  rcases filter_typed r (j + 1) k hjk (by rw [hbegun]; rfl) hkeys with ⟨hactive, htext⟩
  have hempty : Filter.begin.text.toList = [] := rfl
  rw [hbegun, hempty] at htext
  cases hfilter : (r.boardAt k).filter with
  | mk active text =>
      rw [hfilter] at hactive htext
      rw [Filter.mk.injEq]
      refine ⟨hactive, ?_⟩
      rw [Key.typed, ← htext, String.ofList_toList]

/-- The laws of overlays. One at most is there, and only over the project list. The
    filter takes every key but an interrupt while it is typed, and so does the help
    while it is shown: no job is asked for, and nothing but the filter with the
    cursor, or the help, changes. So the filter holds what was typed since it was
    begun, whatever else has come in between. -/
theorem overlays_exclude :
    (∀ k, (r.boardAt k).overlays.length ≤ 1 ∧
      ((r.boardAt k).overlays ≠ [] → (r.boardAt k).mode = .dashboard)) ∧
    (∀ k key, (r.boardAt k).filter.active = true → key ≠ .interrupt → ∃ filter cursor,
      (r.boardAt k).update (.key key) =
        ({ r.boardAt k with filter := filter, cursor := cursor }, [])) ∧
    (∀ k key, (r.boardAt k).helpShown = true → key ≠ .interrupt →
      (r.boardAt k).update (.key key) = ({ r.boardAt k with helpShown := false }, [])) ∧
    (∀ j k, j < k → r.messages[j]? = some (.key (.char '/')) →
      (r.boardAt j).page = .dashboard → (r.boardAt j).overlays = [] →
      (∀ key ∈ r.keysBetween (j + 1) k, key ≠ .enter ∧ key ≠ .escape ∧ key ≠ .interrupt) →
      (r.boardAt k).filter =
        { active := true, text := Key.typed (r.keysBetween (j + 1) k) }) := by
  refine ⟨fun k => Board.overlays_of_covered _ (covered_boardAt r k), ?_, ?_,
    filter_after_begin r⟩
  · intro k key hactive hkey
    rcases Board.typing_of_covered _ (covered_boardAt r k) hactive with ⟨hp, hquestion⟩
    rcases Board.filterKey_eq (r.boardAt k) key with ⟨filter, cursor, hafter⟩
    refine ⟨filter, cursor, ?_⟩
    rw [Board.update_typing _ key hp hquestion hactive hkey, hafter]
  · intro k key hhelp hkey
    rcases Board.help_of_covered _ (covered_boardAt r k) hhelp with ⟨hp, hquestion, hfilter⟩
    exact Board.update_help _ key hp hquestion hfilter hhelp hkey

/-- A filter is typed while the list is loaded again and an old stream ends. -/
theorem shop_is_typed :
    let shop : Project := ⟨"shop", .stopped, "php", "", ⟨"/srv/shop"⟩⟩
    let run : Run :=
      { timings := {}
        messages := [.projectsLoaded (.ok [shop]), .key (.char '/'), .key (.char 's'),
          .key (.char 'q'), .streamEnded ⟨1⟩ .operation none, .key .backspace, .tick,
          .projectsLoaded (.ok []), .key (.char 'h'), .key .down] }
    run.keysBetween 2 10 = [.char 's', .char 'q', .backspace, .char 'h', .down] ∧
    (run.boardAt 10).filter = { active := true, text := "sh" } ∧
    (run.boardAt 10).overlays.length ≤ 1 ∧ (run.boardAt 10).mode = .dashboard ∧
    ((run.boardAt 10).update (.key (.char '?'))).2 = [] := by
  intro shop run
  rcases overlays_exclude run with ⟨hone, htyping, _, htyped⟩
  have hkeys : run.keysBetween 2 10 = [.char 's', .char 'q', .backspace, .char 'h', .down] := by
    decide
  have hfilter := htyped 1 10 (by decide) rfl (by decide) (by decide) (by decide)
  rw [hkeys] at hfilter
  have hactive : (run.boardAt 10).filter.active = true := by rw [hfilter]
  rcases htyping 10 (.char '?') hactive (by decide) with ⟨filter, cursor, hafter⟩
  refine ⟨hkeys, hfilter, (hone 10).1, (hone 10).2 (by decide), ?_⟩
  rw [hafter]

end Run

end FleetBoard
