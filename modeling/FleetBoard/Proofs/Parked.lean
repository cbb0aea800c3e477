import FleetBoard.Proofs.Run
import FleetBoard.Proofs.Turn

/-!
# Parked Pages

The page of a project is put away while its logs are followed, or while an
operation runs that was launched from it, and it is taken out again when that page
is left. Nobody sees it meanwhile, and still it is not out of reach: the project is
loaded again and again, the page is told to wait for that, and a load that fails
is counted against it.

What comes back has to be what was put away, and up to date. It is the same page,
scrolled as it was, with the last description that came for its project. Only an
operation gives its page up, as soon as the project cannot be loaded once, since it
may just have been deleted. Logs keep theirs whatever happens.

A visit is a stretch of a run, from the message that puts a page away to the one
that leaves again. It may begin on any board, and between the two anything may come
that does not leave. What holds in between is said of the footing, one turn after
another.

## Main definitions

* `Message.describes?`, `Message.loses`: What a message says of loading a project.
* `DetailPage.latest`: The description of a page after messages.
* `DetailPage.Kept`: A page after it was parked while messages came.
* `Footing.Parks`, `Footing.Yields`: What holds of a page while it is parked, and
  after.
* `Visit`: A page of a project is put away, and the page over it is left again.

## Theorems

* `parks_of_opening`: What is put away.
* `parks_or_yields`: A page stays parked, or the page over it is left.
* `parks_boardAt`: A page is parked throughout a visit.
* `parked_page_comes_back`: What comes back after a visit.
-/

namespace FleetBoard

namespace Message

/-- What loading a project has come to, if a message tells that. -/
def loaded? (root : Path) : Message → Option (Except String Description)
  | .detailLoaded other result => if root.same other then some result else none
  | _ => none

/-- The description of a project that a message brings. -/
def describes? (root : Path) (m : Message) : Option Description :=
  match m.loaded? root with
  | some (.ok d) => some d
  | _ => none

/-- Whether a message tells that a project could not be loaded. -/
def loses (root : Path) (m : Message) : Bool :=
  match m.loaded? root with
  | some (.error _) => true
  | _ => false

variable (root : Path) (m : Message)

theorem describes?_of_loaded?_none (h : m.loaded? root = none) : m.describes? root = none := by
  rw [describes?, h]

theorem loses_of_loaded?_none (h : m.loaded? root = none) : m.loses root = false := by
  rw [loses, h]

/-- Only an answer tells what loading a project has come to. -/
theorem loaded?_of_not_isAnswer (h : m.isAnswer = false) : m.loaded? root = none := by
  cases m with
  | detailLoaded other result => exact Bool.noConfusion h
  | _ => rfl

end Message

namespace DetailPage

/-- The description that a page has after messages: the last one that came for its
    project, or else its own. -/
def latest (page : DetailPage) (messages : List Message) : Option Description :=
  (messages.filterMap (Message.describes? page.root)).getLast?.or page.description

/-- A page after it was parked while messages came. -/
structure Kept (page : DetailPage) (messages : List Message) (kept : DetailPage) : Prop where
  name : kept.name = page.name
  root : kept.root = page.root
  scroll : kept.scroll = page.scroll
  description : kept.description = page.latest messages

variable (page kept : DetailPage) (messages : List Message) (m : Message)

theorem kept_refl : page.Kept [] page :=
  ⟨rfl, rfl, rfl, rfl⟩

/-- A message that brings no description leaves the last one as it is. -/
theorem kept_append_of_none (h : page.Kept messages kept)
    (hm : m.describes? page.root = none) : page.Kept (messages ++ [m]) kept := by
  refine ⟨h.name, h.root, h.scroll, ?_⟩
  rw [h.description, latest, latest, List.filterMap_append]
  simp [hm]

/-- A description that comes is the last one. -/
theorem kept_append_of_some (d : Description) (h : page.Kept messages kept)
    (hm : m.describes? page.root = some d) :
    page.Kept (messages ++ [m]) (Board.describe d kept) := by
  refine ⟨h.name, h.root, h.scroll, ?_⟩
  rw [latest, List.filterMap_append]
  simp [Board.describe, hm]

/-- To be told that a load is on its way, or is over, changes nothing that is
    kept. -/
theorem kept_loading (loading : Bool) (h : page.Kept messages kept) :
    page.Kept messages { kept with loading := loading } :=
  ⟨h.name, h.root, h.scroll, h.description⟩

end DetailPage

namespace Footing

/-- A page is parked under a page of some kind, while messages have come. An operation
    has given it up if one of them has told that the project could not be loaded. -/
inductive Parks (page : DetailPage) (messages : List Message) : Mode → Footing → Prop
  | logs (kept : DetailPage) (hkept : page.Kept messages kept) :
    Parks page messages .logs (.logs kept)
  | operation (kept : DetailPage) (returnMode : Mode) (hkept : page.Kept messages kept)
    (hnone : ∀ m ∈ messages, m.loses page.root = false) :
    Parks page messages .operation (.operation (some kept) returnMode)
  | lost (returnMode : Mode) (hlost : ∃ m ∈ messages, m.loses page.root = true) :
    Parks page messages .operation (.operation none returnMode)

/-- A page that was parked under a page of some kind is yielded to a footing. -/
structure Yields (page : DetailPage) (messages : List Message) (mode : Mode)
    (footing : Footing) : Prop where
  /-- It is the footing of another kind of page. -/
  left : footing.mode ≠ mode
  /-- What an operation has given up does not come back. -/
  lost : mode = .operation → (∃ m ∈ messages, m.loses page.root = true) → footing = .list
  back : mode = .logs ∨ (∀ m ∈ messages, m.loses page.root = false) →
    ∃ kept, footing = .detail kept ∧ page.Kept messages kept

variable (page : DetailPage) (messages : List Message) (m : Message) (mode : Mode)
  (footing : Footing)

theorem mode_of_parks (h : footing.Parks page messages mode) : footing.mode = mode := by
  cases h <;> rfl

/-- An operation that has given its page up does not get it back. -/
theorem parks_of_lost (h : footing.Parks page messages mode) (hpage : footing.detail? = none) :
    footing.Parks page (messages ++ [m]) mode := by
  cases h with
  | logs kept hkept => exact absurd hpage (Option.some_ne_none kept)
  | operation kept returnMode hkept hnone => exact absurd hpage (Option.some_ne_none kept)
  | lost returnMode hlost =>
      rcases hlost with ⟨other, hother, hloses⟩
      exact .lost _ ⟨other, List.mem_append.mpr (Or.inl hother), hloses⟩

/-- A message that does not fail the project keeps a page parked, if it keeps the
    page. -/
theorem parks_map (f : DetailPage → DetailPage)
    (hf : ∀ kept, page.Kept messages kept → page.Kept (messages ++ [m]) (f kept))
    (hm : m.loses page.root = false) (h : footing.Parks page messages mode) :
    (footing.map f).Parks page (messages ++ [m]) mode := by
  cases h with
  | logs kept hkept => exact .logs _ (hf kept hkept)
  | operation kept returnMode hkept hnone =>
      refine .operation _ _ (hf kept hkept) fun other hother => ?_
      rcases List.mem_append.mp hother with hbefore | hlast
      · exact hnone other hbefore
      · rw [List.mem_singleton.mp hlast]
        exact hm
  | lost returnMode hlost => exact parks_of_lost page messages m _ _ (.lost returnMode hlost) rfl

theorem parks_append (hm : m.loaded? page.root = none) (h : footing.Parks page messages mode) :
    footing.Parks page (messages ++ [m]) mode := by
  have hsame : footing.map id = footing := by
    cases footing with
    | operation origin returnMode => simp [map]
    | _ => rfl
  rw [← hsame]
  exact parks_map page messages m mode footing id
    (fun kept hkept => DetailPage.kept_append_of_none page kept messages m hkept
      (m.describes?_of_loaded?_none page.root hm))
    (m.loses_of_loaded?_none page.root hm) h

/-- The page that can be reached from where a page is parked is the one that is
    kept. -/
theorem kept_of_detail? (kept : DetailPage) (h : footing.Parks page messages mode)
    (hpage : footing.detail? = some kept) : page.Kept messages kept := by
  cases h with
  | logs other hkept =>
      rw [detail?, Option.some.injEq] at hpage
      rw [← hpage]
      exact hkept
  | operation other returnMode hkept hnone =>
      rw [detail?, Option.some.injEq] at hpage
      rw [← hpage]
      exact hkept
  | lost returnMode hlost => exact absurd hpage (Option.some_ne_none kept).symm

/-- A load that fails is borne by logs, and makes an operation give its page up. -/
theorem parks_drop (hm : m.loses page.root = true) (hdescribes : m.describes? page.root = none)
    (h : footing.Parks page messages mode) :
    (footing.map Board.settle).drop.Parks page (messages ++ [m]) mode := by
  have hlost : ∃ other ∈ messages ++ [m], other.loses page.root = true :=
    ⟨m, List.mem_append.mpr (Or.inr (List.mem_singleton.mpr rfl)), hm⟩
  cases h with
  | logs kept hkept =>
      refine .logs _ (DetailPage.kept_append_of_none page _ messages m ?_ hdescribes)
      exact DetailPage.kept_loading page kept messages false hkept
  | operation kept returnMode hkept hnone => exact .lost _ hlost
  | lost returnMode hbefore => exact .lost _ hlost

end Footing

namespace Board

variable (b b' : Board) (m : Message) (jobs : List Job) (page : DetailPage)

/-- A message that leaves a page of logs or an operation is a key that leads back,
    or it tells that the time of an operation is over. -/
def Leaving (mode : Mode) (m : Message) : Prop :=
  (∃ key, m = .key key ∧ key.isBack = true) ∨
    mode = .operation ∧ ∃ launch, m = .returnDue launch

/-- What is put away is the page that was shown, as it was. -/
theorem parks_of_opening (hturn : Turn b m b' jobs) (hpage : b.page.footing = .detail page)
    (hmode : b'.page.footing.mode = .logs ∨ b'.page.footing.mode = .operation) :
    b'.page.footing.Parks page [] b'.page.footing.mode := by
  -- Where the page of a project is still shown, no other was opened.
  have hshown : ∀ other, b'.page.footing = .detail other →
      b'.page.footing.Parks page [] b'.page.footing.mode := by
    intro other hother
    rw [hother] at hmode
    simp [Footing.mode] at hmode
  cases hturn with
  | followed _ other _ _ hbefore hafter _ _ _ =>
      rw [hpage, Footing.detail.injEq] at hbefore
      rw [hafter, ← hbefore]
      exact .logs page (DetailPage.kept_refl page)
  | launched _ origin _ _ hbefore hafter _ _ _ =>
      rw [hpage] at hbefore
      cases origin with
      | none => exact Footing.noConfusion hbefore
      | some other =>
          rw [Footing.ofOrigin, Footing.detail.injEq] at hbefore
          rw [hafter, ← hbefore]
          exact .operation page _ (DetailPage.kept_refl page) (by simp)
  | kept _ hfooting _ _ _ => exact hshown page (hfooting.trans hpage)
  | listed _ _ hfooting _ _ _ => exact hshown page (hfooting.trans hpage)
  | relisted _ hfooting _ _ => exact hshown page (hfooting.trans hpage)
  | overlooked _ _ _ _ hboard _ => exact hshown page (by rw [hboard, hpage])
  | ticked _ hboard _ => exact hshown page (by rw [hboard, hpage])
  | described _ _ _ _ _ _ hfooting _ _ _ => exact hshown _ (by rw [hfooting, hpage]; rfl)
  | refetched _ _ hfooting _ _ _ => exact hshown _ (by rw [hfooting, hpage]; rfl)
  | scrolled _ _ _ _ _ _ hafter _ _ _ => exact hshown _ hafter
  | opened _ _ _ _ hafter _ _ _ => exact hshown _ hafter
  | lost _ _ _ _ _ _ hfooting _ _ _ =>
      rw [hfooting, hpage] at hmode
      simp [Footing.map, Footing.drop, Footing.mode] at hmode
  | closed _ _ _ _ _ hafter _ _ _ =>
      rw [hafter] at hmode
      simp [Footing.mode] at hmode
  | leftLogs _ _ _ _ hbefore _ _ _ _ =>
      rw [hpage] at hbefore
      exact Footing.noConfusion hbefore
  | leftOperation _ _ _ _ _ hbefore _ _ _ _ =>
      rw [hpage] at hbefore
      exact Footing.noConfusion hbefore
  | returned _ _ _ _ hbefore _ _ _ _ =>
      rw [hpage] at hbefore
      exact Footing.noConfusion hbefore

/-- Logs that are left yield the page that is parked under them. -/
theorem yields_of_logs (messages : List Message) (mode : Mode) (parked : DetailPage)
    (h : (Footing.logs parked).Parks page messages mode) :
    (Footing.detail parked).Yields page messages mode := by
  cases h with
  | logs _ hkept => exact ⟨Mode.noConfusion, Mode.noConfusion, fun _ => ⟨parked, rfl, hkept⟩⟩

/-- An operation that is left yields the page that is parked under it, if it has not
    given that up. -/
theorem yields_of_operation (messages : List Message) (mode : Mode) (origin : Option DetailPage)
    (returnMode : Mode) (f : DetailPage → DetailPage)
    (hf : ∀ kept, page.Kept messages kept → page.Kept messages (f kept))
    (h : (Footing.operation origin returnMode).Parks page messages mode) :
    mode = .operation ∧ ((Footing.ofOrigin origin).map f).Yields page messages mode := by
  cases h with
  | operation kept _ hkept hnone =>
      refine ⟨rfl, Mode.noConfusion, fun _ hlost => ?_, fun _ => ⟨f kept, rfl, hf kept hkept⟩⟩
      rcases hlost with ⟨m, hm, hloses⟩
      rw [hnone m hm] at hloses
      exact absurd hloses Bool.false_ne_true
  | lost _ hlost =>
      refine ⟨rfl, Mode.noConfusion, fun _ _ => rfl, fun hkeeps => ?_⟩
      rcases hlost with ⟨m, hm, hloses⟩
      rcases hkeeps with hlogs | hnone
      · exact Mode.noConfusion hlogs
      · rw [hnone m hm] at hloses
        exact absurd hloses Bool.false_ne_true

/-- A page stays parked, up to date, or the page over it is left and yields it. -/
theorem parks_or_yields (messages : List Message) (mode : Mode) (hturn : Turn b m b' jobs)
    (h : b.page.footing.Parks page messages mode) :
    b'.page.footing.Parks page (messages ++ [m]) mode ∨
    (b'.page.footing.Yields page messages mode ∧ Leaving mode m) := by
  -- What tells nothing of the project, and keeps the footing, keeps the page parked.
  have hstays : b'.page.footing = b.page.footing → m.loaded? page.root = none →
      b'.page.footing.Parks page (messages ++ [m]) mode := by
    intro hfooting hloaded
    rw [hfooting]
    exact Footing.parks_append page messages m mode _ hloaded h
  cases hturn with
  | kept hm hfooting _ _ _ =>
      exact Or.inl (hstays hfooting (m.loaded?_of_not_isAnswer page.root hm))
  | relisted hm hfooting _ _ =>
      exact Or.inl (hstays hfooting (m.loaded?_of_not_isAnswer page.root hm))
  | listed result hm hfooting _ _ _ => exact Or.inl (hstays hfooting (by rw [hm]; rfl))
  | ticked hm hboard _ => exact Or.inl (hstays (by rw [hboard]) (by rw [hm]; rfl))
  | refetched _ hm hfooting _ _ _ =>
      have hloaded := m.loaded?_of_not_isAnswer page.root hm
      rw [hfooting]
      refine Or.inl (Footing.parks_map page messages m mode _ awaitLoad (fun kept hkept => ?_)
        (m.loses_of_loaded?_none page.root hloaded) h)
      exact DetailPage.kept_append_of_none page _ messages m
        (DetailPage.kept_loading page kept messages true hkept)
        (m.describes?_of_loaded?_none page.root hloaded)
  | overlooked root result hm hother hboard _ =>
      cases hpage : b.page.footing.detail? with
      | some reached =>
          -- The load is one of another project.
          have hroot := hother reached (by rw [← Page.detail?_footing, hpage])
          rw [(Footing.kept_of_detail? page messages mode _ reached h hpage).root] at hroot
          exact Or.inl (hstays (by rw [hboard]) (by simp [hm, Message.loaded?, hroot]))
      | none =>
          rw [hboard]
          exact Or.inl (Footing.parks_of_lost page messages m mode _ h hpage)
  | described root d other hm hpage hroot hfooting _ _ _ =>
      rw [← Page.detail?_footing] at hpage
      have hother := Footing.kept_of_detail? page messages mode _ other h hpage
      rw [hother.root] at hroot
      have hdescribes : m.describes? page.root = some d := by
        simp [hm, Message.describes?, Message.loaded?, hroot]
      rw [hfooting]
      refine Or.inl (Footing.parks_map page messages m mode _ (describe d)
        (fun kept hkept => ?_) ?_ h)
      · exact DetailPage.kept_append_of_some page kept messages m d hkept hdescribes
      · simp [hm, Message.loses, Message.loaded?, hroot]
  | lost root e other hm hpage hroot hfooting _ _ _ =>
      rw [← Page.detail?_footing] at hpage
      have hother := Footing.kept_of_detail? page messages mode _ other h hpage
      rw [hother.root] at hroot
      rw [hfooting]
      refine Or.inl (Footing.parks_drop page messages m mode _ ?_ ?_ h)
      · simp [hm, Message.loses, Message.loaded?, hroot]
      · simp [hm, Message.describes?, Message.loaded?, hroot]
  | scrolled _ _ _ _ _ hbefore _ _ _ _ =>
      rw [hbefore] at h
      cases h
  | opened _ _ _ hbefore _ _ _ _ =>
      rw [hbefore] at h
      cases h
  | closed _ _ _ _ hbefore _ _ _ _ =>
      rw [hbefore] at h
      cases h
  | followed _ _ _ _ hbefore _ _ _ _ =>
      rw [hbefore] at h
      cases h
  | launched _ origin _ _ hbefore _ _ _ _ =>
      rw [hbefore] at h
      cases origin <;> cases h
  | leftLogs key other hm hkey hbefore hafter _ _ _ =>
      rw [hbefore] at h
      rw [hafter]
      exact Or.inr ⟨yields_of_logs page messages mode other h, Or.inl ⟨key, hm, hkey⟩⟩
  | leftOperation key origin returnMode hm hkey hbefore hafter _ _ _ =>
      rw [hbefore] at h
      rw [hafter]
      rcases yields_of_operation page messages mode origin returnMode awaitLoad
        (fun kept hkept => DetailPage.kept_loading page kept messages true hkept) h with
        ⟨_, hyields⟩
      exact Or.inr ⟨hyields, Or.inl ⟨key, hm, hkey⟩⟩
  | returned launch origin returnMode hm hbefore hafter _ _ _ =>
      rw [hbefore] at h
      have hsame : (Footing.ofOrigin origin).map id = Footing.ofOrigin origin := by
        cases origin <;> rfl
      rw [hafter, ← hsame]
      rcases yields_of_operation page messages mode origin returnMode id (fun _ hkept => hkept) h
        with ⟨hmode, hyields⟩
      exact Or.inr ⟨hyields, Or.inr ⟨hmode, launch, hm⟩⟩

end Board

/-- A page of a project is put away for a page of logs or of an operation, which is
    shown while messages come, and is left again. -/
structure Visit where
  /-- The board with the page of the project, reachable or not. -/
  start : Board
  page : DetailPage
  /-- What puts the page away. -/
  opening : Message
  during : List Message
  /-- What leaves the page that was put over it. -/
  leaving : Message
  mode : Mode
  shown : start.page = .detail page
  isOfStream : mode = .logs ∨ mode = .operation
  stays : ∀ k ≤ during.length, (start.after (opening :: during.take k)).mode = mode
  leaves : (start.after (opening :: (during ++ [leaving]))).mode ≠ mode

namespace Visit

variable (v : Visit)

/-- The board at a point of a visit. -/
def boardAt (k : Nat) : Board :=
  v.start.after (v.opening :: v.during.take k)

/-- The board after a visit. -/
def after : Board :=
  v.start.after (v.opening :: (v.during ++ [v.leaving]))

theorem mode_boardAt (k : Nat) (hk : k ≤ v.during.length) :
    (v.boardAt k).page.footing.mode = v.mode := by
  rw [Page.mode_footing]
  exact v.stays k hk

theorem boardAt_zero : v.boardAt 0 = (v.start.update v.opening).1 := rfl

theorem boardAt_succ (k : Nat) (hk : k < v.during.length) :
    v.boardAt (k + 1) = ((v.boardAt k).update v.during[k]).1 := by
  rw [boardAt, List.take_add_one, List.getElem?_eq_getElem hk, Option.toList_some,
    ← List.cons_append, Board.after_concat]
  rfl

/-- The page is parked throughout a visit, up to date with what has come so far. -/
theorem parks_boardAt (k : Nat) (hk : k ≤ v.during.length) :
    (v.boardAt k).page.footing.Parks v.page (v.during.take k) v.mode := by
  induction k with
  | zero =>
      have hmode := mode_boardAt v 0 hk
      rw [← hmode, boardAt_zero]
      refine Board.parks_of_opening v.start _ v.opening _ v.page
        (Board.update_turn v.start v.opening) (by rw [v.shown]; rfl) ?_
      rw [← boardAt_zero, hmode]
      exact v.isOfStream
  | succ k ih =>
      have hmode := mode_boardAt v (k + 1) hk
      rw [boardAt_succ v k hk] at hmode ⊢
      rw [List.take_add_one, List.getElem?_eq_getElem hk, Option.toList_some]
      -- What would yield the page would leave the visit before its end.
      rcases Board.parks_or_yields _ _ _ _ v.page _ _ (Board.update_turn _ v.during[k])
        (ih (by omega)) with hparks | ⟨hyields, _⟩
      · exact hparks
      · exact absurd hmode hyields.left

/-- What comes back after a visit. Logs and operations are left by a key that leads
    back, and operations also when their time is over. An operation is left for the
    project list if the project could not be loaded meanwhile. Logs always lead back
    to the page, and so does an operation otherwise. The page has the name, the root
    and the scroll it had, and the last description that came for its project, or
    its own if none came. -/
theorem parked_page_comes_back :
    Board.Leaving v.mode v.leaving ∧
    (v.mode = .operation → (∃ m ∈ v.during, m.loses v.page.root = true) →
      v.after.page = .dashboard) ∧
    (v.mode = .logs ∨ (∀ m ∈ v.during, m.loses v.page.root = false) →
      ∃ page, v.after.page = .detail page ∧ v.page.Kept v.during page) := by
  have hparks := parks_boardAt v v.during.length (Nat.le_refl _)
  rw [boardAt, List.take_length] at hparks
  have hafter : v.after = ((v.start.after (v.opening :: v.during)).update v.leaving).1 := by
    rw [after, ← List.cons_append, Board.after_concat]
  rcases Board.parks_or_yields _ _ _ _ v.page _ _ (Board.update_turn _ v.leaving) hparks with
    hstill | ⟨hyields, hleaving⟩
  · -- A page that stays parked has not been left.
    rw [← hafter] at hstill
    have hmode := Footing.mode_of_parks _ _ _ _ hstill
    rw [Page.mode_footing] at hmode
    exact absurd hmode v.leaves
  · rw [← hafter] at hyields
    refine ⟨hleaving, fun hoperation hlost => ?_, fun hkeeps => ?_⟩
    · exact Page.eq_dashboard_of_footing _ (hyields.lost hoperation hlost)
    · rcases hyields.back hkeeps with ⟨kept, hfooting, hkept⟩
      exact ⟨kept, Page.eq_detail_of_footing _ kept hfooting, hkept⟩

/-- A project is loaded again while it restarts, and another one cannot be. Then it is
    stopped, and cannot be loaded itself. -/
theorem restarted_shop_comes_back :
    let stale : Description := { name := "shop" }
    let fresh : Description := { name := "shop", status := .running }
    let page : DetailPage :=
      { name := "shop", root := ⟨"/srv/shop"⟩, description := some stale, loading := false,
        scroll := 3 }
    let restart : Visit :=
      { start := { page := .detail page }
        page := page
        opening := .key (.char 'r')
        during := [.detailLoaded ⟨"/srv/blog"⟩ (.error "gone"),
          .detailLoaded ⟨"/srv/shop"⟩ (.ok fresh), .streamEnded ⟨1⟩ .operation none]
        leaving := .returnDue ⟨1⟩
        mode := .operation
        shown := rfl
        isOfStream := Or.inr rfl
        stays := by decide
        leaves := by decide }
    let stop : Visit :=
      { restart with
        opening := .key (.char 'S')
        during := [.detailLoaded ⟨"/srv/shop/"⟩ (.error "gone")]
        leaving := .key .escape
        stays := by decide
        leaves := by decide }
    (∃ kept, restart.after.page = .detail kept ∧ page.Kept restart.during kept) ∧
    page.latest restart.during = some fresh ∧ stop.after.page = .dashboard := by
  intro stale fresh page restart stop
  rcases parked_page_comes_back restart with ⟨_, _, hback⟩
  rcases parked_page_comes_back stop with ⟨_, hlost, _⟩
  exact ⟨hback (Or.inr (by decide)), by decide, hlost rfl (by decide)⟩

end Visit

end FleetBoard
