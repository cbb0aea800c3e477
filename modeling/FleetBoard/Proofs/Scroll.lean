import FleetBoard.Proofs.Parked
import FleetBoard.Proofs.Reach

/-!
# How Far a Description Is Scrolled

The page of a project is scrolled by keys, and a key that takes it down stops at the
last row of the description that is there. The description is also replaced without a
key, by every load of its project, while the page is shown and while it is parked. The
scroll is not looked at then. So it is inside the description as long as every
description that comes has the rows that are scrolled away, and from the first one on
that has not, it is outside until keys bring it back.

A page without a description is not concerned. It cannot be scrolled, and a page never
loses the description it has.

## Main definitions

* `DetailPage.InRange`, `Board.InRange`: The last row stays on the screen.
* `Board.Fits`: A description that comes is long enough.
* `DetailPage.ComesOf`: Where a page of a project comes from by one message.
* `Run.Shortened`: A description has come that was not long enough.

## Theorems

* `comesOf_of_turn`: What a message does to scroll and description.
* `detail?_of_describes`: A description that comes keeps the scroll.
* `inRange_or_shortened`: Where the scroll is outside, a description was too short.
* `scroll_inside_unless_shortened`: When the scroll stays inside.
-/

namespace FleetBoard

/-- What spares a project brings no description of it. -/
theorem Message.describes?_of_spares (m : Message) (root : Path) (h : m.spares root = true) :
    m.describes? root = none := by
  refine m.describes?_of_loaded?_none root ?_
  cases m with
  | detailLoaded other result =>
      rw [spares, Bool.not_eq_true'] at h
      rw [loaded?, if_neg (Bool.eq_false_iff.mp h)]
  | _ => rfl

namespace DetailPage

/-- The rows that are scrolled away leave the last one on the screen. -/
def InRange (page : DetailPage) : Prop :=
  page.scroll ≤ Board.scrollLimit page

instance (page : DetailPage) : Decidable page.InRange :=
  inferInstanceAs (Decidable (_ ≤ _))

theorem inRange_of_top (page : DetailPage) (hscroll : page.scroll = 0) : page.InRange := by
  rw [InRange, hscroll]
  exact Nat.zero_le _

/-- Without a description only the top is in range. -/
theorem top_of_inRange (page : DetailPage) (hrange : page.InRange)
    (hnone : page.description = none) : page.scroll = 0 := by
  rw [InRange, Board.scrollLimit, hnone] at hrange
  exact Nat.le_zero.mp hrange

theorem inRange_iff (page : DetailPage) (d : Description) (hd : page.description = some d) :
    page.InRange ↔ page.scroll ≤ d.countedRows - 1 := by
  rw [InRange, Board.scrollLimit, hd]

/-- Where a page of a project comes from when a board takes a message. It is opened, or
    it is the page before with the description that came, and only a key that stops at
    the last row takes it further down. -/
inductive ComesOf (b : Board) (m : Message) (page' : DetailPage) : Prop
  | opened (hscroll : page'.scroll = 0) (hdescription : page'.description = none)
  | went (page : DetailPage) (hpage : b.page.detail? = some page) (hroot : page'.root = page.root)
      (hdescription : page'.description = (m.describes? page.root).or page.description)
      (hscroll : page'.scroll ≤ page.scroll ∨ page'.InRange)

end DetailPage

namespace Board

/-- The page of a project that can be reached is scrolled inside its description. -/
def InRange (b : Board) : Prop :=
  ∀ page, b.page.detail? = some page → page.InRange

/-- A description that a message brings for the page that can be reached has the rows
    that are scrolled away there. -/
def Fits (b : Board) (m : Message) : Prop :=
  ∀ page d, b.page.detail? = some page → m.describes? page.root = some d →
    page.scroll ≤ d.countedRows - 1

variable (b b' : Board) (m : Message) (jobs : List Job)

/-- Every page of a project that can be reached after a message comes of it. -/
theorem comesOf_of_turn (hturn : Turn b m b' jobs) (page' : DetailPage)
    (hpage' : b'.page.detail? = some page') : page'.ComesOf b m := by
  cases reach_of_turn b b' m jobs hturn with
  | same hm hpage _ =>
      rw [hpage] at hpage'
      refine .went page' hpage' rfl ?_ (Or.inl (Nat.le_refl _))
      rw [m.describes?_of_spares _ (hm page' hpage'), Option.none_or]
  | awaiting hm hpage _ =>
      rw [hpage, Option.map_eq_some_iff] at hpage'
      rcases hpage' with ⟨page, hbefore, hawaits⟩
      rw [← hawaits]
      refine .went page hbefore rfl ?_ (Or.inl (Nat.le_refl _))
      rw [m.describes?_of_spares _ (m.spares_of_not_isAnswer _ hm)]
      rfl
  | described root d page hm hroot hbefore hpage _ =>
      rw [hpage, Option.some.injEq] at hpage'
      rw [← hpage']
      refine .went page hbefore rfl ?_ (Or.inl (Nat.le_refl _))
      rw [hm, Message.describes?, Message.loaded?, if_pos hroot]
      rfl
  | lost root e page hm hroot hbefore hpage _ =>
      rw [hpage page' hpage']
      refine .went page hbefore rfl ?_ (Or.inl (Nat.le_refl _))
      rw [hm, Message.describes?, Message.loaded?, if_pos hroot]
      rfl
  | scrolled key page rows hm hrows hbefore hpage _ =>
      rw [hpage, Option.some.injEq] at hpage'
      rw [← hpage']
      refine .went page hbefore rfl ?_ hrows
      rw [hm]
      rfl
  | opened key p _ hpage _ =>
      rw [hpage, Option.some.injEq] at hpage'
      rw [← hpage']
      exact .opened rfl rfl
  | closed key _ hpage _ =>
      rw [hpage] at hpage'
      exact absurd hpage' (Option.some_ne_none page').symm

/-- A description that comes for the page that can be reached keeps its scroll. -/
theorem detail?_of_describes (page : DetailPage) (d : Description)
    (hpage : b.page.detail? = some page) (hd : m.describes? page.root = some d) :
    (b.update m).1.page.detail? = some (describe d page) := by
  cases m with
  | detailLoaded root result =>
      rw [Message.describes?, Message.loaded?] at hd
      by_cases hroot : page.root.same root = true
      · rw [if_pos hroot] at hd
        cases result with
        | ok other =>
            rw [Option.some.injEq] at hd
            have hupdate : (b.update (.detailLoaded root (.ok other))).1.page =
                b.page.mapDetail (describe other) := by
              rw [update, takeDescription, hpage]
              dsimp only
              rw [if_pos hroot]
              rfl
            rw [hupdate, ← Page.detail?_footing, Page.footing_mapDetail, Footing.detail?_map,
              Page.detail?_footing, hpage, hd]
            rfl
        | error e => exact absurd hd (Option.some_ne_none d).symm
      · rw [if_neg hroot] at hd
        exact absurd hd (Option.some_ne_none d).symm
  | _ => exact absurd hd (Option.some_ne_none d).symm

end Board

namespace Run

variable (r : Run) (k : Nat) (page page' : DetailPage)

/-- Before a point of a run a description has come that had not the rows that were
    scrolled away. It is the one that the page has, and no key has brought the scroll
    back inside. -/
def Shortened (r : Run) (k : Nat) (page : DetailPage) : Prop :=
  ∃ i < k, ∃ m before d, r.messages[i]? = some m ∧
    (r.boardAt i).page.detail? = some before ∧ before.root = page.root ∧
    m.describes? before.root = some d ∧ page.description = some d ∧
    page.scroll ≤ before.scroll ∧ d.countedRows - 1 < page.scroll

/-- A page that has been shortened stays so while its description stays and no key has
    brought the scroll back inside. -/
theorem shortened_succ (h : r.Shortened k page) (hroot : page'.root = page.root)
    (hdescription : page'.description = page.description) (hscroll : page'.scroll ≤ page.scroll)
    (hbeyond : ¬page'.InRange) : r.Shortened (k + 1) page' := by
  rcases h with ⟨i, hi, m, before, d, hm, hbefore, hsame, hd, hpage, hle, _⟩
  rw [hpage] at hdescription
  rw [page'.inRange_iff d hdescription] at hbeyond
  exact ⟨i, Nat.lt_succ_of_lt hi, m, before, d, hm, hbefore, by rw [hsame, hroot], hd,
    hdescription, Nat.le_trans hscroll hle, Nat.lt_of_not_le hbeyond⟩

/-- Where the scroll is outside the description, one came that was too short. -/
theorem inRange_or_shortened (hpage : (r.boardAt k).page.detail? = some page) :
    page.InRange ∨ r.Shortened k page := by
  -- Keys alone never take the scroll outside, so only a description can have done it.
  induction k generalizing page with
  | zero =>
      rw [boardAt_zero] at hpage
      exact absurd hpage (Option.some_ne_none page).symm
  | succ k ih =>
      by_cases hrange : page.InRange
      · exact Or.inl hrange
      right
      cases hm : r.messages[k]? with
      | none =>
          rw [boardAt_idle r k hm] at hpage
          rcases ih page hpage with hbefore | hshort
          · exact absurd hbefore hrange
          · exact r.shortened_succ k page page hshort rfl rfl (Nat.le_refl _) hrange
      | some m =>
          rw [boardAt_step r k m hm] at hpage
          cases Board.comesOf_of_turn _ _ m _ (Board.update_turn _ m) page hpage with
          | opened hscroll _ => exact absurd (page.inRange_of_top hscroll) hrange
          | went before hbefore hroot hdescription hscroll =>
              have hle := hscroll.resolve_right hrange
              cases hd : m.describes? before.root with
              | some d =>
                  -- What came just now is too short.
                  rw [hd, Option.some_or] at hdescription
                  rw [page.inRange_iff d hdescription] at hrange
                  exact ⟨k, Nat.lt_succ_self k, m, before, d, hm, hbefore, hroot.symm, hd,
                    hdescription, hle, Nat.lt_of_not_le hrange⟩
              | none =>
                  -- Nothing came, so the page was outside before, and less so now at most.
                  rw [hd, Option.none_or] at hdescription
                  rcases ih before hbefore with hinside | hshort
                  · refine absurd (Nat.le_trans hle ?_) hrange
                    rw [Board.scrollLimit, hdescription]
                    exact hinside
                  · exact r.shortened_succ k before page hshort hroot hdescription hle hrange

/-- In every run the page of a project that can be reached is at the top while it has
    no description. Its scroll is outside the description only after a description came
    that was too short for the rows scrolled away and that it still has. So the scroll
    is always inside exactly if every description that comes for the page is long
    enough. -/
theorem scroll_inside_unless_shortened :
    (∀ k page, (r.boardAt k).page.detail? = some page → page.description = none →
      page.scroll = 0) ∧
    (∀ k page, (r.boardAt k).page.detail? = some page → Board.scrollLimit page < page.scroll →
      r.Shortened k page) ∧
    ((∀ k, (r.boardAt k).InRange) ↔
      ∀ i m, r.messages[i]? = some m → (r.boardAt i).Fits m) := by
  refine ⟨fun k page hpage hnone => ?_, fun k page hpage hbeyond => ?_, ?_, ?_⟩
  · rcases r.inRange_or_shortened k page hpage with hrange | hshort
    · exact page.top_of_inRange hrange hnone
    · rcases hshort with ⟨_, _, _, _, d, _, _, _, _, hd, _⟩
      rw [hnone] at hd
      exact absurd hd (Option.some_ne_none d).symm
  · exact (r.inRange_or_shortened k page hpage).resolve_left (Nat.not_le_of_lt hbeyond)
  · intro hinside i m hm page d hpage hd
    have hnext := Board.detail?_of_describes _ m page d hpage hd
    rw [← boardAt_step r i m hm] at hnext
    exact hinside (i + 1) _ hnext
  · intro hfits k page hpage
    rcases r.inRange_or_shortened k page hpage with hrange | hshort
    · exact hrange
    · rcases hshort with ⟨i, _, m, before, d, hm, hbefore, _, hd, _, hle, hlong⟩
      exact absurd (Nat.le_trans hle (hfits i m hm before d hbefore hd)) (Nat.not_le_of_lt hlong)

/-- A description with services is scrolled down by a page, and the next load brings
    one without. The scroll is left behind its last row. -/
theorem scroll_left_behind :
    let shop : Project := ⟨"shop", .stopped, "php", "", ⟨"/srv/shop"⟩⟩
    let r : Run :=
      { timings := {}
        messages :=
          [.projectsLoaded (.ok [shop]), .key .enter,
            .detailLoaded shop.root (.ok { services := [⟨"web", "running"⟩] }), .key .pageDown,
            .detailLoaded shop.root (.ok {})] }
    let page : DetailPage :=
      { name := "shop", root := shop.root, description := some {}, loading := false, scroll := 8 }
    (r.boardAt 5).page.detail? = some page ∧ Board.scrollLimit page = 5 ∧
      ¬page.scroll ≤ Board.scrollLimit page := by
  decide

end Run

end FleetBoard
