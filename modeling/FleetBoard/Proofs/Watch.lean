import FleetBoard.Proofs.Run

/-!
# What a Page Tells of its Stream

A message changes many things on a board, but only a few of them concern the
stream of the page that is shown: which launch the page was opened for, where its
stream is in its life, and how an operation ended. `Watch` is that part of a
page. Descriptions that come in, lines that are retained and pages that are
parked are not in it, so most messages leave it as it is.

`Watch.Sound` is what holds of it throughout every run. A page with a stream
belongs to the newest launch, results are expected for that launch only, and an
operation that is done has let go of its stream. The last clause is what makes
it safe to leave an operation without a look at its stream.

## Main definitions

* `Watch`: What a page tells of its stream.
* `Launch.opening`: What the page of a launch tells to begin with.
* `Page.watch`: What a page tells.
* `Watch.Sound`: The invariant.

## Theorems

* `sound_setSlot`: The invariant bears that a stream goes on in its life.
* `sound_opening`: The invariant holds of a new page.
* `number_of_expects`: Results are expected of the newest launch only.
* `stream?_eq_none_of_done`: An operation that is done has no stream.
-/

namespace FleetBoard

/-- What a page tells of its stream. -/
inductive Watch
  /-- The page has no stream. -/
  | idle
  | logs (slot : Slot)
  | operation (launch : LaunchId) (done : Bool) (error : Option String) (slot : Slot)
  deriving DecidableEq, Repr

namespace Watch

/-- Where the stream is in its life. -/
def slot? : Watch → Option Slot
  | .idle => none
  | .logs slot => some slot
  | .operation _ _ _ slot => some slot

/-- The stream that is live. -/
def stream? (w : Watch) : Option Stream :=
  w.slot?.bind Slot.stream?

/-- What the stream of the page is followed for. -/
def kind? : Watch → Option StreamKind
  | .idle => none
  | .logs _ => some .logs
  | .operation .. => some .operation

/-- The watch with its stream elsewhere in its life. -/
def setSlot (slot : Slot) : Watch → Watch
  | .idle => .idle
  | .logs _ => .logs slot
  | .operation launch done error _ => .operation launch done error slot

theorem slot?_setSlot (w : Watch) (slot : Slot) :
    (w.setSlot slot).slot? = w.slot?.map fun _ => slot := by
  cases w <;> rfl

theorem kind?_setSlot (w : Watch) (slot : Slot) : (w.setSlot slot).kind? = w.kind? := by
  cases w <;> rfl

theorem kind?_eq_none_iff (w : Watch) : w.kind? = none ↔ w = .idle := by
  cases w <;> simp only [kind?, reduceCtorEq]

theorem isSome_slot?_iff (w : Watch) : w.slot?.isSome = true ↔ w ≠ .idle := by
  cases w <;> simp only [slot?, Option.isSome_none, Option.isSome_some, ne_eq, reduceCtorEq,
    not_true_eq_false, not_false_eq_true, Bool.false_eq_true]

/-- An operation is the same one before its stream goes elsewhere. -/
theorem exists_of_setSlot_eq_operation (w : Watch) (slot after : Slot) (launch : LaunchId)
    (done : Bool) (error : Option String)
    (h : w.setSlot slot = .operation launch done error after) :
    ∃ before, w = .operation launch done error before := by
  cases w with
  | idle => exact Watch.noConfusion h
  | logs before => exact Watch.noConfusion h
  | operation id done' error' before =>
      rw [setSlot, Watch.operation.injEq] at h
      exact ⟨before, by rw [h.1, h.2.1, h.2.2.1]⟩

end Watch

/-- What the page of a launch tells to begin with. -/
def Launch.opening (launch : Launch) : Watch :=
  match launch.kind with
  | .logs => .logs (.pending launch.id)
  | .operation => .operation launch.id false none (.pending launch.id)

namespace Page

/-- What a page tells of its stream. -/
def watch : Page → Watch
  | .dashboard => .idle
  | .detail _ => .idle
  | .logs page => .logs page.slot
  | .operation op => .operation op.launch op.done op.error op.slot

theorem slot?_watch (p : Page) : p.watch.slot? = p.slot? := by
  cases p <;> rfl

theorem stream?_watch (p : Page) : p.watch.stream? = p.stream? := by
  rw [Watch.stream?, slot?_watch, stream?]

theorem watch_eq_operation (op : OperationPage) :
    (Page.operation op).watch = .operation op.launch op.done op.error op.slot := rfl

theorem watch_setSlot (p : Page) (slot : Slot) : (p.setSlot slot).watch = p.watch.setSlot slot := by
  cases p <;> rfl

theorem watch_pushLine (p : Page) (text : String) : (p.pushLine text).watch = p.watch := by
  cases p <;> rfl

theorem watch_mapDetail (p : Page) (f : DetailPage → DetailPage) :
    (p.mapDetail f).watch = p.watch := by
  cases p <;> rfl

theorem watch_dropDetail (p : Page) : p.dropDetail.watch = p.watch := by
  cases p <;> rfl

theorem watch_mapDetail_leave (op : OperationPage) (f : DetailPage → DetailPage) :
    (op.leave.mapDetail f).watch = .idle := by
  rw [watch_mapDetail, OperationPage.leave]
  cases op.origin <;> rfl

theorem watch_eq_operation_iff (p : Page) (launch : LaunchId) (done : Bool)
    (error : Option String) (slot : Slot) :
    p.watch = .operation launch done error slot ↔ ∃ op, p = .operation op ∧ op.launch = launch ∧
      op.done = done ∧ op.error = error ∧ op.slot = slot := by
  cases p <;> simp only [watch, reduceCtorEq, false_and, exists_false, Watch.operation.injEq,
    Page.operation.injEq, exists_eq_left']

end Page

/-- What holds of the watch of a page throughout every run, when there have been
    so many launches: the page belongs to the newest launch and expects results
    of that one only, an operation that is done has let go of its stream, and
    one that is not done has no error. -/
def Watch.Sound (launches : Nat) : Watch → Prop
  | .idle => True
  | .logs slot => ∀ id, slot.expects id = true → id.number = launches
  | .operation launch done error slot =>
    launch.number = launches ∧ (∀ id, slot.expects id = true → id = launch) ∧
      (done = true → slot = .closed) ∧ (done = false → error = none)

namespace Watch

theorem expects_closed (id : LaunchId) : Slot.closed.expects id = false := rfl

theorem slot?_opening (launch : Launch) : launch.opening.slot? = some (.pending launch.id) := by
  rcases launch with ⟨id, kind⟩
  cases kind <;> rfl

theorem kind?_opening (launch : Launch) : launch.opening.kind? = some launch.kind := by
  rcases launch with ⟨id, kind⟩
  cases kind <;> rfl

/-- A slot that expects nothing new keeps the invariant, as long as a stream
    that was let go of does not come back. -/
theorem sound_setSlot (w : Watch) (launches : Nat) (slot : Slot) (hw : w.Sound launches)
    (hexpects : ∀ id, slot.expects id = true → ∃ old, w.slot? = some old ∧ old.expects id = true)
    (hclosed : slot = .closed ∨ w.slot? ≠ some .closed) : (w.setSlot slot).Sound launches := by
  cases w with
  | idle => exact trivial
  | logs old =>
      intro id hid
      rcases hexpects id hid with ⟨old', hold, hid'⟩
      rw [slot?, Option.some.injEq] at hold
      rw [← hold] at hid'
      exact hw id hid'
  | operation launch done error old =>
      rcases hw with ⟨hlaunch, hids, hdone, herror⟩
      refine ⟨hlaunch, fun id hid => ?_, fun hd => ?_, herror⟩
      · rcases hexpects id hid with ⟨old', hold, hid'⟩
        rw [slot?, Option.some.injEq] at hold
        rw [← hold] at hid'
        exact hids id hid'
      · rcases hclosed with hclosed | hopen
        · exact hclosed
        · -- An operation that is done has nothing left to adopt.
          exact absurd (congrArg some (hdone hd)) hopen

theorem sound_setSlot_closed (w : Watch) (launches : Nat) (hw : w.Sound launches) :
    (w.setSlot .closed).Sound launches := by
  refine sound_setSlot w launches .closed hw (fun id hid => ?_) (Or.inl rfl)
  rw [expects_closed] at hid
  exact absurd hid Bool.false_ne_true

theorem sound_opening (launch : Launch) : launch.opening.Sound launch.id.number := by
  rcases launch with ⟨id, kind⟩
  cases kind with
  | logs =>
      intro other h
      rw [← of_decide_eq_true h]
  | operation =>
      refine ⟨rfl, fun other h => (of_decide_eq_true h).symm, fun h => ?_, fun _ => rfl⟩
      exact absurd h Bool.false_ne_true

/-- Results are expected of the newest launch only. -/
theorem number_of_expects (w : Watch) (launches : Nat) (slot : Slot) (id : LaunchId)
    (hw : w.Sound launches) (hslot : w.slot? = some slot) (hid : slot.expects id = true) :
    id.number = launches := by
  cases w with
  | idle => exact absurd hslot (Option.some_ne_none slot).symm
  | logs slot' =>
      rw [slot?, Option.some.injEq] at hslot
      rw [← hslot] at hid
      exact hw id hid
  | operation launch done error slot' =>
      rw [slot?, Option.some.injEq] at hslot
      rw [← hslot] at hid
      rw [hw.2.1 id hid]
      exact hw.1

/-- No stream is live under an operation that is done. -/
theorem stream?_eq_none_of_done (launch : LaunchId) (launches : Nat) (error : Option String)
    (slot : Slot) (hw : (Watch.operation launch true error slot).Sound launches) :
    (Watch.operation launch true error slot).stream? = none := by
  rcases hw with ⟨_, _, hdone, _⟩
  rw [stream?, slot?, hdone rfl]
  rfl

end Watch

end FleetBoard
