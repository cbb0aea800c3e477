import FleetBoard.Project
import Mathlib.Data.List.Perm.Basic

/-!
# The Order of Services

The services of a project are shown with the web server first and the database next. All
others follow by their names. Nothing keeps a project from having several services of one
name, and these stay in the order in which they came.

Together this leaves no choice: any list of the same services that is arranged like that
is the one that is shown. So it makes no difference in which order services come whose
names all differ.

## Main definitions

* `Service.named`: The services of a name, in their order.
* `Arranged`: A list of services as it is to be shown.

## Theorems

* `serviceLe_trans`, `serviceLe_total`: The order of services is a total preorder.
* `named_orderServices`: Services of one name stay in their order.
* `eq_of_named_eq`: Services in order are known by those of each name.
* `arranged_iff`: There is one way to arrange services.
* `services_in_order`: What the order of services comes to.
-/

namespace FleetBoard

section Preorder

variable (a b c : Service)

theorem servicePlace_eq_zero_iff (name : String) : servicePlace name = 0 ↔ name = "web" := by
  rw [servicePlace]
  split
  next h => exact iff_of_true rfl h
  next h => split <;> exact iff_of_false (by decide) h

theorem servicePlace_le_one_iff (name : String) :
    servicePlace name ≤ 1 ↔ name = "web" ∨ name = "db" := by
  rw [servicePlace]
  split
  next h => exact iff_of_true (by decide) (Or.inl h)
  next h =>
    split
    next h' => exact iff_of_true (by decide) (Or.inr h')
    next h' => exact iff_of_false (by decide) (not_or.mpr ⟨h, h'⟩)

theorem serviceLe_iff : serviceLe a b = true ↔ servicePlace a.name < servicePlace b.name ∨
    servicePlace a.name = servicePlace b.name ∧ a.name ≤ b.name := by
  simp only [serviceLe, Bool.or_eq_true, Bool.and_eq_true, decide_eq_true_eq, beq_iff_eq]

theorem place_le_of_serviceLe (h : serviceLe a b = true) :
    servicePlace a.name ≤ servicePlace b.name :=
  ((serviceLe_iff a b).mp h).elim Nat.le_of_lt fun hsame => Nat.le_of_eq hsame.1

theorem serviceLe_trans (hab : serviceLe a b = true) (hbc : serviceLe b c = true) :
    serviceLe a c = true := by
  rw [serviceLe_iff] at hab hbc ⊢
  rcases hab with hab | ⟨hab, hname⟩
  · rcases hbc with hbc | ⟨hbc, _⟩
    · exact Or.inl (Nat.lt_trans hab hbc)
    · exact Or.inl (hbc ▸ hab)
  · rcases hbc with hbc | ⟨hbc, hname'⟩
    · exact Or.inl (hab ▸ hbc)
    · exact Or.inr ⟨hab.trans hbc, String.le_trans hname hname'⟩

theorem serviceLe_total : (serviceLe a b || serviceLe b a) = true := by
  rw [Bool.or_eq_true, serviceLe_iff, serviceLe_iff]
  rcases Nat.lt_trichotomy (servicePlace a.name) (servicePlace b.name) with h | h | h
  · exact Or.inl (Or.inl h)
  · exact (String.le_total a.name b.name).imp (fun hname => Or.inr ⟨h, hname⟩)
      fun hname => Or.inr ⟨h.symm, hname⟩
  · exact Or.inr (Or.inl h)

/-- Services that may stand on either side of each other have one name. -/
theorem name_eq_of_serviceLe (hab : serviceLe a b = true) (hba : serviceLe b a = true) :
    a.name = b.name := by
  have hplace := Nat.le_antisymm (place_le_of_serviceLe a b hab) (place_le_of_serviceLe b a hba)
  rw [serviceLe_iff, hplace] at hab hba
  exact String.le_antisymm (hab.resolve_left (Nat.lt_irrefl _)).2
    (hba.resolve_left (Nat.lt_irrefl _)).2

theorem serviceLe_of_name_eq (h : a.name = b.name) : serviceLe a b = true := by
  rw [serviceLe_iff, h]
  exact Or.inr ⟨rfl, String.le_refl _⟩

theorem serviceLe_of_place_lt (h : servicePlace a.name < servicePlace b.name) :
    serviceLe a b = true :=
  (serviceLe_iff a b).mpr (Or.inl h)

end Preorder

namespace Service

/-- The services of a name, in their order. -/
def named (name : String) (services : List Service) : List Service :=
  services.filter fun s => s.name = name

variable (name : String) (services : List Service)

theorem mem_named (s : Service) : s ∈ named name services ↔ s ∈ services ∧ s.name = name := by
  rw [named, List.mem_filter, decide_eq_true_eq]

theorem named_cons (s : Service) : named name (s :: services) =
    if s.name = name then s :: named name services else named name services := by
  rw [named, List.filter_cons, named]
  simp only [decide_eq_true_eq]

theorem named_append (services' : List Service) :
    named name (services ++ services') = named name services ++ named name services' :=
  List.filter_append services services'

theorem named_eq_nil_of_ne (h : ∀ s ∈ services, s.name ≠ name) : named name services = [] :=
  List.filter_eq_nil_iff.mpr fun s hs => by rw [decide_eq_true_eq]; exact h s hs

/-- Services of one name are in order, however they came. -/
theorem pairwise_of_name_eq (h : ∀ s ∈ services, s.name = name) :
    services.Pairwise fun a b => serviceLe a b = true :=
  List.Pairwise.imp_of_mem (fun ha hb _ => serviceLe_of_name_eq _ _ ((h _ ha).trans (h _ hb).symm))
    (List.pairwise_of_forall (R := fun _ _ => True) fun _ _ => trivial)

end Service

open Service

/-- The services `shown` are those of a project as they are to be shown. -/
structure Arranged (services shown : List Service) : Prop where
  /-- None is left out, and none is added. -/
  perm : shown.Perm services
  /-- The web server stands before the database, the database before all others, and the
      others stand by their names. -/
  parts : ∃ others, shown = named "web" shown ++ named "db" shown ++ others ∧
    (∀ s ∈ others, s.name ≠ "web" ∧ s.name ≠ "db") ∧
    others.Pairwise fun a b => a.name ≤ b.name
  /-- Services of one name stand as they came. -/
  stable : ∀ name, named name shown = named name services

section Parts

variable (services : List Service)

/-- If nothing may stand in front of a name but the name itself, its services come first. -/
theorem named_first (name : String) (h : services.Pairwise fun a b => serviceLe a b = true)
    (hfirst : ∀ a ∈ services, ∀ b, serviceLe a b = true → b.name = name → a.name = name) :
    ∃ rest, services = named name services ++ rest ∧
      (∀ s ∈ rest, s ∈ services ∧ s.name ≠ name) ∧
      rest.Pairwise fun a b => serviceLe a b = true := by
  induction services with
  | nil => exact ⟨[], rfl, fun _ hs => absurd hs List.not_mem_nil, .nil⟩
  | cons a services ih =>
      have hsorted := List.pairwise_cons.mp h
      rw [named_cons]
      by_cases ha : a.name = name
      · rw [if_pos ha]
        rcases ih hsorted.2 fun b hb => hfirst b (List.mem_cons_of_mem _ hb) with
          ⟨rest, hrest, hothers, hpairwise⟩
        exact ⟨rest, congrArg (a :: ·) hrest,
          fun s hs => ⟨List.mem_cons_of_mem _ (hothers s hs).1, (hothers s hs).2⟩, hpairwise⟩
      · -- Then none of the name comes after it.
        have hnone : ∀ s ∈ services, s.name ≠ name := fun s hs hname =>
          ha (hfirst a List.mem_cons_self s (hsorted.1 s hs) hname)
        rw [if_neg ha, named_eq_nil_of_ne name services hnone]
        refine ⟨a :: services, rfl, fun s hs => ⟨hs, ?_⟩, h⟩
        rcases List.mem_cons.mp hs with rfl | hs
        · exact ha
        · exact hnone s hs

/-- Services in order stand in three parts. -/
theorem parts_of_pairwise (h : services.Pairwise fun a b => serviceLe a b = true) :
    ∃ others, services = named "web" services ++ named "db" services ++ others ∧
      (∀ s ∈ others, s.name ≠ "web" ∧ s.name ≠ "db") ∧
      others.Pairwise fun a b => a.name ≤ b.name := by
  rcases named_first services "web" h fun a _ b hle hb => by
      have hplace := place_le_of_serviceLe a b hle
      rw [(servicePlace_eq_zero_iff b.name).mpr hb, Nat.le_zero_eq] at hplace
      exact (servicePlace_eq_zero_iff a.name).mp hplace
    with ⟨behind, hbehind, hnot_web, hsorted⟩
  -- Behind the web servers the databases come first.
  rcases named_first behind "db" hsorted fun a ha b hle hb => by
      have hplace := Nat.le_trans (place_le_of_serviceLe a b hle)
        ((servicePlace_le_one_iff b.name).mpr (Or.inr hb))
      exact ((servicePlace_le_one_iff a.name).mp hplace).resolve_left (hnot_web a ha).2
    with ⟨others, hothers, hnot_db, hsorted'⟩
  have hdatabases : named "db" services = named "db" behind := by
    rw [hbehind, named_append, named_eq_nil_of_ne "db" (named "web" services), List.nil_append]
    intro s hs hname
    rw [mem_named, hname] at hs
    exact absurd hs.2 (by decide)
  have hplace : ∀ s ∈ others, servicePlace s.name = 2 := by
    intro s hs
    rw [servicePlace, if_neg (hnot_web s (hnot_db s hs).1).2, if_neg (hnot_db s hs).2]
  refine ⟨others, ?_, fun s hs => ⟨(hnot_web s (hnot_db s hs).1).2, (hnot_db s hs).2⟩, ?_⟩
  · rw [hdatabases, List.append_assoc, ← hothers]
    exact hbehind
  · refine hsorted'.imp_of_mem fun {a b} ha hb hle => ?_
    rw [serviceLe_iff, hplace a ha, hplace b hb] at hle
    exact (hle.resolve_left (Nat.lt_irrefl 2)).2

/-- Three parts that stand like that are in order. -/
theorem pairwise_of_parts (others : List Service)
    (hparts : services = named "web" services ++ named "db" services ++ others)
    (hothers : ∀ s ∈ others, s.name ≠ "web" ∧ s.name ≠ "db")
    (hnames : others.Pairwise fun a b => a.name ≤ b.name) :
    services.Pairwise fun a b => serviceLe a b = true := by
  have hweb : ∀ s ∈ named "web" services, servicePlace s.name = 0 := fun s hs =>
    (servicePlace_eq_zero_iff s.name).mpr ((mem_named _ _ s).mp hs).2
  have hdb : ∀ s ∈ named "db" services, servicePlace s.name = 1 := fun s hs => by
    rw [((mem_named _ _ s).mp hs).2]
    rfl
  have hplace : ∀ s ∈ others, servicePlace s.name = 2 := fun s hs => by
    rw [servicePlace, if_neg (hothers s hs).1, if_neg (hothers s hs).2]
  have hsorted : others.Pairwise fun a b => serviceLe a b = true :=
    hnames.imp_of_mem fun {a b} ha hb hle => by
      rw [serviceLe_iff, hplace a ha, hplace b hb]
      exact Or.inr ⟨rfl, hle⟩
  have hone : ∀ name, (named name services).Pairwise fun a b => serviceLe a b = true :=
    fun name => pairwise_of_name_eq name _ fun s hs => ((mem_named _ _ s).mp hs).2
  rw [hparts, List.pairwise_append, List.pairwise_append]
  refine ⟨⟨hone "web", hone "db", fun a ha b hb => ?_⟩, hsorted, fun a ha b hb => ?_⟩
  · exact serviceLe_of_place_lt a b (by rw [hweb a ha, hdb b hb]; decide)
  · refine serviceLe_of_place_lt a b ?_
    rw [hplace b hb]
    rcases List.mem_append.mp ha with ha | ha
    · rw [hweb a ha]
      decide
    · rw [hdb a ha]
      decide

end Parts

theorem mem_iff_of_named_eq (xs ys : List Service) (h : ∀ name, named name xs = named name ys)
    (s : Service) : s ∈ xs ↔ s ∈ ys := by
  have hname := mem_named s.name xs s
  rw [h, mem_named] at hname
  exact ⟨fun hs => (hname.mpr ⟨hs, rfl⟩).1, fun hs => (hname.mp ⟨hs, rfl⟩).1⟩

/-- Services in order are known by those of each name. -/
theorem eq_of_named_eq (xs ys : List Service)
    (hxs : xs.Pairwise fun a b => serviceLe a b = true)
    (hys : ys.Pairwise fun a b => serviceLe a b = true)
    (h : ∀ name, named name xs = named name ys) : xs = ys := by
  have hmem := mem_iff_of_named_eq xs ys h
  induction xs generalizing ys with
  | nil => exact (List.eq_nil_iff_forall_not_mem.mpr fun s hs =>
      List.not_mem_nil ((hmem s).mpr hs)).symm
  | cons a xs ih =>
      cases ys with
      | nil => exact absurd ((hmem a).mp List.mem_cons_self) List.not_mem_nil
      | cons b ys =>
          rw [List.pairwise_cons] at hxs hys
          -- Each of the two first services may stand in front of the other one.
          have hname : a.name = b.name := by
            rcases List.mem_cons.mp ((hmem a).mp List.mem_cons_self) with hab | ha
            · rw [hab]
            · rcases List.mem_cons.mp ((hmem b).mpr List.mem_cons_self) with hba | hb
              · rw [hba]
              · exact name_eq_of_serviceLe a b (hxs.1 b hb) (hys.1 a ha)
          have hsame := h a.name
          rw [named_cons, named_cons, if_pos rfl, if_pos hname.symm, List.cons.injEq] at hsame
          have hothers : ∀ name, named name xs = named name ys := by
            intro name
            have hnamed := h name
            rw [named_cons, named_cons, hname] at hnamed
            by_cases hb : b.name = name
            · rw [if_pos hb, if_pos hb, List.cons.injEq] at hnamed
              exact hnamed.2
            · rw [if_neg hb, if_neg hb] at hnamed
              exact hnamed
          rw [hsame.1, ih ys hxs.2 hys.2 hothers (mem_iff_of_named_eq xs ys hothers)]

section Shown

variable (services : List Service)

theorem pairwise_orderServices :
    (orderServices services).Pairwise fun a b => serviceLe a b = true :=
  List.pairwise_mergeSort serviceLe_trans serviceLe_total services

/-- Services of one name stay in their order. -/
theorem named_orderServices (name : String) :
    named name (orderServices services) = named name services := by
  have hmem : ∀ s ∈ named name services, s.name = name := fun s hs =>
    ((mem_named _ _ s).mp hs).2
  have hsub := (List.sublist_mergeSort serviceLe_trans serviceLe_total
    (pairwise_of_name_eq name _ hmem) List.filter_sublist).filter fun s => decide (s.name = name)
  rw [List.filter_eq_self.mpr fun s hs => decide_eq_true (hmem s hs)] at hsub
  -- As many of them are there after as before.
  exact (hsub.eq_of_length ((List.mergeSort_perm services serviceLe).filter _).length_eq.symm).symm

/-- There is one way to arrange services. -/
theorem arranged_iff (shown : List Service) :
    Arranged services shown ↔ shown = orderServices services := by
  constructor
  · intro h
    rcases h.parts with ⟨others, hparts, hothers, hnames⟩
    exact eq_of_named_eq _ _ (pairwise_of_parts shown others hparts hothers hnames)
      (pairwise_orderServices services) fun name =>
        (h.stable name).trans (named_orderServices services name).symm
  · rintro rfl
    exact ⟨List.mergeSort_perm services serviceLe,
      parts_of_pairwise _ (pairwise_orderServices services), named_orderServices services⟩

/-- Of services whose names all differ there is one of a name at most, so nothing hangs
    on their order. -/
theorem named_eq_of_perm (services' : List Service) (hdistinct : (services.map Service.name).Nodup)
    (hperm : services'.Perm services) (name : String) :
    named name services' = named name services := by
  have hnone : ∀ xs : List Service, (xs.map Service.name).Nodup →
      (named name xs).Pairwise fun _ _ => False := by
    intro xs hxs
    refine ((List.pairwise_map.mp hxs).filter _).imp_of_mem fun {a b} ha hb hne => ?_
    exact hne (((mem_named name xs a).mp ha).2.trans ((mem_named name xs b).mp hb).2.symm)
  exact (hperm.filter _).eq_of_pairwise (fun _ _ _ _ h => h.elim)
    (hnone services' ((hperm.map _).nodup_iff.mpr hdistinct)) (hnone services hdistinct)

/-- The services are shown as they are to be arranged, and any list that is arranged like
    that is the one that is shown. Ordering them again changes nothing, and if their names
    all differ, it makes no difference in which order they came. -/
theorem services_in_order :
    Arranged services (orderServices services) ∧
    (∀ shown, Arranged services shown → shown = orderServices services) ∧
    orderServices (orderServices services) = orderServices services ∧
    ((services.map Service.name).Nodup → ∀ services', services'.Perm services →
      orderServices services' = orderServices services) := by
  have harranged := (arranged_iff services _).mpr rfl
  refine ⟨harranged, fun shown => (arranged_iff services shown).mp,
    List.mergeSort_of_pairwise (pairwise_orderServices services),
    fun hdistinct services' hperm => ?_⟩
  refine ((arranged_iff services' _).mp ⟨harranged.perm.trans hperm.symm, harranged.parts, ?_⟩).symm
  intro name
  rw [named_orderServices, named_eq_of_perm services services' hdistinct hperm]

omit services

/-- Four services with names of their own are shown in the same order however they come. -/
theorem four_services_in_order :
    let shown : List Service := [⟨"web", "running"⟩, ⟨"db", "running"⟩, ⟨"adminer", "exited"⟩,
      ⟨"redis", "running"⟩]
    let came : List Service := [⟨"redis", "running"⟩, ⟨"db", "running"⟩, ⟨"adminer", "exited"⟩,
      ⟨"web", "running"⟩]
    (shown.map Service.name).Nodup ∧ came.Perm shown ∧ orderServices came = shown := by
  intro shown came
  have hdistinct : (shown.map Service.name).Nodup := by decide
  have hperm : came.Perm shown := by decide
  have hshown : orderServices shown = shown := List.mergeSort_of_pairwise (by decide)
  exact ⟨hdistinct, hperm,
    ((services_in_order shown).2.2.2 hdistinct came hperm).trans hshown⟩

end Shown

end FleetBoard
