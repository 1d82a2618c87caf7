/-
Environment variables come in no order, and those of other programs stand among
them: neither makes a difference to the settings that are loaded
(`Stack.load_of_perm_marked`).

This holds of variables that set different places (`Variables.Separate`). Two
variables of which one sets the place of the other, or a part of it, are not
covered: there the later list counts, and a list counts over a single value.
-/
import AccessPolicy.Proofs.Branches
import AccessPolicy.Proofs.Loading
import AccessPolicy.Proofs.UnsetVariables

namespace AccessPolicy

namespace Variables

variable {marker : String} {environment environment' : List Variable}

/-! ## What marked variables say -/

theorem layer_marked (marker : String) (environment : List Variable) :
    layer marker (marked marker environment) = layer marker environment := by
  refine filterMap_filter_of_none (fun v hv => ?_) environment
  rw [key?_of_not_marked hv]
  rfl

/-- What the same variables say, in another order and among others. -/
theorem layer_perm (h : (marked marker environment).Perm (marked marker environment')) :
    (layer marker environment).Perm (layer marker environment') := by
  rw [← layer_marked marker environment, ← layer_marked marker environment']
  exact h.filterMap _

/-! ## Variables for different places -/

/-- Every variable that counts names a path by plain names, and no path is the
same as another, or leads on from another. -/
structure Separate (marker : String) (environment : List Variable) : Prop where
  plain : Plain marker environment
  apart : (layer marker environment).Pairwise Layer.Apart

theorem Separate.perm (h : Separate marker environment)
    (hperm : (layer marker environment).Perm (layer marker environment')) :
    Separate marker environment' :=
  ⟨fun e he => h.plain e (hperm.mem_iff.2 he), hperm.pairwise h.apart fun h => h.symm⟩

theorem keys_nodup {l : Layer} (h : l.Pairwise Layer.Apart) : (l.map (·.1)).Nodup := by
  refine List.pairwise_map.2 (h.imp fun hapart heq => ?_)
  exact hapart.ne (by rw [heq])

theorem Separate.single (h : Separate marker environment) : Single marker environment := by
  have hpairs : environment.Pairwise fun v w => ∀ key, key? marker v.1 = some key →
      key? marker w.1 ≠ some key := by
    refine (List.pairwise_filterMap.1 h.apart).imp fun {v w} hvw key hv hw => ?_
    rw [hv, hw] at hvw
    exact (hvw _ rfl _ rfl).ne rfl
  intro v hv w hw hsome heq
  obtain ⟨key, hkey⟩ := Option.isSome_iff_exists.1 hsome
  have hkeyv : key? marker v.1 = some key := (Option.filter_eq_some_iff.1 hkey).1
  have hkeyw : key? marker w.1 = some key := (Option.filter_eq_some_iff.1 (heq ▸ hkey)).1
  by_contra hne
  have hsymm : Std.Symm fun v w : Variable => ∀ key, key? marker v.1 = some key →
      key? marker w.1 ≠ some key := ⟨fun _ _ h key hw hv => h key hv hw⟩
  exact hpairs.forall hv hw (fun hvw => hne (by rw [hvw])) key hkeyv hkeyw

/-- The single values are the same in any order. -/
theorem Separate.scalars_eq (h : Separate marker environment)
    (hperm : (layer marker environment).Perm (layer marker environment')) (order order' : List String) :
    scalars order' marker environment' = scalars order marker environment := by
  have hsingles : (singles marker environment).Perm (singles marker environment') := by
    rw [singles_eq_filter, singles_eq_filter]
    exact hperm.filter _
  have hkeys : ((singles marker environment).map (·.1)).Nodup := by
    rw [singles_eq_filter]
    exact keys_nodup (h.apart.filter _)
  refine NameMap.ext fun key => ?_
  rw [get?_scalars (h.perm hperm).single, get?_scalars h.single, NameMap.last?_perm hsingles hkeys]

/-- No two variables set one list, and the lists may be put together in any order. -/
theorem Separate.lists_eq (h : Separate marker environment)
    (hperm : (layer marker environment).Perm (layer marker environment')) (order order' : List KeyPath) :
    lists order' (listed marker environment') = lists order (listed marker environment) := by
  have hlast : ∀ {environment : List Variable}, Separate marker environment → ∀ order : List KeyPath,
      (inOrder order (listed marker environment)).Perm (listed marker environment) := by
    intro environment h order
    have hapart : (listed marker environment).Pairwise Layer.Apart := h.apart.filter _
    have hnodup : ((listed marker environment).map Layer.pathOf).Nodup := by
      refine List.pairwise_map.2 (hapart.imp_of_mem fun {e e'} he he' hapart heq => hapart.ne ?_)
      rw [KeyPath.ofText_injective (h.plain e (listed_subset e he)) (h.plain e' (listed_subset e' he')) heq]
    rw [inOrder, lastOfEach_of_nodup hnodup]
    exact perm_arrange _ order _
  have hlisted : (inOrder order' (listed marker environment')).Perm
      (inOrder order (listed marker environment)) :=
    (hlast (h.perm hperm) order').trans ((hperm.symm.filter _).trans (hlast h order).symm)
  have hapart : (listed marker environment).Pairwise Layer.Apart := h.apart.filter _
  rw [lists_eq_overlay _ fun e he => (h.perm hperm).plain e (listed_subset e he),
    lists_eq_overlay _ fun e he => h.plain e (listed_subset e he)]
  exact (Layer.overlay_perm ((hlast h order).symm.pairwise hapart fun h => h.symm) hlisted.symm _).symm

/-- The single values may be merged in in any order. -/
theorem Separate.mergeOver_scalars (h : Separate marker environment) {order : List String} {l : Layer}
    (hperm : l.Perm (scalars order marker environment).toList) (t : Tree) :
    Layer.mergeOver t l = Layer.mergeOver t (scalars order marker environment).toList := by
  have hplain : ∀ {m : Layer}, (∀ e ∈ m, e ∈ layer marker environment) →
      Layer.mergeOver t m = Shape.overlay t (m.map Layer.branch) := fun hm =>
    Layer.mergeOver_eq_overlay fun e he => h.plain e (hm e he)
  have hsubset : ∀ e ∈ (scalars order marker environment).toList, e ∈ layer marker environment :=
    scalars_subset order
  have hapart : (scalars order marker environment).toList.Pairwise Layer.Apart := by
    refine (scalars order marker environment).increasing.imp_of_mem fun {e e'} he he' hlt => ?_
    refine h.apart.forall (hsubset e he) (hsubset e' he') ?_
    rintro rfl
    exact String.lt_irrefl _ hlt
  rw [hplain hsubset, hplain fun e he => hsubset e (hperm.mem_iff.1 he),
    Layer.overlay_perm hapart hperm.symm]

end Variables

/-- **Neither the order of variables nor other variables matter.** What is loaded
depends on no more than which variables there are whose names start with the
marker. The loading keeps no order for the names of variables, for the single
values among them and for the lists that they set: each may come in any order,
and another one each time. -/
theorem Stack.load_of_perm_marked (s : Stack) (environment' : List Variables.Variable)
    (h : Variables.Separate s.marker s.environment)
    (hperm : (Variables.marked s.marker s.environment).Perm (Variables.marked s.marker environment')) :
    (∀ names scalars lists,
      load { s with environment := environment', orders := { s.orders with names, scalars, lists } } =
        s.load) ∧
    ∀ (order : List String) (l : Layer),
      l.Perm (Variables.scalars order s.marker s.environment).toList → ∀ t,
        Layer.mergeOver t l =
          Layer.mergeOver t (Variables.scalars order s.marker s.environment).toList := by
  have hlayer := Variables.layer_perm hperm
  refine ⟨fun names scalars lists => ?_, fun order l hl t => h.mergeOver_scalars hl t⟩
  generalize hs' :
    { s with environment := environment', orders := { s.orders with names, scalars, lists } } = s'
  have henvironment : s'.marker = s.marker ∧ s'.environment = environment' := by
    rw [← hs']
    exact ⟨rfl, rfl⟩
  have hplain' : Variables.Plain s'.marker s'.environment := by
    rw [henvironment.1, henvironment.2]
    exact (h.perm hlayer).plain
  have hvalues : s'.singles = s.singles := by
    rw [singles, henvironment.1, henvironment.2]
    exact h.scalars_eq hlayer _ _
  have htree : Variables.lists s'.orders.lists (Variables.listed s'.marker s'.environment) =
      Variables.lists s.orders.lists (Variables.listed s.marker s.environment) := by
    rw [henvironment.1, henvironment.2]
    exact h.lists_eq hlayer _ _
  obtain ⟨hlists, hsingles⟩ := variables_of_plain h.plain
  obtain ⟨hlists', hsingles'⟩ := variables_of_plain hplain'
  have hmergeLists : merger s'.listLayer = merger s.listLayer := by
    rw [hlists, hlists', htree]
  have hmergeSingles : merger s'.singleLayer = merger s.singleLayer := by
    rw [hsingles, hsingles', hvalues]
    exact congrArg Except.ok (funext fun t => (h.mergeOver_scalars (perm_arrange _ _ _) t).trans
      (h.mergeOver_scalars (perm_arrange _ _ _) t).symm)
  rw [load_eq_mergers s', load_eq_mergers s, hmergeLists, hmergeSingles, ← hs']
  rfl

/-- Lists and single values, with a variable of another program between them. -/
def Variables.exported : List Variables.Variable := [
  ("WARDEN_LOGGING__LEVEL", "debug"), ("WARDEN_POLICIES__OPS__ALLOW_ROLES", "admin, ops"),
  ("HOME", "/root"), ("warden_logging__audit", "off")]

theorem Stack.load_exported : Variables.Separate "WARDEN" Variables.exported ∧
    load { environment := [("warden_logging__audit", "off"), ("WARDENS", "x"),
      ("WARDEN_POLICIES__OPS__ALLOW_ROLES", "admin, ops"), ("WARDEN_LOGGING__LEVEL", "debug")] } =
    load { environment := Variables.exported } := by
  have h : Variables.Separate "WARDEN" Variables.exported := {
    plain := by decide +kernel
    apart := by decide +kernel }
  exact ⟨h, (load_of_perm_marked { environment := Variables.exported } _ h (by decide +kernel)).1 [] [] []⟩

end AccessPolicy
