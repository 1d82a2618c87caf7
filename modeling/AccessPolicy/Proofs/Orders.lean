/-
Orders of items: what `arrange` and `lastOfEach` do to a list.

The orders that a list can be brought into are its permutations, and each of
them is reached (`perm_arrange`, `arrange_of_perm`). One item more stands
somewhere among the others in the same order (`arrange_middle`).
-/
import AccessPolicy.Layers.Layer
import Mathlib.Data.List.Nodup

namespace AccessPolicy

variable {ε ε' κ : Type} [DecidableEq κ] {key : ε → κ}

/-! ## Bringing into an order -/

theorem perm_arrange (key : ε → κ) (order : List κ) (l : List ε) : (arrange key order l).Perm l := by
  induction order generalizing l with
  | nil => exact .refl l
  | cons k order ih =>
    refine ((ih _).append_left _).trans ?_
    simpa only [decide_not] using List.filter_append_perm (fun e => key e = k) l

theorem mem_arrange {order : List κ} {l : List ε} {e : ε} : e ∈ arrange key order l ↔ e ∈ l :=
  (perm_arrange key order l).mem_iff

@[simp] theorem arrange_nil (order : List κ) : arrange key order [] = [] :=
  (perm_arrange key order []).eq_nil

/-- **Every order is one of these.** If no two items have one key, their keys in
any order bring them into that order. -/
theorem arrange_of_perm {l l' : List ε} (hperm : l'.Perm l) (hkeys : (l.map key).Nodup) :
    arrange key (l'.map key) l = l' := by
  induction l' generalizing l with
  | nil => rw [← hperm.nil_eq, List.map_nil, arrange]
  | cons e l' ih =>
    have hkeys' : (key e :: l'.map key).Nodup := (hperm.map key).nodup_iff.2 hkeys
    obtain ⟨hnot, hnodup⟩ := List.nodup_cons.1 hkeys'
    have hne : ∀ e' ∈ l', key e' ≠ key e := fun e' he' heq =>
      hnot (List.mem_map.2 ⟨e', he', heq⟩)
    have hfirst : (l.filter fun e' => key e' = key e) = [e] := by
      refine List.perm_singleton.1 ((hperm.filter _).symm.trans ?_)
      rw [List.filter_cons_of_pos (by simp), List.filter_eq_nil_iff.2 (by simpa using hne)]
    have hothers : l'.Perm (l.filter fun e' => key e' ≠ key e) := by
      refine (List.Perm.of_eq ?_).trans (hperm.filter _)
      rw [List.filter_cons_of_neg (by simp), List.filter_eq_self.2 (by simpa using hne)]
    rw [List.map_cons, arrange, hfirst, ih hothers ((hothers.map key).nodup_iff.1 hnodup)]
    rfl

/-- Items may be left out, and changed, before or after, if they keep their keys. -/
theorem arrange_filterMap {key' : ε' → κ} {f : ε → Option ε'}
    (hkey : ∀ e e', f e = some e' → key' e' = key e) (order : List κ) (l : List ε) :
    arrange key' order (l.filterMap f) = (arrange key order l).filterMap f := by
  induction order generalizing l with
  | nil => rfl
  | cons k order ih =>
    have hfilter : ∀ p : κ → Bool, (l.filterMap f).filter (fun e' => p (key' e')) =
        (l.filter fun e => p (key e)).filterMap f := by
      intro p
      rw [List.filter_filterMap, List.filterMap_filter]
      refine List.filterMap_congr fun e _ => ?_
      cases he : f e with
      | none => simp
      | some e' => simp [Option.filter_some, hkey e e' he]
    rw [arrange, arrange, List.filterMap_append, ← ih]
    exact congrArg₂ _ (hfilter fun k' => k' = k) (congrArg _ (hfilter fun k' => k' ≠ k))

theorem arrange_filter (p : ε → Bool) (order : List κ) (l : List ε) :
    arrange key order (l.filter p) = (arrange key order l).filter p := by
  rw [← List.filterMap_eq_filter, arrange_filterMap fun e e' he => ?_]
  rw [(Option.guard_eq_some_iff.1 he).1]

/-- One item more stands somewhere among the others. -/
theorem arrange_middle (key : ε → κ) (order : List κ) (x : ε) (l l' : List ε) :
    ∃ m m', arrange key order (l ++ l') = m ++ m' ∧
      arrange key order (l ++ x :: l') = m ++ x :: m' := by
  induction order generalizing l l' with
  | nil => exact ⟨l, l', rfl, rfl⟩
  | cons k order ih =>
    by_cases hx : key x = k
    · refine ⟨l.filter fun e => key e = k, (l'.filter fun e => key e = k) ++
        arrange key order ((l ++ l').filter fun e => key e ≠ k), ?_, ?_⟩
      · rw [arrange, List.filter_append, List.append_assoc]
      · rw [arrange, List.filter_append, List.filter_append,
          List.filter_cons_of_pos (by simpa using hx), List.filter_cons_of_neg (by simpa using hx)]
        simp
    · obtain ⟨m, m', hwithout, hwith⟩ := ih (l.filter fun e => key e ≠ k) (l'.filter fun e => key e ≠ k)
      refine ⟨((l ++ l').filter fun e => key e = k) ++ m, m', ?_, ?_⟩
      · have hothers : ((l ++ l').filter fun e => key e ≠ k) =
            (l.filter fun e => key e ≠ k) ++ l'.filter fun e => key e ≠ k := List.filter_append ..
        rw [arrange, hothers, hwithout, List.append_assoc]
      · rw [arrange, List.filter_append, List.filter_append,
          List.filter_cons_of_neg (by simpa using hx), List.filter_cons_of_pos (by simpa using hx),
          hwith, ← List.filter_append, List.append_assoc]

/-! ## The last of each -/

theorem mem_of_mem_lastOfEach {e : ε} : ∀ {l : List ε}, e ∈ lastOfEach key l → e ∈ l
  | [], h => h
  | e' :: l, h => by
    rw [lastOfEach] at h
    split at h
    · exact List.mem_cons_of_mem _ (mem_of_mem_lastOfEach h)
    · exact List.mem_cons.2 ((List.mem_cons.1 h).imp_right mem_of_mem_lastOfEach)

/-- No two of the items have one key. -/
theorem lastOfEach_nodup : ∀ l : List ε, ((lastOfEach key l).map key).Nodup
  | [] => .nil
  | e :: l => by
    rw [lastOfEach]
    split
    · exact lastOfEach_nodup l
    · rename_i hnone
      rw [List.map_cons, List.nodup_cons]
      refine ⟨fun hmem => hnone ?_, lastOfEach_nodup l⟩
      obtain ⟨e', he', heq⟩ := List.mem_map.1 hmem
      exact List.any_eq_true.2 ⟨e', mem_of_mem_lastOfEach he', by simpa using heq⟩

/-- If no two items have one key, each is the last. -/
theorem lastOfEach_of_nodup : ∀ {l : List ε}, (l.map key).Nodup → lastOfEach key l = l
  | [], _ => rfl
  | e :: l, h => by
    obtain ⟨hnot, hl⟩ := List.nodup_cons.1 h
    have hnone : ¬ (l.any fun e' => key e' = key e) = true := by
      intro hany
      obtain ⟨e', he', heq⟩ := List.any_eq_true.1 hany
      exact hnot (List.mem_map.2 ⟨e', he', by simpa using heq⟩)
    rw [lastOfEach, if_neg hnone, lastOfEach_of_nodup hl]

/-- An item with a key of its own stands among the last of each. -/
theorem lastOfEach_middle {x : ε} {l l' : List ε} (h : ∀ e ∈ l ++ l', key e ≠ key x) :
    ∃ m m', lastOfEach key (l ++ l') = m ++ m' ∧ lastOfEach key (l ++ x :: l') = m ++ x :: m' := by
  induction l with
  | nil =>
    have hnone : ¬ (l'.any fun e' => key e' = key x) = true := by simpa using h
    exact ⟨[], lastOfEach key l', rfl, by rw [List.nil_append, lastOfEach, if_neg hnone]; rfl⟩
  | cons e l ih =>
    obtain ⟨hne, hl⟩ := List.forall_mem_cons.1 h
    obtain ⟨m, m', hwithout, hwith⟩ := ih hl
    have hany : ((l ++ x :: l').any fun e' => key e' = key e) =
        (l ++ l').any fun e' => key e' = key e := by
      simp [Ne.symm hne]
    rw [List.cons_append, List.cons_append, lastOfEach, lastOfEach, hany, hwithout, hwith]
    split
    · exact ⟨m, m', rfl, rfl⟩
    · exact ⟨e :: m, m', rfl, rfl⟩

end AccessPolicy
