/-
Runs of an enforcer: what each step answers, and what the audit trail holds in
the end.

A step changes nothing but whether requests are logged (`after_eq`), so the
answer to a step depends on the compiled policies and the step alone
(`answer_step`). Of the steps before it only the last switch of auditing
counts, and only for the trail. Both are put together in `run_ofList`, for
policies that were collected under their names.
-/
import AccessPolicy.Enforcer
import AccessPolicy.Proofs.Registrations

namespace AccessPolicy

/-- Collected policies stand under their own names. -/
theorem CompiledPolicies.name_of_get?_ofList {l : List Policy} {name : String} {policy : Policy}
    (h : (ofList l).get? name = some policy) : policy.name = name := by
  rw [get?_ofList, NameMap.last?_eq_some_iff] at h
  obtain ⟨before, after, heq, -⟩ := h
  have hmem : (name, policy) ∈ l.map fun p => (p.name, p) := by rw [heq]; simp
  obtain ⟨p, -, hp⟩ := List.mem_map.1 hmem
  cases hp
  rfl

/-- A decision of collected policies bears the name that was asked for. -/
theorem CompiledPolicies.policy_of_authorize_ofList {l : List Policy} {name : String}
    {p : Principal} {d : Decision} (h : (ofList l).authorize name p = .ok d) : d.policy = name := by
  rw [authorize] at h
  split at h
  · rename_i policy hpolicy
    cases h
    exact name_of_get?_ofList hpolicy
  · cases h

theorem CompiledPolicies.error_of_authorize {c : CompiledPolicies} {name : String} {p : Principal}
    {refusal : Refusal} (h : c.authorize name p = .error refusal) : refusal = .unknownPolicy name := by
  rw [authorize] at h
  split at h <;> cases h
  rfl

namespace Enforcer

/-! ## The specification -/

/-- What enforcing a policy comes to, given what is decided about the request.
A grant lets it go on. A refusal turns it away with the name that was asked
for and the outcome that was decided. An unknown name stays unknown. -/
structure Enforces (name : String) (decided : Except Refusal Decision)
    (answer : Except Refusal Unit) : Prop where
  granted : answer = .ok () ↔ ∃ d, decided = .ok d ∧ d.outcome = .granted
  denied : ∀ policy reason, answer = .error (.accessDenied policy reason) ↔
    policy = name ∧ reason ≠ .granted ∧ ∃ d, decided = .ok d ∧ d.outcome = reason
  unknown : ∀ policy, answer = .error (.unknownPolicy policy) ↔
    decided = .error (.unknownPolicy policy)

/-- What the compiled policies say to a step. -/
def Answers (c : CompiledPolicies) : Step → StepResult → Prop
  | .setAudit _, r => r = .done
  | .decide name p, r => r = .decision (c.authorize name p)
  | .enforce name p, r => ∃ answer, r = .admission answer ∧ Enforces name (c.authorize name p) answer
  | .authorize name p, r => r = .decision (c.authorize name p)
  | .contains name, r => r = .contained (c.contains name)
  | .policies, r => r = .policies c

/-- What is written down about a request, given what is decided about it. -/
def entry (name : String) (p : Principal) : Except Refusal Decision → LogRecord
  | .ok d =>
    if d.outcome = .granted then
      ⟨.info, Event.enforcementTarget, "Access granted",
        [("policy", .text name), ("user", .text (Text.quoteOption p.userId))]⟩
    else
      ⟨.warn, Event.enforcementTarget, "Access denied",
        [("policy", .text name), ("user", .text (Text.quoteOption p.userId)),
         ("reason", .text d.outcome.message)]⟩
  | .error _ =>
    ⟨.warn, Event.enforcementTarget, "Unknown policy requested",
      [("policy", .text name), ("user", .text (Text.quoteOption p.userId))]⟩

/-- What a step leaves in the audit trail: one record for a request, if
auditing is on, and nothing for anything else. -/
def Step.records (c : CompiledPolicies) (audit : Bool) : Step → List LogRecord
  | .decide name p | .enforce name p => if audit then [entry name p (c.authorize name p)] else []
  | _ => []

/-- Whether a step switches auditing, and to what. -/
def Step.switch? : Step → Option Bool
  | .setAudit enabled => some enabled
  | _ => none

/-- Whether auditing is on after some steps: what the last switch says. -/
def auditAfter (audit : Bool) (steps : List Step) : Bool :=
  ((steps.filterMap Step.switch?).getLast?).getD audit

/-! ## One step -/

theorem enforces_admission {name : String} {decided : Except Refusal Decision}
    (hname : ∀ d, decided = .ok d → d.policy = name)
    (hunknown : ∀ refusal, decided = .error refusal → refusal = .unknownPolicy name) :
    Enforces name decided (admission decided) := by
  cases decided with
  | error refusal =>
    obtain rfl := hunknown refusal rfl
    constructor <;> simp [admission]
  | ok d =>
    obtain rfl := hname d rfl
    obtain ⟨policy, outcome⟩ := d
    cases hgranted : outcome.isGranted with
    | true =>
      obtain rfl := Outcome.isGranted_iff.1 hgranted
      constructor
      · simp [admission, Decision.isGranted, Outcome.isGranted]
      · rintro policy' reason
        simp [admission, Decision.isGranted, Outcome.isGranted, eq_comm]
      · simp [admission, Decision.isGranted, Outcome.isGranted]
    | false =>
      have hne : outcome ≠ .granted := fun h => by rw [h] at hgranted; cases hgranted
      constructor
      · simp [admission, Decision.isGranted, hgranted, hne]
      · intro policy' reason
        simp only [admission, Decision.isGranted, hgranted, Bool.false_eq_true, if_false,
          Except.error.injEq, Refusal.accessDenied.injEq, Except.ok.injEq, exists_eq_left']
        constructor
        · rintro ⟨rfl, rfl⟩
          exact ⟨rfl, hne, rfl⟩
        · rintro ⟨rfl, -, rfl⟩
          exact ⟨rfl, rfl⟩
      · simp [admission, Decision.isGranted, hgranted]

theorem answers_step (l : List Policy) (audit : Bool) (s : Step) :
    Answers (.ofList l) s (step ⟨.ofList l, audit⟩ s).2.1 := by
  cases s with
  | enforce name p =>
    exact ⟨_, rfl, enforces_admission (fun _ => CompiledPolicies.policy_of_authorize_ofList)
      fun _ => CompiledPolicies.error_of_authorize⟩
  | _ => rfl

/-- The answer to a step does not depend on auditing. -/
theorem answer_step (c : CompiledPolicies) (audit audit' : Bool) (s : Step) :
    (step ⟨c, audit⟩ s).2.1 = (step ⟨c, audit'⟩ s).2.1 := by
  cases s <;> rfl

theorem record_auditEvent (name : String) (p : Principal) (decided : Except Refusal Decision) :
    (auditEvent name p decided).record = entry name p decided := by
  cases decided with
  | error refusal => rfl
  | ok d =>
    have hiff : d.isGranted = true ↔ d.outcome = .granted := Outcome.isGranted_iff
    rw [auditEvent, entry]
    by_cases hgranted : d.outcome = .granted
    · rw [if_pos hgranted, if_pos (hiff.2 hgranted)]
      rfl
    · rw [if_neg hgranted, if_neg fun h => hgranted (hiff.1 h)]
      rfl

theorem records_step (c : CompiledPolicies) (audit : Bool) (s : Step) :
    (step ⟨c, audit⟩ s).2.2.map Event.record = s.records c audit := by
  have hrequest : ∀ name p, ((if audit then [auditEvent name p (c.authorize name p)] else []).map
      Event.record) = if audit then [entry name p (c.authorize name p)] else [] := by
    intro name p
    cases audit with
    | true => rw [if_pos rfl, if_pos rfl, List.map_singleton, record_auditEvent]
    | false => rfl
  cases s with
  | decide name p | enforce name p => exact hrequest name p
  | _ => rfl

/-! ## Whole runs -/

/-- The enforcer after some steps. -/
def after (e : Enforcer) (steps : List Step) : Enforcer := steps.foldl (fun e s => (e.step s).1) e

theorem step_fst (e : Enforcer) (s : Step) :
    (e.step s).1 = { e with audit := s.switch?.getD e.audit } := by
  cases s <;> rfl

theorem auditAfter_cons (audit : Bool) (s : Step) (steps : List Step) :
    auditAfter audit (s :: steps) = auditAfter (s.switch?.getD audit) steps := by
  rw [auditAfter, auditAfter, List.filterMap_cons]
  cases s.switch? with
  | none => rfl
  | some enabled =>
    show ((enabled :: steps.filterMap Step.switch?).getLast?).getD audit = _
    rw [List.getLast?_cons]
    rfl

theorem after_eq (e : Enforcer) (steps : List Step) :
    e.after steps = { e with audit := auditAfter e.audit steps } := by
  induction steps generalizing e with
  | nil => rfl
  | cons s steps ih =>
    show (e.step s).1.after steps = _
    rw [ih, step_fst, auditAfter_cons]

/-- A run goes step by step, each with what the steps before it have left. -/
theorem run_eq_mapIdx (e : Enforcer) (steps : List Step) :
    e.run steps = steps.mapIdx fun i s => ((e.after (steps.take i)).step s).2 := by
  induction steps generalizing e with
  | nil => rfl
  | cons s steps ih =>
    show (e.step s).2 :: (e.step s).1.run steps = _
    rw [ih, List.mapIdx_cons]
    rfl

theorem getElem?_run {c : CompiledPolicies} {audit : Bool} {steps : List Step} {i : Nat} {s : Step}
    (h : steps[i]? = some s) : (run ⟨c, audit⟩ steps)[i]? =
      some (step ⟨c, auditAfter audit (steps.take i)⟩ s).2 := by
  rw [run_eq_mapIdx, List.getElem?_mapIdx, h, after_eq]
  rfl

/-- **Runs of an enforcer.** Every step gets the answer that the compiled
policies give to it, whether auditing is on or off and whatever was asked
before. The trail holds, in the order of the steps, one record for each request
that is decided or enforced while auditing is on, and nothing else. -/
theorem run_ofList (l : List Policy) (audit : Bool) (steps : List Step) :
    (run ⟨.ofList l, audit⟩ steps).length = steps.length ∧
    (∀ (i : Nat) s, steps[i]? = some s → ∃ r events,
      (run ⟨.ofList l, audit⟩ steps)[i]? = some (r, events) ∧ Answers (.ofList l) s r) ∧
    (∀ audit' (steps' : List Step) (i j : Nat), steps[i]? = steps'[j]? →
      ((run ⟨.ofList l, audit⟩ steps)[i]?).map Prod.fst =
        ((run ⟨.ofList l, audit'⟩ steps')[j]?).map Prod.fst) ∧
    ((run ⟨.ofList l, audit⟩ steps).flatMap Prod.snd).map Event.record =
      (steps.mapIdx fun i s => s.records (.ofList l) (auditAfter audit (steps.take i))).flatten := by
  have hlength : ∀ audit steps, (run ⟨.ofList l, audit⟩ steps).length = steps.length := by
    intro audit steps
    rw [run_eq_mapIdx, List.length_mapIdx]
  refine ⟨hlength audit steps, ?_, ?_, ?_⟩
  · intro i s hs
    exact ⟨_, _, getElem?_run hs, answers_step l _ s⟩
  · intro audit' steps' i j hij
    cases hs : steps[i]? with
    | none =>
      have hi : (run ⟨.ofList l, audit⟩ steps)[i]? = none := by
        rw [List.getElem?_eq_none_iff, hlength, ← List.getElem?_eq_none_iff, hs]
      have hj : (run ⟨.ofList l, audit'⟩ steps')[j]? = none := by
        rw [List.getElem?_eq_none_iff, hlength, ← List.getElem?_eq_none_iff, ← hij, hs]
      rw [hi, hj]
    | some s =>
      rw [getElem?_run hs, getElem?_run (hij ▸ hs), Option.map_some, Option.map_some]
      exact congrArg some (answer_step _ _ _ s)
  · rw [run_eq_mapIdx, List.flatMap_def, List.map_flatten, List.map_map]
    congr 1
    refine List.ext_getElem? fun i => ?_
    rw [List.getElem?_map, List.getElem?_mapIdx, List.getElem?_mapIdx, Option.map_map]
    congr 1
    funext s
    show ((after _ _).step s).2.2.map Event.record = _
    rw [after_eq, records_step]

end Enforcer

end AccessPolicy
