/-
The audit trail says what happened, and nothing else could have left it.

Every text in a record can be read back: the user from the quoted form
(`Text.unquoteOption?_quoteOption`), the outcome from its message
(`Outcome.ofMessage?_message`), and message and fields tell grants, refusals
and unknown policies apart. So a record gives back the request that left it
(`readRequest?_event`), and the trail of a run gives back, in order, what was asked
while auditing was on. No name, quoted or not, can pass for another entry.
-/
import AccessPolicy.Identity
import AccessPolicy.Proofs.AuditTrail
import AccessPolicy.Proofs.QuotedText

namespace AccessPolicy

/-! ## Outcomes from their messages -/

namespace Outcome

/-- The outcome that a message is about. -/
def ofMessage? (s : String) : Option Outcome :=
  ([granted, unauthenticated, locked, notAllowed].find? fun o => o.message == s) <|>
  (Text.between? "role '" "' is denied" s).map deniedRole <|>
  (Text.between? "user '" "' is denied" s).map deniedUser <|>
  (Text.between? "missing required claim '" "'" s).map missingClaim

/-- A message that begins with another letter is none of those without a name. -/
theorem find?_message_eq_none {s : String} {c : Char} (h : s.toList.head? = some c) (hg : c ≠ 'g')
    (hp : c ≠ 'p') :
    [granted, unauthenticated, locked, notAllowed].find? (fun o => o.message == s) = none := by
  have hother : ∀ t : String, t.toList.head? = some 'g' ∨ t.toList.head? = some 'p' → t ≠ s := by
    rintro t (ht | ht) rfl
    · exact hg (Option.some.inj (h.symm.trans ht))
    · exact hp (Option.some.inj (h.symm.trans ht))
  rw [List.find?_eq_none]
  intro o ho hs
  simp only [List.mem_cons, List.not_mem_nil, or_false] at ho
  rcases ho with rfl | rfl | rfl | rfl
  · exact hother "granted" (.inl (by simp)) (beq_iff_eq.1 hs)
  · exact hother "principal is not authenticated" (.inr (by simp)) (beq_iff_eq.1 hs)
  · exact hother "policy grants access to no one" (.inr (by simp)) (beq_iff_eq.1 hs)
  · exact hother "principal matches no allowed role or user" (.inr (by simp)) (beq_iff_eq.1 hs)

theorem ofMessage?_message (o : Outcome) : ofMessage? o.message = some o := by
  cases o with
  | granted => rfl
  | unauthenticated => rfl
  | locked => rfl
  | notAllowed => rfl
  | deniedRole role =>
    show ofMessage? ("role '" ++ role ++ "' is denied") = _
    rw [ofMessage?, find?_message_eq_none (c := 'r') (by simp) (by decide) (by decide),
      Text.between?_append]
    rfl
  | deniedUser user =>
    have hrole : Text.between? "role '" "' is denied" ("user '" ++ user ++ "' is denied") = none :=
      Text.between?_eq_none _ (by simp)
    show ofMessage? ("user '" ++ user ++ "' is denied") = _
    rw [ofMessage?, find?_message_eq_none (c := 'u') (by simp) (by decide) (by decide), hrole,
      Text.between?_append]
    rfl
  | missingClaim type =>
    have hrole : Text.between? "role '" "' is denied" ("missing required claim '" ++ type ++ "'") =
        none := Text.between?_eq_none _ (by simp)
    have huser : Text.between? "user '" "' is denied" ("missing required claim '" ++ type ++ "'") =
        none := Text.between?_eq_none _ (by simp)
    show ofMessage? ("missing required claim '" ++ type ++ "'") = _
    rw [ofMessage?, find?_message_eq_none (c := 'm') (by simp) (by decide) (by decide), hrole, huser,
      Text.between?_append]
    rfl

end Outcome

namespace Enforcer

/-! ## Requests -/

/-- A request as the trail is to keep it: which policy was asked, on whose
behalf, and what came of it. An unknown policy has no outcome. -/
structure Request where
  policy : String
  user : Option String
  outcome : Option Outcome
deriving DecidableEq

/-- What an answer says about the request: the outcome, or that the policy is
unknown. -/
def StepResult.outcome : StepResult → Option Outcome
  | .decision (.ok d) => some d.outcome
  | .admission (.ok ()) => some .granted
  | .admission (.error (.accessDenied _ reason)) => some reason
  | _ => none

/-- The request that a step makes, with what came of it by the answer. -/
def Step.request? (answer : StepResult) : Step → Option Request
  | .decide name p | .enforce name p => some ⟨name, p.userId, answer.outcome⟩
  | _ => none

/-- The event that a request leaves. -/
def Request.event (q : Request) : Event :=
  match q.outcome with
  | some .granted => .accessGranted q.policy q.user
  | some reason => .accessDenied q.policy q.user reason
  | none => .unknownPolicy q.policy q.user

/-- The request that left a record, if a request did. -/
def readRequest? (r : LogRecord) : Option Request :=
  match r.message, r.fields with
  | "Access granted", [(_, .text policy), (_, .text user)] => do
    return ⟨policy, ← Text.unquoteOption? user, some .granted⟩
  | "Access denied", [(_, .text policy), (_, .text user), (_, .text reason)] => do
    return ⟨policy, ← Text.unquoteOption? user, some (← Outcome.ofMessage? reason)⟩
  | "Unknown policy requested", [(_, .text policy), (_, .text user)] => do
    return ⟨policy, ← Text.unquoteOption? user, none⟩
  | _, _ => none

/-- A request is read back from its record. -/
theorem readRequest?_event (q : Request) : readRequest? q.event.record = some q := by
  obtain ⟨policy, user, outcome⟩ := q
  cases outcome with
  | none => simp [Request.event, Event.record, readRequest?, Text.unquoteOption?_quoteOption]
  | some o =>
    cases o <;> simp [Request.event, Event.record, readRequest?, Text.unquoteOption?_quoteOption,
      Outcome.ofMessage?_message]

/-! ## One step -/

theorem auditEvent_eq (name : String) (p : Principal) (decided : Except Refusal Decision) :
    auditEvent name p decided =
      Request.event ⟨name, p.userId, (StepResult.decision decided).outcome⟩ := by
  cases decided with
  | error refusal => rfl
  | ok d =>
    obtain ⟨policy, outcome⟩ := d
    cases outcome <;> rfl

/-- Enforcing says of a request what deciding says of it. -/
theorem outcome_admission {c : CompiledPolicies} {name : String} {p : Principal} :
    (StepResult.admission (admission (c.authorize name p))).outcome =
      (StepResult.decision (c.authorize name p)).outcome := by
  cases hdecided : c.authorize name p with
  | error refusal =>
    rw [CompiledPolicies.error_of_authorize hdecided]
    rfl
  | ok d =>
    obtain ⟨policy, outcome⟩ := d
    cases outcome <;> rfl

/-- With auditing on, a request leaves its event, and nothing else does. -/
theorem events_step (e : Enforcer) (s : Step) :
    (e.step s).2.2 =
      if e.audit then ((s.request? (e.step s).2.1).map Request.event).toList else [] := by
  cases s with
  | decide name p =>
    show (if e.audit then [auditEvent name p _] else []) = _
    rw [auditEvent_eq]
    rfl
  | enforce name p =>
    show (if e.audit then [auditEvent name p _] else []) = _
    rw [auditEvent_eq, ← outcome_admission]
    rfl
  | _ => simp [step, Step.request?]

/-! ## Whole runs -/

/-- What is asked in a run while auditing is on, in order. -/
def requests (e : Enforcer) : List Step → List Request
  | [] => []
  | s :: steps =>
    let (e', answer, _) := e.step s
    (if e.audit then (s.request? answer).toList else []) ++ e'.requests steps

theorem events_run (e : Enforcer) (steps : List Step) :
    (e.run steps).flatMap Prod.snd = (e.requests steps).map Request.event := by
  induction steps generalizing e with
  | nil => rfl
  | cons s steps ih =>
    show (e.step s).2.2 ++ ((e.step s).1.run steps).flatMap Prod.snd =
      List.map _ ((if e.audit then (s.request? (e.step s).2.1).toList else []) ++
        (e.step s).1.requests steps)
    rw [ih, events_step, List.map_append]
    congr 1
    split
    · exact Option.toList_map ..
    · rfl

/-- **The audit trail is unambiguous.** With auditing on, two requests of any
kind, to any policies and for any principals, leave the same records only if
the policy that was asked for, the user and what came of it are the same. From
the records of a run one reads, in order, what was asked while auditing was
on. -/
theorem records_unambiguous :
    (∀ (c c' : CompiledPolicies) (s s' : Step) (q q' : Request),
      s.request? (step ⟨c, true⟩ s).2.1 = some q → s'.request? (step ⟨c', true⟩ s').2.1 = some q' →
      ((step ⟨c, true⟩ s).2.2.map Event.record = (step ⟨c', true⟩ s').2.2.map Event.record ↔
        q = q')) ∧
    (∀ (e : Enforcer) (steps : List Step),
      (((e.run steps).flatMap Prod.snd).map Event.record).filterMap readRequest? =
        e.requests steps) := by
  refine ⟨fun c c' s s' q q' hq hq' => ?_, fun e steps => ?_⟩
  · rw [events_step, events_step, hq, hq']
    refine ⟨fun h => ?_, fun h => by rw [h]⟩
    have hrecord : q.event.record = q'.event.record := List.singleton_inj.1 h
    have hread : some q = some q' := by
      rw [← readRequest?_event q, ← readRequest?_event q', hrecord]
    exact Option.some.inj hread
  · rw [events_run, List.map_map, List.filterMap_map]
    have hread : (readRequest? ∘ Event.record ∘ Request.event) = some :=
      funext readRequest?_event
    rw [hread, List.filterMap_some]

/-- One policy, which turns temporary staff away. -/
def vault : CompiledPolicies :=
  .ofList [.compile "vault" (some { denyRoles := some (.ofList ["temp"]) })]

/-- A user whose name looks like that of nobody. -/
def impostor : Principal := ((Identity.user "None").withRole "temp").toPrincipal

/-- A service that acts for no user. -/
def courier : Principal := (Identity.service.withRole "temp").toPrincipal

/-- The user called None leaves another record than no user, and the trail
tells in which order both were turned away. What was asked while auditing was
off is not in it. -/
theorem records_vault :
    (Step.decide "vault" impostor).request? (step ⟨vault, true⟩ (.decide "vault" impostor)).2.1 =
      some ⟨"vault", some "None", some (.deniedRole "temp")⟩ ∧
    (Step.enforce "vault" courier).request? (step ⟨vault, true⟩ (.enforce "vault" courier)).2.1 =
      some ⟨"vault", none, some (.deniedRole "temp")⟩ ∧
    (step ⟨vault, true⟩ (.decide "vault" impostor)).2.2.map Event.record ≠
      (step ⟨vault, true⟩ (.enforce "vault" courier)).2.2.map Event.record ∧
    (((run ⟨vault, true⟩ [.decide "vault" impostor, .setAudit false, .enforce "archive" courier,
      .setAudit true, .enforce "vault" courier]).flatMap Prod.snd).map Event.record).filterMap
        readRequest? =
      [⟨"vault", some "None", some (.deniedRole "temp")⟩,
        ⟨"vault", none, some (.deniedRole "temp")⟩] := by
  obtain ⟨hunambiguous, hread⟩ := records_unambiguous
  have hnamed : (Step.decide "vault" impostor).request?
      (step ⟨vault, true⟩ (.decide "vault" impostor)).2.1 =
        some ⟨"vault", some "None", some (.deniedRole "temp")⟩ := by decide
  have hunnamed : (Step.enforce "vault" courier).request?
      (step ⟨vault, true⟩ (.enforce "vault" courier)).2.1 =
        some ⟨"vault", none, some (.deniedRole "temp")⟩ := by decide
  refine ⟨hnamed, hunnamed, ?_, ?_⟩
  · rw [Ne, hunambiguous vault vault _ _ _ _ hnamed hunnamed]
    decide
  · rw [hread]
    decide

end Enforcer

end AccessPolicy
