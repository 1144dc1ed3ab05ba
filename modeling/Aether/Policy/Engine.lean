import Mathlib.Algebra.Order.Field.Rat
import Aether.Policy.Rules
import Aether.Core.Error

/-!
# policy の評価

`aether-policy/src/engine.rs` の `PolicyEngine` である。`decide` は規則を上から順に評価し、
最初に条件の成り立った規則の効果を返す。どの規則も成り立たなければ拒否する。
`evaluate` は拒否を誤りに変える。

組み込みの規則について、道具を使う文脈の決定を一つの式で書く（`decide_default_tool`）。
そこから次が分かる。

* 許可されるのは、予算が残っていて、道具の権限が `Protected` 以下のときに限る
  （`default_allowed_tool`）。`Restricted` の道具は承認の印があっても許可されない。
* `Protected` の道具は tier に関わらず許可される。4 番目の規則が成り立たない tier 3 と 4 の agent も、
  5 番目の規則 `public-tool-allow-all` に拾われる（`default_allows_protected_tool_for_worker`）。

`evaluate` の誤りの符号は `ToolAccessDenied` か `Forbidden` に限る（`evaluate_eq_error`）。
任意の規則の並び（`with_rules`）については、先頭や末尾に規則を足したときに決定がどう変わるかを
`withRules_edit` にまとめる。
-/

namespace Aether

/-- `PolicyEngine`。 -/
structure PolicyEngine where
  rules : List PolicyRule

namespace PolicyEngine

/-- `impl Default for PolicyEngine`。 -/
def default : PolicyEngine := ⟨defaultRules⟩

/-- `extract_tool_access`。 -/
def extractToolAccess (ctx : EvaluationContext) : Option ToolAccessLevel :=
  match ctx.resource with
  | .tool _ accessLevel _ _ => some accessLevel
  | _ => none

/-- 規則の条件が文脈で成り立つか。`evaluate_rule` の `matched`。 -/
def matched (ctx : EvaluationContext) : RuleCondition → Bool
  | .budgetAbove threshold => Decidable.decide (ctx.subject.budgetRemainingFraction ≤ threshold)
  | .toolAccessLevel required =>
    ((extractToolAccess ctx).map fun a => Decidable.decide (required ≤ a)).getD false
  | .agentTierMinimum minimum => Decidable.decide (ctx.subject.agentTier.val ≤ minimum)
  | .restrictedApproved => ctx.subject.restrictedApproved
  | .userRoleMinimum minimum =>
    (ctx.subject.userRole.map fun r => Decidable.decide (minimum ≤ r)).getD false
  | .alwaysAllow => true
  | .alwaysDeny => true

/-- `evaluate_rule`。 -/
def evaluateRule (rule : PolicyRule) (ctx : EvaluationContext) : Option PolicyDecision :=
  if matched ctx rule.condition then
    some (match rule.effect with
      | .allow => PolicyDecision.allow rule.id
      | .deny reason => PolicyDecision.deny rule.id reason)
  else none

/-- `decide`：最初に成り立った規則の決定。無ければ `default-deny`。 -/
def decide (e : PolicyEngine) (ctx : EvaluationContext) : PolicyDecision :=
  (e.rules.findSome? fun rule => evaluateRule rule ctx).getD
    (PolicyDecision.deny "default-deny" "no matching rule — default deny")

/-- `denial_error`。 -/
def denialError (ctx : EvaluationContext) (decision : PolicyDecision) : AetherError :=
  match ctx.resource with
  | .tool toolId accessLevel _ _ => .toolAccessDenied toolId.toString accessLevel
  | _ => .forbidden decision.reason

/-- `evaluate`。 -/
def evaluate (e : PolicyEngine) (ctx : EvaluationContext) : Result PolicyDecision :=
  let decision := e.decide ctx
  if !decision.isAllowed then .error (denialError ctx decision) else .ok decision

/-! ## 組み込みの規則 -/

/-- **組み込みの規則による道具の決定。** -/
theorem decide_default_tool (ctx : EvaluationContext) (toolId : ToolId) (a : ToolAccessLevel)
    (agentId : AgentId) (taskId : TaskId) (h : ctx.resource = .tool toolId a agentId taskId) :
    default.decide ctx =
      if ctx.subject.budgetRemainingFraction ≤ 0 then
        PolicyDecision.deny "budget-exhausted-deny" "budget exhausted"
      else if a = .critical then
        PolicyDecision.deny "critical-tool-deny-agent"
          "CRITICAL tools require human-in-the-loop approval"
      else if a = .restricted then
        PolicyDecision.deny "restricted-tool-requires-approval"
          "RESTRICTED tool requires policy approval"
      else if ctx.subject.agentTier.val ≤ 2 then PolicyDecision.allow "protected-tool-tier-2-minimum"
      else PolicyDecision.allow "public-tool-allow-all" := by
  simp only [decide, default, defaultRules, evaluateRule, matched, extractToolAccess, h,
    List.findSome?_cons]
  cases a <;> by_cases hb : ctx.subject.budgetRemainingFraction ≤ 0 <;>
    by_cases ht : ctx.subject.agentTier.val ≤ 2 <;> simp [hb, ht, ToolAccessLevel.toNat]

/-- 組み込みの規則が道具を許可するのは、予算の比率が `<= 0.0` を満たさず、権限が `Critical` でも
`Restricted` でもないときに限る。比率の条件はコードと同じ比較の否定で書く。 -/
theorem default_allowed_tool (ctx : EvaluationContext) (toolId : ToolId) (a : ToolAccessLevel)
    (agentId : AgentId) (taskId : TaskId) (h : ctx.resource = .tool toolId a agentId taskId) :
    (default.decide ctx).isAllowed = true ↔
      ¬ ctx.subject.budgetRemainingFraction ≤ 0 ∧ a ≠ .critical ∧ a ≠ .restricted := by
  rw [decide_default_tool ctx toolId a agentId taskId h]
  split_ifs <;> simp_all [PolicyDecision.isAllowed, PolicyDecision.allow, PolicyDecision.deny]

/-- 例：承認の印のある `Restricted` の道具も、`BOSS` の agent に許可されない。 -/
theorem default_allowed_tool_approved_restricted :
    let ctx := EvaluationContext.toolExecute ⟨Uuid.nil⟩ ⟨Uuid.nil⟩ ⟨Uuid.nil⟩ AgentTier.BOSS
      ⟨Uuid.nil⟩ .restricted 1 true
    ctx.resource = .tool ⟨Uuid.nil⟩ .restricted ⟨Uuid.nil⟩ ⟨Uuid.nil⟩ ∧
      ((default.decide ctx).isAllowed = true ↔
        ¬ ctx.subject.budgetRemainingFraction ≤ 0 ∧ ToolAccessLevel.restricted ≠ .critical ∧
          ToolAccessLevel.restricted ≠ .restricted) :=
  ⟨rfl, default_allowed_tool _ _ _ _ _ rfl⟩

/-- `evaluate` が `Ok` を返すのは、`decide` が許可するときに限る。 -/
theorem evaluate_eq_ok_iff (e : PolicyEngine) (ctx : EvaluationContext) (d : PolicyDecision) :
    e.evaluate ctx = .ok d ↔ e.decide ctx = d ∧ d.isAllowed = true := by
  unfold evaluate
  by_cases h : (e.decide ctx).isAllowed = true
  · simp only [h, Bool.not_true, Bool.false_eq_true, if_false, Except.ok.injEq]
    exact ⟨fun hd => ⟨hd, hd ▸ h⟩, And.left⟩
  · rw [if_pos (by simpa using h)]
    refine ⟨fun hd => Except.noConfusion hd, ?_⟩
    rintro ⟨rfl, ha⟩
    exact absurd ha h

/--
**`Protected` の道具は tier 3 の agent にも許可される。**

`WORKER`（tier 3）の agent が、予算を残し、承認の印なしに `Protected` の道具を使う。
4 番目の規則 `protected-tool-tier-2-minimum` は成り立たないが、5 番目の
`public-tool-allow-all` がいつも成り立つので、`decide` は許可し、`evaluate` は `Ok` を返す。
規則の説明は `Protected` の道具に tier 2 以下、つまり `meets(SPECIALIST)` を要求しているが、
`WORKER` はそれを満たさない。
-/
theorem default_allows_protected_tool_for_worker :
    let ctx : EvaluationContext := EvaluationContext.toolExecute ⟨Uuid.nil⟩ ⟨Uuid.nil⟩ ⟨Uuid.nil⟩ AgentTier.WORKER
      ⟨Uuid.nil⟩ .«protected» 1 false
    default.decide ctx = PolicyDecision.allow "public-tool-allow-all" ∧
      default.evaluate ctx = .ok (PolicyDecision.allow "public-tool-allow-all") ∧
      ctx.subject.agentTier.meets AgentTier.SPECIALIST = false := by
  dsimp only
  decide

/-! ## 拒否の誤り -/

/-- `evaluate` の誤りは `denial_error` の値で、符号は `ToolAccessDenied` か `Forbidden` に限る。
道具の文脈では、誤りが書くのは道具の ID とその道具自身の権限だけで、拒否の理由（たとえば予算の
枯渇）は残らない。 -/
theorem evaluate_eq_error (e : PolicyEngine) (ctx : EvaluationContext) (err : AetherError)
    (h : e.evaluate ctx = .error err) :
    (e.decide ctx).isAllowed = false ∧ err = denialError ctx (e.decide ctx) ∧
      (err.code = .toolAccessDenied ∨ err.code = .forbidden) := by
  unfold evaluate at h
  dsimp only at h
  split_ifs at h with hd
  cases h
  refine ⟨by simpa using hd, rfl, ?_⟩
  unfold denialError
  split
  · exact .inl rfl
  · exact .inr rfl

/-- 例：予算の尽きた `BOSS` の agent が `Public` の道具を使うと、`budget-exhausted-deny` が拒否し、
誤りの文言は「`Public` を要求する」となる。 -/
example :
    (default.evaluate (EvaluationContext.toolExecute ⟨Uuid.nil⟩ ⟨Uuid.nil⟩ ⟨Uuid.nil⟩ AgentTier.BOSS
      ⟨Uuid.nil⟩ .public 0 false)) =
      .error (.toolAccessDenied (⟨Uuid.nil⟩ : ToolId).toString .public) := by
  decide

/-! ## 規則の並びを変えるとき

`PolicyEngine::with_rules` は任意の規則の並びを使う。最初に成り立つ規則が決めるので、
拒否の規則を先頭に足しても許可は増えず、許可の規則を先頭に足しても許可は減らない。
末尾に規則を足しても、それまでの規則のどれかが成り立つ文脈の決定は変わらない。
-/

/-- `PolicyEngine::with_rules`。 -/
def withRules (rules : List PolicyRule) : PolicyEngine := ⟨rules⟩

/-- 規則が成り立ったときの決定：`evaluate_rule` が `Some` に入れる値。 -/
def ruleDecision (rule : PolicyRule) : PolicyDecision :=
  match rule.effect with
  | .allow => PolicyDecision.allow rule.id
  | .deny reason => PolicyDecision.deny rule.id reason

theorem isAllowed_ruleDecision (rule : PolicyRule) :
    (ruleDecision rule).isAllowed = true ↔ rule.effect = .allow := by
  unfold ruleDecision
  split <;> simp_all [PolicyDecision.isAllowed, PolicyDecision.allow, PolicyDecision.deny]

/-- 先頭の規則が成り立てばその決定、成り立たなければ残りの規則の決定である。 -/
theorem decide_cons (rule : PolicyRule) (rules : List PolicyRule) (ctx : EvaluationContext) :
    (withRules (rule :: rules)).decide ctx =
      if matched ctx rule.condition then ruleDecision rule else (withRules rules).decide ctx := by
  simp only [withRules, decide, List.findSome?_cons, evaluateRule]
  split_ifs <;> rfl

/-- 成り立つ規則が `rules` にあれば、後ろに足した規則は決定に関わらない。 -/
theorem decide_append_of_matched (extra : List PolicyRule) (ctx : EvaluationContext) :
    ∀ rules : List PolicyRule, (∃ r ∈ rules, matched ctx r.condition = true) →
      (withRules (rules ++ extra)).decide ctx = (withRules rules).decide ctx
  | [], ⟨_, h, _⟩ => absurd h (List.not_mem_nil _)
  | rule :: rules, ⟨r, hr, hm⟩ => by
    rw [List.cons_append, decide_cons, decide_cons]
    split_ifs with h
    · rfl
    · have hr' : r ∈ rules := (List.mem_cons.mp hr).resolve_left (by rintro rfl; simp_all)
      exact decide_append_of_matched extra ctx rules ⟨r, hr', hm⟩

/-- **規則の並びの編集。** どの規則の並び `rules` と文脈 `ctx` についても、

* 許可でない規則を先頭に足して許可されるなら、足す前も許可されていた。
* 許可の規則を先頭に足しても、許可されていたものは許可されたままである。
* `rules` のどれかが成り立つ文脈では、末尾に規則を足しても決定は変わらない。 -/
theorem withRules_edit (rules extra : List PolicyRule) (rule : PolicyRule) (ctx : EvaluationContext) :
    (rule.effect ≠ .allow → ((withRules (rule :: rules)).decide ctx).isAllowed = true →
        ((withRules rules).decide ctx).isAllowed = true) ∧
      (rule.effect = .allow → ((withRules rules).decide ctx).isAllowed = true →
        ((withRules (rule :: rules)).decide ctx).isAllowed = true) ∧
      ((∃ r ∈ rules, matched ctx r.condition = true) →
        (withRules (rules ++ extra)).decide ctx = (withRules rules).decide ctx) := by
  refine ⟨fun hne h => ?_, fun ha h => ?_, decide_append_of_matched extra ctx rules⟩
  · rw [decide_cons] at h
    split_ifs at h
    · exact absurd ((isAllowed_ruleDecision rule).mp h) hne
    · exact h
  · rw [decide_cons]
    split_ifs
    · exact (isAllowed_ruleDecision rule).mpr ha
    · exact h

end PolicyEngine

end Aether
