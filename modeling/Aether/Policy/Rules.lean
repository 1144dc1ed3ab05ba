import Aether.Core.Types

/-!
# policy の規則と評価の文脈

`aether-policy/src/rules.rs` と `evaluation.rs` の型、そして組み込みの規則 `default_rules` である。

規則は上から順に見られ、最初に条件の成り立つ規則の効果が決定になる（`Engine`）。
組み込みの規則は五つ。

1. `budget-exhausted-deny`：残りの予算の割合が 0 以下なら拒否。
2. `critical-tool-deny-agent`：道具の権限が `Critical` 以上なら拒否。
3. `restricted-tool-requires-approval`：道具の権限が `Restricted` 以上なら拒否。
4. `protected-tool-tier-2-minimum`：agent の tier が 2 以下なら許可。
5. `public-tool-allow-all`：いつも許可。

規則の説明（`description`）は、4 は `Protected` の道具に tier 2 以下を要求すること、
3 は事前の承認の印を要求することを述べる。条件の方はそうなっていない。
-/

namespace Aether

/-- `AgentTier(pub u8)`。数が小さいほど権限が強い。 -/
structure AgentTier where
  val : UInt8
  deriving DecidableEq

namespace AgentTier

def BOSS : AgentTier := ⟨1⟩
def SPECIALIST : AgentTier := ⟨2⟩
def WORKER : AgentTier := ⟨3⟩
def SENSOR : AgentTier := ⟨4⟩

/-- `meets(required)`：`self.0 <= required.0`。 -/
def meets (t required : AgentTier) : Bool := t.val ≤ required.val

end AgentTier

/-- `PolicyAction`。 -/
inductive PolicyAction where
  | toolExecute
  | agentSpawn
  | memoryWrite
  | memoryDelete
  | workflowRun
  | workflowCreate
  | workflowDelete
  | cronCreate
  | humanReviewApprove
  | systemConfig
  deriving DecidableEq

/-- `PolicySubject`。割合 `budget_remaining_fraction`（`f64`）は有理数で持ち、NaN は扱わない。
コードの NaN（上限が無限のときの比率）は `<= 0.0` を満たさず、予算の規則を素通りする。 -/
structure PolicySubject where
  agentTier : AgentTier
  userRole : Option UserRole
  budgetRemainingFraction : ℚ
  restrictedApproved : Bool

/-- `RuleCondition`。 -/
inductive RuleCondition where
  | agentTierMinimum (minimum : UInt8)
  | toolAccessLevel (required : ToolAccessLevel)
  | budgetAbove (threshold : ℚ)
  | userRoleMinimum (minimum : UserRole)
  | restrictedApproved
  | alwaysAllow
  | alwaysDeny

/-- `PolicyEffect`。 -/
inductive PolicyEffect where
  | allow
  | deny (reason : String)

/-- `PolicyRule`。 -/
structure PolicyRule where
  id : String
  description : String
  condition : RuleCondition
  effect : PolicyEffect

/-- `default_rules()`。 -/
def defaultRules : List PolicyRule :=
  [ { id := "budget-exhausted-deny"
      description := "Deny all tool calls when budget is fully exhausted"
      condition := .budgetAbove 0
      effect := .deny "budget exhausted" },
    { id := "critical-tool-deny-agent"
      description := "CRITICAL tools require human approval — agents cannot self-approve"
      condition := .toolAccessLevel .critical
      effect := .deny "CRITICAL tools require human-in-the-loop approval" },
    { id := "restricted-tool-requires-approval"
      description := "RESTRICTED tools require explicit pre-approval flag"
      condition := .toolAccessLevel .restricted
      effect := .deny "RESTRICTED tool requires policy approval" },
    { id := "protected-tool-tier-2-minimum"
      description := "PROTECTED tools require Tier ≤ 2 agents"
      condition := .agentTierMinimum 2
      effect := .allow },
    { id := "public-tool-allow-all"
      description := "PUBLIC tools are available to all agents"
      condition := .alwaysAllow
      effect := .allow } ]

/-- `PolicyResource`。 -/
inductive PolicyResource where
  | tool (toolId : ToolId) (accessLevel : ToolAccessLevel) (agentId : AgentId) (taskId : TaskId)
  | agent (agentId : AgentId) (tier : AgentTier)
  | workflow (workflowId : WorkflowId)
  | memory (scope : String)

/-- `EvaluationContext`。 -/
structure EvaluationContext where
  tenantId : TenantId
  subject : PolicySubject
  action : PolicyAction
  resource : PolicyResource

/-- `EvaluationContext::tool_execute`：`user_role` は `None`。 -/
def EvaluationContext.toolExecute (tenantId : TenantId) (agentId : AgentId) (taskId : TaskId)
    (agentTier : AgentTier) (toolId : ToolId) (toolAccess : ToolAccessLevel)
    (budgetRemainingFraction : ℚ) (restrictedApproved : Bool) : EvaluationContext :=
  { tenantId
    subject := { agentTier, userRole := none, budgetRemainingFraction, restrictedApproved }
    action := .toolExecute
    resource := .tool toolId toolAccess agentId taskId }

/-- `DecisionEffect`。 -/
inductive DecisionEffect where
  | allow
  | deny
  deriving DecidableEq

/-- `PolicyDecision`。 -/
structure PolicyDecision where
  effect : DecisionEffect
  matchedRule : String
  reason : String
  deriving DecidableEq

/-- `PolicyDecision::allow(rule_id)`。 -/
def PolicyDecision.allow (ruleId : String) : PolicyDecision := ⟨.allow, ruleId, "allowed by policy"⟩

/-- `PolicyDecision::deny(rule_id, reason)`。 -/
def PolicyDecision.deny (ruleId reason : String) : PolicyDecision := ⟨.deny, ruleId, reason⟩

/-- `is_allowed()`。 -/
def PolicyDecision.isAllowed (d : PolicyDecision) : Bool := d.effect = .allow

end Aether
