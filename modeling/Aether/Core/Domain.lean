import Mathlib.Algebra.Order.Field.Rat
import Aether.Core.Types

/-!
# tenant、memory の範囲、tool の定義

`aether-core` の領域の型のうち、値を作る関数と検査を持つものである。

* `tenant.rs`：`Tenant::new` は tier ごとに既定の上限 `ResourceQuota` を付け、tenant を有効にする。
  Internal は Enterprise と同じ上限を持つ。
* `memory.rs`：Mem0 の範囲 `MemoryScope`。`user_id` はいつも `tenant:{tenant_id}` で、
  tenant の違う範囲が同じ `user_id` を持つことは無い（`MemoryScope.userId_eq_iff`）。
  agent と session の範囲は tenant の範囲を順に狭める。
* `tool.rs`：`ToolDefinition::validate` は名前が空でなく空白を含まず、`timeout_ms` が 0 でない
  ときに限って通す（`ToolDefinition.validate_eq_ok_iff`）。
-/

namespace Aether

/-! ## tenant -/

/-- `TenantTier`。`#[default]` は `Free` である。 -/
inductive TenantTier where
  | free
  | pro
  | enterprise
  | internal
  deriving DecidableEq

/-- `ResourceQuota`。`max_monthly_budget_usd` は有理数で表す。 -/
structure ResourceQuota where
  maxConcurrentAgents : UInt32
  maxRequestsPerMinute : UInt32
  maxMonthlyBudgetUsd : ℚ
  maxToolExecutionsPerDay : UInt64
  maxWorkflows : UInt32
  maxSessionHistory : Nat
  deriving DecidableEq

/-- `ResourceQuota::free()`。 -/
def ResourceQuota.free : ResourceQuota :=
  { maxConcurrentAgents := 3, maxRequestsPerMinute := 60, maxMonthlyBudgetUsd := 10,
    maxToolExecutionsPerDay := 500, maxWorkflows := 5, maxSessionHistory := 50 }

/-- `ResourceQuota::pro()`。 -/
def ResourceQuota.pro : ResourceQuota :=
  { maxConcurrentAgents := 50, maxRequestsPerMinute := 600, maxMonthlyBudgetUsd := 500,
    maxToolExecutionsPerDay := 50000, maxWorkflows := 100, maxSessionHistory := 500 }

/-- `ResourceQuota::enterprise()`。 -/
def ResourceQuota.enterprise : ResourceQuota :=
  { maxConcurrentAgents := 500, maxRequestsPerMinute := 6000, maxMonthlyBudgetUsd := 10000,
    maxToolExecutionsPerDay := 1000000, maxWorkflows := 10000, maxSessionHistory := 5000 }

/-- `Tenant`。 -/
structure Tenant where
  id : TenantId
  name : String
  tier : TenantTier
  quota : ResourceQuota
  active : Bool

/-- `Tenant::new`：tier の既定の上限を付け、有効にする。 -/
def Tenant.new (id : TenantId) (name : String) (tier : TenantTier) : Tenant :=
  let quota := match tier with
    | .free => ResourceQuota.free
    | .pro => ResourceQuota.pro
    | .enterprise | .internal => ResourceQuota.enterprise
  { id, name, tier, quota, active := true }

/-! ## memory の範囲 -/

/-- `MemoryScope`：Mem0 の `user_id`、`agent_id`、`run_id`。 -/
structure MemoryScope where
  userId : String
  agentId : Option String
  runId : Option String
  deriving DecidableEq

/-- `MemoryScope::for_tenant`。 -/
def MemoryScope.forTenant (tenantId : TenantId) : MemoryScope :=
  { userId := "tenant:" ++ tenantId.toString, agentId := none, runId := none }

/-- `MemoryScope::for_agent`。 -/
def MemoryScope.forAgent (tenantId : TenantId) (agentId : AgentId) : MemoryScope :=
  { userId := "tenant:" ++ tenantId.toString, agentId := some agentId.toString, runId := none }

/-- `MemoryScope::for_session`。 -/
def MemoryScope.forSession (tenantId : TenantId) (agentId : AgentId) (sessionId : SessionId) :
    MemoryScope :=
  { userId := "tenant:" ++ tenantId.toString, agentId := some agentId.toString,
    runId := some sessionId.toString }

/-- `tenant:` の後ろの UUID は元の tenant に戻る。 -/
theorem tenant_userId_inj {t t' : TenantId} :
    "tenant:" ++ t.toString = "tenant:" ++ t'.toString ↔ t = t' := by
  rw [← TypedId.toString_inj]
  constructor
  · intro h
    simpa [String.ext_iff, String.data_append] using congrArg String.data h
  · intro h; rw [h]

/-- 三つの作り方のどれで作った範囲も、`user_id` は `tenant:{tenant_id}` である。 -/
inductive MemoryScope.OfTenant (t : TenantId) : MemoryScope → Prop
  | forTenant : OfTenant t (MemoryScope.forTenant t)
  | forAgent (a : AgentId) : OfTenant t (MemoryScope.forAgent t a)
  | forSession (a : AgentId) (s : SessionId) : OfTenant t (MemoryScope.forSession t a s)

theorem MemoryScope.OfTenant.userId {t : TenantId} {σ : MemoryScope} (h : σ.OfTenant t) :
    σ.userId = "tenant:" ++ t.toString := by
  cases h <;> rfl

/-- **tenant の分離。** `for_tenant`、`for_agent`、`for_session` のどれで作った二つの範囲も、
`user_id` が等しいのは tenant が等しいときに限る。 -/
theorem MemoryScope.userId_eq_iff {t t' : TenantId} {σ σ' : MemoryScope} (h : σ.OfTenant t)
    (h' : σ'.OfTenant t') : σ.userId = σ'.userId ↔ t = t' := by
  rw [h.userId, h'.userId, tenant_userId_inj]

/-- 例：tenant の違う session の範囲と tenant の範囲は、`user_id` を分け合わない。 -/
theorem MemoryScope.userId_forSession_ne_forTenant :
    (⟨Uuid.nil⟩ : TenantId) ≠ ⟨Uuid.max⟩ ∧
      (MemoryScope.forSession ⟨Uuid.nil⟩ ⟨Uuid.nil⟩ ⟨Uuid.nil⟩).userId ≠
        (MemoryScope.forTenant ⟨Uuid.max⟩).userId :=
  ⟨by decide, fun h => absurd ((MemoryScope.userId_eq_iff (.forSession _ _) .forTenant).mp h)
    (by decide)⟩

/-! ## tool の定義 -/

/-- `ExecutionScope`。 -/
inductive ExecutionScope where
  | inline
  | sandbox
  | external
  deriving DecidableEq

/-- `RetryPolicy`。 -/
structure RetryPolicy where
  maxAttempts : UInt8
  backoffMs : List UInt64
  deriving DecidableEq

/-- `RetryPolicy::default()`。 -/
def RetryPolicy.default : RetryPolicy := ⟨3, [100, 500, 2000]⟩

/-- `ToolDefinition`。入力と出力の JSON Schema は `validate` が読まないので置かない。 -/
structure ToolDefinition where
  id : ToolId
  name : String
  version : String
  description : String
  access : ToolAccessLevel
  scope : ExecutionScope
  idempotent : Bool
  reversible : Bool
  timeoutMs : UInt64
  retryPolicy : RetryPolicy

/-- `ToolDefinition::validate`。 -/
def ToolDefinition.validate (d : ToolDefinition) : Except String Unit :=
  if d.name = "" then .error "tool name cannot be empty"
  else if ' ' ∈ d.name.data then .error ("tool name must be snake_case, got: " ++ d.name)
  else if d.timeoutMs = 0 then .error "timeout_ms must be > 0"
  else .ok ()

/-- `validate` が通すのは、名前が空でなく空白を含まず、`timeout_ms` が 0 でないときに限る。
落ちるときの文言は最初に破れた条件を名指し、空白のときは名前も書く。 -/
theorem ToolDefinition.validate_eq_ok_iff (d : ToolDefinition) :
    (d.validate = .ok () ↔ d.name ≠ "" ∧ ' ' ∉ d.name.data ∧ d.timeoutMs ≠ 0) ∧
      (d.name ≠ "" → ' ' ∈ d.name.data →
        d.validate = .error ("tool name must be snake_case, got: " ++ d.name)) := by
  unfold ToolDefinition.validate
  constructor
  · split_ifs <;> simp_all
  · intro h₁ h₂
    simp [h₁, h₂]

end Aether
