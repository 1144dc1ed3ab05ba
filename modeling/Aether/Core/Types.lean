import Mathlib.Data.Rat.Defs
import Aether.Core.Uuid

/-!
# 共有の型と誤り

`aether-core` の型のうち、ledger・session・policy・budget の関数が読むものを置く。

* `ToolAccessLevel`（`tool.rs`）と `UserRole`（`tenant.rs`）は判別子の順に並ぶ。
  Rust の `derive(PartialOrd, Ord)` はこの順で比べる。
* `MemoryMessage` と `MessageRole`（`memory.rs`）は会話履歴の一行である。
* `AetherError`（`error.rs`）。符号と文言は `Error` で扱う。

`f64` の値（budget の金額と割合）は有理数で表す。丸め誤差は扱わない。
-/

namespace Aether

/-- `ToolAccessLevel`。`Public = 0` から `Critical = 3` まで。 -/
inductive ToolAccessLevel where
  | public
  | «protected»
  | restricted
  | critical
  deriving DecidableEq

/-- 判別子。`derive(PartialOrd)` はこれで比べる。 -/
def ToolAccessLevel.toNat : ToolAccessLevel → Nat
  | .public => 0
  | .«protected» => 1
  | .restricted => 2
  | .critical => 3

instance : LE ToolAccessLevel := ⟨fun a b => a.toNat ≤ b.toNat⟩

instance (a b : ToolAccessLevel) : Decidable (a ≤ b) := inferInstanceAs (Decidable (a.toNat ≤ b.toNat))

@[simp] theorem ToolAccessLevel.le_iff (a b : ToolAccessLevel) : a ≤ b ↔ a.toNat ≤ b.toNat := Iff.rfl

/-- `UserRole`。`Viewer = 0` から `Owner = 3` まで。 -/
inductive UserRole where
  | viewer
  | developer
  | admin
  | owner
  deriving DecidableEq

def UserRole.toNat : UserRole → Nat
  | .viewer => 0
  | .developer => 1
  | .admin => 2
  | .owner => 3

instance : LE UserRole := ⟨fun a b => a.toNat ≤ b.toNat⟩

instance (a b : UserRole) : Decidable (a ≤ b) := inferInstanceAs (Decidable (a.toNat ≤ b.toNat))

/-- `MessageRole`。 -/
inductive MessageRole where
  | system
  | user
  | assistant
  | tool
  deriving DecidableEq

/-- `MemoryMessage`：会話履歴の一行。 -/
structure MemoryMessage where
  role : MessageRole
  content : String
  deriving DecidableEq

/-- `AetherError`。variant と欄は `error.rs` の順である。`&'static str` も `String` で表す。 -/
inductive AetherError where
  /-- `Unauthorized(String)`。 -/
  | unauthorized (message : String)
  /-- `Forbidden(String)`。 -/
  | forbidden (message : String)
  /-- `TenantNotFound { id }`。 -/
  | tenantNotFound (id : String)
  /-- `TenantQuotaExceeded { resource, limit }`。 -/
  | tenantQuotaExceeded (resource : String) (limit : UInt64)
  /-- `NotFound { resource, id }`。 -/
  | notFound (resource : String) (id : String)
  /-- `AlreadyExists { resource, id }`。 -/
  | alreadyExists (resource : String) (id : String)
  /-- `ValidationFailed { field, reason }`。 -/
  | validationFailed (field : String) (reason : String)
  /-- `InvalidSchema(String)`。 -/
  | invalidSchema (message : String)
  /-- `ToolExecutionFailed { tool, reason }`。 -/
  | toolExecutionFailed (tool : String) (reason : String)
  /-- `ToolTimeout { tool, timeout_ms }`。 -/
  | toolTimeout (tool : String) (timeoutMs : UInt64)
  /-- `ToolAccessDenied { tool, required_level }`。 -/
  | toolAccessDenied (tool : String) (requiredLevel : ToolAccessLevel)
  /-- `SandboxError(String)`。 -/
  | sandboxError (message : String)
  /-- `AgentSpawnFailed { reason }`。 -/
  | agentSpawnFailed (reason : String)
  /-- `MaxDepthExceeded { max }`。 -/
  | maxDepthExceeded (max : UInt8)
  /-- `BudgetExceeded { tenant, spent_usd, limit_usd }`。 -/
  | budgetExceeded (tenant : String) (spentUsd limitUsd : ℚ)
  /-- `LedgerIntegrityViolation { block_id, reason }`。 -/
  | ledgerIntegrityViolation (blockId : String) (reason : String)
  /-- `StorageError(String)`。 -/
  | storageError (message : String)
  /-- `SerializationError(String)`。 -/
  | serializationError (message : String)
  /-- `Internal(String)`。 -/
  | internal (message : String)
  /-- `NotImplemented(String)`。 -/
  | notImplemented (message : String)
  deriving DecidableEq

/-- `AetherError::not_found(resource, id)`。`id` は `to_string` される。 -/
def AetherError.notFoundOf {k : IdKind} (resource : String) (id : TypedId k) : AetherError :=
  .notFound resource id.toString

/-- `aether_core::error::Result<T>`。 -/
abbrev Result (α : Type) := Except AetherError α

instance instDecidableEqExcept {ε α : Type} [DecidableEq ε] [DecidableEq α] :
    DecidableEq (Except ε α)
  | .ok a, .ok b => decidable_of_iff (a = b) ⟨congrArg _, Except.ok.inj⟩
  | .error a, .error b => decidable_of_iff (a = b) ⟨congrArg _, Except.error.inj⟩
  | .ok _, .error _ => isFalse nofun
  | .error _, .ok _ => isFalse nofun

end Aether
