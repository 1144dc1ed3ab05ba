import Mathlib.Data.Rat.Floor
import Aether.Core.Types

/-!
# 誤りの符号、文脈、文言

`aether-core/src/error.rs` である。`AetherError` は三つの形で外に出る。

* `code()`：API の利用者のための安定した符号 `ErrorCode`。
* `context()`：一部の variant に付く、構造のある文脈（`serde_json::json!` の object）。
* `Display`：`thiserror` の `#[error("...")]` が作る文言。

service の境界を越える誤りは `ErrorEnvelope::from_error` でこの三つを一つにまとめる。

## 主な結果

`fromError_spec`：封筒の符号は `ErrorCode` の 22 個のうち `Conflict` と `BudgetLimitReached`
を除く 20 個で（この二つに写る variant は無い）、その 20 個はどれも現れる。文脈が付くのは
符号が `BudgetExceeded`、`ToolTimeout`、`MaxDepthExceeded` のときに限る。文言が同じ封筒は
符号も同じである。

最後の性質は、各 variant の文言が固定の頭（最初の `{}` より前の部分）で始まり、符号の違う
二つの頭はどちらも他方の始まりになっていないことから出る（`messageHead_prefix_unique`）。

`f64` の `{:.4}` は、正確な値を偶数への丸めで四桁にしたものとする（`formatFixed`）。
-/

namespace Aether

/-! ## `f64` の書式 -/

/-- 偶数への丸め。`{:.N}` は正確な値をこれで整数にする。 -/
def roundHalfEven (x : ℚ) : ℤ :=
  let f := x.floor
  if x - f < 1 / 2 then f
  else if 1 / 2 < x - f then f + 1
  else if f % 2 = 0 then f else f + 1

/-- 偶数への丸めは、切り捨てかその一つ上である。 -/
theorem roundHalfEven_bounds (x : ℚ) :
    x.floor ≤ roundHalfEven x ∧ roundHalfEven x ≤ x.floor + 1 := by
  unfold roundHalfEven
  dsimp only
  split_ifs <;> omega

/-- `format!("{:.p}", x)`。絶対値を `10^p` 倍して偶数への丸めで整数 `n` にし、負なら `-` を付けて
`n / 10^p` を書く。`p > 0` なら `.` と、`n % 10^p` を `0` で `p` 桁に埋めたものを続ける。 -/
def formatFixed (p : Nat) (x : ℚ) : String :=
  let n := (roundHalfEven (|x| * 10 ^ p)).toNat
  let frac := toString (n % 10 ^ p)
  (if x < 0 then "-" else "") ++ toString (n / 10 ^ p) ++
    (if p = 0 then "" else "." ++ ⟨List.replicate (p - frac.length) '0'⟩ ++ frac)

/-! ## 符号と文脈 -/

/-- `ErrorCode`。 -/
inductive ErrorCode where
  | unauthorized
  | forbidden
  | tenantNotFound
  | tenantQuotaExceeded
  | notFound
  | alreadyExists
  | conflict
  | validationFailed
  | invalidSchema
  | toolExecutionFailed
  | toolTimeout
  | toolAccessDenied
  | sandboxError
  | agentSpawnFailed
  | maxDepthExceeded
  | budgetExceeded
  | budgetLimitReached
  | storageError
  | ledgerIntegrityViolation
  | serializationError
  | internal
  | notImplemented
  deriving DecidableEq

/-- すべての符号を宣言の順に並べたもの。 -/
def ErrorCode.all : List ErrorCode :=
  [.unauthorized, .forbidden, .tenantNotFound, .tenantQuotaExceeded, .notFound, .alreadyExists,
    .conflict, .validationFailed, .invalidSchema, .toolExecutionFailed, .toolTimeout,
    .toolAccessDenied, .sandboxError, .agentSpawnFailed, .maxDepthExceeded, .budgetExceeded,
    .budgetLimitReached, .storageError, .ledgerIntegrityViolation, .serializationError, .internal,
    .notImplemented]

theorem ErrorCode.mem_all (c : ErrorCode) : c ∈ ErrorCode.all := by
  cases c <;> decide

/-- `AetherError::code`。 -/
def AetherError.code : AetherError → ErrorCode
  | .unauthorized _ => .unauthorized
  | .forbidden _ => .forbidden
  | .tenantNotFound _ => .tenantNotFound
  | .tenantQuotaExceeded _ _ => .tenantQuotaExceeded
  | .notFound _ _ => .notFound
  | .alreadyExists _ _ => .alreadyExists
  | .validationFailed _ _ => .validationFailed
  | .invalidSchema _ => .invalidSchema
  | .toolExecutionFailed _ _ => .toolExecutionFailed
  | .toolTimeout _ _ => .toolTimeout
  | .toolAccessDenied _ _ => .toolAccessDenied
  | .sandboxError _ => .sandboxError
  | .agentSpawnFailed _ => .agentSpawnFailed
  | .maxDepthExceeded _ => .maxDepthExceeded
  | .budgetExceeded _ _ _ => .budgetExceeded
  | .ledgerIntegrityViolation _ _ => .ledgerIntegrityViolation
  | .storageError _ => .storageError
  | .serializationError _ => .serializationError
  | .internal _ => .internal
  | .notImplemented _ => .notImplemented

/-- `AetherError::context`。`json!` の object を、鍵と数の組の列で表す。 -/
def AetherError.context : AetherError → Option (List (String × ℚ))
  | .budgetExceeded _ spentUsd limitUsd => some [("spent_usd", spentUsd), ("limit_usd", limitUsd)]
  | .toolTimeout _ timeoutMs => some [("timeout_ms", timeoutMs.toNat)]
  | .maxDepthExceeded max => some [("max_depth", max.toNat)]
  | _ => none

/-- `code()` が返す符号は `Conflict` と `BudgetLimitReached` 以外のすべてである。 -/
theorem AetherError.exists_code_eq_iff (c : ErrorCode) :
    (∃ e : AetherError, e.code = c) ↔ c ≠ .conflict ∧ c ≠ .budgetLimitReached := by
  constructor
  · rintro ⟨e, rfl⟩
    cases e <;> exact ⟨nofun, nofun⟩
  · rintro ⟨h₁, h₂⟩
    cases c
    exacts [⟨.unauthorized "", rfl⟩, ⟨.forbidden "", rfl⟩, ⟨.tenantNotFound "", rfl⟩,
      ⟨.tenantQuotaExceeded "" 0, rfl⟩, ⟨.notFound "" "", rfl⟩, ⟨.alreadyExists "" "", rfl⟩,
      (h₁ rfl).elim, ⟨.validationFailed "" "", rfl⟩, ⟨.invalidSchema "", rfl⟩,
      ⟨.toolExecutionFailed "" "", rfl⟩, ⟨.toolTimeout "" 0, rfl⟩, ⟨.toolAccessDenied "" .public, rfl⟩,
      ⟨.sandboxError "", rfl⟩, ⟨.agentSpawnFailed "", rfl⟩, ⟨.maxDepthExceeded 0, rfl⟩,
      ⟨.budgetExceeded "" 0 0, rfl⟩, (h₂ rfl).elim, ⟨.storageError "", rfl⟩,
      ⟨.ledgerIntegrityViolation "" "", rfl⟩, ⟨.serializationError "", rfl⟩, ⟨.internal "", rfl⟩,
      ⟨.notImplemented "", rfl⟩]

/-- 文脈が付くのは、予算の超過、tool の時間切れ、subagent の深さの超過の三つである。 -/
theorem AetherError.context_isSome_iff (e : AetherError) :
    e.context.isSome ↔ e.code ∈ [.budgetExceeded, .toolTimeout, .maxDepthExceeded] := by
  cases e <;> simp [AetherError.context, AetherError.code]

/-! ## 文言 -/

/-- `ToolAccessLevel` の `derive(Debug)`：variant の名前。 -/
def ToolAccessLevel.debugString : ToolAccessLevel → String
  | .public => "Public"
  | .«protected» => "Protected"
  | .restricted => "Restricted"
  | .critical => "Critical"

/-- `impl Display for AetherError`（`#[error("...")]`）。 -/
def AetherError.toString : AetherError → String
  | .unauthorized m => "unauthorized: " ++ m
  | .forbidden m => "forbidden: " ++ m
  | .tenantNotFound id => "tenant not found: " ++ id
  | .tenantQuotaExceeded resource limit =>
    "tenant quota exceeded: " ++ resource ++ " limit " ++ ToString.toString limit
  | .notFound resource id => "not found: " ++ resource ++ " with id " ++ id
  | .alreadyExists resource id => "already exists: " ++ resource ++ " with id " ++ id
  | .validationFailed field reason => "validation failed: " ++ field ++ " — " ++ reason
  | .invalidSchema m => "invalid schema: " ++ m
  | .toolExecutionFailed tool reason => "tool execution failed: " ++ tool ++ " — " ++ reason
  | .toolTimeout tool timeoutMs => "tool timeout: " ++ tool ++ " exceeded " ++ ToString.toString timeoutMs ++ "ms"
  | .toolAccessDenied tool requiredLevel =>
    "tool access denied: " ++ tool ++ " requires " ++ requiredLevel.debugString
  | .sandboxError m => "sandbox error: " ++ m
  | .agentSpawnFailed reason => "agent spawn failed: " ++ reason
  | .maxDepthExceeded max => "max subagent depth " ++ ToString.toString max ++ " exceeded"
  | .budgetExceeded tenant spentUsd limitUsd =>
    "budget exceeded for tenant " ++ tenant ++ ": spent " ++ formatFixed 4 spentUsd ++ " of " ++
      formatFixed 4 limitUsd ++ " USD"
  | .ledgerIntegrityViolation blockId reason =>
    "ledger integrity violation: block " ++ blockId ++ " — " ++ reason
  | .storageError m => "storage error: " ++ m
  | .serializationError m => "serialization error: " ++ m
  | .internal m => "internal error: " ++ m
  | .notImplemented m => "not implemented: " ++ m

/-- 各符号の文言の頭：`#[error("...")]` の最初の `{}` より前の部分。`Conflict` と
`BudgetLimitReached` には variant が無いので、文言も無い。 -/
def ErrorCode.messageHead : ErrorCode → Option String
  | .unauthorized => some "unauthorized: "
  | .forbidden => some "forbidden: "
  | .tenantNotFound => some "tenant not found: "
  | .tenantQuotaExceeded => some "tenant quota exceeded: "
  | .notFound => some "not found: "
  | .alreadyExists => some "already exists: "
  | .conflict => none
  | .validationFailed => some "validation failed: "
  | .invalidSchema => some "invalid schema: "
  | .toolExecutionFailed => some "tool execution failed: "
  | .toolTimeout => some "tool timeout: "
  | .toolAccessDenied => some "tool access denied: "
  | .sandboxError => some "sandbox error: "
  | .agentSpawnFailed => some "agent spawn failed: "
  | .maxDepthExceeded => some "max subagent depth "
  | .budgetExceeded => some "budget exceeded for tenant "
  | .budgetLimitReached => none
  | .storageError => some "storage error: "
  | .ledgerIntegrityViolation => some "ledger integrity violation: block "
  | .serializationError => some "serialization error: "
  | .internal => some "internal error: "
  | .notImplemented => some "not implemented: "

/-- 誤りの文言は、その符号の頭で始まる。 -/
theorem AetherError.toString_eq_messageHead_append (e : AetherError) :
    ∃ h r, e.code.messageHead = some h ∧ e.toString = h ++ r := by
  cases e <;> exact ⟨_, _, rfl, by simp only [AetherError.toString, String.append_assoc]; rfl⟩

/-- 符号の違う二つの頭は、どちらも他方の始まりではない。 -/
theorem messageHead_prefix_unique :
    ∀ c₁ ∈ ErrorCode.all, ∀ c₂ ∈ ErrorCode.all, ∀ h₁ ∈ c₁.messageHead, ∀ h₂ ∈ c₂.messageHead,
      h₁.data <+: h₂.data → c₁ = c₂ := by
  decide

/-- 文言が同じ誤りは符号も同じである。二つの文言の頭は一方が他方の始まりになるので、
`messageHead_prefix_unique` から符号が等しい。 -/
theorem AetherError.code_eq_of_toString_eq {e₁ e₂ : AetherError} (h : e₁.toString = e₂.toString) :
    e₁.code = e₂.code := by
  obtain ⟨h₁, r₁, hc₁, hs₁⟩ := e₁.toString_eq_messageHead_append
  obtain ⟨h₂, r₂, hc₂, hs₂⟩ := e₂.toString_eq_messageHead_append
  have hd : h₂.data ++ r₂.data = h₁.data ++ r₁.data := by
    rw [← String.data_append, ← String.data_append, ← hs₁, ← hs₂, h]
  have h₁₂ := messageHead_prefix_unique _ (ErrorCode.mem_all _) _ (ErrorCode.mem_all _) h₁ hc₁ h₂ hc₂
  have h₂₁ := messageHead_prefix_unique _ (ErrorCode.mem_all _) _ (ErrorCode.mem_all _) h₂ hc₂ h₁ hc₁
  rcases List.prefix_or_prefix_of_prefix (List.prefix_append h₁.data r₁.data)
      (hd ▸ List.prefix_append h₂.data r₂.data) with hp | hp
  · exact h₁₂ hp
  · exact (h₂₁ hp).symm

/-! ## 封筒 -/

/-- `ErrorEnvelope`。`timestamp` は `Utc::now()` の値である。 -/
structure ErrorEnvelope where
  code : ErrorCode
  message : String
  context : Option (List (String × ℚ))
  timestamp : Int
  requestId : Option RequestId

/-- `ErrorEnvelope::from_error`。 -/
def ErrorEnvelope.fromError (err : AetherError) (requestId : Option RequestId) (now : Int) :
    ErrorEnvelope :=
  { code := err.code, message := err.toString, context := err.context, timestamp := now, requestId }

/-- **誤りの封筒。** 符号は `Conflict` と `BudgetLimitReached` 以外で、その 20 個はどれも現れる。
文脈は三つの符号のときだけ付く。文言が同じ封筒は、`request_id` や時刻が違っても符号が同じである。 -/
theorem ErrorEnvelope.fromError_spec (requestId : Option RequestId) (now : Int) :
    (∀ c, (∃ e, (ErrorEnvelope.fromError e requestId now).code = c) ↔
      c ≠ .conflict ∧ c ≠ .budgetLimitReached) ∧
    (∀ e, (ErrorEnvelope.fromError e requestId now).context.isSome ↔
      (ErrorEnvelope.fromError e requestId now).code ∈
        [.budgetExceeded, .toolTimeout, .maxDepthExceeded]) ∧
    (∀ e₁ e₂ requestId₂ now₂, (ErrorEnvelope.fromError e₁ requestId now).message =
        (ErrorEnvelope.fromError e₂ requestId₂ now₂).message →
      (ErrorEnvelope.fromError e₁ requestId now).code =
        (ErrorEnvelope.fromError e₂ requestId₂ now₂).code) :=
  ⟨AetherError.exists_code_eq_iff, AetherError.context_isSome_iff,
    fun _ _ _ _ => AetherError.code_eq_of_toString_eq⟩

end Aether
