import Mathlib.Algebra.Order.BigOperators.Group.List
import Mathlib.Algebra.Order.Field.Rat
import Mathlib.Data.String.Basic
import Mathlib.Tactic.NormNum
import Aether.Core.KeyMap
import Aether.Core.Types

/-!
# 費用の記録

`aether-budget/src/tracker.rs` の `CostTracker` である。tenant の文字列から `TenantUsage` への表を
`RwLock<HashMap<..>>` に持ち、`record` は一回の LLM 呼び出しの費用をその tenant の集計に足す。

* 費用 `cost_usd`（`f64`）は有理数で表す。丸め誤差は扱わない。
* token 数と呼び出し数は `u64` の `+=` で足す。release build ではこれは `2^64` を法とする加算で、
  `UInt64` の `+` がそれである。debug build では桁があふれると panic し、lock が毒される。
  ここでは release build の意味を写す。
* lock が毒されるのは lock を持った thread が panic したときだけで、逐次の実行では起きない。
  したがって `map_err` の側は写さず、`record` と `get_usage` は `Ok` を返す。

## 主な結果

空の tracker から費用を順に記録した後の tenant `t` の集計は、`t` の記録だけを順に畳んだもの
（`TenantUsage.ofCosts`）である（`getUsage_recordAll`）。畳んだ結果は閉じた形で書ける。

* 費用の合計は `t` の記録の費用の和である。
* 呼び出し数と token 数は、記録の個数と token 数の和を `2^64` で割った余りである。
  記録が `2^32` 個より少なければ余りを取る前の値に等しい。`2^32 + 2` 個あれば
  入力 token の和はあふれる（`getUsage_replicate_wraps`）。
* 記録の順を入れ替えても集計は変わらない。費用を有理数で足すからで、`f64` の `+=` では
  費用の合計は足す順に依りうる。ほかの tenant の記録は `t` の集計を変えない。

これをまとめたのが `getUsage_recordAll_spec` である。
-/

namespace Aether

/-- `LlmCost`。`task_id`、`agent_id`、`model` はどの関数も読まないので持たない。 -/
structure LlmCost where
  tenantId : TenantId
  inputTokens : UInt32
  outputTokens : UInt32
  costUsd : ℚ

/-- `TenantUsage`。 -/
@[ext] structure TenantUsage where
  totalCostUsd : ℚ
  totalInputTokens : UInt64
  totalOutputTokens : UInt64
  totalCalls : UInt64
  deriving DecidableEq

namespace TenantUsage

/-- `#[derive(Default)]`：どの欄も 0。 -/
def default : TenantUsage := ⟨0, 0, 0, 0⟩

/-- `record` が `entry` に行う四つの `+=`。 -/
def add (u : TenantUsage) (cost : LlmCost) : TenantUsage where
  totalCostUsd := u.totalCostUsd + cost.costUsd
  totalInputTokens := u.totalInputTokens + cost.inputTokens.toUInt64
  totalOutputTokens := u.totalOutputTokens + cost.outputTokens.toUInt64
  totalCalls := u.totalCalls + 1

end TenantUsage

/-- `CostTracker`：tenant の文字列から集計への表。 -/
structure CostTracker where
  usage : KeyMap TenantUsage

namespace CostTracker

/-- `CostTracker::new()`。 -/
def new : CostTracker := ⟨KeyMap.empty⟩

/-- `record`：`map.entry(key).or_default()` に費用を足す。 -/
def record (tr : CostTracker) (cost : LlmCost) : Except String Unit × CostTracker :=
  (.ok (), ⟨tr.usage.upsert cost.tenantId.toString fun o => (o.getD .default).add cost⟩)

/-- `get_usage`：`map.get(..).cloned().unwrap_or_default()`。 -/
def getUsage (tr : CostTracker) (tenantId : TenantId) : Except String TenantUsage :=
  .ok ((tr.usage.get? tenantId.toString).getD .default)

end CostTracker

/-- `f64::clamp(min, max)`：下に切り詰め、次に上に切り詰める。 -/
def clamp (x lo hi : ℚ) : ℚ :=
  let x := if x < lo then lo else x
  if hi < x then hi else x

namespace CostTracker

/-- `budget_remaining_fraction`：残りの予算の割合を `[0, 1]` に切り詰めたもの。
上限が 0 以下なら 0。 -/
def budgetRemainingFraction (tr : CostTracker) (tenantId : TenantId) (limitUsd : ℚ) : ℚ :=
  let usage := (tr.getUsage tenantId).toOption.getD .default
  if limitUsd ≤ 0 then 0 else clamp ((limitUsd - usage.totalCostUsd) / limitUsd) 0 1

/-- 費用を順に `record` した後の tracker。どの `record` も `Ok(())` を返す（`record_ok`）。 -/
def recordAll (tr : CostTracker) (costs : List LlmCost) : CostTracker :=
  costs.foldl (fun tr c => (tr.record c).2) tr

theorem record_ok (tr : CostTracker) (c : LlmCost) : (tr.record c).1 = .ok () := rfl

@[simp] theorem recordAll_append_singleton (tr : CostTracker) (cs : List LlmCost) (c : LlmCost) :
    tr.recordAll (cs ++ [c]) = ((tr.recordAll cs).record c).2 := by
  simp [recordAll]

/-- 一回の `record` は、費用の tenant のキーの集計に費用を足すだけである。 -/
theorem getD_get?_record (tr : CostTracker) (c : LlmCost) (q : String) :
    ((tr.record c).2.usage.get? q).getD .default =
      if c.tenantId.toString = q then ((tr.usage.get? q).getD .default).add c
      else (tr.usage.get? q).getD .default := by
  by_cases h : c.tenantId.toString = q
  · subst h; simp [record]
  · simp [record, h]

/-- ほかの tenant の記録は `t` の集計を変えない。どの状態からでも成り立つ。 -/
theorem getUsage_record_of_ne (tr : CostTracker) (c : LlmCost) {t : TenantId}
    (h : c.tenantId ≠ t) : (tr.record c).2.getUsage t = tr.getUsage t := by
  simp only [getUsage, getD_get?_record, TypedId.toString_inj, h, if_false]

end CostTracker

/-! ## 集計の閉じた形 -/

namespace TenantUsage

/-- 費用の列を空の集計から順に足したもの。`record` が一つの tenant について行うことである。 -/
def ofCosts (cs : List LlmCost) : TenantUsage := cs.foldl add default

@[simp] theorem ofCosts_nil : ofCosts [] = default := rfl

@[simp] theorem ofCosts_append_singleton (cs : List LlmCost) (c : LlmCost) :
    ofCosts (cs ++ [c]) = (ofCosts cs).add c := by
  simp [ofCosts]

theorem ofCosts_totalCostUsd (cs : List LlmCost) :
    (ofCosts cs).totalCostUsd = (cs.map (·.costUsd)).sum := by
  induction cs using List.reverseRecOn with
  | nil => rfl
  | append_singleton cs c ih => simp [add, ih]

/-- `u64` の三つの数えあげは同じ形をしている。欄 `field` に毎回 `inc c` を足すなら、
その値は `inc` の和を `2^64` で割った余りである。 -/
theorem ofCosts_counter (field : TenantUsage → UInt64) (inc : LlmCost → UInt64)
    (h0 : field default = 0) (hadd : ∀ u c, field (u.add c) = field u + inc c) (cs : List LlmCost) :
    (field (ofCosts cs)).toNat = (cs.map fun c => (inc c).toNat).sum % 2 ^ 64 := by
  induction cs using List.reverseRecOn with
  | nil => simp [h0]
  | append_singleton cs c ih =>
    rw [ofCosts_append_singleton, hadd, UInt64.toNat_add, ih]
    simp [Nat.add_mod, UInt64.size]

theorem ofCosts_totalInputTokens (cs : List LlmCost) :
    (ofCosts cs).totalInputTokens.toNat = (cs.map (·.inputTokens.toNat)).sum % 2 ^ 64 := by
  simpa using ofCosts_counter totalInputTokens (·.inputTokens.toUInt64) rfl (fun _ _ => rfl) cs

theorem ofCosts_totalOutputTokens (cs : List LlmCost) :
    (ofCosts cs).totalOutputTokens.toNat = (cs.map (·.outputTokens.toNat)).sum % 2 ^ 64 := by
  simpa using ofCosts_counter totalOutputTokens (·.outputTokens.toUInt64) rfl (fun _ _ => rfl) cs

theorem ofCosts_totalCalls (cs : List LlmCost) :
    (ofCosts cs).totalCalls.toNat = cs.length % 2 ^ 64 := by
  simpa using ofCosts_counter totalCalls (fun _ => 1) rfl (fun _ _ => rfl) cs

/-- 集計は記録の順によらない。閉じた形の四つの欄がどれも和だからである。 -/
theorem ofCosts_perm {cs cs' : List LlmCost} (h : cs.Perm cs') : ofCosts cs = ofCosts cs' := by
  refine TenantUsage.ext ?_ (UInt64.ext ?_) (UInt64.ext ?_) (UInt64.ext ?_)
  · simp only [ofCosts_totalCostUsd, (h.map _).sum_eq]
  · simp only [ofCosts_totalInputTokens, (h.map _).sum_eq]
  · simp only [ofCosts_totalOutputTokens, (h.map _).sum_eq]
  · simp only [ofCosts_totalCalls, h.length_eq]

/-- `u32` の値の `2^32` 個未満の和は `2^64` より小さい。 -/
theorem sum_toNat_lt (cs : List LlmCost) (f : LlmCost → UInt32) (h : cs.length < 2 ^ 32) :
    (cs.map fun c => (f c).toNat).sum < 2 ^ 64 := by
  have hle := List.sum_le_card_nsmul (cs.map fun c => (f c).toNat) (2 ^ 32 - 1) (by
    simp only [List.mem_map]
    rintro _ ⟨c, -, rfl⟩
    have := (f c).toNat_lt_size
    simp only [UInt32.size] at this
    omega)
  rw [List.length_map, nsmul_eq_mul, Nat.cast_id] at hle
  calc _ ≤ cs.length * (2 ^ 32 - 1) := hle
    _ < 2 ^ 64 := by omega

end TenantUsage

/-! ## 記録の列 -/

namespace CostTracker

/-- **tracker の不変条件。** 空から記録した後、キー `q` の集計は、tenant の文字列が `q` の
記録だけを順に畳んだものである。 -/
theorem getD_get?_recordAll (cs : List LlmCost) (q : String) :
    ((new.recordAll cs).usage.get? q).getD .default =
      TenantUsage.ofCosts (cs.filter fun c => c.tenantId.toString = q) := by
  induction cs using List.reverseRecOn with
  | nil => rfl
  | append_singleton cs c ih =>
    rw [recordAll_append_singleton, getD_get?_record, ih, List.filter_append]
    by_cases h : c.tenantId.toString = q <;> simp [h]

theorem getUsage_recordAll (cs : List LlmCost) (t : TenantId) :
    (new.recordAll cs).getUsage t = .ok (TenantUsage.ofCosts (cs.filter fun c => c.tenantId = t)) := by
  rw [getUsage, getD_get?_recordAll]
  simp

/--
**費用の集計。** 空の tracker から費用の列 `cs` を順に記録した後、tenant `t` の集計 `u` について、
`t` の記録を `mine` として、

* 呼び出し数、入力 token 数、出力 token 数は、`mine` の個数と token 数の和を `2^64` で割った余り、
* 費用の合計は `mine` の費用の和、
* `mine` が `2^32` 個より少なければ、三つの数は余りを取る前の値に等しい、
* `cs` を並べ替えて記録しても `u` は変わらない（費用は有理数で足す）、
* どの状態でも、ほかの tenant の記録は `t` の集計を変えない。
-/
theorem getUsage_recordAll_spec (cs : List LlmCost) (t : TenantId) :
    let mine := cs.filter fun c => c.tenantId = t
    ∃ u, (new.recordAll cs).getUsage t = .ok u ∧
      u.totalCalls.toNat = mine.length % 2 ^ 64 ∧
      u.totalInputTokens.toNat = (mine.map (·.inputTokens.toNat)).sum % 2 ^ 64 ∧
      u.totalOutputTokens.toNat = (mine.map (·.outputTokens.toNat)).sum % 2 ^ 64 ∧
      u.totalCostUsd = (mine.map (·.costUsd)).sum ∧
      (mine.length < 2 ^ 32 →
        u.totalCalls.toNat = mine.length ∧
        u.totalInputTokens.toNat = (mine.map (·.inputTokens.toNat)).sum ∧
        u.totalOutputTokens.toNat = (mine.map (·.outputTokens.toNat)).sum) ∧
      (∀ cs', cs'.Perm cs → (new.recordAll cs').getUsage t = .ok u) ∧
      (∀ (tr : CostTracker) (c : LlmCost), c.tenantId ≠ t →
        (tr.record c).2.getUsage t = tr.getUsage t) := by
  intro mine
  refine ⟨_, getUsage_recordAll cs t, TenantUsage.ofCosts_totalCalls _,
    TenantUsage.ofCosts_totalInputTokens _, TenantUsage.ofCosts_totalOutputTokens _,
    TenantUsage.ofCosts_totalCostUsd _, fun h => ?_, fun cs' h => ?_,
    fun tr c => getUsage_record_of_ne tr c⟩
  · rw [TenantUsage.ofCosts_totalCalls, TenantUsage.ofCosts_totalInputTokens,
      TenantUsage.ofCosts_totalOutputTokens,
      Nat.mod_eq_of_lt (TenantUsage.sum_toNat_lt mine _ h),
      Nat.mod_eq_of_lt (TenantUsage.sum_toNat_lt mine _ h)]
    exact ⟨Nat.mod_eq_of_lt (h.trans (by norm_num)), rfl, rfl⟩
  · rw [getUsage_recordAll, TenantUsage.ofCosts_perm (h.filter _)]

/-- 入力 token の和はあふれ得る。`0xFFFFFFFF` token の記録を `2^32 + 2` 個行うと、和は
`2^64 + 2^32 - 2` だが、集計は `2^32 - 2` になる。 -/
theorem getUsage_replicate_wraps :
    let c : LlmCost := ⟨⟨Uuid.nil⟩, 0xFFFFFFFF, 0, 0⟩
    ∃ u, (new.recordAll (List.replicate (2 ^ 32 + 2) c)).getUsage ⟨Uuid.nil⟩ = .ok u ∧
      u.totalInputTokens.toNat = 2 ^ 32 - 2 ∧
      ((List.replicate (2 ^ 32 + 2) c).map (·.inputTokens.toNat)).sum = 2 ^ 64 + 2 ^ 32 - 2 := by
  intro c
  refine ⟨_, getUsage_recordAll _ _, ?_, ?_⟩
  · rw [TenantUsage.ofCosts_totalInputTokens, List.filter_replicate_of_pos (by simp),
      List.map_replicate, List.sum_replicate, nsmul_eq_mul, Nat.cast_id]
    simp [c, UInt32.size]
  · rw [List.map_replicate, List.sum_replicate, nsmul_eq_mul, Nat.cast_id]
    simp [c, UInt32.size]

end CostTracker

end Aether
