import Mathlib.Data.Rat.Floor
import Mathlib.Tactic.Linarith
import Aether.Budget.Tracker
import Aether.Core.Error

/-!
# 予算の制限

`aether-budget/src/limiter.rs` の `BudgetLimiter::check` である。tenant の費用の合計と上限から
残りの割合 `budget_remaining_fraction` を求め、三つの閾値と比べる。

* 割合が `KILL_THRESHOLD = 0` 以下なら `Err(BudgetExceeded)`。
* `DEGRADE_THRESHOLD = 0.10` 以下なら `Degrade`、`ALERT_THRESHOLD = 0.25` 以下なら `Alert`、
  それより上なら `Allow`。

金額と上限は有理数で表し、`f64` の演算の丸めと NaN は扱わない。閾値は `f64` の定数の正確な値である。
`0.25` と `0.0` は二進で正確に書けるが、`0.10` は 1/10 より少し大きい 3602879701896397/2^55 になる。
文言の百分率 `{:.0}` は、正確な値を偶数への丸めで整数にしたものである（`formatFixed0`）。

## 主な結果

`check_spec`：`Err(BudgetExceeded)` になるのは上限が 0 以下か、費用の合計が上限以上のときに限る。
結果の重さ `Allow < Alert < Degrade < Err` は、費用の合計について単調に増え、上限について
単調に減る。証明は二段である。結果の重さは残りの割合だけで決まり、その割合について単調に減る
（`outcomeSeverity_check`、`fractionSeverity_antitone`）。残りの割合は費用の合計について減り、
上限について増える（`fractionLeft_antitone_spent`、`fractionLeft_monotone_limit`）。
`clamp` による切り詰めは単調なので、負の費用でも 0 以下の上限でも崩れない。

`check_recordAll_take_mono`：空の tracker に費用を順に記録していくと、`t` の費用がどれも 0 以上なら
`check` の結果は重くなる一方で、一度 `Err(BudgetExceeded)` になったらずっとそのままである。

`check_messages`：文言に書かれる百分率は、`Degrade` では 90 から 100、`Alert` では 75 から 90 の
整数である。
-/

namespace Aether

/-- `ALERT_THRESHOLD`：残り 25%。 -/
def alertThreshold : ℚ := 1 / 4

/-- `DEGRADE_THRESHOLD`：残り 10%。`f64` の `0.10` の正確な値 3602879701896397/2^55 で、
1/10 より少し大きい。 -/
def degradeThreshold : ℚ := 3602879701896397 / 36028797018963968

/-- `KILL_THRESHOLD`：残り 0%。 -/
def killThreshold : ℚ := 0

/-- `BudgetAction`。 -/
inductive BudgetAction where
  | allow
  | degrade (reason : String)
  | alert (message : String)
  | kill (reason : String)
  deriving DecidableEq

/-- `BudgetLimiter`。 -/
structure BudgetLimiter where
  tracker : CostTracker

/-- `format!("{:.0}", x)`：符号と、絶対値を丸めた整数の十進表記。 -/
def formatFixed0 (x : ℚ) : String :=
  (if x < 0 then "-" else "") ++ toString (roundHalfEven |x|).toNat

/-- `BudgetLimiter::check`。 -/
def BudgetLimiter.check (l : BudgetLimiter) (tenantId : TenantId) (limitUsd : ℚ) :
    Result BudgetAction :=
  match l.tracker.getUsage tenantId with
  | .error e => .error (.internal e)
  | .ok usage =>
    let spent := usage.totalCostUsd
    let remainingFraction := l.tracker.budgetRemainingFraction tenantId limitUsd
    if remainingFraction ≤ killThreshold then
      .error (.budgetExceeded tenantId.toString spent limitUsd)
    else if remainingFraction ≤ degradeThreshold then
      .ok (.degrade (formatFixed0 ((1 - remainingFraction) * 100) ++
        "% budget spent — downgrading to cheaper model"))
    else if remainingFraction ≤ alertThreshold then
      .ok (.alert (formatFixed0 ((1 - remainingFraction) * 100) ++ "% budget consumed"))
    else .ok .allow

/-- 偶数への丸めは、`a - 1/2` より大きい値を `a` 以上にする。 -/
theorem le_roundHalfEven {x : ℚ} {a : ℤ} (h : (a : ℚ) - 1 / 2 < x) : a ≤ roundHalfEven x := by
  have hlt : x < x.floor + 1 := Int.lt_floor_add_one x
  have hup : a < x.floor + 2 := by exact_mod_cast (show (a : ℚ) < x.floor + 2 by linarith)
  -- 切り捨てを返す枝では `x - ⌊x⌋ ≤ 1/2` なので `a < ⌊x⌋ + 1` である。
  have hdown (hx : x - x.floor ≤ 1 / 2) : a ≤ x.floor :=
    Int.lt_add_one_iff.mp (by exact_mod_cast (show (a : ℚ) < x.floor + 1 by linarith))
  unfold roundHalfEven
  dsimp only
  split_ifs with c₁ c₂
  · exact hdown c₁.le
  · omega
  · exact hdown (not_lt.mp c₂)
  · omega

/-- `a - 1/2` より大きく `b` 未満の値（`a ≥ 1`）を `{:.0}` で書くと、`a` 以上 `b` 以下の自然数の
十進表記になる。 -/
theorem formatFixed0_of_band {x : ℚ} (a b : ℕ) (ha₁ : 1 ≤ a) (ha : (a : ℚ) - 1 / 2 < x)
    (hb : x < b) : ∃ n : ℕ, a ≤ n ∧ n ≤ b ∧ formatFixed0 x = toString n := by
  have hx : 0 ≤ x := by
    have : (1 : ℚ) ≤ a := by exact_mod_cast ha₁
    linarith
  have hlo : (a : ℤ) ≤ roundHalfEven x := le_roundHalfEven (by push_cast; exact ha)
  have hhi : x.floor < b := by
    by_contra h
    have := Rat.le_floor.mp (not_lt.mp h)
    push_cast at this
    linarith
  have h2 := (roundHalfEven_bounds x).2
  refine ⟨(roundHalfEven x).toNat, by omega, by omega, ?_⟩
  simp [formatFixed0, not_lt.mpr hx, abs_of_nonneg hx]

/-! ## 残りの割合 -/

/-- 費用の合計 `spent` と上限 `limitUsd` からの残りの割合。`budget_remaining_fraction` の式である。 -/
def fractionLeft (spent limitUsd : ℚ) : ℚ :=
  if limitUsd ≤ 0 then 0 else clamp ((limitUsd - spent) / limitUsd) 0 1

theorem budgetRemainingFraction_of_getUsage {tr : CostTracker} {t : TenantId} {u : TenantUsage}
    (h : tr.getUsage t = .ok u) (limitUsd : ℚ) :
    tr.budgetRemainingFraction t limitUsd = fractionLeft u.totalCostUsd limitUsd := by
  simp [CostTracker.budgetRemainingFraction, h, Except.toOption, fractionLeft]

/-- 下限が上限以下なら、`clamp` は `max` と `min` で書ける。 -/
theorem clamp_eq_max_min {x lo hi : ℚ} (h : lo ≤ hi) : clamp x lo hi = max lo (min x hi) := by
  unfold clamp
  split_ifs with h₁ <;> dsimp only
  · -- 下に切り詰めた `lo` は `hi` を超えない。
    rw [if_neg (not_lt.mpr h), min_eq_left (h₁.le.trans h), max_eq_left h₁.le]
  · split_ifs with h₂
    · rw [min_eq_right h₂.le, max_eq_right h]
    · rw [min_eq_left (not_lt.mp h₂), max_eq_right (not_lt.mp h₁)]

theorem clamp_mono {x y : ℚ} (h : x ≤ y) : clamp x 0 1 ≤ clamp y 0 1 := by
  rw [clamp_eq_max_min zero_le_one, clamp_eq_max_min zero_le_one]
  exact max_le_max le_rfl (min_le_min_right 1 h)

theorem fractionLeft_nonneg (spent limitUsd : ℚ) : 0 ≤ fractionLeft spent limitUsd := by
  unfold fractionLeft
  split_ifs
  · exact le_rfl
  · rw [clamp_eq_max_min zero_le_one]; exact le_max_left _ _

/-- 残りの割合が 0 以下になるのは、上限が 0 以下か、費用の合計が上限以上のときに限る。 -/
theorem fractionLeft_nonpos_iff (spent limitUsd : ℚ) :
    fractionLeft spent limitUsd ≤ 0 ↔ limitUsd ≤ 0 ∨ limitUsd ≤ spent := by
  unfold fractionLeft
  split_ifs with hL
  · simp [hL]
  · have hL' : 0 < limitUsd := lt_of_not_le hL
    rw [clamp_eq_max_min zero_le_one, max_le_iff, min_le_iff, div_le_iff₀ hL']
    simp only [le_refl, true_and, zero_mul, sub_nonpos, hL, false_or]
    exact ⟨fun h => h.resolve_right (by norm_num), Or.inl⟩

/-- 費用の合計が増えると、残りの割合は減る。 -/
theorem fractionLeft_antitone_spent {s₁ s₂ : ℚ} (h : s₁ ≤ s₂) (limitUsd : ℚ) :
    fractionLeft s₂ limitUsd ≤ fractionLeft s₁ limitUsd := by
  unfold fractionLeft
  split_ifs with hL
  · exact le_rfl
  · exact clamp_mono (div_le_div_of_nonneg_right (by linarith) (by linarith [lt_of_not_le hL]))

/-- 上限が増えると、残りの割合は増える。費用の合計が負なら、正の上限で割合はいつも 1 である。 -/
theorem fractionLeft_monotone_limit (spent : ℚ) {L₁ L₂ : ℚ} (h : L₁ ≤ L₂) :
    fractionLeft spent L₁ ≤ fractionLeft spent L₂ := by
  by_cases h₁ : L₁ ≤ 0
  · rw [fractionLeft, if_pos h₁]; exact fractionLeft_nonneg _ _
  have hL₁ : 0 < L₁ := lt_of_not_le h₁
  have hL₂ : 0 < L₂ := hL₁.trans_le h
  rw [fractionLeft, fractionLeft, if_neg h₁, if_neg (not_le.mpr hL₂)]
  rcases le_or_lt 0 spent with hs | hs
  · apply clamp_mono
    rw [sub_div, sub_div, div_self hL₁.ne', div_self hL₂.ne']
    linarith [div_le_div_of_nonneg_left hs hL₁ h]
  · rw [clamp_eq_max_min zero_le_one, clamp_eq_max_min zero_le_one,
      min_eq_right ((le_div_iff₀ hL₂).mpr (by linarith))]
    exact max_le_max le_rfl (min_le_right _ _)

/-! ## 結果の重さ -/

/-- 結果の重さ：`Allow < Alert < Degrade < Err(BudgetExceeded)`。 -/
def outcomeSeverity : Result BudgetAction → Nat
  | .ok .allow => 0
  | .ok (.alert _) => 1
  | .ok (.degrade _) => 2
  | .ok (.kill _) => 3
  | .error _ => 3

/-- 残りの割合から決まる重さ。 -/
def fractionSeverity (r : ℚ) : Nat :=
  if r ≤ killThreshold then 3
  else if r ≤ degradeThreshold then 2
  else if r ≤ alertThreshold then 1
  else 0

theorem fractionSeverity_antitone {r₁ r₂ : ℚ} (h : r₁ ≤ r₂) :
    fractionSeverity r₂ ≤ fractionSeverity r₁ := by
  unfold fractionSeverity
  -- 重さが逆になる枝では、`r₂` が閾値以下で `r₁` が閾値より上になり、`h` に反する。
  split_ifs <;> first | omega | exact absurd (h.trans ‹_›) ‹_›

section
variable {l : BudgetLimiter} {t : TenantId} {u : TenantUsage}

/-- `check` の結果の重さは、残りの割合の重さである。 -/
theorem outcomeSeverity_check (h : l.tracker.getUsage t = .ok u) (limitUsd : ℚ) :
    outcomeSeverity (l.check t limitUsd) = fractionSeverity (fractionLeft u.totalCostUsd limitUsd) := by
  rw [BudgetLimiter.check, h]
  simp only [budgetRemainingFraction_of_getUsage h, fractionSeverity]
  split_ifs <;> rfl

/-- `check` が誤りを返すのは残りの割合が 0 以下のときに限り、誤りは `BudgetExceeded` である。 -/
theorem check_eq_error_iff (h : l.tracker.getUsage t = .ok u) (limitUsd : ℚ) (e : AetherError) :
    l.check t limitUsd = .error e ↔
      fractionLeft u.totalCostUsd limitUsd ≤ 0 ∧
        e = .budgetExceeded t.toString u.totalCostUsd limitUsd := by
  rw [BudgetLimiter.check, h]
  simp only [budgetRemainingFraction_of_getUsage h, killThreshold]
  split_ifs with h₀
  · simp [h₀, eq_comm]
  all_goals simp [h₀]

/-- `check` の文言の百分率。`Degrade` では 90 以上 100 以下の、`Alert` では 75 以上 90 以下の
整数が書かれる。 -/
theorem check_messages (h : l.tracker.getUsage t = .ok u) (limitUsd : ℚ) :
    (∀ r, l.check t limitUsd = .ok (.degrade r) → ∃ n : ℕ, 90 ≤ n ∧ n ≤ 100 ∧
      r = toString n ++ "% budget spent — downgrading to cheaper model") ∧
    (∀ m, l.check t limitUsd = .ok (.alert m) → ∃ n : ℕ, 75 ≤ n ∧ n ≤ 90 ∧
      m = toString n ++ "% budget consumed") := by
  rw [BudgetLimiter.check, h]
  simp only [budgetRemainingFraction_of_getUsage h, killThreshold, degradeThreshold,
    alertThreshold]
  split_ifs with h₀ h₁ h₂
  · exact ⟨fun _ => nofun, fun _ => nofun⟩
  · refine ⟨fun r hr => ?_, fun _ => nofun⟩
    obtain ⟨n, h90, h100, hn⟩ := formatFixed0_of_band 90 100 (by norm_num)
      (x := (1 - fractionLeft u.totalCostUsd limitUsd) * 100)
      (by rw [Nat.cast_ofNat]; linarith only [h₁])
      (by rw [Nat.cast_ofNat]; linarith only [lt_of_not_le h₀])
    cases hr
    exact ⟨n, h90, h100, by rw [hn]⟩
  · refine ⟨fun _ => nofun, fun m hm => ?_⟩
    obtain ⟨n, h75, h90, hn⟩ := formatFixed0_of_band 75 90 (by norm_num)
      (x := (1 - fractionLeft u.totalCostUsd limitUsd) * 100)
      (by rw [Nat.cast_ofNat]; linarith only [h₂])
      (by rw [Nat.cast_ofNat]; linarith only [lt_of_not_le h₁])
    cases hm
    exact ⟨n, h75, h90, by rw [hn]⟩
  · exact ⟨fun _ => nofun, fun _ => nofun⟩

end

/--
**予算の制限の単調性。** tenant `t` の集計が `u`（別の状態では `u'`）であるとき、

* `check` が `Err(BudgetExceeded)` を返すのは、上限 `L` が 0 以下か、費用の合計が `L` 以上のときに
  限る。ほかの誤りは返さない。
* 費用の合計が増えても結果は軽くならない。
* 上限を上げても結果は重くならない。
-/
theorem BudgetLimiter.check_spec (l l' : BudgetLimiter) (t : TenantId) (u u' : TenantUsage)
    (hu : l.tracker.getUsage t = .ok u) (hu' : l'.tracker.getUsage t = .ok u') :
    (∀ L, l.check t L = .error (.budgetExceeded t.toString u.totalCostUsd L) ↔
      L ≤ 0 ∨ L ≤ u.totalCostUsd) ∧
    (∀ L e, l.check t L = .error e → e = .budgetExceeded t.toString u.totalCostUsd L) ∧
    (u.totalCostUsd ≤ u'.totalCostUsd →
      ∀ L, outcomeSeverity (l.check t L) ≤ outcomeSeverity (l'.check t L)) ∧
    (∀ L₁ L₂, L₁ ≤ L₂ → outcomeSeverity (l.check t L₂) ≤ outcomeSeverity (l.check t L₁)) := by
  refine ⟨fun L => ?_, fun L e he => ((check_eq_error_iff hu L e).mp he).2,
    fun hs L => ?_, fun L₁ L₂ hL => ?_⟩
  · simp [check_eq_error_iff hu, fractionLeft_nonpos_iff]
  · rw [outcomeSeverity_check hu, outcomeSeverity_check hu']
    exact fractionSeverity_antitone (fractionLeft_antitone_spent hs L)
  · rw [outcomeSeverity_check hu, outcomeSeverity_check hu]
    exact fractionSeverity_antitone (fractionLeft_monotone_limit _ hL)

/-- 例：空の tracker と、そこに `t` の費用 5 を一度記録した tracker。費用の合計は 0 と 5 である。 -/
theorem BudgetLimiter.check_spec_before_after_record :
    let t : TenantId := ⟨Uuid.nil⟩
    let c : LlmCost := ⟨t, 0, 0, 5⟩
    let l : BudgetLimiter := ⟨.new⟩
    let l' : BudgetLimiter := ⟨(CostTracker.new.record c).2⟩
    let u' : TenantUsage := TenantUsage.default.add c
    l.tracker.getUsage t = .ok .default ∧ l'.tracker.getUsage t = .ok u' ∧
      ((∀ L, l.check t L = .error (.budgetExceeded t.toString TenantUsage.default.totalCostUsd L) ↔
        L ≤ 0 ∨ L ≤ TenantUsage.default.totalCostUsd) ∧
      (∀ L e, l.check t L = .error e →
        e = .budgetExceeded t.toString TenantUsage.default.totalCostUsd L) ∧
      (TenantUsage.default.totalCostUsd ≤ u'.totalCostUsd →
        ∀ L, outcomeSeverity (l.check t L) ≤ outcomeSeverity (l'.check t L)) ∧
      (∀ L₁ L₂, L₁ ≤ L₂ → outcomeSeverity (l.check t L₂) ≤ outcomeSeverity (l.check t L₁))) := by
  intro t c l l' u'
  have hu : l.tracker.getUsage t = .ok .default := rfl
  have hu' : l'.tracker.getUsage t = .ok u' := rfl
  exact ⟨hu, hu', BudgetLimiter.check_spec l l' t _ _ hu hu'⟩

/-! ## 記録の列に沿った単調性

空の tracker に費用を順に記録していくとき、`t` の記録の費用がどれも 0 以上なら、費用の合計は
増える一方なので、`check` の結果も重くなる一方である。費用が負の記録（払い戻し）があれば、
この性質は崩れうる。
-/

/-- 先頭 `m` 個の記録の、`t` の費用の合計は `m` について増える。 -/
theorem totalCostUsd_take_mono (cs : List LlmCost) (t : TenantId)
    (hnn : ∀ c ∈ cs, c.tenantId = t → 0 ≤ c.costUsd) {m n : ℕ} (hmn : m ≤ n) :
    (TenantUsage.ofCosts ((cs.take m).filter fun c => c.tenantId = t)).totalCostUsd ≤
      (TenantUsage.ofCosts ((cs.take n).filter fun c => c.tenantId = t)).totalCostUsd := by
  obtain ⟨k, rfl⟩ := Nat.exists_eq_add_of_le hmn
  rw [List.take_add, List.filter_append, TenantUsage.ofCosts_totalCostUsd,
    TenantUsage.ofCosts_totalCostUsd, List.map_append, List.sum_append]
  refine le_add_of_nonneg_right (List.sum_nonneg ?_)
  simp only [List.mem_map, List.mem_filter, decide_eq_true_eq]
  rintro _ ⟨c, ⟨hc, ht⟩, rfl⟩
  exact hnn c (List.mem_of_mem_drop (List.mem_of_mem_take hc)) ht

/-- **制限は記録が進んでも緩まない。** 空の tracker に費用の列 `cs` を順に記録していく。`t` の
記録の費用がどれも 0 以上なら、先頭 `m` 個を記録した後の `check` より、`n ≥ m` 個を記録した後の
`check` の結果は軽くない。とくに一度 `Err(BudgetExceeded)` を返したら、その後もずっと返す。 -/
theorem BudgetLimiter.check_recordAll_take_mono (cs : List LlmCost) (t : TenantId) (L : ℚ)
    (hnn : ∀ c ∈ cs, c.tenantId = t → 0 ≤ c.costUsd) {m n : ℕ} (hmn : m ≤ n) :
    outcomeSeverity ((⟨CostTracker.new.recordAll (cs.take m)⟩ : BudgetLimiter).check t L) ≤
        outcomeSeverity ((⟨CostTracker.new.recordAll (cs.take n)⟩ : BudgetLimiter).check t L) ∧
      ∀ e, (⟨CostTracker.new.recordAll (cs.take m)⟩ : BudgetLimiter).check t L = .error e →
        ∃ e', (⟨CostTracker.new.recordAll (cs.take n)⟩ : BudgetLimiter).check t L = .error e' := by
  have hm : (⟨CostTracker.new.recordAll (cs.take m)⟩ : BudgetLimiter).tracker.getUsage t = .ok _ :=
    CostTracker.getUsage_recordAll _ t
  have hn : (⟨CostTracker.new.recordAll (cs.take n)⟩ : BudgetLimiter).tracker.getUsage t = .ok _ :=
    CostTracker.getUsage_recordAll _ t
  have hspent := fractionLeft_antitone_spent (totalCostUsd_take_mono cs t hnn hmn) L
  refine ⟨?_, fun e he => ?_⟩
  · rw [outcomeSeverity_check hm, outcomeSeverity_check hn]
    exact fractionSeverity_antitone hspent
  · exact ⟨_, (check_eq_error_iff hn L _).mpr ⟨hspent.trans ((check_eq_error_iff hm L e).mp he).1, rfl⟩⟩

/-- 例：上限 10 に対して費用 5 と 6 を記録する。一つ目の後より二つ目の後の方が重い。 -/
theorem BudgetLimiter.check_recordAll_take_mono_five_six :
    let t : TenantId := ⟨Uuid.nil⟩
    let cs : List LlmCost := [⟨t, 0, 0, 5⟩, ⟨t, 0, 0, 6⟩]
    (∀ c ∈ cs, c.tenantId = t → 0 ≤ c.costUsd) ∧ 1 ≤ 2 ∧
      (outcomeSeverity ((⟨CostTracker.new.recordAll (cs.take 1)⟩ : BudgetLimiter).check t 10) ≤
          outcomeSeverity ((⟨CostTracker.new.recordAll (cs.take 2)⟩ : BudgetLimiter).check t 10) ∧
        ∀ e, (⟨CostTracker.new.recordAll (cs.take 1)⟩ : BudgetLimiter).check t 10 = .error e →
          ∃ e', (⟨CostTracker.new.recordAll (cs.take 2)⟩ : BudgetLimiter).check t 10 = .error e') := by
  intro t cs
  have hnn : ∀ c ∈ cs, c.tenantId = t → 0 ≤ c.costUsd := by
    intro c hc _
    rcases List.mem_pair.mp hc with rfl | rfl <;> norm_num
  exact ⟨hnn, by decide, BudgetLimiter.check_recordAll_take_mono cs t 10 hnn (by decide)⟩

/-! ## 警告の種類

`aether-budget/src/alerts.rs` の `BudgetAlert::new` は、使った割合の百分率（100 で頭打ち、上限が
0 以下なら 100）から警告の種類を決める。`Critical` の境目は 90% ちょうどで、`check` の `Degrade` の
境目（残り `0.10`、二進では 1/10 より少し大きい）とは揃わない。
-/

/-- `AlertType`。 -/
inductive AlertType where
  | warning
  | critical
  | exhausted
  deriving DecidableEq

/-- `BudgetAlert`。 -/
structure BudgetAlert where
  tenantId : TenantId
  alertType : AlertType
  spentUsd : ℚ
  limitUsd : ℚ
  pctUsed : ℚ

/-- `BudgetAlert::new`。 -/
def BudgetAlert.new (tenantId : TenantId) (spentUsd limitUsd : ℚ) : BudgetAlert :=
  let pct := if 0 < limitUsd then min (spentUsd / limitUsd * 100) 100 else 100
  let alertType :=
    if 100 ≤ pct then AlertType.exhausted else if 90 ≤ pct then .critical else .warning
  { tenantId, alertType, spentUsd, limitUsd, pctUsed := pct }

end Aether
