import Mathlib.Data.List.Perm.Basic
import Aether.Budget.Limiter

/-!
# 同時に走る記録と検査

`CostTracker` は表を `Arc<RwLock<HashMap<String, TenantUsage>>>` に持ち、`record`、`get_usage`、
`budget_remaining_fraction` はどれも `&self` で呼ばれる。複数の thread が同じ tracker を使えて、
一つの lock の区間が一つの原子的な一歩になる。

* `record` は write lock を取り、`entry(key).or_default()` への四つの `+=` を済ませてから離す。
  全体が一歩である。
* `BudgetLimiter::check` は二歩である。まず `get_usage` が read lock の中で集計を写して離す。
  続く `budget_remaining_fraction` は中でもう一度 `get_usage` を呼び、別の read lock の中で読む。
  二つの読みの間に、別の thread の `record` が入りうる。判断に使うのは二つ目の読みの割合で、
  `BudgetExceeded` の `spent_usd` に書くのは一つ目の読みの合計である。

thread の列と、どの thread を進めるかの列（schedule）で実行を表す。`Session.Concurrent` と同じ形である。

`BudgetLimiter` の tracker は private の欄で、取り出す関数はなく、`CostTracker` は `Clone` でもない。
limiter の外から同じ tracker に `record` することはできないので、`record` が `check` と競う実行は
`limiter.rs` の中のコードが作るときにだけ起こる。ここでは tracker を共有するどんな thread の組も
許して、その上で成り立つことを述べる。

## 主な結果

* `usage_runSchedule_new`：記録は失われも重なりもしない。空の tracker にどんな schedule で
  記録と検査を走らせても、各 tenant の集計は、終わった `record` の費用を lock を取った順に
  一度ずつ足したものである。三つの数えあげは schedule に依らない。費用の合計は、モデルの
  有理数では依らないが、コードの `f64` の和では足す順に依りうる。
* `check_two_reads`：`check` の答えは、二つ目の読みの時点の tracker で `check` を一度に行った答えと
  同じである。ただし `BudgetExceeded` に書かれる `spent_usd` は一つ目の読みの時点の合計である。
* `check_torn_read`：上限をまたぐ `record` が二つの読みの間に入ると、`check` は止めるのに、
  上限より小さい `spent_usd` を報告する。どちらの時点で一度に行った `check` もこの答えは返さない。
* `decisions_pairwise_le`：`t` の記録の費用がどれも 0 以上なら、どの schedule でも、
  同じ tenant と上限についての判断は、判断した順に重くなる一方である。
-/

namespace Aether

/-! ## `check` を二つの読みに分ける -/

/-- `check` の判断の部分：一つ目の読みの費用の合計 `spent` と、二つ目の読みの残りの割合
`remainingFraction` から答えを作る。`BudgetLimiter::check` の `if` の列である。 -/
def checkAction (tenantId : TenantId) (limitUsd spent remainingFraction : ℚ) :
    Result BudgetAction :=
  if remainingFraction ≤ killThreshold then
    .error (.budgetExceeded tenantId.toString spent limitUsd)
  else if remainingFraction ≤ degradeThreshold then
    .ok (.degrade (formatFixed0 ((1 - remainingFraction) * 100) ++
      "% budget spent — downgrading to cheaper model"))
  else if remainingFraction ≤ alertThreshold then
    .ok (.alert (formatFixed0 ((1 - remainingFraction) * 100) ++ "% budget consumed"))
  else .ok .allow

theorem BudgetLimiter.check_eq_checkAction {l : BudgetLimiter} {t : TenantId} {u : TenantUsage}
    (h : l.tracker.getUsage t = .ok u) (limitUsd : ℚ) :
    l.check t limitUsd =
      checkAction t limitUsd u.totalCostUsd (l.tracker.budgetRemainingFraction t limitUsd) := by
  rw [BudgetLimiter.check, h]
  rfl

theorem outcomeSeverity_checkAction (t : TenantId) (limitUsd spent f : ℚ) :
    outcomeSeverity (checkAction t limitUsd spent f) = fractionSeverity f := by
  unfold checkAction fractionSeverity
  split_ifs <;> rfl

/-- 割合が閾値より上なら、一つ目の読みは答えに現れない。 -/
theorem checkAction_of_not_le (t : TenantId) (limitUsd : ℚ) {f : ℚ} (h : ¬f ≤ killThreshold)
    (spent spent' : ℚ) : checkAction t limitUsd spent f = checkAction t limitUsd spent' f := by
  simp only [checkAction, if_neg h]

theorem checkAction_of_le (t : TenantId) (limitUsd spent : ℚ) {f : ℚ} (h : f ≤ killThreshold) :
    checkAction t limitUsd spent f = .error (.budgetExceeded t.toString spent limitUsd) := by
  simp only [checkAction, if_pos h]

/-! ## tenant の費用の合計 -/

/-- tracker が tenant `t` について持つ費用の合計：`get_usage(t)` の `total_cost_usd`。 -/
def CostTracker.spentUsd (tr : CostTracker) (t : TenantId) : ℚ :=
  ((tr.usage.get? t.toString).getD .default).totalCostUsd

namespace CostTracker

theorem getUsage_eq (tr : CostTracker) (t : TenantId) :
    tr.getUsage t = .ok ((tr.usage.get? t.toString).getD .default) := rfl

theorem budgetRemainingFraction_eq (tr : CostTracker) (t : TenantId) (limitUsd : ℚ) :
    tr.budgetRemainingFraction t limitUsd = fractionLeft (tr.spentUsd t) limitUsd :=
  budgetRemainingFraction_of_getUsage (tr.getUsage_eq t) limitUsd

theorem spentUsd_record (tr : CostTracker) (c : LlmCost) (t : TenantId) :
    (tr.record c).2.spentUsd t =
      if c.tenantId = t then tr.spentUsd t + c.costUsd else tr.spentUsd t := by
  unfold spentUsd
  rw [getD_get?_record]
  by_cases h : c.tenantId = t
  · simp [h, TenantUsage.add]
  · simp [TypedId.toString_inj, h]

end CostTracker

/-! ## 一歩と実行 -/

namespace Budget

/-- thread が次に行う原子的な一歩。 -/
inductive Pending where
  /-- `record(cost)`。 -/
  | record (cost : LlmCost)
  /-- まだ始めていない `check(tenant_id, limit_usd)`。 -/
  | check (tenantId : TenantId) (limitUsd : ℚ)
  /-- `get_usage` の読みを済ませた `check`。読んだ費用の合計 `spent` を持つ。 -/
  | checkFraction (tenantId : TenantId) (limitUsd spent : ℚ)
  /-- 終わった `record` の答え。 -/
  | recorded (r : Except String Unit)
  /-- 終わった `check` の答え。 -/
  | checked (r : Result BudgetAction)

/-- 一つの thread の原子的な一歩：一つの lock の区間である。 -/
def atomicStep (tr : CostTracker) : Pending → Pending × CostTracker
  | .record c => (.recorded (tr.record c).1, (tr.record c).2)
  | .check t limitUsd =>
    match tr.getUsage t with
    | .error e => (.checked (.error (.internal e)), tr)
    | .ok usage => (.checkFraction t limitUsd usage.totalCostUsd, tr)
  | .checkFraction t limitUsd spent =>
    (.checked (checkAction t limitUsd spent (tr.budgetRemainingFraction t limitUsd)), tr)
  | .recorded r => (.recorded r, tr)
  | .checked r => (.checked r, tr)

/-- 記録を待つ thread の費用。 -/
def Pending.cost? : Pending → Option LlmCost
  | .record c => some c
  | _ => none

/-- tracker と thread の状態。 -/
structure Config where
  tracker : CostTracker
  threads : List Pending

/-- thread `i` を一歩進める。範囲の外の番号を選べば何も起きない。 -/
def Config.stepThread (cfg : Config) (i : Nat) : Config :=
  match cfg.threads[i]? with
  | some p =>
    let r := atomicStep cfg.tracker p
    { tracker := r.2, threads := cfg.threads.set i r.1 }
  | none => cfg

/-- schedule の順に thread を進める。 -/
def Config.runSchedule (cfg : Config) (sched : List Nat) : Config :=
  sched.foldl Config.stepThread cfg

/-- thread `i` が記録を待っている費用。 -/
def Config.costAt (cfg : Config) (i : Nat) : Option LlmCost := cfg.threads[i]?.bind Pending.cost?

/-- schedule のうち記録の一歩を行った thread の番号を、行った順に並べたもの。 -/
def Config.recordedIdx (cfg : Config) : List Nat → List Nat
  | [] => []
  | i :: sched =>
    let rest := (cfg.stepThread i).recordedIdx sched
    if (cfg.costAt i).isSome then i :: rest else rest

/-- 始めに記録を待っていて、今はもう待っていない thread の費用を、thread の順に並べたもの。
記録を待つ thread が待つのをやめるのは、記録の一歩を行ったときだけである。 -/
def completedRecords (before after : List Pending) : List LlmCost :=
  (List.range before.length).filterMap fun i =>
    if (after[i]?.bind Pending.cost?).isNone then before[i]?.bind Pending.cost? else none

/-- 一歩が `check` の判断の一歩（二つ目の読み）なら、その tenant、上限、答え。 -/
def decisionOf : Pending → Pending → Option (TenantId × ℚ × Result BudgetAction)
  | .checkFraction t limitUsd _, .checked r => some (t, limitUsd, r)
  | _, _ => none

/-- schedule の中の `check` の判断を、判断した順に並べたもの。 -/
def Config.decisions (cfg : Config) : List Nat → List (TenantId × ℚ × Result BudgetAction)
  | [] => []
  | i :: sched =>
    (cfg.threads[i]?.bind fun p => decisionOf p (atomicStep cfg.tracker p).1).toList ++
      (cfg.stepThread i).decisions sched

/-- 判断のうち tenant `t`、上限 `L` についてのものの答えの重さを、判断した順に並べたもの。 -/
def Config.severities (cfg : Config) (sched : List Nat) (t : TenantId) (L : ℚ) : List Nat :=
  (cfg.decisions sched).filterMap fun d =>
    if d.1 = t ∧ d.2.1 = L then some (outcomeSeverity d.2.2) else none

/-- 一歩が tracker に行うことは、記録を待つ thread ならその費用の記録だけである。 -/
theorem atomicStep_tracker (tr : CostTracker) (p : Pending) :
    (atomicStep tr p).2 = tr.recordAll p.cost?.toList := by
  cases p <;> rfl

/-- 一歩の後の thread は記録を待たない。 -/
theorem cost?_atomicStep (tr : CostTracker) (p : Pending) : (atomicStep tr p).1.cost? = none := by
  cases p <;> rfl

namespace Config

variable (cfg : Config)

theorem stepThread_of_getElem? {i : Nat} {p : Pending} (h : cfg.threads[i]? = some p) :
    cfg.stepThread i =
      { tracker := (atomicStep cfg.tracker p).2,
        threads := cfg.threads.set i (atomicStep cfg.tracker p).1 } := by
  simp [stepThread, h]

theorem stepThread_of_getElem?_none {i : Nat} (h : cfg.threads[i]? = none) :
    cfg.stepThread i = cfg := by
  simp [stepThread, h]

@[simp] theorem runSchedule_nil : cfg.runSchedule [] = cfg := rfl

@[simp] theorem runSchedule_cons (i : Nat) (sched : List Nat) :
    cfg.runSchedule (i :: sched) = (cfg.stepThread i).runSchedule sched := rfl

theorem runSchedule_append (s₁ s₂ : List Nat) :
    cfg.runSchedule (s₁ ++ s₂) = (cfg.runSchedule s₁).runSchedule s₂ :=
  List.foldl_append _ _ _ _

/-- ほかの thread の一歩は thread `j` を変えない。 -/
theorem stepThread_getElem?_ne {i j : Nat} (h : i ≠ j) :
    (cfg.stepThread i).threads[j]? = cfg.threads[j]? := by
  cases hp : cfg.threads[i]? with
  | none => rw [stepThread_of_getElem?_none cfg hp]
  | some p => rw [stepThread_of_getElem? cfg hp, List.getElem?_set_ne h]

theorem stepThread_getElem?_self {i : Nat} {p : Pending} (h : cfg.threads[i]? = some p) :
    (cfg.stepThread i).threads[i]? = some (atomicStep cfg.tracker p).1 := by
  rw [stepThread_of_getElem? cfg h, List.getElem?_set_self (List.getElem?_eq_some_iff.mp h).1]

/-- 一歩ごとの tracker：進めた thread が記録を待っていれば、その費用を記録する。 -/
theorem stepThread_tracker (i : Nat) :
    (cfg.stepThread i).tracker = cfg.tracker.recordAll (cfg.costAt i).toList := by
  unfold costAt
  cases hp : cfg.threads[i]? with
  | none => rw [stepThread_of_getElem?_none cfg hp]; rfl
  | some p => rw [stepThread_of_getElem? cfg hp]; exact atomicStep_tracker _ p

/-- 進めた thread は記録を待たなくなり、ほかの thread は変わらない。 -/
theorem costAt_stepThread (i j : Nat) :
    (cfg.stepThread i).costAt j = if i = j then none else cfg.costAt j := by
  split
  · next h =>
    subst h
    cases hp : cfg.threads[i]? with
    | none => rw [stepThread_of_getElem?_none cfg hp, costAt, hp]; rfl
    | some p => rw [costAt, stepThread_getElem?_self cfg hp]; exact cost?_atomicStep _ p
  · next h => rw [costAt, costAt, stepThread_getElem?_ne cfg h]

/-- 記録を待たない thread は、その後も記録を待たない。 -/
theorem costAt_runSchedule_of_none {i : Nat} (h : cfg.costAt i = none) (sched : List Nat) :
    (cfg.runSchedule sched).costAt i = none := by
  induction sched generalizing cfg with
  | nil => exact h
  | cons j sched ih => exact ih _ (by rw [costAt_stepThread, h, ite_self])

/-- 記録の一歩を行った thread は、始めに記録を待っていて、終わりには待っていない thread である。 -/
theorem mem_recordedIdx {i : Nat} {sched : List Nat} :
    i ∈ cfg.recordedIdx sched ↔
      (cfg.costAt i).isSome ∧ ((cfg.runSchedule sched).costAt i).isNone := by
  induction sched generalizing cfg with
  | nil =>
    simp only [recordedIdx, runSchedule_nil, List.not_mem_nil, false_iff]
    cases cfg.costAt i <;> simp
  | cons j sched ih =>
    have hmem : i ∈ (cfg.stepThread j).recordedIdx sched ↔
        i ≠ j ∧ (cfg.costAt i).isSome ∧ ((cfg.runSchedule (j :: sched)).costAt i).isNone := by
      rw [ih, costAt_stepThread, runSchedule_cons]
      by_cases hji : j = i
      · subst hji; simp
      · simp [hji, Ne.symm hji]
    by_cases hji : j = i
    · subst hji
      have hdone :=
        costAt_runSchedule_of_none _ ((costAt_stepThread cfg j j).trans (if_pos rfl)) sched
      simp only [recordedIdx, runSchedule_cons, hdone, Option.isNone_none, and_true]
      split <;> simp_all
    · simp only [recordedIdx]
      split <;> simp [hmem, Ne.symm hji, hji]

/-- 進めた thread は、その後の記録の一歩に現れない。 -/
theorem not_mem_recordedIdx_stepThread (j : Nat) (sched : List Nat) :
    j ∉ (cfg.stepThread j).recordedIdx sched := fun h => by
  have := ((mem_recordedIdx _).mp h).1
  rw [costAt_stepThread, if_pos rfl] at this
  exact Bool.false_ne_true this

theorem nodup_recordedIdx (sched : List Nat) : (cfg.recordedIdx sched).Nodup := by
  induction sched generalizing cfg with
  | nil => exact List.nodup_nil
  | cons j sched ih =>
    simp only [recordedIdx]
    split
    · exact List.nodup_cons.mpr ⟨not_mem_recordedIdx_stepThread cfg j sched, ih _⟩
    · exact ih _

/-- **実行の後の tracker。** 記録の一歩を行った thread の費用を、行った順に記録したものである。 -/
theorem runSchedule_tracker (sched : List Nat) :
    (cfg.runSchedule sched).tracker =
      cfg.tracker.recordAll ((cfg.recordedIdx sched).filterMap cfg.costAt) := by
  induction sched generalizing cfg with
  | nil => rfl
  | cons j sched ih =>
    rw [runSchedule_cons, ih, stepThread_tracker]
    -- 後の記録は `j` 以外の thread のものなので、`j` を進める前と同じ費用を読む。
    have hrest : ((cfg.stepThread j).recordedIdx sched).filterMap (cfg.stepThread j).costAt =
        ((cfg.stepThread j).recordedIdx sched).filterMap cfg.costAt := by
      refine List.filterMap_congr fun i hi => ?_
      have hne : j ≠ i := fun e => not_mem_recordedIdx_stepThread cfg j sched (e ▸ hi)
      rw [costAt_stepThread, if_neg hne]
    rw [hrest]
    simp only [recordedIdx]
    cases hc : cfg.costAt j <;> simp [hc, CostTracker.recordAll]

/-- 記録の一歩を行った thread の費用は、終わった記録の費用を並べ替えたものである。 -/
theorem perm_completedRecords (sched : List Nat) :
    ((cfg.recordedIdx sched).filterMap cfg.costAt).Perm
      (completedRecords cfg.threads (cfg.runSchedule sched).threads) := by
  have hfilter : completedRecords cfg.threads (cfg.runSchedule sched).threads =
      ((List.range cfg.threads.length).filter fun i =>
        (cfg.costAt i).isSome && ((cfg.runSchedule sched).costAt i).isNone).filterMap
          cfg.costAt := by
    rw [List.filterMap_filter, completedRecords]
    refine List.filterMap_congr fun i _ => ?_
    show (if ((cfg.runSchedule sched).costAt i).isNone then cfg.costAt i else none) = _
    cases cfg.costAt i <;> cases ((cfg.runSchedule sched).costAt i).isNone <;> rfl
  rw [hfilter]
  refine List.Perm.filterMap _ ((List.perm_ext_iff_of_nodup (nodup_recordedIdx cfg sched)
    ((List.nodup_range _).filter _)).mpr fun i => ?_)
  rw [mem_recordedIdx, List.mem_filter, List.mem_range, Bool.and_eq_true]
  refine ⟨fun h => ⟨?_, h⟩, And.right⟩
  -- 記録を待つ thread は thread の列の中にある。
  by_contra hlen
  have h₁ := h.1
  rw [costAt, List.getElem?_eq_none (not_lt.mp hlen)] at h₁
  exact Bool.false_ne_true h₁

end Config

/--
**記録は失われも重なりもしない。** 空の tracker を共有する thread の列に、どんな schedule で
`record` と `check` の一歩を走らせても、tenant `t` の集計は、記録の一歩を行った thread の費用のうち
`t` のものを、write lock を取った順に一度ずつ足したものである。その列は終わった `record` の費用を
並べ替えたものなので、どの記録も一度だけ足される。`u64` の三つの数えあげは足す順に依らず、
thread の順に足したものに等しい。費用の合計は `f64` の `+=` では足す順に依りうるので、lock の順の
和として述べる。
-/
theorem usage_runSchedule_new (threads : List Pending) (sched : List Nat) (t : TenantId) :
    let cfg : Config := ⟨CostTracker.new, threads⟩
    let lockOrder : List LlmCost := ((cfg.recordedIdx sched).filterMap cfg.costAt).filter
      fun c => c.tenantId = t
    let threadOrder : List LlmCost := (completedRecords threads (cfg.runSchedule sched).threads).filter
      fun c => c.tenantId = t
    (cfg.runSchedule sched).tracker.getUsage t = .ok (TenantUsage.ofCosts lockOrder) ∧
      lockOrder.Perm threadOrder ∧
      (TenantUsage.ofCosts lockOrder).totalCalls = (TenantUsage.ofCosts threadOrder).totalCalls ∧
      (TenantUsage.ofCosts lockOrder).totalInputTokens =
        (TenantUsage.ofCosts threadOrder).totalInputTokens ∧
      (TenantUsage.ofCosts lockOrder).totalOutputTokens =
        (TenantUsage.ofCosts threadOrder).totalOutputTokens := by
  intro cfg lockOrder threadOrder
  have hperm : lockOrder.Perm threadOrder := (Config.perm_completedRecords cfg sched).filter _
  have hsame := TenantUsage.ofCosts_perm hperm
  refine ⟨?_, hperm, by rw [hsame], by rw [hsame], by rw [hsame]⟩
  rw [Config.runSchedule_tracker, CostTracker.getUsage_recordAll]

/-! ## `check` の二つの読み -/

namespace Config

variable (cfg : Config)

/-- 終わった `check` の thread は、その後も変わらない。 -/
theorem runSchedule_getElem?_of_checked {i : Nat} {r : Result BudgetAction}
    (h : cfg.threads[i]? = some (.checked r)) (sched : List Nat) :
    (cfg.runSchedule sched).threads[i]? = some (.checked r) := by
  induction sched generalizing cfg with
  | nil => exact h
  | cons j sched ih =>
    refine ih _ ?_
    by_cases hji : j = i
    · subst hji; exact stepThread_getElem?_self cfg h
    · rw [stepThread_getElem?_ne cfg hji, h]

/-- 一つ目の読みを済ませた `check` は、次に選ばれた一歩で、その時点の割合から答えを決める。 -/
theorem exists_split_checkFraction {i : Nat} {t : TenantId} {L s : ℚ} {r : Result BudgetAction}
    (hi : cfg.threads[i]? = some (.checkFraction t L s)) {sched : List Nat}
    (hr : (cfg.runSchedule sched).threads[i]? = some (.checked r)) :
    ∃ p₂ p₃, sched = p₂ ++ i :: p₃ ∧ i ∉ p₂ ∧
      r = checkAction t L s ((cfg.runSchedule p₂).tracker.budgetRemainingFraction t L) := by
  induction sched generalizing cfg with
  | nil => rw [runSchedule_nil, hi] at hr; cases hr
  | cons j sched ih =>
    by_cases hji : j = i
    · subst hji
      have h := runSchedule_getElem?_of_checked _ (stepThread_getElem?_self cfg hi) sched
      rw [← runSchedule_cons, hr, Option.some.injEq, Pending.checked.injEq] at h
      exact ⟨[], sched, rfl, List.not_mem_nil _, h⟩
    · obtain ⟨p₂, p₃, rfl, hp₂, hr'⟩ := ih _ (by rw [stepThread_getElem?_ne cfg hji, hi]) hr
      exact ⟨j :: p₂, p₃, rfl, fun hm => (List.mem_cons.mp hm).elim (fun e => hji e.symm) hp₂, hr'⟩

/-- 始めていない `check` は、最初に選ばれた一歩で合計を読み、次に選ばれた一歩で答えを決める。 -/
theorem exists_split_check {i : Nat} {t : TenantId} {L : ℚ} {r : Result BudgetAction}
    (hi : cfg.threads[i]? = some (.check t L)) {sched : List Nat}
    (hr : (cfg.runSchedule sched).threads[i]? = some (.checked r)) :
    ∃ p₁ p₂ p₃, sched = p₁ ++ i :: (p₂ ++ i :: p₃) ∧ i ∉ p₁ ∧ i ∉ p₂ ∧
      r = checkAction t L ((cfg.runSchedule p₁).tracker.spentUsd t)
        ((cfg.runSchedule (p₁ ++ i :: p₂)).tracker.budgetRemainingFraction t L) := by
  induction sched generalizing cfg with
  | nil => rw [runSchedule_nil, hi] at hr; cases hr
  | cons j sched ih =>
    by_cases hji : j = i
    · subst hji
      obtain ⟨p₂, p₃, rfl, hp₂, hr'⟩ :=
        exists_split_checkFraction _ (stepThread_getElem?_self cfg hi) hr
      exact ⟨[], p₂, p₃, rfl, List.not_mem_nil _, hp₂, hr'⟩
    · obtain ⟨p₁, p₂, p₃, rfl, hp₁, hp₂, hr'⟩ :=
        ih _ (by rw [stepThread_getElem?_ne cfg hji, hi]) hr
      exact ⟨j :: p₁, p₂, p₃, rfl,
        fun hm => (List.mem_cons.mp hm).elim (fun e => hji e.symm) hp₁, hp₂, hr'⟩

end Config

/--
**`check` は二度読む。** thread `i` の `check(t, L)` が終わったなら、schedule はその二つの一歩で
`p₁ ++ i :: (p₂ ++ i :: p₃)` と分かれる。答えは、二つ目の読みの時点の tracker で `check` を一度に
行った答え `l₂.check t L` と同じである。ただし `l₂.check` が誤りになるときは、答えの
`BudgetExceeded` の `spent_usd` は一つ目の読みの時点の合計 `u₁` である。
-/
theorem check_two_reads (cfg : Config) (sched : List Nat) {i : Nat} {t : TenantId} {L : ℚ}
    {r : Result BudgetAction} (hi : cfg.threads[i]? = some (.check t L))
    (hr : (cfg.runSchedule sched).threads[i]? = some (.checked r)) :
    ∃ p₁ p₂ p₃, sched = p₁ ++ i :: (p₂ ++ i :: p₃) ∧ i ∉ p₁ ∧ i ∉ p₂ ∧
      ∃ u₁, (cfg.runSchedule p₁).tracker.getUsage t = .ok u₁ ∧
        let l₂ : BudgetLimiter := ⟨(cfg.runSchedule (p₁ ++ i :: p₂)).tracker⟩
        ((∀ e, l₂.check t L ≠ .error e) ∧ r = l₂.check t L ∨
          (∃ e, l₂.check t L = .error e) ∧
            r = .error (.budgetExceeded t.toString u₁.totalCostUsd L)) := by
  obtain ⟨p₁, p₂, p₃, rfl, hp₁, hp₂, rfl⟩ := cfg.exists_split_check hi hr
  refine ⟨p₁, p₂, p₃, rfl, hp₁, hp₂, _, CostTracker.getUsage_eq _ t, ?_⟩
  intro l₂
  have hcheck := BudgetLimiter.check_eq_checkAction (l := l₂) (CostTracker.getUsage_eq _ t) L
  by_cases hf : l₂.tracker.budgetRemainingFraction t L ≤ killThreshold
  · exact .inr ⟨⟨_, hcheck.trans (checkAction_of_le _ _ _ hf)⟩, checkAction_of_le _ _ _ hf⟩
  · refine .inl ⟨fun e he => ?_, (hcheck.trans (checkAction_of_not_le _ _ hf _ _)).symm⟩
    rw [hcheck, checkAction, if_neg hf] at he
    split_ifs at he

/-- 例：`check(t, 10)` の二つの読みの間に、`t` の費用 10 の記録が入る。 -/
theorem check_two_reads_record_between :
    let c : LlmCost := ⟨⟨Uuid.nil⟩, 0, 0, 10⟩
    let cfg : Config := ⟨CostTracker.new, [.check ⟨Uuid.nil⟩ 10, .record c]⟩
    let r : Result BudgetAction :=
      checkAction ⟨Uuid.nil⟩ 10 0
        ((CostTracker.new.record c).2.budgetRemainingFraction ⟨Uuid.nil⟩ 10)
    cfg.threads[0]? = some (.check ⟨Uuid.nil⟩ 10) ∧
      (cfg.runSchedule [0, 1, 0]).threads[0]? = some (.checked r) ∧
      ∃ p₁ p₂ p₃, [0, 1, 0] = p₁ ++ 0 :: (p₂ ++ 0 :: p₃) ∧ 0 ∉ p₁ ∧ 0 ∉ p₂ ∧
        ∃ u₁, (cfg.runSchedule p₁).tracker.getUsage ⟨Uuid.nil⟩ = .ok u₁ ∧
          let l₂ : BudgetLimiter := ⟨(cfg.runSchedule (p₁ ++ 0 :: p₂)).tracker⟩
          ((∀ e, l₂.check ⟨Uuid.nil⟩ 10 ≠ .error e) ∧ r = l₂.check ⟨Uuid.nil⟩ 10 ∨
            (∃ e, l₂.check ⟨Uuid.nil⟩ 10 = .error e) ∧
              r = .error (.budgetExceeded (TypedId.toString (⟨Uuid.nil⟩ : TenantId))
                u₁.totalCostUsd 10)) := by
  intro c cfg r
  have hi : cfg.threads[0]? = some (.check ⟨Uuid.nil⟩ 10) := rfl
  have hr : (cfg.runSchedule [0, 1, 0]).threads[0]? = some (.checked r) := rfl
  exact ⟨hi, hr, check_two_reads cfg [0, 1, 0] hi hr⟩

/--
**二つの読みの間の記録。** tenant `t` の合計が `u` で、上限 `L > 0` にまだ届いていない tracker で、
`check(t, L)` の一つ目の読みの後に、合計を `L` 以上にする `t` の `record` が入り、その後で二つ目の
読みが行われると、`check` は止める（`BudgetExceeded`）のに、報告する `spent_usd` は `L` より小さい
`u` の合計である。記録の前に一度に行った `check` は止めず、記録の後に一度に行った `check` は
記録後の合計を報告する。どちらの逐次の実行もこの答えは返さない。
-/
theorem check_torn_read (tr : CostTracker) (t : TenantId) (L : ℚ) (c : LlmCost) {u : TenantUsage}
    (hu : tr.getUsage t = .ok u) (ht : c.tenantId = t) (hL : 0 < L) (hbelow : u.totalCostUsd < L)
    (hcross : L ≤ u.totalCostUsd + c.costUsd) :
    let cfg : Config := ⟨tr, [.check t L, .record c]⟩
    (cfg.runSchedule [0, 1, 0]).threads[0]? =
        some (.checked (.error (.budgetExceeded t.toString u.totalCostUsd L))) ∧
      (∀ e, (⟨tr⟩ : BudgetLimiter).check t L ≠ .error e) ∧
      (⟨(tr.record c).2⟩ : BudgetLimiter).check t L =
        .error (.budgetExceeded t.toString (u.totalCostUsd + c.costUsd) L) := by
  intro cfg
  have hspent : tr.spentUsd t = u.totalCostUsd := by
    rw [CostTracker.getUsage_eq, Except.ok.injEq] at hu; rw [CostTracker.spentUsd, hu]
  have hafter : (tr.record c).2.spentUsd t = u.totalCostUsd + c.costUsd := by
    rw [CostTracker.spentUsd_record, if_pos ht, hspent]
  have hkill : fractionLeft ((tr.record c).2.spentUsd t) L ≤ 0 :=
    (fractionLeft_nonpos_iff _ _).mpr (.inr (hafter ▸ hcross))
  refine ⟨?_, fun e he => ?_, ?_⟩
  · -- 三つの一歩を順に進める。二つ目の読みは記録の後の tracker を読む。
    show some (Pending.checked (checkAction t L (tr.spentUsd t)
      ((tr.record c).2.budgetRemainingFraction t L))) = _
    rw [CostTracker.budgetRemainingFraction_eq, checkAction_of_le _ _ _ hkill, hspent]
  · have := ((check_eq_error_iff hu L e).mp he).1
    rw [fractionLeft_nonpos_iff] at this
    exact this.elim (fun h => absurd hL (not_lt.mpr h)) (fun h => absurd hbelow (not_lt.mpr h))
  · rw [BudgetLimiter.check_eq_checkAction (CostTracker.getUsage_eq _ t),
      CostTracker.budgetRemainingFraction_eq, checkAction_of_le _ _ _ hkill]
    exact congrArg (fun s : ℚ => (.error (.budgetExceeded t.toString s L) : Result BudgetAction))
      hafter

/-- 例：空の tracker で上限 10 の `check` の読みの間に、費用 10 の記録が入る。 -/
theorem check_torn_read_ten :
    let t : TenantId := ⟨Uuid.nil⟩
    let c : LlmCost := ⟨t, 0, 0, 10⟩
    let cfg : Config := ⟨CostTracker.new, [.check t 10, .record c]⟩
    CostTracker.new.getUsage t = .ok .default ∧ c.tenantId = t ∧ (0 : ℚ) < 10 ∧
      TenantUsage.default.totalCostUsd < 10 ∧ 10 ≤ TenantUsage.default.totalCostUsd + c.costUsd ∧
      (cfg.runSchedule [0, 1, 0]).threads[0]? =
          some (.checked
            (.error (.budgetExceeded t.toString TenantUsage.default.totalCostUsd 10))) ∧
        (∀ e, (⟨CostTracker.new⟩ : BudgetLimiter).check t 10 ≠ .error e) ∧
        (⟨(CostTracker.new.record c).2⟩ : BudgetLimiter).check t 10 =
          .error (.budgetExceeded t.toString
            (TenantUsage.default.totalCostUsd + c.costUsd) 10) := by
  intro t c cfg
  have hL : (0 : ℚ) < 10 := by norm_num
  have hbelow : TenantUsage.default.totalCostUsd < 10 := by norm_num [TenantUsage.default]
  have hcross : 10 ≤ TenantUsage.default.totalCostUsd + c.costUsd := by
    norm_num [TenantUsage.default, c]
  exact ⟨rfl, rfl, hL, hbelow, hcross,
    check_torn_read CostTracker.new t 10 c rfl rfl hL hbelow hcross⟩

/-! ## 判断は重くなる一方である -/

namespace Config

variable (cfg : Config)

theorem record_mem_of_costAt {j : Nat} {c : LlmCost} (h : cfg.costAt j = some c) :
    Pending.record c ∈ cfg.threads := by
  obtain ⟨p, hp, hc⟩ := Option.bind_eq_some.mp h
  cases p <;> cases hc
  exact List.getElem?_mem hp

/-- 一歩は記録を待つ thread を新しく作らない。 -/
theorem record_mem_of_mem_stepThread {c : LlmCost} {j : Nat}
    (h : Pending.record c ∈ (cfg.stepThread j).threads) : Pending.record c ∈ cfg.threads := by
  cases hp : cfg.threads[j]? with
  | none => rwa [stepThread_of_getElem?_none cfg hp] at h
  | some p =>
    rw [stepThread_of_getElem? cfg hp] at h
    exact (List.mem_or_eq_of_mem_set h).resolve_right fun e =>
      Option.noConfusion (e ▸ cost?_atomicStep cfg.tracker p : (Pending.record c).cost? = none)

/-- `t` の記録の費用が 0 以上なら、一歩で `t` の合計は減らない。 -/
theorem spentUsd_le_stepThread {t : TenantId}
    (hnn : ∀ c, Pending.record c ∈ cfg.threads → c.tenantId = t → 0 ≤ c.costUsd) (j : Nat) :
    cfg.tracker.spentUsd t ≤ (cfg.stepThread j).tracker.spentUsd t := by
  rw [stepThread_tracker]
  cases hc : cfg.costAt j with
  | none => exact le_refl _
  | some c =>
    show _ ≤ (cfg.tracker.record c).2.spentUsd t
    rw [CostTracker.spentUsd_record]
    split
    · next ht => linarith [hnn c (cfg.record_mem_of_costAt hc) ht]
    · exact le_refl _

/-- 判断の一歩の答えの重さは、その時点の合計で一度に行う `check` の重さである。 -/
theorem severity_of_decision {j : Nat} {d : TenantId × ℚ × Result BudgetAction}
    (h : (cfg.threads[j]?.bind fun p => decisionOf p (atomicStep cfg.tracker p).1) = some d) :
    outcomeSeverity d.2.2 = fractionSeverity (fractionLeft (cfg.tracker.spentUsd d.1) d.2.1) := by
  obtain ⟨p, -, hp⟩ := Option.bind_eq_some.mp h
  cases p with
  | checkFraction t L s =>
    cases hp
    rw [outcomeSeverity_checkAction, CostTracker.budgetRemainingFraction_eq]
  | check t L => simp [atomicStep, CostTracker.getUsage, decisionOf] at hp
  | _ => cases hp

theorem severities_cons (j : Nat) (sched : List Nat) (t : TenantId) (L : ℚ) :
    cfg.severities (j :: sched) t L =
      cfg.severities [j] t L ++ (cfg.stepThread j).severities sched t L := by
  simp only [severities, decisions, List.filterMap_append, List.filterMap_nil, List.append_nil]

/-- 一歩の判断の重さは、その時点の合計で一度に行う `check` の重さである。 -/
theorem eq_of_mem_severities_singleton {j : Nat} {t : TenantId} {L : ℚ} {x : Nat}
    (hx : x ∈ cfg.severities [j] t L) :
    x = fractionSeverity (fractionLeft (cfg.tracker.spentUsd t) L) := by
  simp only [severities, decisions, List.append_nil, List.mem_filterMap, Option.mem_toList] at hx
  obtain ⟨d, hd, hx⟩ := hx
  split at hx
  · next htL =>
    cases hx
    rw [cfg.severity_of_decision hd, htL.1, htL.2]
  · cases hx

/-- 判断はどれも、実行の始めの合計で一度に行う `check` より軽くなく、判断した順に重くなる。 -/
theorem severities_pairwise_and_ge (t : TenantId) (L : ℚ) (sched : List Nat)
    (hnn : ∀ c, Pending.record c ∈ cfg.threads → c.tenantId = t → 0 ≤ c.costUsd) :
    (cfg.severities sched t L).Pairwise (· ≤ ·) ∧
      ∀ x ∈ cfg.severities sched t L,
        fractionSeverity (fractionLeft (cfg.tracker.spentUsd t) L) ≤ x := by
  induction sched generalizing cfg with
  | nil => exact ⟨List.Pairwise.nil, nofun⟩
  | cons j sched ih =>
    obtain ⟨hpw, hge⟩ :=
      ih (cfg.stepThread j) fun c hc => hnn c (cfg.record_mem_of_mem_stepThread hc)
    have hbase : fractionSeverity (fractionLeft (cfg.tracker.spentUsd t) L) ≤
        fractionSeverity (fractionLeft ((cfg.stepThread j).tracker.spentUsd t) L) :=
      fractionSeverity_antitone (fractionLeft_antitone_spent (cfg.spentUsd_le_stepThread hnn j) L)
    rw [severities_cons, List.pairwise_append]
    refine ⟨⟨?_, hpw, fun x hx y hy =>
      (cfg.eq_of_mem_severities_singleton hx).trans_le (hbase.trans (hge y hy))⟩, fun x hx => ?_⟩
    · -- この一歩の判断の重さはどれも等しい。
      exact List.pairwise_of_forall_mem_list fun a ha b hb =>
        ((cfg.eq_of_mem_severities_singleton ha).trans
          (cfg.eq_of_mem_severities_singleton hb).symm).le
    · rcases List.mem_append.mp hx with hx | hx
      · exact (cfg.eq_of_mem_severities_singleton hx).ge
      · exact hbase.trans (hge x hx)

end Config

/--
**判断は緩まない。** 記録を待つ thread のうち tenant `t` のものの費用がどれも 0 以上なら、どの schedule
でも、tenant `t`、上限 `L` についての `check` の判断の重さ（`Allow < Alert < Degrade < 誤り`）は、
判断した順に並べると増える一方である。とくに一度 `BudgetExceeded` を返したら、その後に判断する
`check` はどれも `BudgetExceeded` を返す。
-/
theorem decisions_pairwise_le (cfg : Config) (sched : List Nat) (t : TenantId) (L : ℚ)
    (hnn : ∀ c, Pending.record c ∈ cfg.threads → c.tenantId = t → 0 ≤ c.costUsd) :
    (cfg.severities sched t L).Pairwise (· ≤ ·) :=
  (cfg.severities_pairwise_and_ge t L sched hnn).1

/-- 例：二つの `check(t, 10)` と費用 10 の記録を、判断の前後に記録が入るように進める。 -/
theorem decisions_pairwise_le_two_checks :
    let t : TenantId := ⟨Uuid.nil⟩
    let cfg : Config := ⟨CostTracker.new, [.check t 10, .record ⟨t, 0, 0, 10⟩, .check t 10]⟩
    (∀ c, Pending.record c ∈ cfg.threads → c.tenantId = t → 0 ≤ c.costUsd) ∧
      (cfg.severities [0, 2, 0, 1, 2] t 10).Pairwise (· ≤ ·) := by
  intro t cfg
  have hnn : ∀ c, Pending.record c ∈ cfg.threads → c.tenantId = t → 0 ≤ c.costUsd := by
    intro c hc _
    simp only [cfg, List.mem_cons, reduceCtorEq, Pending.record.injEq, List.mem_singleton,
      false_or, or_false, List.not_mem_nil] at hc
    subst hc
    norm_num
  exact ⟨hnn, decisions_pairwise_le cfg _ t 10 hnn⟩

end Budget

end Aether
