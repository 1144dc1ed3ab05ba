import Aether.Session.Manager

/-!
# 同時に走る呼び出し

`SessionManager` は `DashMap` を持ち、`&self` で呼ばれるので、複数の thread から同時に使える。
`DashMap` の一つの操作（`get`、`insert`、`entry`、`get_mut`、`remove`）は shard の lock の中で
行われ、一つの原子的な一歩になる。

* `add_user_turn` は `entry(k).or_insert_with(..)` が返す参照を持ったまま書き換えるので、
  全体が一歩である。`set_summary`（`get_mut`）、`history_len`（`get`）、`remove` も一歩。
* `get_or_create` だけは二歩である。`get` で引き、外れたら lock を離してから、
  別の一歩で新しい session を `insert` する。`insert` は前の値を上書きする。

thread の列と、どの thread を進めるかの列（schedule）で実行を表す。

主な結果は次のとおり。

* `getOrCreate_race_loses_turn`：`get_or_create` の `get` と `insert` の間に
  `add_user_turn` が入ると、終わった `add_user_turn` の turn が履歴から消える。
  `remove` も、後の turn による押し出しも無い。
* `runSchedule_history_len_eq`：どの schedule のどの時点でも、どの session も履歴の長さが
  `min(2 · turns_since_summary, max_history)` である。`get_or_create` の遅れた `insert` も
  新しい session しか置かないので、競合はこの関係を破らない。
* `runSchedule_historyLen_le`：とくに、どの key の履歴も `max_history` 個以下である。
* `runSchedule_linearizable`：`get_or_create` の遅れた `insert` が既にある session を
  上書きしない実行は、終わった呼び出しを終わった順に逐次に行ったものと同じである。
  答えも最後の表も逐次の実行と一致する。失われる更新は、この上書きからしか生じない。
* `runSchedule_getOrCreate_key`：どの schedule でも、表のどの session も自分の key の文字列の下にあり、
  `get_or_create(k)` が返す session の key は `k` と同じ文字列である。
* `runSchedule_len_le`：どの schedule でも、session があるのは `get_or_create` か `add_user_turn` に
  渡された key の文字列のキーだけで、`len()` はその異なる文字列の数を超えない。
-/

namespace Aether

/-- thread が次に行う原子的な一歩。 -/
inductive Pending where
  /-- まだ始めていない呼び出し。 -/
  | call (c : SessionCall)
  /-- `get_or_create` の `get` が外れ、`insert` が残っている。 -/
  | insertNew (key : SessionKey)
  /-- 終わった呼び出しとその答え。 -/
  | done (r : SessionReply)
  deriving DecidableEq

/-- 表と thread の状態。 -/
structure Config where
  manager : SessionManager
  threads : List Pending

/-- 一つの thread の原子的な一歩。 -/
def atomicStep (m : SessionManager) : Pending → Pending × SessionManager
  | .call (.getOrCreate k) =>
    match m.sessions.get? k.toString with
    | some s => (.done (.session s), m)
    | none => (.insertNew k, m)
  | .call c => ((m.step c).1 |> .done, (m.step c).2)
  | .insertNew k =>
    (.done (.session (Session.new k)),
      { m with sessions := m.sessions.insert k.toString (Session.new k) })
  | .done r => (.done r, m)

/-- thread `i` を一歩進める。終わった thread を選べば何も起きない。 -/
def Config.stepThread (cfg : Config) (i : Nat) : Config :=
  match cfg.threads[i]? with
  | some p =>
    let r := atomicStep cfg.manager p
    { manager := r.2, threads := cfg.threads.set i r.1 }
  | none => cfg

/-- schedule の順に thread を進める。 -/
def Config.runSchedule (cfg : Config) (sched : List Nat) : Config :=
  sched.foldl Config.stepThread cfg

theorem Config.stepThread_of_getElem? {cfg : Config} {i : Nat} {p : Pending}
    (h : cfg.threads[i]? = some p) : (cfg.stepThread i).manager = (atomicStep cfg.manager p).2 := by
  simp [Config.stepThread, h]

theorem Config.stepThread_of_getElem?_none {cfg : Config} {i : Nat} (h : cfg.threads[i]? = none) :
    cfg.stepThread i = cfg := by
  simp [Config.stepThread, h]

/-! ## turn の数と履歴の長さはどの実行でも揃う -/

/-- 原子的な一歩は `Coherent` と上限を保つ。遅れた `insert` が置くのは新しい session である。 -/
theorem coherent_atomicStep {m : SessionManager} (h : m.Coherent) (p : Pending) :
    (atomicStep m p).2.Coherent ∧ (atomicStep m p).2.maxHistory = m.maxHistory := by
  cases p with
  | call c =>
    cases c with
    | getOrCreate k =>
      simp only [atomicStep]
      split <;> exact ⟨h, rfl⟩
    | _ => exact ⟨SessionManager.coherent_step h _, SessionManager.step_maxHistory m _⟩
  | insertNew k =>
    refine ⟨fun q => ?_, rfl⟩
    by_cases hq : k.toString = q
    · simp [atomicStep, hq, Session.coherent_new]
    · simpa [atomicStep, hq] using h q
  | done r => exact ⟨h, rfl⟩

theorem coherent_runSchedule (cfg : Config) (h : cfg.manager.Coherent) (sched : List Nat) :
    (cfg.runSchedule sched).manager.Coherent ∧
      (cfg.runSchedule sched).manager.maxHistory = cfg.manager.maxHistory := by
  induction sched generalizing cfg with
  | nil => exact ⟨h, rfl⟩
  | cons i sched ih =>
    have hstep : (cfg.stepThread i).manager.Coherent ∧
        (cfg.stepThread i).manager.maxHistory = cfg.manager.maxHistory := by
      cases hp : cfg.threads[i]? with
      | none => rw [Config.stepThread_of_getElem?_none hp]; exact ⟨h, rfl⟩
      | some p => rw [Config.stepThread_of_getElem? hp]; exact coherent_atomicStep h p
    obtain ⟨ih₁, ih₂⟩ := ih (cfg.stepThread i) hstep.1
    exact ⟨ih₁, ih₂.trans hstep.2⟩

/--
**turn の数と履歴の長さ。** `SessionManager::new(M)` を任意の数の thread が任意の schedule で
呼び出しても、どの時点でもどの session も、履歴の長さが `min(2 · turns_since_summary, M)` である。
`set_summary` はこの数を 0 に戻さないので、これは要約の後ではなく session ができてからの turn の数である。
-/
theorem runSchedule_history_len_eq (M : Nat) (threads : List Pending) (sched : List Nat)
    (q : String) (s : Session)
    (h : (Config.runSchedule ⟨SessionManager.new M, threads⟩ sched).manager.sessions.get? q = some s) :
    s.history.len = min (2 * s.turnsSinceSummary) M := by
  obtain ⟨hc, hM⟩ := coherent_runSchedule ⟨SessionManager.new M, threads⟩
    (SessionManager.coherent_new M) sched
  have := hc q s h
  rwa [Session.Coherent, hM] at this

/-- 例：一つ目の thread が turn を足し、二つ目の thread が要約を置く。`turns_since_summary` は
要約の後も 1 のままである。 -/
theorem runSchedule_history_len_eq_summary :
    let k := SessionKey.mk ⟨Uuid.nil⟩ ⟨Uuid.nil⟩ "discord" "user42"
    let s : Session := ⟨k, ⟨[⟨.user, "u"⟩, ⟨.assistant, "a"⟩]⟩, some "sum", 1⟩
    (Config.runSchedule ⟨SessionManager.new 100,
        [.call (.addUserTurn k "u" "a"), .call (.setSummary k "sum")]⟩ [0, 1]).manager.sessions.get?
        k.toString = some s ∧
      s.turnsSinceSummary = 1 ∧ s.history.len = min (2 * s.turnsSinceSummary) 100 := by
  intro k s
  have h : (Config.runSchedule ⟨SessionManager.new 100,
      [.call (.addUserTurn k "u" "a"), .call (.setSummary k "sum")]⟩ [0, 1]).manager.sessions.get?
      k.toString = some s := by decide
  exact ⟨h, rfl, runSchedule_history_len_eq 100 _ [0, 1] k.toString s h⟩

/--
**どの実行でも履歴は上限を超えない。** `SessionManager::new(M)` を任意の数の thread が
任意の schedule で呼び出しても、どの時点でもどの key の `history_len` も `M` 以下である。
-/
theorem runSchedule_historyLen_le (M : Nat) (threads : List Pending) (sched : List Nat)
    (k : SessionKey) :
    (Config.runSchedule ⟨SessionManager.new M, threads⟩ sched).manager.historyLen k ≤ M := by
  obtain ⟨hc, hM⟩ := coherent_runSchedule ⟨SessionManager.new M, threads⟩
    (SessionManager.coherent_new M) sched
  unfold SessionManager.historyLen
  cases hs : (Config.runSchedule ⟨SessionManager.new M, threads⟩ sched).manager.sessions.get?
      k.toString with
  | none => exact Nat.zero_le M
  | some s =>
    have := hc _ s hs
    rw [Session.Coherent, hM] at this
    exact this.trans_le (min_le_right _ _)

/-! ## 上書きの無い実行は逐次の実行である -/

/-- 一歩で終わる呼び出しとその答え。`get_or_create` は、`get` が当たった一歩か、
`insert` の一歩で終わる。 -/
def completion (m : SessionManager) : Pending → Option (SessionCall × SessionReply)
  | .call (.getOrCreate k) => (m.sessions.get? k.toString).map fun s => (.getOrCreate k, .session s)
  | .call c => some (c, (m.step c).1)
  | .insertNew k => some (.getOrCreate k, .session (Session.new k))
  | .done _ => none

/-- 一歩が前の session を上書きしないこと：`insert` の時点で key がまだ無い。 -/
def noOverwrite (m : SessionManager) : Pending → Bool
  | .insertNew k => (m.sessions.get? k.toString).isNone
  | _ => true

/-- **一歩の仕様。** 上書きをしない一歩は、終わる呼び出しがあればそれを逐次に一回行ったのと同じで、
無ければ表を変えない。 -/
theorem atomicStep_spec (m : SessionManager) (p : Pending) (h : noOverwrite m p = true) :
    (∀ e, completion m p = some e → e.2 = (m.step e.1).1 ∧ (atomicStep m p).2 = (m.step e.1).2) ∧
      (completion m p = none → (atomicStep m p).2 = m) := by
  cases p with
  | call c =>
    cases c with
    | getOrCreate k =>
      cases hk : m.sessions.get? k.toString with
      | none => simp [completion, atomicStep, hk]
      | some s => simp [completion, atomicStep, hk, SessionManager.step, SessionManager.getOrCreate]
    | _ => simp [completion, atomicStep]
  | insertNew k =>
    simp only [noOverwrite, Option.isNone_iff_eq_none] at h
    simp [completion, atomicStep, SessionManager.step, SessionManager.getOrCreate, h]
  | done r => simp [completion, atomicStep]

/-- schedule の順に終わった呼び出しとその答え。 -/
def Config.completions (cfg : Config) : List Nat → List (SessionCall × SessionReply)
  | [] => []
  | i :: sched =>
    (cfg.threads[i]?.bind (completion cfg.manager)).toList ++ (cfg.stepThread i).completions sched

/-- schedule のどの一歩も上書きをしないこと。 -/
def Config.noLostInsert (cfg : Config) : List Nat → Bool
  | [] => true
  | i :: sched => (cfg.threads[i]?.all (noOverwrite cfg.manager)) && (cfg.stepThread i).noLostInsert sched

/--
**線形化。** どの一歩も上書きをしない schedule では、終わった呼び出しを終わった順に並べた列 `es` を
逐次に行うと、同じ答えの列 `es` が得られ、同じ表に行き着く。
-/
theorem runSchedule_linearizable (cfg : Config) (sched : List Nat)
    (h : cfg.noLostInsert sched = true) :
    cfg.manager.trace ((cfg.completions sched).map Prod.fst) = cfg.completions sched ∧
      (cfg.runSchedule sched).manager = cfg.manager.run ((cfg.completions sched).map Prod.fst) := by
  induction sched generalizing cfg with
  | nil => exact ⟨rfl, rfl⟩
  | cons i sched ih =>
    simp only [Config.noLostInsert, Bool.and_eq_true] at h
    obtain ⟨ih₁, ih₂⟩ := ih (cfg.stepThread i) h.2
    rw [show cfg.runSchedule (i :: sched) = (cfg.stepThread i).runSchedule sched from rfl]
    simp only [Config.completions]
    cases hp : cfg.threads[i]? with
    | none =>
      rw [Config.stepThread_of_getElem?_none hp] at ih₁ ih₂ ⊢
      simpa using ⟨ih₁, ih₂⟩
    | some p =>
      have hstep := Config.stepThread_of_getElem? hp
      obtain ⟨hdone, hnone⟩ := atomicStep_spec cfg.manager p (by simpa [hp] using h.1)
      simp only [Option.some_bind]
      cases he : completion cfg.manager p with
      | none =>
        rw [hstep, hnone he] at ih₁ ih₂
        simpa using ⟨ih₁, ih₂⟩
      | some e =>
        obtain ⟨hreply, hman⟩ := hdone e he
        rw [hstep, hman] at ih₁ ih₂
        refine ⟨?_, ih₂⟩
        simp only [Option.toList_some, List.cons_append, List.append_eq, List.nil_append,
          List.map_cons, SessionManager.trace, ih₁, ← hreply]

/-- 例：`get_or_create(k)` の `get` が外れた後に `history_len(k)` が走り、その後で `insert` が走る。
`insert` の時点で key はまだ無いので上書きは無く、`history_len` を先に、`get_or_create` を後に
逐次に行ったのと同じになる。 -/
theorem runSchedule_linearizable_late_insert :
    let k := SessionKey.mk ⟨Uuid.nil⟩ ⟨Uuid.nil⟩ "discord" "user42"
    let cfg : Config := ⟨SessionManager.new 100, [.call (.getOrCreate k), .call (.historyLen k)]⟩
    cfg.noLostInsert [0, 1, 0] = true ∧
      cfg.manager.trace ((cfg.completions [0, 1, 0]).map Prod.fst) = cfg.completions [0, 1, 0] ∧
      (cfg.runSchedule [0, 1, 0]).manager =
        cfg.manager.run ((cfg.completions [0, 1, 0]).map Prod.fst) := by
  intro k cfg
  have h : cfg.noLostInsert [0, 1, 0] = true := by decide
  exact ⟨h, runSchedule_linearizable cfg [0, 1, 0] h⟩

/-! ## 失われる更新 -/

/--
**`get_or_create` の競合は終わった turn を消す。**

thread 0 が `get_or_create(k)`、thread 1 が `add_user_turn(k, "hello", "hi there")` を行う。
thread 0 の `get` が外れた後に thread 1 が一歩で session を作って turn を足し、終わる。
その時点の履歴には turn がある。続いて thread 0 が新しい空の session を `insert` すると、
二つの呼び出しはどちらも終わっているのに、履歴は空になる。
-/
theorem getOrCreate_race_loses_turn :
    let k : SessionKey := SessionKey.mk ⟨Uuid.nil⟩ ⟨Uuid.nil⟩ "discord" "user42"
    let cfg : Config := ⟨SessionManager.new 100,
      [.call (.getOrCreate k), .call (.addUserTurn k "hello" "hi there")]⟩
    (cfg.runSchedule [0, 1]).threads[1]? = some (.done .unit) ∧
      SessionManager.heldHistory (cfg.runSchedule [0, 1]).manager k.toString =
        [⟨.user, "hello"⟩, ⟨.assistant, "hi there"⟩] ∧
      (cfg.runSchedule [0, 1, 0]).threads = [.done (.session (Session.new k)), .done .unit] ∧
      SessionManager.heldHistory (cfg.runSchedule [0, 1, 0]).manager k.toString = [] := by
  decide

/-- この実行の三歩目の `insert` は、`add_user_turn` の作った session を上書きする。 -/
example :
    let k := SessionKey.mk ⟨Uuid.nil⟩ ⟨Uuid.nil⟩ "discord" "user42"
    let cfg : Config := ⟨SessionManager.new 100,
      [.call (.getOrCreate k), .call (.addUserTurn k "hello" "hi there")]⟩
    cfg.noLostInsert [0, 1] = true ∧ cfg.noLostInsert [0, 1, 0] = false := by
  decide

/-! ## `get_or_create` は自分の key の文字列の session を返す -/

/-- `get_or_create(k)` の thread が取りうる状態：まだ始めていないか、`insert` が残っているか、
`k` と同じ文字列の key の session を返して終わったか。 -/
def GetOrCreateState (k : SessionKey) : Pending → Prop
  | .call c => c = .getOrCreate k
  | .insertNew k' => k' = k
  | .done r => ∃ s, r = .session s ∧ s.key.toString = k.toString

theorem Config.stepThread_threads_of_getElem? {cfg : Config} {i : Nat} {p : Pending}
    (h : cfg.threads[i]? = some p) :
    (cfg.stepThread i).threads = cfg.threads.set i (atomicStep cfg.manager p).1 := by
  simp [Config.stepThread, h]

/-- 原子的な一歩は `KeysMatch` を保つ。遅れた `insert` も `k` の session を `k` の文字列の下に置く。 -/
theorem keysMatch_atomicStep {m : SessionManager} (h : m.KeysMatch) (p : Pending) :
    (atomicStep m p).2.KeysMatch := by
  cases p with
  | call c =>
    cases c with
    | getOrCreate k => simp only [atomicStep]; split <;> exact h
    | _ => exact SessionManager.keysMatch_step h _
  | insertNew k =>
    intro q
    by_cases hq : k.toString = q
    · simp [atomicStep, hq, Session.new]
    · simpa [atomicStep, hq] using h q
  | done r => exact h

/-- `get_or_create(k)` の thread の一歩。`get` が見つけた session は、`KeysMatch` により
`k` と同じ文字列の key を持つ。 -/
theorem getOrCreateState_atomicStep {m : SessionManager} (h : m.KeysMatch) {k : SessionKey}
    {p : Pending} (hp : GetOrCreateState k p) : GetOrCreateState k (atomicStep m p).1 := by
  cases p with
  | call c =>
    obtain rfl : c = .getOrCreate k := hp
    simp only [atomicStep]
    split
    · next s hs => exact ⟨s, rfl, h _ s hs⟩
    · rfl
  | insertNew k' =>
    obtain rfl : k' = k := hp
    exact ⟨_, rfl, rfl⟩
  | done r => exact hp

/-- thread を一つ進めても、表は `KeysMatch` を保ち、`get_or_create(k)` の thread は
`GetOrCreateState k` にある。 -/
theorem getOrCreateState_stepThread (cfg : Config) (h : cfg.manager.KeysMatch) {i : Nat}
    {k : SessionKey} {p : Pending} (hi : cfg.threads[i]? = some p) (hp : GetOrCreateState k p)
    (j : Nat) :
    (cfg.stepThread j).manager.KeysMatch ∧
      ∃ p', (cfg.stepThread j).threads[i]? = some p' ∧ GetOrCreateState k p' := by
  cases hj : cfg.threads[j]? with
  | none => rw [Config.stepThread_of_getElem?_none hj]; exact ⟨h, p, hi, hp⟩
  | some pj =>
    rw [Config.stepThread_of_getElem? hj, Config.stepThread_threads_of_getElem? hj]
    refine ⟨keysMatch_atomicStep h pj, ?_⟩
    by_cases hji : j = i
    · subst hji
      obtain rfl : pj = p := Option.some.inj (hj.symm.trans hi)
      exact ⟨_, List.getElem?_set_self (List.getElem?_eq_some_iff.mp hj).1,
        getOrCreateState_atomicStep h hp⟩
    · exact ⟨p, by rw [List.getElem?_set_ne hji, hi], hp⟩

theorem getOrCreateState_runSchedule (cfg : Config) (h : cfg.manager.KeysMatch) {i : Nat}
    {k : SessionKey} {p : Pending} (hi : cfg.threads[i]? = some p) (hp : GetOrCreateState k p)
    (sched : List Nat) :
    (cfg.runSchedule sched).manager.KeysMatch ∧
      ∃ p', (cfg.runSchedule sched).threads[i]? = some p' ∧ GetOrCreateState k p' := by
  induction sched generalizing cfg p with
  | nil => exact ⟨h, p, hi, hp⟩
  | cons j sched ih =>
    obtain ⟨hm, p', hp', hs'⟩ := getOrCreateState_stepThread cfg h hi hp j
    exact ih _ hm hp' hs'

/--
**session は自分の key の文字列の下にある。** `SessionManager::new(M)` を任意の数の thread が
任意の schedule で呼び出しても、どの時点でも表のどの session も自分の key の文字列の下にあり、
`get_or_create(k)` を終えた thread が受け取った session の key は `k` と同じ文字列である。
遅れた `insert` が上書きする実行でも変わらない。ただし文字列の等しい別の key の session を
受け取ることはある。
-/
theorem runSchedule_getOrCreate_key (M : Nat) (threads : List Pending) (sched : List Nat)
    {i : Nat} {k : SessionKey} {s : Session} (hi : threads[i]? = some (.call (.getOrCreate k)))
    (hs : (Config.runSchedule ⟨SessionManager.new M, threads⟩ sched).threads[i]? =
      some (.done (.session s))) :
    s.key.toString = k.toString ∧
      ∀ q, ∀ s' ∈
        (Config.runSchedule ⟨SessionManager.new M, threads⟩ sched).manager.sessions.get? q,
          s'.key.toString = q := by
  obtain ⟨hkeys, p, hp, hstate⟩ :=
    getOrCreateState_runSchedule ⟨SessionManager.new M, threads⟩ (SessionManager.keysMatch_new M)
      hi rfl sched
  obtain rfl : p = .done (.session s) := Option.some.inj (hp.symm.trans hs)
  obtain ⟨s', hs', hkey⟩ := hstate
  cases hs'
  exact ⟨hkey, hkeys⟩

/-- 例：文字列の等しい二つの key。`k₁` の thread が作った session を、`k₂` の `get_or_create` が受け取る。 -/
theorem runSchedule_getOrCreate_key_collision :
    let k₁ := SessionKey.mk ⟨Uuid.nil⟩ ⟨Uuid.nil⟩ "x" "y:peer:z"
    let k₂ := SessionKey.mk ⟨Uuid.nil⟩ ⟨Uuid.nil⟩ "x:peer:y" "z"
    let threads : List Pending := [.call (.getOrCreate k₁), .call (.getOrCreate k₂)]
    threads[1]? = some (.call (.getOrCreate k₂)) ∧
      (Config.runSchedule ⟨SessionManager.new 10, threads⟩ [0, 0, 1]).threads[1]? =
        some (.done (.session (Session.new k₁))) ∧
      (Session.new k₁).key ≠ k₂ ∧ (Session.new k₁).key.toString = k₂.toString ∧
      ∀ q, ∀ s' ∈
        (Config.runSchedule ⟨SessionManager.new 10, threads⟩ [0, 0, 1]).manager.sessions.get? q,
          s'.key.toString = q := by
  intro k₁ k₂ threads
  have hk : k₁.toString = k₂.toString := by decide
  have hi : threads[1]? = some (.call (.getOrCreate k₂)) := rfl
  have hs : (Config.runSchedule ⟨SessionManager.new 10, threads⟩ [0, 0, 1]).threads[1]? =
      some (.done (.session (Session.new k₁))) := by
    simp [threads, Config.runSchedule, Config.stepThread, atomicStep, SessionManager.new, hk]
  have hne : (Session.new k₁).key ≠ k₂ := by decide
  exact ⟨hi, hs, hne, runSchedule_getOrCreate_key 10 threads [0, 0, 1] hi hs⟩

/-! ## session の数はキーの数を超えない -/

/-- thread が表に置きうる session のキー。`get_or_create` は `insert` を残している間も同じキーを持つ。 -/
def Pending.createKey? : Pending → Option String
  | .call c => c.createKey?
  | .insertNew k => some k.toString
  | .done _ => none

/-- 一歩の後の thread が置きうるキーは、前から置きえたキーである。 -/
theorem createKey?_atomicStep (m : SessionManager) (p : Pending) :
    ∀ q ∈ (atomicStep m p).1.createKey?, q ∈ p.createKey? := by
  cases p with
  | call c =>
    cases c with
    | getOrCreate k =>
      simp only [atomicStep]; split <;> simp [Pending.createKey?, SessionCall.createKey?]
    | _ => nofun
  | _ => nofun

/-- 一歩の後に session のあるキーは、前からあったか、進めた thread が置きえたキーである。 -/
theorem isSome_get?_atomicStep {m : SessionManager} {p : Pending} {q : String}
    (h : ((atomicStep m p).2.sessions.get? q).isSome) :
    (m.sessions.get? q).isSome ∨ q ∈ p.createKey? := by
  cases p with
  | call c =>
    cases c with
    | getOrCreate k => simp only [atomicStep] at h; split at h <;> exact .inl h
    | _ => exact SessionManager.isSome_get?_step h
  | insertNew k =>
    by_cases hq : k.toString = q
    · exact .inr (congrArg some hq)
    · exact .inl (by simpa [atomicStep, hq] using h)
  | done r => exact .inl h

/-- 表のキーも、thread がこれから置きうるキーも、`S` の中にある。 -/
def Config.KeysWithin (cfg : Config) (S : List String) : Prop :=
  (∀ q, (cfg.manager.sessions.get? q).isSome → q ∈ S) ∧ ∀ p ∈ cfg.threads, ∀ q ∈ p.createKey?, q ∈ S

theorem keysWithin_stepThread {cfg : Config} {S : List String} (h : cfg.KeysWithin S) (j : Nat) :
    (cfg.stepThread j).KeysWithin S := by
  cases hj : cfg.threads[j]? with
  | none => rwa [Config.stepThread_of_getElem?_none hj]
  | some p =>
    have hp : ∀ q ∈ p.createKey?, q ∈ S := h.2 p (List.getElem?_mem hj)
    refine ⟨fun q hq => ?_, fun p' hp' q hq => ?_⟩
    · rw [Config.stepThread_of_getElem? hj] at hq
      exact (isSome_get?_atomicStep hq).elim (h.1 q) (hp q)
    · rw [Config.stepThread_threads_of_getElem? hj] at hp'
      rcases List.mem_or_eq_of_mem_set hp' with hp' | rfl
      · exact h.2 p' hp' q hq
      · exact hp q (createKey?_atomicStep _ _ q hq)

theorem keysWithin_runSchedule {cfg : Config} {S : List String} (h : cfg.KeysWithin S)
    (sched : List Nat) : (cfg.runSchedule sched).KeysWithin S := by
  induction sched generalizing cfg with
  | nil => exact h
  | cons j sched ih => exact ih (keysWithin_stepThread h j)

/--
**session の数の上限。** `SessionManager::new(M)` を任意の数の thread が任意の schedule で
呼び出しても、どの時点でも session があるのは、どれかの thread の `get_or_create` か
`add_user_turn` に渡された key の文字列のキーだけである。`set_summary`、`history_len`、`remove` は
session を作らない。したがって `len()` は、それらの key の異なる文字列の数を超えない。
遅れた `insert` が上書きしても数は増えない。
-/
theorem runSchedule_len_le (M : Nat) (threads : List Pending) (sched : List Nat) :
    let m : SessionManager := (Config.runSchedule ⟨SessionManager.new M, threads⟩ sched).manager
    (∀ q, (m.sessions.get? q).isSome → q ∈ threads.filterMap Pending.createKey?) ∧
      m.len ≤ (threads.filterMap Pending.createKey?).dedup.length := by
  intro m
  have h₀ :
      Config.KeysWithin ⟨SessionManager.new M, threads⟩ (threads.filterMap Pending.createKey?) :=
    ⟨by simp [SessionManager.new], fun p hp q hq => List.mem_filterMap.mpr ⟨p, hp, hq⟩⟩
  have h := (keysWithin_runSchedule h₀ sched).1
  exact ⟨h, KeyMap.length_entries_le h⟩

end Aether
