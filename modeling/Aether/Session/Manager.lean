import Aether.Core.KeyMap
import Aether.Session.History
import Aether.Session.Keys

/-!
# session の管理

`aether-session/src/manager.rs` の `SessionManager` である。session は `DashMap<String, Session>` に
`key.to_string()` をキーとして置かれる。ここでは呼び出しを一つずつ順に行う実行を扱う
（同時に走る呼び出しの交錯は `Concurrent` で扱う）。

## 一歩が何をするか

どの呼び出しも、自分の key の文字列のキーの session だけを読み書きする。`SessionCall.apply` が
その作用を「前の session（無ければ `none`）から、返す値と後の session へ」の関数として一度だけ書き、
`step_spec` がそれを `step` につなぐ。二つの主な結果はどちらもここから出る。

* `trace_filter_key_of_toString_ne`：文字列の異なる key の呼び出しを消しても、
  ある key の呼び出しの答えはどの時点でも変わらない。
* `heldHistory_run`：どの key の履歴も、最後の `remove` 以後にその文字列の key に足された
  turn の message の、最後の `max_history` 個である。
-/

namespace Aether

/-- `Session`。 -/
structure Session where
  key : SessionKey
  history : ConversationHistory
  summary : Option String
  turnsSinceSummary : Nat
  deriving DecidableEq

/-- `Session::new(key)`。 -/
def Session.new (key : SessionKey) : Session := ⟨key, ConversationHistory.new, none, 0⟩

/-- `add_user_turn` が `entry` を持ったまま行う書き換え。 -/
def Session.addTurn (maxHistory : Nat) (s : Session) (user assistant : String) : Session :=
  let s := { s with history := (s.history.addUser user).addAssistant assistant,
                    turnsSinceSummary := s.turnsSinceSummary + 1 }
  if s.history.len > maxHistory then { s with history := s.history.truncateToLast maxHistory } else s

/-- `SessionManager`。 -/
structure SessionManager where
  sessions : KeyMap Session
  maxHistory : Nat

namespace SessionManager

/-- `SessionManager::new(max_history)`。 -/
def new (maxHistory : Nat) : SessionManager := ⟨KeyMap.empty, maxHistory⟩

/-- `get_or_create`：見つかればその複製を返し、無ければ新しい session を `insert` する。 -/
def getOrCreate (m : SessionManager) (key : SessionKey) : Session × SessionManager :=
  match m.sessions.get? key.toString with
  | some s => (s, m)
  | none => (Session.new key, { m with sessions := m.sessions.insert key.toString (Session.new key) })

/-- `add_user_turn`：`entry(k).or_insert_with(..)` の中で二つの message を足し、長すぎれば切る。 -/
def addUserTurn (m : SessionManager) (key : SessionKey) (user assistant : String) : SessionManager :=
  { m with sessions := m.sessions.upsert key.toString fun o =>
      (o.getD (Session.new key)).addTurn m.maxHistory user assistant }

/-- `set_summary`：`get_mut` で見つかったときだけ要約を置く。 -/
def setSummary (m : SessionManager) (key : SessionKey) (summary : String) : SessionManager :=
  { m with sessions := m.sessions.modify key.toString fun s => { s with summary := some summary } }

/-- `history_len`。 -/
def historyLen (m : SessionManager) (key : SessionKey) : Nat :=
  ((m.sessions.get? key.toString).map (·.history.len)).getD 0

/-- `remove`。 -/
def remove (m : SessionManager) (key : SessionKey) : SessionManager :=
  { m with sessions := m.sessions.erase key.toString }

/-- `len()`：session の数。 -/
def len (m : SessionManager) : Nat := m.sessions.entries.length

end SessionManager

/-! ## 呼び出しの列 -/

/-- 管理者への一回の呼び出し。 -/
inductive SessionCall where
  | getOrCreate (key : SessionKey)
  | addUserTurn (key : SessionKey) (user assistant : String)
  | setSummary (key : SessionKey) (summary : String)
  | historyLen (key : SessionKey)
  | remove (key : SessionKey)
  deriving DecidableEq

/-- 呼び出しの答え。 -/
inductive SessionReply where
  | session (s : Session)
  | len (n : Nat)
  | unit
  deriving DecidableEq

/-- 呼び出しが使う key。 -/
def SessionCall.key : SessionCall → SessionKey
  | .getOrCreate k | .addUserTurn k _ _ | .setSummary k _ | .historyLen k | .remove k => k

/-- 一つの呼び出しの作用：自分のキーの前の session から、答えと後の session を作る。 -/
def SessionCall.apply (maxHistory : Nat) : SessionCall → Option Session → SessionReply × Option Session
  | .getOrCreate key, o =>
    match o with
    | some s => (.session s, some s)
    | none => (.session (Session.new key), some (Session.new key))
  | .addUserTurn key u a, o =>
    (.unit, some ((o.getD (Session.new key)).addTurn maxHistory u a))
  | .setSummary _ s, o => (.unit, o.map fun x => { x with summary := some s })
  | .historyLen _, o => (.len ((o.map (·.history.len)).getD 0), o)
  | .remove _, _ => (.unit, none)

namespace SessionManager

/-- 一回の呼び出し。 -/
def step (m : SessionManager) : SessionCall → SessionReply × SessionManager
  | .getOrCreate k => let r := m.getOrCreate k; (.session r.1, r.2)
  | .addUserTurn k u a => (.unit, m.addUserTurn k u a)
  | .setSummary k s => (.unit, m.setSummary k s)
  | .historyLen k => (.len (m.historyLen k), m)
  | .remove k => (.unit, m.remove k)

/-- 呼び出しを順に行った後の管理者。 -/
def run (m : SessionManager) (calls : List SessionCall) : SessionManager :=
  calls.foldl (fun m c => (m.step c).2) m

/-- 呼び出しとその答えの列。 -/
def trace : SessionManager → List SessionCall → List (SessionCall × SessionReply)
  | _, [] => []
  | m, c :: cs => (c, (m.step c).1) :: trace (m.step c).2 cs

@[simp] theorem getOrCreate_maxHistory (m : SessionManager) (k : SessionKey) :
    (m.getOrCreate k).2.maxHistory = m.maxHistory := by
  unfold getOrCreate; split <;> rfl

@[simp] theorem step_maxHistory (m : SessionManager) (c : SessionCall) :
    (m.step c).2.maxHistory = m.maxHistory := by
  cases c <;> simp [step, addUserTurn, setSummary, remove]

/-- **一歩の仕様。** 答えは自分のキーの session だけで決まり、書き換わるのも自分のキーだけである。 -/
theorem step_spec (m : SessionManager) (c : SessionCall) :
    (m.step c).1 = (c.apply m.maxHistory (m.sessions.get? c.key.toString)).1 ∧
      ∀ q, (m.step c).2.sessions.get? q =
        if c.key.toString = q then (c.apply m.maxHistory (m.sessions.get? c.key.toString)).2
        else m.sessions.get? q := by
  cases c with
  | getOrCreate k =>
    simp only [step, getOrCreate, SessionCall.apply, SessionCall.key]
    cases h : m.sessions.get? k.toString with
    | none => simp
    | some s =>
      refine ⟨rfl, fun q => ?_⟩
      by_cases hq : k.toString = q
      · subst hq; simp [h]
      · simp [hq]
  | addUserTurn k u a => simp [step, addUserTurn, SessionCall.apply, SessionCall.key]
  | setSummary k s => simp [step, setSummary, SessionCall.apply, SessionCall.key]
  | historyLen k =>
    refine ⟨rfl, fun q => ?_⟩
    by_cases h : k.toString = q <;> simp [step, SessionCall.apply, SessionCall.key, h]
  | remove k => simp [step, remove, SessionCall.apply, SessionCall.key]

end SessionManager

/-! ## 文字列の異なる key は互いに見えない -/

namespace SessionManager

/-- 二つの管理者で、キー `q` の session と上限が等しい。 -/
def AgreeAt (q : String) (m m' : SessionManager) : Prop :=
  m.maxHistory = m'.maxHistory ∧ m.sessions.get? q = m'.sessions.get? q

/-- 文字列が `q` でない key の呼び出しは、キー `q` の session を変えない。 -/
theorem agreeAt_step_left {q : String} {m m' : SessionManager} {c : SessionCall}
    (hc : c.key.toString ≠ q) (h : AgreeAt q m m') : AgreeAt q (m.step c).2 m' :=
  ⟨by rw [step_maxHistory]; exact h.1, by rw [(step_spec m c).2, if_neg hc]; exact h.2⟩

/-- キー `q` で一致する二つの管理者に同じ呼び出しをすると、キー `q` では一致したままで、
その呼び出しが `q` のものなら答えも等しい。 -/
theorem agreeAt_step {q : String} {m m' : SessionManager} (c : SessionCall) (h : AgreeAt q m m') :
    AgreeAt q (m.step c).2 (m'.step c).2 ∧
      (c.key.toString = q → (m.step c).1 = (m'.step c).1) := by
  obtain ⟨hr, hs⟩ := step_spec m c
  obtain ⟨hr', hs'⟩ := step_spec m' c
  refine ⟨⟨by simp only [step_maxHistory]; exact h.1, ?_⟩, fun hq => ?_⟩
  · rw [hs, hs']
    split
    · next hq => rw [hq, h.1, h.2]
    · exact h.2
  · rw [hr, hr', hq, h.1, h.2]

theorem trace_filter_of_agreeAt (k₁ k₂ : SessionKey) (h : k₁.toString ≠ k₂.toString) :
    ∀ (calls : List SessionCall) (m m' : SessionManager), AgreeAt k₂.toString m m' →
      (m.trace calls).filter (fun p => p.1.key = k₂) =
        (m'.trace (calls.filter fun c => c.key ≠ k₁)).filter (fun p => p.1.key = k₂)
  | [], _, _, _ => rfl
  | c :: cs, m, m', hm => by
    by_cases h₁ : c.key = k₁
    · have hne : c.key ≠ k₂ := fun e => h (h₁ ▸ e ▸ rfl)
      rw [trace, List.filter_cons_of_neg (by simpa using hne), List.filter_cons_of_neg (by simpa using h₁)]
      exact trace_filter_of_agreeAt k₁ k₂ h cs _ _ (agreeAt_step_left (h₁ ▸ h) hm)
    · rw [List.filter_cons_of_pos (by simpa using h₁), trace, trace]
      have ⟨hagree, hreply⟩ := agreeAt_step c hm
      have ih := trace_filter_of_agreeAt k₁ k₂ h cs _ _ hagree
      by_cases h₂ : c.key = k₂
      · rw [List.filter_cons_of_pos (by simpa using h₂), List.filter_cons_of_pos (by simpa using h₂),
          hreply (by rw [h₂]), ih]
      · rw [List.filter_cons_of_neg (by simpa using h₂), List.filter_cons_of_neg (by simpa using h₂), ih]

/--
**文字列の異なる key の分離。**

key `k₁` と `k₂` の文字列が異なれば、どの呼び出しの列からも `k₁` の呼び出しをすべて消して、
`k₂` の呼び出し（`get_or_create(k₂)` と `history_len(k₂)` を含む）の答えはどの時点でも変わらない。
出発点の管理者は任意である。
-/
theorem trace_filter_key_of_toString_ne (m : SessionManager) (calls : List SessionCall)
    (k₁ k₂ : SessionKey) (h : k₁.toString ≠ k₂.toString) :
    (m.trace calls).filter (fun p => p.1.key = k₂) =
      (m.trace (calls.filter fun c => c.key ≠ k₁)).filter (fun p => p.1.key = k₂) :=
  trace_filter_of_agreeAt k₁ k₂ h calls m m ⟨rfl, rfl⟩

/-- 例：文字列の異なる二つの key。`k₁` の `add_user_turn` を消しても `k₂` の答えは変わらない。 -/
theorem trace_filter_key_distinct :
    let k₁ := SessionKey.mk ⟨Uuid.nil⟩ ⟨Uuid.nil⟩ "x" "p"
    let k₂ := SessionKey.mk ⟨Uuid.nil⟩ ⟨Uuid.nil⟩ "y" "p"
    let calls := [SessionCall.addUserTurn k₁ "u" "a", SessionCall.historyLen k₂]
    k₁.toString ≠ k₂.toString ∧
      ((new 100).trace calls).filter (fun p => p.1.key = k₂) =
        ((new 100).trace (calls.filter fun c => c.key ≠ k₁)).filter (fun p => p.1.key = k₂) := by
  intro k₁ k₂ calls
  have h : k₁.toString ≠ k₂.toString := by decide
  exact ⟨h, trace_filter_key_of_toString_ne _ calls k₁ k₂ h⟩

/-- 文字列の等しい二つの異なる key は同じ session を共有する。`k₁` の `add_user_turn` を消すと、
`history_len(k₂)` の答えが 2 から 0 に変わる。 -/
theorem trace_filter_key_collision :
    let k₁ := SessionKey.mk ⟨Uuid.nil⟩ ⟨Uuid.nil⟩ "x" "y:peer:z"
    let k₂ := SessionKey.mk ⟨Uuid.nil⟩ ⟨Uuid.nil⟩ "x:peer:y" "z"
    let calls := [SessionCall.addUserTurn k₁ "u" "a", SessionCall.historyLen k₂]
    k₁ ≠ k₂ ∧
      ((new 100).trace calls).filter (fun p => p.1.key = k₂) = [(.historyLen k₂, .len 2)] ∧
      ((new 100).trace (calls.filter fun c => c.key ≠ k₁)).filter (fun p => p.1.key = k₂) =
        [(.historyLen k₂, .len 0)] := by
  decide

/-! ## 履歴の窓 -/

/-- キー `q` の session の履歴。session が無ければ空。 -/
def heldHistory (m : SessionManager) (q : String) : List MemoryMessage :=
  ((m.sessions.get? q).map (·.history.messages)).getD []

/-- `history_len(k)` は `k` の文字列のキーの履歴の長さである。 -/
theorem historyLen_eq_length_heldHistory (m : SessionManager) (k : SessionKey) :
    m.historyLen k = (heldHistory m k.toString).length := by
  simp only [historyLen, heldHistory]
  cases m.sessions.get? k.toString <;> rfl

/-- 呼び出しを一つ見て、文字列が `q` の key に足された turn の列を進める。`remove` で空に戻る。 -/
def turnsStep (q : String) (acc : List (String × String)) : SessionCall → List (String × String)
  | .addUserTurn k u a => if k.toString = q then acc ++ [(u, a)] else acc
  | .remove k => if k.toString = q then [] else acc
  | _ => acc

/-- 最後の `remove` 以後に、文字列が `q` の key に足された turn。 -/
def turnsSince (q : String) (calls : List SessionCall) : List (String × String) :=
  calls.foldl (turnsStep q) []

/-- turn の message の列 `[User u₁, Assistant a₁, …, User uₙ, Assistant aₙ]`。 -/
def turnMessages (ts : List (String × String)) : List MemoryMessage :=
  ts.flatMap fun t => [⟨.user, t.1⟩, ⟨.assistant, t.2⟩]

/-- 一つの turn を足した session の履歴は、足した後の最後の `max_history` 個である。 -/
theorem addTurn_history (M : Nat) (s : Session) (u a : String) :
    (s.addTurn M u a).history.messages =
      lastN M (s.history.messages ++ [⟨.user, u⟩, ⟨.assistant, a⟩]) := by
  simp only [Session.addTurn, ConversationHistory.len, ConversationHistory.addAssistant_messages,
    ConversationHistory.addUser_messages, List.append_assoc, List.singleton_append]
  split
  · simp
  · next h => simpa using (lastN_of_length_le (Nat.le_of_not_lt h)).symm

end SessionManager

/-! ## turn の数と履歴の長さ

`add_user_turn` は二つの message を足して `turns_since_summary` を一つ増やし、長すぎれば切る。
ほかの呼び出しはこの二つを変えないか、session を新しくする。したがってどの session でも
履歴の長さは `min(2 · turns_since_summary, max_history)` である。`set_summary` も
`turns_since_summary` を 0 に戻さない。
-/

/-- 履歴の長さが `min(2 · turns_since_summary, max_history)` である。 -/
def Session.Coherent (maxHistory : Nat) (s : Session) : Prop :=
  s.history.len = min (2 * s.turnsSinceSummary) maxHistory

@[simp] theorem Session.addTurn_turnsSinceSummary (M : Nat) (s : Session) (u a : String) :
    (s.addTurn M u a).turnsSinceSummary = s.turnsSinceSummary + 1 := by
  unfold Session.addTurn; dsimp only; split <;> rfl

theorem Session.coherent_new (M : Nat) (k : SessionKey) : (Session.new k).Coherent M := by
  simp [Session.Coherent, Session.new, ConversationHistory.new, ConversationHistory.len]

theorem Session.coherent_addTurn {M : Nat} {s : Session} (h : s.Coherent M) (u a : String) :
    (s.addTurn M u a).Coherent M := by
  unfold Session.Coherent ConversationHistory.len at *
  rw [SessionManager.addTurn_history, length_lastN, List.length_append, h,
    Session.addTurn_turnsSinceSummary, List.length_cons, List.length_cons, List.length_nil]
  omega

/-- 自分のキーの session への作用は `Coherent` を保つ。 -/
theorem SessionCall.apply_coherent (M : Nat) (c : SessionCall) {o : Option Session}
    (h : ∀ s ∈ o, s.Coherent M) : ∀ s ∈ (c.apply M o).2, s.Coherent M := by
  cases c with
  | getOrCreate k =>
    cases o with
    | none => rintro s ⟨⟩; exact Session.coherent_new M k
    | some s => exact h
  | addUserTurn k u a =>
    rintro s ⟨⟩
    refine Session.coherent_addTurn ?_ u a
    cases o with
    | none => exact Session.coherent_new M k
    | some s => exact h s rfl
  | setSummary k x =>
    -- 要約を置いても履歴と turn の数は変わらない。
    cases o with
    | none => nofun
    | some s => rintro _ ⟨⟩; exact h s rfl
  | historyLen k => exact h
  | remove k => nofun

/-- 管理者のどの session も `Coherent` である。 -/
def SessionManager.Coherent (m : SessionManager) : Prop :=
  ∀ q, ∀ s ∈ m.sessions.get? q, s.Coherent m.maxHistory

theorem SessionManager.coherent_new (M : Nat) : (SessionManager.new M).Coherent := by
  simp [SessionManager.Coherent, SessionManager.new]

theorem SessionManager.coherent_step {m : SessionManager} (h : m.Coherent) (c : SessionCall) :
    (m.step c).2.Coherent := fun q => by
  rw [SessionManager.step_maxHistory, (SessionManager.step_spec m c).2 q]
  split
  · next hq => exact SessionCall.apply_coherent _ c (hq ▸ h q)
  · exact h q

/-! ## session は自分の key の文字列の下にある

新しい session は `Session::new(key)` として `key.to_string()` の下に置かれ、その後の書き換えは
`key` の欄に触れない。したがって表のどの session も、自分の key の文字列の下にある。
-/

@[simp] theorem Session.addTurn_key (M : Nat) (s : Session) (u a : String) :
    (s.addTurn M u a).key = s.key := by
  unfold Session.addTurn; dsimp only; split <;> rfl

/-- 表のどの session も、自分の key の文字列のキーの下に置かれている。 -/
def SessionManager.KeysMatch (m : SessionManager) : Prop :=
  ∀ q, ∀ s ∈ m.sessions.get? q, s.key.toString = q

/-- 自分のキーの session への作用は、session の key の文字列を呼び出しの key の文字列に保つ。 -/
theorem SessionCall.apply_key (M : Nat) (c : SessionCall) {o : Option Session}
    (h : ∀ s ∈ o, s.key.toString = c.key.toString) :
    ∀ s ∈ (c.apply M o).2, s.key.toString = c.key.toString := by
  cases c with
  | getOrCreate k =>
    cases o with
    | none => rintro s ⟨⟩; rfl
    | some s => exact h
  | addUserTurn k u a =>
    rintro s ⟨⟩
    cases o with
    | none => simp [SessionCall.apply, Session.new, SessionCall.key]
    | some s => simpa using h s rfl
  | setSummary k x =>
    cases o with
    | none => nofun
    | some s => rintro _ ⟨⟩; exact h s rfl
  | historyLen k => exact h
  | remove k => nofun

theorem SessionManager.keysMatch_new (M : Nat) : (SessionManager.new M).KeysMatch := by
  simp [SessionManager.KeysMatch, SessionManager.new]

theorem SessionManager.keysMatch_step {m : SessionManager} (h : m.KeysMatch) (c : SessionCall) :
    (m.step c).2.KeysMatch := fun q => by
  rw [(SessionManager.step_spec m c).2 q]
  split
  · next hq => exact hq ▸ SessionCall.apply_key _ c (h _)
  · exact h q

/-! ## session を作る呼び出し

session を作るのは `get_or_create` と `add_user_turn` だけである。`set_summary` は `get_mut` で
見つかったときだけ書き、`history_len` は読むだけ、`remove` は消すだけである。
-/

/-- 呼び出しが session を作りうるなら、その key の文字列。 -/
def SessionCall.createKey? : SessionCall → Option String
  | .getOrCreate k | .addUserTurn k _ _ => some k.toString
  | _ => none

/-- 呼び出しの後に session のあるキーは、前からあったか、その呼び出しが作ったものである。 -/
theorem SessionManager.isSome_get?_step {m : SessionManager} {c : SessionCall} {q : String}
    (h : ((m.step c).2.sessions.get? q).isSome) :
    (m.sessions.get? q).isSome ∨ q ∈ c.createKey? := by
  rw [(SessionManager.step_spec m c).2 q] at h
  split at h
  · next hq =>
    subst hq
    cases c with
    | getOrCreate k | addUserTurn k _ _ => exact .inr rfl
    | setSummary k x => exact .inl (by simpa [SessionCall.apply] using h)
    | historyLen k => exact .inl h
    | remove k => cases h
  · exact .inl h

namespace SessionManager

theorem turnMessages_append (ts ts' : List (String × String)) :
    turnMessages (ts ++ ts') = turnMessages ts ++ turnMessages ts' := by
  simp [turnMessages]

/-- 自分のキーの session への作用は、履歴が turn の message の窓であることを保つ。 -/
theorem apply_history (M : Nat) (c : SessionCall) (o : Option Session)
    (acc : List (String × String)) (h : (o.map (·.history.messages)).getD [] = lastN M (turnMessages acc)) :
    (((c.apply M o).2).map (·.history.messages)).getD [] =
      lastN M (turnMessages (turnsStep c.key.toString acc c)) := by
  cases c with
  | getOrCreate k => cases o <;> simp_all [SessionCall.apply, turnsStep, Session.new, ConversationHistory.new]
  | addUserTurn k u a =>
    have ho : (o.getD (Session.new k)).history.messages = (o.map (·.history.messages)).getD [] := by
      cases o <;> rfl
    simp only [SessionCall.apply, turnsStep, SessionCall.key, if_true, Option.map_some',
      Option.getD_some, addTurn_history, ho, h, lastN_lastN_append, turnMessages_append]
    rfl
  | setSummary k s => cases o <;> simp_all [SessionCall.apply, turnsStep]
  | historyLen k => simpa [SessionCall.apply, turnsStep] using h
  | remove k => simp [SessionCall.apply, turnsStep, SessionCall.key, lastN, turnMessages]

theorem turnsStep_of_ne {q : String} {c : SessionCall} (hq : c.key.toString ≠ q)
    (acc : List (String × String)) : turnsStep q acc c = acc := by
  cases c <;> simp_all [turnsStep, SessionCall.key]

/-- **一歩の保存。** 履歴が turn の message の最後の `max_history` 個であることは、どの呼び出しの後も
保たれる。 -/
theorem heldHistory_step (q : String) (m : SessionManager) (c : SessionCall)
    (acc : List (String × String)) (h : heldHistory m q = lastN m.maxHistory (turnMessages acc)) :
    heldHistory (m.step c).2 q = lastN m.maxHistory (turnMessages (turnsStep q acc c)) := by
  simp only [heldHistory] at h ⊢
  rw [(step_spec m c).2 q]
  by_cases hq : c.key.toString = q
  · subst hq
    rw [if_pos rfl]
    exact apply_history _ c _ acc h
  · rw [if_neg hq, turnsStep_of_ne hq]
    exact h

theorem heldHistory_run_from (q : String) :
    ∀ (calls : List SessionCall) (m : SessionManager) (acc : List (String × String)),
      heldHistory m q = lastN m.maxHistory (turnMessages acc) →
      heldHistory (m.run calls) q = lastN m.maxHistory (turnMessages (calls.foldl (turnsStep q) acc))
  | [], _, _, h => h
  | c :: cs, m, acc, h => by
    have := heldHistory_run_from q cs (m.step c).2 (turnsStep q acc c)
      (by rw [step_maxHistory]; exact heldHistory_step q m c acc h)
    rwa [step_maxHistory] at this

/--
**履歴の窓。**

`max_history = M` の管理者に任意の呼び出しの列を行った後、どの key `k` の履歴も、
最後の `remove` 以後に文字列が `k` と等しい key に `add_user_turn` で足された turn の message
`[User u₁, Assistant a₁, …, User uₙ, Assistant aₙ]` の、最後の `min(M, 2n)` 個である。
とくに `history_len(k) ≤ M`。
-/
theorem heldHistory_run (M : Nat) (calls : List SessionCall) (k : SessionKey) :
    heldHistory ((new M).run calls) k.toString =
        lastN M (turnMessages (turnsSince k.toString calls)) ∧
      ((new M).run calls).historyLen k ≤ M := by
  have h := heldHistory_run_from k.toString calls (new M) [] (by simp [heldHistory, new, lastN, turnMessages])
  refine ⟨h, ?_⟩
  rw [historyLen_eq_length_heldHistory, h, length_lastN]
  exact Nat.min_le_left _ _

end SessionManager

end Aether
