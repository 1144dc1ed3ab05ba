import Aether.Ledger.Block
import Aether.Core.KeyMap

/-!
# ledger の保存先

`aether-ledger/src/storage.rs` の trait `LedgerStorage` と、その in-memory の実装である。

実装は `RwLock<HashMap<String, Vec<LedgerBlock>>>` で、キーは `tenant_id.to_string()`。
lock が毒されるのは lock を持った thread が panic したときだけで、逐次の実行では起きない。
したがって `map_err` の側（`ledger lock poisoned: ..`）は写さず、四つの操作はどれも
`Ok` を返す。

主な結果は `appendAll` の不変条件 `get?_appendAll`：空の保存先から block を順に `append` すると、
どのキーで引いても、そのキーの tenant の block が append した順に並んでいる。
ここから `get_blocks`、`count`、`get_block` の振る舞いが出る。
-/

namespace Aether

/-- `trait LedgerStorage`。状態 `σ` の上の四つの操作で、`&self` の内部の書き換えは状態の受け渡しで表す。 -/
structure LedgerStorage (σ : Type) where
  append : σ → LedgerBlock → Result Unit × σ
  getBlocks : σ → TenantId → Result (List LedgerBlock)
  getBlock : σ → LedgerBlockId → Result LedgerBlock
  count : σ → TenantId → Result Nat

/-- `InMemoryLedgerStorage`：tenant の文字列から block の列への表。 -/
structure InMemoryLedgerStorage where
  blocks : KeyMap (List LedgerBlock)

namespace InMemoryLedgerStorage

/-- `InMemoryLedgerStorage::new()`。 -/
def new : InMemoryLedgerStorage := ⟨KeyMap.empty⟩

/-- `append`：`store.entry(key).or_default().push(block)`。 -/
def append (s : InMemoryLedgerStorage) (block : LedgerBlock) : Result Unit × InMemoryLedgerStorage :=
  (.ok (), ⟨s.blocks.upsert block.tenantId.toString fun o => o.getD [] ++ [block]⟩)

/-- `get_blocks`：`store.get(&key).cloned().unwrap_or_default()`。 -/
def getBlocks (s : InMemoryLedgerStorage) (tenantId : TenantId) : Result (List LedgerBlock) :=
  .ok ((s.blocks.get? tenantId.toString).getD [])

/-- `get_block`：`values()` を順に回し、最初に `id` の一致する block を返す。 -/
def getBlock (s : InMemoryLedgerStorage) (blockId : LedgerBlockId) : Result LedgerBlock :=
  match s.blocks.values.findSome? (fun blocks => blocks.find? (fun b => b.id = blockId)) with
  | some b => .ok b
  | none => .error (AetherError.notFoundOf "LedgerBlock" blockId)

/-- `count`：`v.len() as u64`。`usize` から `u64` への変換は値を変えない。 -/
def count (s : InMemoryLedgerStorage) (tenantId : TenantId) : Result Nat :=
  .ok (((s.blocks.get? tenantId.toString).map List.length).getD 0)

end InMemoryLedgerStorage

/-- `impl LedgerStorage for InMemoryLedgerStorage`。 -/
def inMemoryLedgerStorage : LedgerStorage InMemoryLedgerStorage where
  append := InMemoryLedgerStorage.append
  getBlocks := InMemoryLedgerStorage.getBlocks
  getBlock := InMemoryLedgerStorage.getBlock
  count := InMemoryLedgerStorage.count

namespace InMemoryLedgerStorage

/-- block を順に `append` した後の保存先。どの `append` も `Ok(())` を返す（`append_ok`）。 -/
def appendAll (s : InMemoryLedgerStorage) (bs : List LedgerBlock) : InMemoryLedgerStorage :=
  bs.foldl (fun s b => (s.append b).2) s

theorem append_ok (s : InMemoryLedgerStorage) (b : LedgerBlock) : (s.append b).1 = .ok () := rfl

@[simp] theorem appendAll_nil (s : InMemoryLedgerStorage) : s.appendAll [] = s := rfl

@[simp] theorem appendAll_append_singleton (s : InMemoryLedgerStorage) (bs : List LedgerBlock)
    (b : LedgerBlock) : s.appendAll (bs ++ [b]) = ((s.appendAll bs).append b).2 := by
  simp [appendAll]

/-- 一回の `append` は、足した block の tenant のキーの列の末尾にその block を足すだけである。 -/
theorem get?_append (s : InMemoryLedgerStorage) (b : LedgerBlock) (k : String) :
    ((s.append b).2.blocks.get? k).getD [] =
      (s.blocks.get? k).getD [] ++ if b.tenantId.toString = k then [b] else [] := by
  by_cases h : b.tenantId.toString = k
  · subst h; simp [append]
  · simp [append, h]

/-- **保存先の不変条件。** 空から `append` した後、キー `k` の列は、append した block のうち
tenant の文字列が `k` のものを順に並べたものである。 -/
theorem get?_appendAll (bs : List LedgerBlock) (k : String) :
    ((new.appendAll bs).blocks.get? k).getD [] = bs.filter (fun b => b.tenantId.toString = k) := by
  induction bs using List.reverseRecOn with
  | nil => rfl
  | append_singleton bs b ih =>
    rw [appendAll_append_singleton, get?_append, ih, List.filter_append]
    by_cases h : b.tenantId.toString = k <;> simp [h]

/-- tenant の文字列は tenant を決めるので、キーの一致は tenant の一致である。 -/
theorem filter_key_eq (bs : List LedgerBlock) (t : TenantId) :
    bs.filter (fun b => b.tenantId.toString = t.toString) = bs.filter (fun b => b.tenantId = t) := by
  simp

theorem getBlocks_appendAll (bs : List LedgerBlock) (t : TenantId) :
    (new.appendAll bs).getBlocks t = .ok (bs.filter (fun b => b.tenantId = t)) := by
  rw [getBlocks, get?_appendAll, filter_key_eq]

theorem count_appendAll (bs : List LedgerBlock) (t : TenantId) :
    (new.appendAll bs).count t = .ok (bs.filter (fun b => b.tenantId = t)).length := by
  have h := get?_appendAll bs t.toString
  rw [filter_key_eq] at h
  rw [count, ← h]
  cases (new.appendAll bs).blocks.get? t.toString <;> rfl

/-- 保存先のどれかの列に入っている block は、append した block である。逆も成り立つ。 -/
theorem mem_values_appendAll (bs : List LedgerBlock) (b : LedgerBlock) :
    (∃ v ∈ (new.appendAll bs).blocks.values, b ∈ v) ↔ b ∈ bs := by
  simp only [KeyMap.mem_values]
  constructor
  · rintro ⟨v, ⟨k, hk⟩, hb⟩
    have h := get?_appendAll bs k
    rw [hk, Option.getD_some] at h
    exact List.mem_of_mem_filter (h ▸ hb)
  · intro hb
    have h := get?_appendAll bs b.tenantId.toString
    have hb' : b ∈ ((new.appendAll bs).blocks.get? b.tenantId.toString).getD [] := by
      rw [h]; exact List.mem_filter.mpr ⟨hb, by simp⟩
    cases hk : (new.appendAll bs).blocks.get? b.tenantId.toString with
    | none => rw [hk] at hb'; exact absurd hb' (List.not_mem_nil b)
    | some v => rw [hk] at hb'; exact ⟨v, ⟨_, hk⟩, hb'⟩

/-- `get_block` が返すのは append した block で、`id` が一致する。 -/
theorem getBlock_appendAll_ok (bs : List LedgerBlock) (id : LedgerBlockId) (b : LedgerBlock)
    (h : (new.appendAll bs).getBlock id = .ok b) : b ∈ bs ∧ b.id = id := by
  rw [getBlock] at h
  split at h
  · next b' hs =>
    cases h
    obtain ⟨v, hv, hf⟩ := List.exists_of_findSome?_eq_some hs
    exact ⟨(mem_values_appendAll bs b).mp ⟨v, hv, List.mem_of_find?_eq_some hf⟩,
      by simpa using List.find?_some hf⟩
  · cases h

/-- `get_block` が失敗するのは、`id` の一致する block を append していないときに限る。
誤りは `NotFound { resource: "LedgerBlock", id }` である。 -/
theorem getBlock_appendAll_error (bs : List LedgerBlock) (id : LedgerBlockId) (e : AetherError)
    (h : (new.appendAll bs).getBlock id = .error e) :
    e = AetherError.notFoundOf "LedgerBlock" id ∧ ∀ b ∈ bs, b.id ≠ id := by
  rw [getBlock] at h
  split at h
  · cases h
  · next hs =>
    cases h
    refine ⟨rfl, fun b hb hid => ?_⟩
    obtain ⟨v, hv, hbv⟩ := (mem_values_appendAll bs b).mpr hb
    have := List.findSome?_eq_none_iff.mp hs v hv
    exact absurd hid (by simpa using List.find?_eq_none.mp this b hbv)

end InMemoryLedgerStorage

end Aether
