import Mathlib.Data.List.Dedup

/-!
# 文字列をキーにする表

ledger の store（`RwLock<HashMap<String, Vec<LedgerBlock>>>`）、cost tracker
（`RwLock<HashMap<String, TenantUsage>>`）、session manager（`DashMap<String, Session>`）は、
どれもキーを `to_string` した文字列で引く表である。ここではその表を、
キーが重ならない組の列として一つだけ定義する。

列の順は `values()` を回す順を表す。本物の `HashMap` の順は hash で決まるが、
ここで証明する性質はどれも順に依らない。

使う操作は五つである。

* `get?` — `get`。
* `upsert` — `entry(k).or_insert_with(..)` のあと値を書き換える。`insert` はその特別な場合。
* `modify` — `get_mut` で見つかったときだけ書き換える。
* `erase` — `remove`。
* `values` — `values()`。
-/

namespace Aether

/-- キーが重ならない表。`HashMap<String, α>` と `DashMap<String, α>` を表す。 -/
structure KeyMap (α : Type) where
  entries : List (String × α)
  nodup : (entries.map Prod.fst).Nodup

namespace KeyMap

variable {α : Type}

/-- 組の列を先頭から引く。 -/
def lookupList (k : String) : List (String × α) → Option α
  | [] => none
  | (k', v) :: rest => if k' = k then some v else lookupList k rest

/-- キー `k` の組を書き換え、無ければ末尾に足す。 -/
def upsertList (k : String) (f : Option α → α) : List (String × α) → List (String × α)
  | [] => [(k, f none)]
  | (k', v) :: rest => if k' = k then (k', f (some v)) :: rest else (k', v) :: upsertList k f rest

theorem keys_upsertList (k : String) (f : Option α → α) :
    ∀ l : List (String × α), (upsertList k f l).map Prod.fst =
      if k ∈ l.map Prod.fst then l.map Prod.fst else l.map Prod.fst ++ [k]
  | [] => rfl
  | (k', v) :: rest => by
    by_cases h : k' = k
    · simp [upsertList, h]
    · rw [upsertList, if_neg h, List.map_cons, keys_upsertList k f rest]
      by_cases hm : k ∈ rest.map Prod.fst <;> simp [hm, Ne.symm h]

theorem nodup_upsertList (k : String) (f : Option α → α) {l : List (String × α)}
    (h : (l.map Prod.fst).Nodup) : ((upsertList k f l).map Prod.fst).Nodup := by
  rw [keys_upsertList]
  split
  · exact h
  · next hm => exact h.append (List.nodup_singleton k) (by simpa using hm)

/-- キー `k` の組があれば値を書き換える。 -/
def modifyList (k : String) (f : α → α) : List (String × α) → List (String × α)
  | [] => []
  | (k', v) :: rest => (k', if k' = k then f v else v) :: modifyList k f rest

theorem keys_modifyList (k : String) (f : α → α) :
    ∀ l : List (String × α), (modifyList k f l).map Prod.fst = l.map Prod.fst
  | [] => rfl
  | (k', v) :: rest => by simp [modifyList, keys_modifyList k f rest]

/-- キー `k` の組を除く。 -/
def eraseList (k : String) : List (String × α) → List (String × α)
  | [] => []
  | (k', v) :: rest => if k' = k then eraseList k rest else (k', v) :: eraseList k rest

theorem keys_eraseList_sublist (k : String) :
    ∀ l : List (String × α), List.Sublist ((eraseList k l).map Prod.fst) (l.map Prod.fst)
  | [] => List.Sublist.slnil
  | (k', v) :: rest => by
    rw [eraseList]
    split
    · exact (keys_eraseList_sublist k rest).cons _
    · exact (keys_eraseList_sublist k rest).cons₂ _

/-- 空の表。`HashMap::new()`。 -/
def empty : KeyMap α := ⟨[], List.nodup_nil⟩

/-- `get(&k)`。 -/
def get? (m : KeyMap α) (k : String) : Option α := lookupList k m.entries

/-- `entry(k).or_insert_with(..)` に続く書き換え。`f` は前の値（無ければ `none`）を受ける。 -/
def upsert (m : KeyMap α) (k : String) (f : Option α → α) : KeyMap α :=
  ⟨upsertList k f m.entries, nodup_upsertList k f m.nodup⟩

/-- `insert(k, v)`。前の値は捨てる。 -/
def insert (m : KeyMap α) (k : String) (v : α) : KeyMap α := m.upsert k fun _ => v

/-- `get_mut(&k)` が見つけたときだけの書き換え。 -/
def modify (m : KeyMap α) (k : String) (f : α → α) : KeyMap α :=
  ⟨modifyList k f m.entries, (keys_modifyList k f m.entries).symm ▸ m.nodup⟩

/-- `remove(&k)`。 -/
def erase (m : KeyMap α) (k : String) : KeyMap α :=
  ⟨eraseList k m.entries, m.nodup.sublist (keys_eraseList_sublist k m.entries)⟩

/-- `values()`。 -/
def values (m : KeyMap α) : List α := m.entries.map Prod.snd

/-! ## `get?` の等式

どれも「書き換えたキーで引けば新しい値、ほかのキーで引けば前と同じ」という形である。
-/

@[simp] theorem get?_empty (q : String) : (empty : KeyMap α).get? q = none := rfl

theorem lookupList_upsertList (k : String) (f : Option α → α) (q : String) :
    ∀ l : List (String × α), lookupList q (upsertList k f l) =
      if k = q then some (f (lookupList k l)) else lookupList q l
  | [] => rfl
  | (k₀, v) :: rest => by
    rw [upsertList, lookupList]
    by_cases h : k₀ = q <;> by_cases h0 : k₀ = k <;> subst_vars <;>
      simp [upsertList, lookupList, lookupList_upsertList _ _ _ rest, *, Ne.symm]

@[simp] theorem get?_upsert (m : KeyMap α) (k : String) (f : Option α → α) (q : String) :
    (m.upsert k f).get? q = if k = q then some (f (m.get? k)) else m.get? q :=
  lookupList_upsertList k f q m.entries

@[simp] theorem get?_insert (m : KeyMap α) (k : String) (v : α) (q : String) :
    (m.insert k v).get? q = if k = q then some v else m.get? q :=
  get?_upsert m k _ q

theorem lookupList_modifyList (k : String) (f : α → α) (q : String) :
    ∀ l : List (String × α), lookupList q (modifyList k f l) =
      if k = q then (lookupList k l).map f else lookupList q l
  | [] => by simp [modifyList, lookupList]
  | (k₀, v) :: rest => by
    rw [modifyList, lookupList, lookupList_modifyList k f q rest]
    by_cases h : k₀ = q <;> by_cases h0 : k₀ = k <;> subst_vars <;> simp [lookupList, *, Ne.symm]

@[simp] theorem get?_modify (m : KeyMap α) (k : String) (f : α → α) (q : String) :
    (m.modify k f).get? q = if k = q then (m.get? k).map f else m.get? q :=
  lookupList_modifyList k f q m.entries

theorem lookupList_eraseList (k q : String) :
    ∀ l : List (String × α), lookupList q (eraseList k l) =
      if k = q then none else lookupList q l
  | [] => by simp [eraseList, lookupList]
  | (k₀, v) :: rest => by
    rw [eraseList, lookupList]
    by_cases h : k₀ = q <;> by_cases h0 : k₀ = k <;> subst_vars <;>
      simp [lookupList, lookupList_eraseList _ _ rest, *, Ne.symm]

@[simp] theorem get?_erase (m : KeyMap α) (k q : String) :
    (m.erase k).get? q = if k = q then none else m.get? q :=
  lookupList_eraseList k q m.entries

/-! ## `values` -/

theorem lookupList_of_mem {k : String} {v : α} :
    ∀ {l : List (String × α)}, (l.map Prod.fst).Nodup → (k, v) ∈ l → lookupList k l = some v
  | [], _, h => absurd h (List.not_mem_nil _)
  | (k₀, v₀) :: rest, hn, h => by
    rw [List.map_cons, List.nodup_cons] at hn
    rcases List.mem_cons.mp h with h | h
    · cases h; simp [lookupList]
    · have hm : k ∈ rest.map Prod.fst := List.mem_map_of_mem Prod.fst h
      have hk : k₀ ≠ k := fun e => hn.1 (by rw [e]; exact hm)
      rw [lookupList, if_neg hk]
      exact lookupList_of_mem hn.2 h

theorem mem_of_lookupList {k : String} {v : α} :
    ∀ {l : List (String × α)}, lookupList k l = some v → (k, v) ∈ l
  | [], h => by simp [lookupList] at h
  | (k₀, v₀) :: rest, h => by
    rw [lookupList] at h
    split at h
    · next hk => cases hk; cases h; exact List.mem_cons_self _ _
    · exact List.mem_cons_of_mem _ (mem_of_lookupList h)

/-- 値の列に現れるのは、どれかのキーで引ける値だけである。キーが重ならないことを使う。 -/
theorem mem_values (m : KeyMap α) (v : α) : v ∈ m.values ↔ ∃ k, m.get? k = some v := by
  simp only [values, List.mem_map, get?]
  constructor
  · rintro ⟨⟨k, v⟩, h, rfl⟩; exact ⟨k, lookupList_of_mem m.nodup h⟩
  · rintro ⟨k, h⟩; exact ⟨(k, v), mem_of_lookupList h, rfl⟩

/-- 引けるキーがどれも `S` に入る表の大きさは、`S` の異なる要素の数以下である。 -/
theorem length_entries_le {m : KeyMap α} {S : List String}
    (h : ∀ q, (m.get? q).isSome → q ∈ S) : m.entries.length ≤ S.dedup.length := by
  rw [← List.length_map m.entries Prod.fst]
  refine (List.subperm_of_subset m.nodup fun k hk => List.mem_dedup.mpr (h k ?_)).length_le
  obtain ⟨⟨k, v⟩, hmem, rfl⟩ := List.mem_map.mp hk
  rw [get?, lookupList_of_mem m.nodup hmem]
  rfl

end KeyMap

end Aether
