import Aether.Ledger.Block

/-!
# 鎖の hash と鎖の検査

`aether-ledger/src/chain.rs` の二つの関数である。

* `compute_block_hash` は canonical string の SHA-256 を `{:x}` で書く。
* `verify_chain` は、先頭の親が genesis であること、そして `windows(2)` の各窓で
  後ろの block の親が前の block の hash であることを、先頭から順に調べる。
  最初に見つかった食い違いで止まり、その block を名指す誤りを返す。

SHA-256 そのものは写さず、32 byte を返す関数 `sha256` を section の変数として受ける。
入力は canonical string の UTF-8 の byte 列（`as_bytes()`）で、ここでは文字列で表す。
UTF-8 の符号化は単射なので、`sha256` に課す仮定（衝突が無いこと）の意味は変わらない。

主な結果は二つ。

* `verifyChain_eq_ok_iff`：成功するのは、鎖が genesis からつながっているときに限る。
  つながりは再帰的な述語 `LinkedFrom` で書く。
* `verifyChain_spec`：添字で書いた成功の条件と、失敗したときに名指される block。
-/

namespace Aether

/-- SHA-256 の出力。32 byte である。 -/
structure Digest where
  bytes : List UInt8
  length_bytes : bytes.length = 32

section Chain

variable (sha256 : String → Digest)

/-- `compute_block_hash`：`BlockHash(format!("{:x}", Sha256(canonical)))`。 -/
def computeBlockHash (b : LedgerBlock) : BlockHash :=
  ⟨⟨lowerHex (sha256 b.canonicalString).bytes⟩⟩

/-- `slice::windows(2)`：隣り合う二つ組の列。 -/
def windows2 (bs : List LedgerBlock) : List (LedgerBlock × LedgerBlock) := bs.zip bs.tail

/-- 先頭の親が genesis でないときの誤り。 -/
def genesisViolation (first : LedgerBlock) : AetherError :=
  .ledgerIntegrityViolation first.id.toString "first block parent_hash is not genesis"

/-- 窓 `(prev, curr)` の食い違いの誤り：`parent_hash mismatch at seq {}: expected {}, got {}`。 -/
def linkViolation (prev curr : LedgerBlock) : AetherError :=
  .ledgerIntegrityViolation curr.id.toString
    ("parent_hash mismatch at seq " ++ toString curr.sequenceNumber.toNat ++ ": expected " ++
      (computeBlockHash sha256 prev).val ++ ", got " ++ curr.parentHash.val)

/-- `for window in blocks.windows(2)` の本体。最初の食い違いで `return Err(..)` する。 -/
def checkWindows : List (LedgerBlock × LedgerBlock) → Result Unit
  | [] => .ok ()
  | (prev, curr) :: rest =>
    if curr.parentHash ≠ computeBlockHash sha256 prev then .error (linkViolation sha256 prev curr)
    else checkWindows rest

/-- `verify_chain`。 -/
def verifyChain (blocks : List LedgerBlock) : Result Unit :=
  match blocks with
  | [] => .ok ()
  | first :: _ =>
    if first.parentHash ≠ BlockHash.genesis then .error (genesisViolation first)
    else checkWindows sha256 (windows2 blocks)

/-- 親の hash が `p` から始まり、各 block の親がその直前の block の hash である。 -/
def LinkedFrom (p : BlockHash) : List LedgerBlock → Prop
  | [] => True
  | b :: rest => b.parentHash = p ∧ LinkedFrom (computeBlockHash sha256 b) rest

@[simp] theorem linkedFrom_nil (p : BlockHash) : LinkedFrom sha256 p [] := trivial

@[simp] theorem linkedFrom_cons (p : BlockHash) (b : LedgerBlock) (rest : List LedgerBlock) :
    LinkedFrom sha256 p (b :: rest) ↔
      b.parentHash = p ∧ LinkedFrom sha256 (computeBlockHash sha256 b) rest := Iff.rfl

@[simp] theorem windows2_cons_cons (a b : LedgerBlock) (rest : List LedgerBlock) :
    windows2 (a :: b :: rest) = (a, b) :: windows2 (b :: rest) := rfl

@[simp] theorem windows2_singleton (a : LedgerBlock) : windows2 [a] = [] := rfl

/-! ## 成功の条件 -/

/-- 窓の検査が通るのは、先頭の block の hash から鎖がつながっているときに限る。 -/
theorem checkWindows_eq_ok_iff (b : LedgerBlock) :
    ∀ rest : List LedgerBlock, checkWindows sha256 (windows2 (b :: rest)) = .ok () ↔
      LinkedFrom sha256 (computeBlockHash sha256 b) rest
  | [] => by simp [checkWindows]
  | c :: rest => by
    rw [windows2_cons_cons, checkWindows, linkedFrom_cons, ← checkWindows_eq_ok_iff c rest]
    by_cases h : c.parentHash = computeBlockHash sha256 b <;> simp [h]

/-- **`verify_chain` が成功するのは、鎖が genesis からつながっているときに限る。** -/
theorem verifyChain_eq_ok_iff (bs : List LedgerBlock) :
    verifyChain sha256 bs = .ok () ↔ LinkedFrom sha256 BlockHash.genesis bs := by
  cases bs with
  | nil => simp [verifyChain]
  | cons b rest =>
    rw [verifyChain, linkedFrom_cons, ← checkWindows_eq_ok_iff]
    by_cases h : b.parentHash = BlockHash.genesis <;> simp [h]

/-- `LinkedFrom` を添字で書く。 -/
theorem linkedFrom_iff_getElem (p : BlockHash) :
    ∀ bs : List LedgerBlock, LinkedFrom sha256 p bs ↔
      ∀ h : 0 < bs.length, bs[0].parentHash = p ∧
        ∀ i (hi : i + 1 < bs.length), bs[i + 1].parentHash = computeBlockHash sha256 bs[i]
  | [] => by simp
  | b :: rest => by
    rw [linkedFrom_cons, linkedFrom_iff_getElem _ rest]
    constructor
    · rintro ⟨hb, hrest⟩ -
      refine ⟨hb, fun i hi => ?_⟩
      have hi' : i < rest.length := Nat.lt_of_succ_lt_succ hi
      cases i with
      | zero => exact (hrest hi').1
      | succ i => exact (hrest (Nat.zero_lt_of_lt hi')).2 i hi'
    · intro h
      obtain ⟨hb, hlink⟩ := h (Nat.succ_pos _)
      exact ⟨hb, fun hr =>
        ⟨hlink 0 (Nat.succ_lt_succ hr), fun i hi => hlink (i + 1) (Nat.succ_lt_succ hi)⟩⟩

/-! ## 失敗したときに名指される block -/

/-- 窓の検査が失敗したなら、最初に食い違う窓の後ろの block が名指されている。 -/
theorem checkWindows_eq_error (b : LedgerBlock) :
    ∀ (rest : List LedgerBlock) (e : AetherError),
      checkWindows sha256 (windows2 (b :: rest)) = .error e →
      ∃ j, ∃ hj : j + 1 < (b :: rest).length,
        (b :: rest)[j + 1].parentHash ≠ computeBlockHash sha256 (b :: rest)[j] ∧
        (∀ i (hi : i < j), (b :: rest)[i + 1].parentHash = computeBlockHash sha256 (b :: rest)[i]) ∧
        e = linkViolation sha256 (b :: rest)[j] (b :: rest)[j + 1]
  | [], e, h => by simp [checkWindows] at h
  | c :: rest, e, h => by
    rw [windows2_cons_cons, checkWindows] at h
    split at h
    · next hc =>
      cases h
      exact ⟨0, Nat.succ_lt_succ (Nat.succ_pos _), hc, fun i hi => absurd hi (Nat.not_lt_zero i), rfl⟩
    · next hc =>
      obtain ⟨j, hj, hne, hbefore, rfl⟩ := checkWindows_eq_error c rest e h
      refine ⟨j + 1, Nat.succ_lt_succ hj, hne, fun i hi => ?_, rfl⟩
      cases i with
      | zero => exact not_not.mp hc
      | succ i => exact hbefore i (Nat.lt_of_succ_lt_succ hi)

/--
**`verify_chain` の振る舞い。**

成功するのは、空であるか、先頭の親が genesis で、隣り合うどの二つでも後ろの親が前の hash
であるときに限る。失敗したときの誤りは `LedgerIntegrityViolation` で、名指す block は、
先頭の親が genesis でなければ先頭、そうでなければ食い違う最初の位置 `j ≥ 1` の block である。
-/
theorem verifyChain_spec (bs : List LedgerBlock) :
    (verifyChain sha256 bs = .ok () ↔ bs = [] ∨
      ∃ h : 0 < bs.length, bs[0].parentHash = BlockHash.genesis ∧
        ∀ i (hi : i + 1 < bs.length), bs[i + 1].parentHash = computeBlockHash sha256 bs[i]) ∧
    ∀ e, verifyChain sha256 bs = .error e →
      (∃ h : 0 < bs.length, bs[0].parentHash ≠ BlockHash.genesis ∧
        e = .ledgerIntegrityViolation bs[0].id.toString "first block parent_hash is not genesis") ∨
      (∃ j, ∃ hj : j < bs.length, 1 ≤ j ∧ bs[0].parentHash = BlockHash.genesis ∧
        bs[j].parentHash ≠ computeBlockHash sha256 bs[j - 1] ∧
        (∀ i (hi : i < j), 1 ≤ i → bs[i].parentHash = computeBlockHash sha256 bs[i - 1]) ∧
        e = .ledgerIntegrityViolation bs[j].id.toString
          ("parent_hash mismatch at seq " ++ toString bs[j].sequenceNumber.toNat ++ ": expected " ++
            (computeBlockHash sha256 bs[j - 1]).val ++ ", got " ++ bs[j].parentHash.val)) := by
  refine ⟨?_, fun e he => ?_⟩
  · rw [verifyChain_eq_ok_iff, linkedFrom_iff_getElem]
    cases bs with
    | nil => simp
    | cons b rest =>
      simp only [List.cons_ne_nil, false_or]
      exact ⟨fun h => ⟨Nat.succ_pos _, h (Nat.succ_pos _)⟩, fun ⟨_, h⟩ _ => h⟩
  · cases bs with
    | nil => simp [verifyChain] at he
    | cons b rest =>
      rw [verifyChain] at he
      split at he
      · next hg => cases he; exact .inl ⟨Nat.succ_pos _, hg, rfl⟩
      · next hg =>
        obtain ⟨j, hj, hne, hbefore, he⟩ := checkWindows_eq_error sha256 b rest e he
        refine .inr ⟨j + 1, hj, by omega, not_not.mp hg, hne, fun i hi h1 => ?_, he⟩
        obtain ⟨i, rfl⟩ : ∃ i', i = i' + 1 := ⟨i - 1, by omega⟩
        exact hbefore i (Nat.lt_of_succ_lt_succ hi)

end Chain

end Aether
