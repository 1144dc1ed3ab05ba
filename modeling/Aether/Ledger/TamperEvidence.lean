import Mathlib.Data.List.Forall2
import Aether.Ledger.Chain

/-!
# 改竄の検出

ledger の目的は、保存された block の列が書かれた後に変えられていないかを、
先頭（最後に足された block）の hash だけから確かめられることである。

ここでは次を示す。`verify_chain` を通る二つの空でない列の、最後の block の hash が等しければ、
二つの列は長さが等しく、位置ごとに鎖に入る五つの欄が等しい。したがって、先頭より前の
block を変えても、消しても、足しても、並べ替えても、同じ先頭の hash を持つ
検査済みの鎖は作れない。

仮定は SHA-256 について二つだけで、どちらも問題の列に現れる block に限る。

* 衝突が無い：二つの列の block の canonical string は、digest が等しければ等しい。
  SHA-256 をすべての文字列の上で単射とすることはできない（出力は有限個しかない）。
* `compute_block_hash` が genesis を返さない。

一つ目の列については、入力と出力の hash が `is_valid` を満たすことも仮定する
（`LedgerBlockBuilder::build` が作る block はそうなる。`Builder` を見よ）。
これが無いと canonical string が曖昧になり、結論は成り立たない。
二つ目の列については何も仮定しない。

証明は最後の block から前へ向かう帰納法である。最後の block どうしの hash が等しければ
canonical string が等しく、したがって親の hash が等しい。親が genesis であるのは
先頭の block だけなので、両方とも先頭か、両方とも直前の block を持ち、その hash が等しい。

逆に、`verify_chain` だけでは守られないものもある（`verifyChain_unprotected`）。鎖に入らない欄と、
最後の block の入力・出力の hash である。
-/

namespace Aether

theorem Digest.ext {d d' : Digest} (h : d.bytes = d'.bytes) : d = d' := by
  cases d; cases d'; cases h; rfl

section TamperEvidence

variable (sha256 : String → Digest)

/-- 鎖の hash が等しければ digest が等しい。`{:x}` は単射である。 -/
theorem digest_eq_of_computeBlockHash_eq {b b' : LedgerBlock}
    (h : computeBlockHash sha256 b = computeBlockHash sha256 b') :
    sha256 b.canonicalString = sha256 b'.canonicalString :=
  Digest.ext (lowerHex_injective (congrArg (fun h : BlockHash => h.val.data) h))

theorem pipe_not_mem_computeBlockHash (b : LedgerBlock) :
    '|' ∉ (computeBlockHash sha256 b).val.data := fun h =>
  (ne_delims_of_isAsciiHexdigit (isAsciiHexdigit_of_mem_lowerHex h)).1 rfl

theorem pipe_not_mem_genesis : '|' ∉ BlockHash.genesis.val.data := by decide

/-- `p` から始めて `l` を最後までたどったときの、鎖の先端の hash。 -/
def tipHash (p : BlockHash) (l : List LedgerBlock) : BlockHash :=
  l.foldl (fun _ b => computeBlockHash sha256 b) p

@[simp] theorem tipHash_nil (p : BlockHash) : tipHash sha256 p [] = p := rfl

@[simp] theorem tipHash_append_singleton (p : BlockHash) (l : List LedgerBlock) (y : LedgerBlock) :
    tipHash sha256 p (l ++ [y]) = computeBlockHash sha256 y := by
  simp [tipHash]

/-- 末尾に一つ足した列のつながり。足した block の親は、それまでの先端の hash である。 -/
theorem linkedFrom_append_singleton (x : LedgerBlock) :
    ∀ (p : BlockHash) (l : List LedgerBlock), LinkedFrom sha256 p (l ++ [x]) ↔
      LinkedFrom sha256 p l ∧ x.parentHash = tipHash sha256 p l
  | p, [] => by simp
  | p, y :: l => by
    rw [List.cons_append, linkedFrom_cons, linkedFrom_append_singleton x _ l, linkedFrom_cons,
      and_assoc]
    rfl

/-- 最後の block の hash が等しい二つの検査済みの列は、位置ごとに五つの欄が等しい。
先端から一つずつ戻る。どちらかだけが先に尽きると、残った側の block の hash が genesis になる。 -/
theorem forall₂_of_linkedFrom_last (l l' : List LedgerBlock) (x x' : LedgerBlock)
    (hl : LinkedFrom sha256 BlockHash.genesis (l ++ [x]))
    (hl' : LinkedFrom sha256 BlockHash.genesis (l' ++ [x']))
    (hpipe : ∀ b ∈ l ++ [x], '|' ∉ b.inputHash.val.data ∧ '|' ∉ b.outputHash.val.data)
    (hcr : ∀ b ∈ l ++ [x], ∀ b' ∈ l' ++ [x'],
      sha256 b.canonicalString = sha256 b'.canonicalString → b.canonicalString = b'.canonicalString)
    (hng : ∀ b ∈ l ++ [x], computeBlockHash sha256 b ≠ BlockHash.genesis)
    (hng' : ∀ b ∈ l' ++ [x'], computeBlockHash sha256 b ≠ BlockHash.genesis)
    (hx : computeBlockHash sha256 x = computeBlockHash sha256 x') :
    List.Forall₂ SameChainedFields (l ++ [x]) (l' ++ [x']) := by
  rw [linkedFrom_append_singleton] at hl hl'
  -- 最後の block どうしは五つの欄が等しく、とくに親の hash が等しい。
  have hpar : '|' ∉ x.parentHash.val.data := by
    rw [hl.2]
    rcases List.eq_nil_or_concat' l with rfl | ⟨l₀, y, rfl⟩
    · exact pipe_not_mem_genesis
    · simpa using pipe_not_mem_computeBlockHash sha256 y
  have hxx : SameChainedFields x x' :=
    sameChainedFields_of_canonicalString_eq (hpipe x (by simp)).1 (hpipe x (by simp)).2 hpar
      (hcr x (by simp) x' (by simp) (digest_eq_of_computeBlockHash_eq sha256 hx))
  have hparent : tipHash sha256 BlockHash.genesis l = tipHash sha256 BlockHash.genesis l' :=
    hl.2.symm.trans (hxx.parentHash.trans hl'.2)
  rcases List.eq_nil_or_concat' l with rfl | ⟨l₀, y, rfl⟩ <;>
    rcases List.eq_nil_or_concat' l' with rfl | ⟨l₀', y', rfl⟩ <;>
    simp only [tipHash_nil, tipHash_append_singleton] at hparent
  · -- どちらも先頭の block だけ。
    exact List.Forall₂.cons hxx List.Forall₂.nil
  · -- 片方だけが直前の block を持つと、その hash が genesis になってしまう。
    exact absurd hparent.symm (hng' y' (by simp))
  · exact absurd hparent (hng y (by simp))
  · -- どちらも直前の block を持ち、その hash が等しい。前へ進む。
    have ih := forall₂_of_linkedFrom_last l₀ l₀' y y' hl.1 hl'.1
      (fun b hb => hpipe b (List.mem_append_left _ hb))
      (fun b hb b' hb' => hcr b (List.mem_append_left _ hb) b' (List.mem_append_left _ hb'))
      (fun b hb => hng b (List.mem_append_left _ hb))
      (fun b hb => hng' b (List.mem_append_left _ hb)) hparent
    exact List.rel_append ih (List.Forall₂.cons hxx List.Forall₂.nil)
termination_by l.length

/-- 改竄の検出を `LinkedFrom` で述べたもの。`verify_chain` を通る列と、`Builder` の約束どおりに
積んだ列の両方に使う。 -/
theorem forall₂_of_linkedFrom_getLast (bs bs' : List LedgerBlock) (hne : bs ≠ []) (hne' : bs' ≠ [])
    (hl : LinkedFrom sha256 BlockHash.genesis bs) (hl' : LinkedFrom sha256 BlockHash.genesis bs')
    (hvalid : ∀ b ∈ bs, b.inputHash.isValid = true ∧ b.outputHash.isValid = true)
    (hcr : ∀ b ∈ bs, ∀ b' ∈ bs', sha256 b.canonicalString = sha256 b'.canonicalString →
      b.canonicalString = b'.canonicalString)
    (hng : ∀ b ∈ bs ++ bs', computeBlockHash sha256 b ≠ BlockHash.genesis)
    (hhead : computeBlockHash sha256 (bs.getLast hne) = computeBlockHash sha256 (bs'.getLast hne')) :
    List.Forall₂ SameChainedFields bs bs' := by
  obtain ⟨l, x, rfl⟩ := (List.eq_nil_or_concat' bs).resolve_left hne
  obtain ⟨l', x', rfl⟩ := (List.eq_nil_or_concat' bs').resolve_left hne'
  simp only [List.getLast_append_singleton] at hhead
  exact forall₂_of_linkedFrom_last sha256 _ _ _ _ hl hl'
    (fun b hb => ⟨BlockHash.pipe_not_mem_of_isValid (hvalid b hb).1,
      BlockHash.pipe_not_mem_of_isValid (hvalid b hb).2⟩) hcr
    (fun b hb => hng b (List.mem_append_left _ hb)) (fun b hb => hng b (List.mem_append_right _ hb))
    hhead

/--
**改竄の検出。**

`verify_chain` を通る空でない二つの列 `bs`、`bs'` の最後の block の hash が等しければ、
`bs'` は `bs` と長さが等しく、位置ごとに `id`、通し番号、入力・出力・親の hash が等しい。
`bs` の入力と出力の hash は `is_valid` を満たすとする。SHA-256 については、
二つの列の block の canonical string の間に衝突が無いことと、
どの block の鎖の hash も genesis でないことだけを仮定する。
-/
theorem verifyChain_head_hash_determines_chain (bs bs' : List LedgerBlock) (hne : bs ≠ [])
    (hne' : bs' ≠ []) (hv : verifyChain sha256 bs = .ok ()) (hv' : verifyChain sha256 bs' = .ok ())
    (hvalid : ∀ b ∈ bs, b.inputHash.isValid = true ∧ b.outputHash.isValid = true)
    (hcr : ∀ b ∈ bs, ∀ b' ∈ bs', sha256 b.canonicalString = sha256 b'.canonicalString →
      b.canonicalString = b'.canonicalString)
    (hng : ∀ b ∈ bs ++ bs', computeBlockHash sha256 b ≠ BlockHash.genesis)
    (hhead : computeBlockHash sha256 (bs.getLast hne) = computeBlockHash sha256 (bs'.getLast hne')) :
    List.Forall₂ SameChainedFields bs bs' :=
  forall₂_of_linkedFrom_getLast sha256 bs bs' hne hne' ((verifyChain_eq_ok_iff sha256 bs).mp hv)
    ((verifyChain_eq_ok_iff sha256 bs').mp hv') hvalid hcr hng hhead

end TamperEvidence

/-- 例：二つの block からなる異なる二つの鎖。二つ目の鎖は時刻、`action`、`signature` だけが違う。
`sha256` は canonical string の長さを最後の byte に書く関数とし、長さ 233 と 234 の二つの
canonical string を見分ける。 -/
theorem verifyChain_head_hash_two_blocks :
    let sha256 : String → Digest := fun s =>
      ⟨List.replicate 31 0 ++ [UInt8.ofNat s.data.length], by simp⟩
    let b₁ : LedgerBlock :=
      { id := ⟨Uuid.nil⟩, sequenceNumber := 0, timestampUtc := 0, tenantId := ⟨Uuid.nil⟩,
        agentId := ⟨Uuid.nil⟩, taskId := ⟨Uuid.nil⟩, action := .toolCall, toolId := none,
        inputHash := .genesis, outputHash := .genesis, parentHash := .genesis, signature := none }
    let b₂ : LedgerBlock :=
      { b₁ with sequenceNumber := 10, parentHash := computeBlockHash sha256 b₁ }
    let c₁ : LedgerBlock := { b₁ with timestampUtc := 7, action := .deploy }
    let c₂ : LedgerBlock := { b₂ with timestampUtc := 8, signature := some "forged" }
    let bs := [b₁, b₂]
    let bs' := [c₁, c₂]
    bs ≠ bs' ∧ verifyChain sha256 bs = .ok () ∧ verifyChain sha256 bs' = .ok () ∧
      (∀ b ∈ bs, b.inputHash.isValid = true ∧ b.outputHash.isValid = true) ∧
      (∀ b ∈ bs, ∀ b' ∈ bs', sha256 b.canonicalString = sha256 b'.canonicalString →
        b.canonicalString = b'.canonicalString) ∧
      (∀ b ∈ bs ++ bs', computeBlockHash sha256 b ≠ BlockHash.genesis) ∧
      List.Forall₂ SameChainedFields bs bs' := by
  intro sha256 b₁ b₂ c₁ c₂ bs bs'
  have hlen₁ : b₁.canonicalString.data.length = 233 := by
    rw [LedgerBlock.length_canonicalString_data]; decide
  have hlen₂ : b₂.canonicalString.data.length = 234 := by
    rw [LedgerBlock.length_canonicalString_data]
    simp only [b₂, computeBlockHash, length_lowerHex, Digest.length_bytes]
    decide
  have hne : bs ≠ bs' := fun h =>
    absurd (congrArg (List.map LedgerBlock.timestampUtc) h) (by decide)
  have hv : verifyChain sha256 bs = .ok () :=
    (verifyChain_eq_ok_iff sha256 bs).mpr ⟨rfl, rfl, trivial⟩
  have hv' : verifyChain sha256 bs' = .ok () :=
    (verifyChain_eq_ok_iff sha256 bs').mpr ⟨rfl, rfl, trivial⟩
  have hvalid : ∀ b ∈ bs, b.inputHash.isValid = true ∧ b.outputHash.isValid = true := by
    simp [bs, b₂, b₁, BlockHash.genesis_isValid]
  -- 長さの違う二つの canonical string は、この hash で別の digest になる。
  have hsep : sha256 b₁.canonicalString ≠ sha256 b₂.canonicalString := fun h => by
    have := congrArg Digest.bytes h
    simp only [sha256, hlen₁, hlen₂] at this
    exact absurd this (by decide)
  have hcr : ∀ b ∈ bs, ∀ b' ∈ bs', sha256 b.canonicalString = sha256 b'.canonicalString →
      b.canonicalString = b'.canonicalString := by
    simp only [bs, bs', List.mem_cons, List.mem_singleton, List.not_mem_nil, or_false]
    rintro b (rfl | rfl) b' (rfl | rfl) h
    · rfl
    · exact absurd h hsep
    · exact absurd h.symm hsep
    · rfl
  have hng : ∀ b ∈ bs ++ bs', computeBlockHash sha256 b ≠ BlockHash.genesis := by
    have hhash : ∀ b : LedgerBlock, computeBlockHash sha256 b =
        ⟨⟨lowerHex (List.replicate 31 0 ++ [UInt8.ofNat b.canonicalString.data.length])⟩⟩ :=
      fun _ => rfl
    intro b hb
    have hb' : b ∈ [b₁, b₂, c₁, c₂] := hb
    simp only [List.mem_cons, List.mem_singleton, List.not_mem_nil, or_false] at hb'
    rcases hb' with rfl | rfl | rfl | rfl <;> rw [hhash]
    · rw [hlen₁]; decide
    · rw [hlen₂]; decide
    · rw [show c₁.canonicalString = b₁.canonicalString from rfl, hlen₁]; decide
    · rw [show c₂.canonicalString = b₂.canonicalString from rfl, hlen₂]; decide
  exact ⟨hne, hv, hv', hvalid, hcr, hng,
    verifyChain_head_hash_determines_chain sha256 bs bs' (List.cons_ne_nil _ _)
      (List.cons_ne_nil _ _) hv hv' hvalid hcr hng rfl⟩

section TamperEvidence

variable (sha256 : String → Digest)

/-! ## 検査が守らないもの

`verify_chain` は各 block の親の hash を前の block の hash と比べるだけである。したがって

* 判定と誤りは、鎖に入る五つの欄だけで決まる。`action`、`agent_id`、`task_id`、`tool_id`、
  時刻、`tenant_id`、`signature` は hash に入らず、書き換えても検査は気づかない。
* 最後の block の後ろには block が無いので、親の hash を保てば、その入力と出力の hash を
  書き換えても検査を通る。最後の block を守るのは、外に控えた先頭の hash だけである。
-/

theorem computeBlockHash_congr {b b' : LedgerBlock} (h : SameChainedFields b b') :
    computeBlockHash sha256 b = computeBlockHash sha256 b' := by
  rw [computeBlockHash, computeBlockHash, LedgerBlock.canonicalString_congr h]

/-- 窓の検査は、五つの欄が位置ごとに等しい列で同じ結果を返す。誤りの文言も同じである。 -/
theorem checkWindows_congr {rest rest' : List LedgerBlock}
    (h : List.Forall₂ SameChainedFields rest rest') : ∀ {b b' : LedgerBlock}, SameChainedFields b b' →
      checkWindows sha256 (windows2 (b :: rest)) = checkWindows sha256 (windows2 (b' :: rest')) := by
  induction h with
  | nil => intros; rfl
  | cons hc _ ih =>
    intro b b' hb
    rw [windows2_cons_cons, windows2_cons_cons, checkWindows, checkWindows, ih hc]
    simp only [linkViolation, computeBlockHash_congr sha256 hb, hc.parentHash, hc.id,
      hc.sequenceNumber]

theorem verifyChain_congr {bs bs' : List LedgerBlock} (h : List.Forall₂ SameChainedFields bs bs') :
    verifyChain sha256 bs = verifyChain sha256 bs' := by
  cases h with
  | nil => rfl
  | cons hb hrest =>
    simp only [verifyChain, genesisViolation, hb.parentHash, hb.id, checkWindows_congr sha256 hrest hb]

/-- 最後の block は、親の hash を保つ限り何に取り替えても検査を通る。 -/
theorem verifyChain_append_singleton_of_parentHash {l : List LedgerBlock} {x x' : LedgerBlock}
    (hp : x'.parentHash = x.parentHash) (h : verifyChain sha256 (l ++ [x]) = .ok ()) :
    verifyChain sha256 (l ++ [x']) = .ok () := by
  rw [verifyChain_eq_ok_iff, linkedFrom_append_singleton] at h ⊢
  exact ⟨h.1, hp.trans h.2⟩

/-- **`verify_chain` が守らないもの。** 五つの欄が位置ごとに等しい二つの列について、`verify_chain`
は同じ値を返す。検査を通る列の最後の block は、親の hash を保つ限り、どの block に取り替えても
検査を通る。 -/
theorem verifyChain_unprotected (bs bs' l : List LedgerBlock) (x x' : LedgerBlock) :
    (List.Forall₂ SameChainedFields bs bs' → verifyChain sha256 bs = verifyChain sha256 bs') ∧
      (x'.parentHash = x.parentHash → verifyChain sha256 (l ++ [x]) = .ok () →
        verifyChain sha256 (l ++ [x']) = .ok ()) :=
  ⟨verifyChain_congr sha256, verifyChain_append_singleton_of_parentHash sha256⟩

end TamperEvidence

end Aether
