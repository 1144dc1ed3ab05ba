import Aether.Ledger.Builder
import Aether.Ledger.Storage

/-!
# tenant の監査

`aether-ledger/src/verify.rs` の `LedgerVerifier::verify_tenant` である。保存先から tenant の
block を取り出して数え、`verify_chain` にかけ、通れば報告を返す。保存先の誤りと鎖の誤りは
そのまま返す。報告は成功したときにしか作られないので、`intact` はいつも `true` である。

主な結果 `inMemory_appendAll_spec` は、空の in-memory の保存先に任意の順で block を
append した後の四つの読み出しと監査の振る舞いをまとめる。

`verifyTenant_appendAll_buildChain` は書き手と監査をつなぐ。tenant ごとに builder で約束どおりに
積んだ block を、どう混ぜて append しても、どの tenant の監査も通る。
-/

namespace Aether

/-- `VerificationReport`。 -/
structure VerificationReport where
  tenantId : TenantId
  blocksVerified : Nat
  intact : Bool
  deriving DecidableEq

section Verify

variable (sha256 : String → Digest)

/-- `LedgerVerifier::verify_tenant`。`LedgerVerifier<S>` の保存先 `S` と、その状態を受ける。 -/
def verifyTenant {σ : Type} (storage : LedgerStorage σ) (s : σ) (tenantId : TenantId) :
    Result VerificationReport := do
  let blocks ← storage.getBlocks s tenantId
  let count := blocks.length
  verifyChain sha256 blocks
  pure { tenantId, blocksVerified := count, intact := true }

/-- 保存先が読めれば、監査の答えは鎖の検査の答えだけで決まる。 -/
theorem verifyTenant_of_getBlocks {σ : Type} (storage : LedgerStorage σ) (s : σ) (t : TenantId)
    (blocks : List LedgerBlock) (h : storage.getBlocks s t = .ok blocks) :
    verifyTenant sha256 storage s t =
      (verifyChain sha256 blocks).map fun _ => ⟨t, blocks.length, true⟩ := by
  simp only [verifyTenant, h, bind, Except.bind, pure, Except.pure]
  cases verifyChain sha256 blocks <;> rfl

/--
**空の in-memory の保存先に block を append した後の振る舞い。**

tenant の数も、その append の順も任意である。どの tenant `t` についても、
`get_blocks(t)` は append した block のうち tenant が `t` のものを append した順に返し、
`count(t)` はその長さを返す。`get_block(id)` は `id` の一致する append 済みの block を返し、
そのような block が無いときに限り `NotFound` を返す。監査は、その列が `verify_chain` を通れば
`VerificationReport { tenant_id: t, blocks_verified: count(t), intact: true }` を返し、
通らなければ `verify_chain` の誤りをそのまま返す。
-/
theorem inMemory_appendAll_spec (bs : List LedgerBlock) (t : TenantId) (id : LedgerBlockId) :
    let s := InMemoryLedgerStorage.new.appendAll bs
    let mine := bs.filter (fun b => b.tenantId = t)
    s.getBlocks t = .ok mine ∧ s.count t = .ok mine.length ∧
    (∀ b, s.getBlock id = .ok b → b ∈ bs ∧ b.id = id) ∧
    (∀ e, s.getBlock id = .error e →
      e = AetherError.notFoundOf "LedgerBlock" id ∧ ∀ b ∈ bs, b.id ≠ id) ∧
    (verifyTenant sha256 inMemoryLedgerStorage s t = .ok ⟨t, mine.length, true⟩ ↔
      verifyChain sha256 mine = .ok ()) ∧
    (∀ e, verifyChain sha256 mine = .error e →
      verifyTenant sha256 inMemoryLedgerStorage s t = .error e) := by
  have hget := InMemoryLedgerStorage.getBlocks_appendAll bs t
  have hv := verifyTenant_of_getBlocks sha256 inMemoryLedgerStorage _ t _ hget
  refine ⟨hget, InMemoryLedgerStorage.count_appendAll bs t,
    InMemoryLedgerStorage.getBlock_appendAll_ok bs id,
    InMemoryLedgerStorage.getBlock_appendAll_error bs id, ?_, fun e he => by rw [hv, he]; rfl⟩
  rw [hv]
  cases verifyChain sha256 (bs.filter fun b => b.tenantId = t) <;> simp [Except.map]

/--
**約束どおりに積めば監査は通る。**

いくつもの tenant の block が入り混じった append の列 `bs` から tenant `t` の block を取り出すと、
builder で親を直前の block の hash に置きながら genesis から積んだ鎖になっているとする。
このとき `verify_tenant(t)` は、その鎖の長さを `blocks_verified` とする `intact` な報告を返す。
-/
theorem verifyTenant_appendAll_buildChain {Value : Type} (toJson : Value → String)
    (bs : List LedgerBlock) (t : TenantId) (xs : List (LedgerBlockBuilder Value × LedgerBlockId × Int))
    (h : bs.filter (fun b => b.tenantId = t) = buildChain sha256 toJson BlockHash.genesis xs) :
    verifyTenant sha256 inMemoryLedgerStorage (InMemoryLedgerStorage.new.appendAll bs) t =
      .ok ⟨t, xs.length, true⟩ := by
  have hget := InMemoryLedgerStorage.getBlocks_appendAll bs t
  rw [verifyTenant_of_getBlocks sha256 inMemoryLedgerStorage _ t _ hget, h,
    (verifyChain_eq_ok_iff sha256 _).mpr (linkedFrom_buildChain sha256 toJson _ xs),
    length_buildChain]
  rfl

end Verify

/-- 例：別の tenant の block の後に、tenant `0…0` の一つの block の鎖を append する。 -/
theorem verifyTenant_appendAll_buildChain_mixed :
    let sha256 : String → Digest := fun _ => ⟨List.replicate 32 0x11, rfl⟩
    let xs : List (LedgerBlockBuilder Unit × LedgerBlockId × Int) :=
      [(LedgerBlockBuilder.new () ⟨Uuid.nil⟩ ⟨Uuid.nil⟩ ⟨Uuid.nil⟩ .toolCall .genesis 0, ⟨Uuid.nil⟩, 0)]
    let other : LedgerBlock :=
      { id := ⟨Uuid.max⟩, sequenceNumber := 0, timestampUtc := 0, tenantId := ⟨Uuid.max⟩,
        agentId := ⟨Uuid.max⟩, taskId := ⟨Uuid.max⟩, action := .deploy, toolId := none,
        inputHash := .genesis, outputHash := .genesis, parentHash := .genesis, signature := none }
    let bs := other :: buildChain sha256 (fun _ => "null") .genesis xs
    bs.filter (fun b => b.tenantId = ⟨Uuid.nil⟩) = buildChain sha256 (fun _ => "null") .genesis xs ∧
      verifyTenant sha256 inMemoryLedgerStorage (InMemoryLedgerStorage.new.appendAll bs) ⟨Uuid.nil⟩ =
        .ok ⟨⟨Uuid.nil⟩, xs.length, true⟩ := by
  intro sha256 xs other bs
  have h : bs.filter (fun b => b.tenantId = ⟨Uuid.nil⟩) =
      buildChain sha256 (fun _ => "null") .genesis xs := by decide
  exact ⟨h, verifyTenant_appendAll_buildChain sha256 _ bs _ xs h⟩

end Aether
