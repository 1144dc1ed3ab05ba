import Aether.Ledger.TamperEvidence

/-!
# block の組み立て

`aether-ledger/src/block.rs` の `LedgerBlockBuilder` と `block_to_ref` である。

payload の型 `serde_json::Value` とその直列化 `serde_json::to_vec` は外部の crate にあり、
ここでは型 `Value` と関数 `toJson` として受ける。直列化は JSON の文字列で、
その UTF-8 の byte 列が SHA-256 に渡る。`to_vec` は `Value` について失敗しないので、
`unwrap_or_default()` の既定値の側は現れない。

`build()` は新しい `LedgerBlockId` と現在時刻を作る。これは呼び出しごとに変わる値なので、
引数として受ける。

主な結果は二つ。

* `verifyChain_buildChain`：仕様の呼び出し側の約束どおり、各 block の親を直前の block の
  鎖の hash（最初は genesis）にして組み立てた列は `verify_chain` を通る。
* `buildChain_head_hash_determines_chain`：そうして組み立てた鎖は改竄を検出できる。
  組み立てた block の入力と出力の hash は `is_valid` を満たす（`buildChain_hashes_isValid`）ので、
  改竄の検出が一つ目の列に課す仮定は消え、残る仮定は SHA-256 についての二つだけである。
-/

namespace Aether

/-- `LedgerBlockBuilder`。 -/
structure LedgerBlockBuilder (Value : Type) where
  tenantId : TenantId
  agentId : AgentId
  taskId : TaskId
  action : LedgerAction
  toolId : Option ToolId
  input : Value
  output : Value
  parentHash : BlockHash
  sequenceNumber : UInt64

/-- `LedgerRef`：結果に載せる block の参照。 -/
structure LedgerRef where
  blockId : LedgerBlockId
  sequenceNumber : UInt64
  action : LedgerAction
  timestampUtc : Int

section Builder

variable {Value : Type} (sha256 : String → Digest) (toJson : Value → String)

/-- `LedgerBlockBuilder::new`：`tool_id` は `None`、入力と出力は `Value::Null`。 -/
def LedgerBlockBuilder.new (null : Value) (tenantId : TenantId) (agentId : AgentId)
    (taskId : TaskId) (action : LedgerAction) (parentHash : BlockHash) (sequenceNumber : UInt64) :
    LedgerBlockBuilder Value :=
  { tenantId, agentId, taskId, action, toolId := none, input := null, output := null, parentHash,
    sequenceNumber }

/-- `.tool_id(id)`。 -/
def LedgerBlockBuilder.setToolId (b : LedgerBlockBuilder Value) (id : ToolId) :
    LedgerBlockBuilder Value := { b with toolId := some id }

/-- `.input(v)`。 -/
def LedgerBlockBuilder.setInput (b : LedgerBlockBuilder Value) (v : Value) :
    LedgerBlockBuilder Value := { b with input := v }

/-- `.output(v)`。 -/
def LedgerBlockBuilder.setOutput (b : LedgerBlockBuilder Value) (v : Value) :
    LedgerBlockBuilder Value := { b with output := v }

/-- `hash_value`：直列化した byte 列の SHA-256 を `{:x}` で書く。 -/
def hashValue (v : Value) : BlockHash := ⟨⟨lowerHex (sha256 (toJson v)).bytes⟩⟩

/-- `build()`。`id` と `now` は `LedgerBlockId::new()` と `Utc::now()` の値である。 -/
def LedgerBlockBuilder.build (b : LedgerBlockBuilder Value) (id : LedgerBlockId) (now : Int) :
    LedgerBlock :=
  { id, sequenceNumber := b.sequenceNumber, timestampUtc := now, tenantId := b.tenantId,
    agentId := b.agentId, taskId := b.taskId, action := b.action, toolId := b.toolId,
    inputHash := hashValue sha256 toJson b.input, outputHash := hashValue sha256 toJson b.output,
    parentHash := b.parentHash, signature := none }

/-- `block_to_ref`。 -/
def blockToRef (b : LedgerBlock) : LedgerRef :=
  { blockId := b.id, sequenceNumber := b.sequenceNumber, action := b.action,
    timestampUtc := b.timestampUtc }

/-! ## 組み立てた hash は正しい形をしている -/

theorem utf8ByteSize_go_lowerHex (bs : List UInt8) :
    String.utf8ByteSize.go (lowerHex bs) = 2 * bs.length := by
  have hsize : ∀ d ∈ List.range 16, (hexDigit d).utf8Size = 1 := by decide
  induction bs with
  | nil => rfl
  | cons b bs ih =>
    have hb := UInt8.toNat_lt_size b
    change b.toNat < 256 at hb
    simp only [lowerHex_cons, String.utf8ByteSize.go, ih,
      hsize _ (List.mem_range.mpr (show b.toNat / 16 < 16 by omega)),
      hsize _ (List.mem_range.mpr (Nat.mod_lt _ (show 16 > 0 by omega))), List.length_cons]
    omega

/-- 32 byte の digest を `{:x}` で書いたものは `is_valid` を満たす。 -/
theorem isValid_lowerHex (d : Digest) : (BlockHash.mk ⟨lowerHex d.bytes⟩).isValid = true := by
  simp only [BlockHash.isValid, String.utf8ByteSize, utf8ByteSize_go_lowerHex, d.length_bytes,
    Bool.and_eq_true, beq_iff_eq, List.all_eq_true]
  exact ⟨trivial, fun c hc => isAsciiHexdigit_of_mem_lowerHex hc⟩

/-- **組み立てた block の入力と出力の hash は `is_valid` を満たす。** -/
theorem build_hashes_isValid (b : LedgerBlockBuilder Value) (id : LedgerBlockId) (now : Int) :
    (b.build sha256 toJson id now).inputHash.isValid = true ∧
      (b.build sha256 toJson id now).outputHash.isValid = true :=
  ⟨isValid_lowerHex _, isValid_lowerHex _⟩

/-! ## 約束どおりに積んだ鎖 -/

/-- 呼び出し側の約束どおりに block を積む。各 builder の親の hash を、直前の block の鎖の hash
（最初は `p`）に置いてから `build()` する。 -/
def buildChain (p : BlockHash) :
    List (LedgerBlockBuilder Value × LedgerBlockId × Int) → List LedgerBlock
  | [] => []
  | (b, id, now) :: rest =>
    let blk := ({ b with parentHash := p } : LedgerBlockBuilder Value).build sha256 toJson id now
    blk :: buildChain (computeBlockHash sha256 blk) rest

theorem linkedFrom_buildChain :
    ∀ (p : BlockHash) (xs : List (LedgerBlockBuilder Value × LedgerBlockId × Int)),
      LinkedFrom sha256 p (buildChain sha256 toJson p xs)
  | _, [] => trivial
  | _, _ :: rest => ⟨rfl, linkedFrom_buildChain _ rest⟩

@[simp] theorem length_buildChain :
    ∀ (p : BlockHash) (xs : List (LedgerBlockBuilder Value × LedgerBlockId × Int)),
      (buildChain sha256 toJson p xs).length = xs.length
  | _, [] => rfl
  | _, _ :: rest => congrArg Nat.succ (length_buildChain _ rest)

/-- **約束どおりに積んだ鎖は `verify_chain` を通る。** -/
theorem verifyChain_buildChain (xs : List (LedgerBlockBuilder Value × LedgerBlockId × Int)) :
    verifyChain sha256 (buildChain sha256 toJson BlockHash.genesis xs) = .ok () :=
  (verifyChain_eq_ok_iff sha256 _).mpr (linkedFrom_buildChain sha256 toJson _ xs)

/-- 約束どおりに積んだ block の入力と出力の hash は `is_valid` を満たす。 -/
theorem buildChain_hashes_isValid :
    ∀ (p : BlockHash) (xs : List (LedgerBlockBuilder Value × LedgerBlockId × Int)),
      ∀ blk ∈ buildChain sha256 toJson p xs,
        blk.inputHash.isValid = true ∧ blk.outputHash.isValid = true
  | _, [], _, h => absurd h (List.not_mem_nil _)
  | _, (_, id, now) :: rest, blk, h => by
    rcases List.mem_cons.mp h with rfl | h
    · exact build_hashes_isValid sha256 toJson _ id now
    · exact buildChain_hashes_isValid _ rest blk h

/--
**組み立てた鎖の改竄の検出。** 約束どおりに genesis から積んだ空でない鎖と、`verify_chain` を
通る空でない列 `bs'` の最後の block の hash が等しければ、`bs'` は組み立てた鎖と長さが等しく、
位置ごとに `id`、通し番号、入力・出力・親の hash が等しい。SHA-256 については、二つの列の
block の canonical string の間に衝突が無いことと、どの block の鎖の hash も genesis でない
ことだけを仮定する。
-/
theorem buildChain_head_hash_determines_chain
    (xs : List (LedgerBlockBuilder Value × LedgerBlockId × Int)) (bs' : List LedgerBlock)
    (hne : buildChain sha256 toJson BlockHash.genesis xs ≠ []) (hne' : bs' ≠ [])
    (hv' : verifyChain sha256 bs' = .ok ())
    (hcr : ∀ b ∈ buildChain sha256 toJson BlockHash.genesis xs, ∀ b' ∈ bs',
      sha256 b.canonicalString = sha256 b'.canonicalString → b.canonicalString = b'.canonicalString)
    (hng : ∀ b ∈ buildChain sha256 toJson BlockHash.genesis xs ++ bs',
      computeBlockHash sha256 b ≠ BlockHash.genesis)
    (hhead : computeBlockHash sha256 ((buildChain sha256 toJson BlockHash.genesis xs).getLast hne) =
      computeBlockHash sha256 (bs'.getLast hne')) :
    List.Forall₂ SameChainedFields (buildChain sha256 toJson BlockHash.genesis xs) bs' :=
  forall₂_of_linkedFrom_getLast sha256 _ bs' hne hne' (linkedFrom_buildChain sha256 toJson _ xs)
    ((verifyChain_eq_ok_iff sha256 bs').mp hv') (buildChain_hashes_isValid sha256 toJson _ xs) hcr
    hng hhead

end Builder

/-- 例：`LedgerBlockBuilder::new` から通し番号 0 と 10 の二つの block を積んだ鎖と、その時刻を
ずらし偽の署名を付けた列。`sha256` は canonical string の長さを最後の byte に書く関数で、
長さ 233 と 234 の二つの canonical string を見分ける。 -/
theorem buildChain_head_hash_two_blocks :
    let sha256 : String → Digest := fun s =>
      ⟨List.replicate 31 0 ++ [UInt8.ofNat s.data.length], by simp⟩
    let builder : LedgerBlockBuilder String :=
      .new "null" ⟨Uuid.nil⟩ ⟨Uuid.nil⟩ ⟨Uuid.nil⟩ .toolCall .genesis 0
    let xs : List (LedgerBlockBuilder String × LedgerBlockId × Int) :=
      [(builder, ⟨Uuid.nil⟩, 0), ({ builder with sequenceNumber := 10 }, ⟨Uuid.nil⟩, 1)]
    let bs : List LedgerBlock := buildChain sha256 id BlockHash.genesis xs
    let bs' : List LedgerBlock :=
      bs.map fun b => { b with timestampUtc := b.timestampUtc + 7, signature := some "forged" }
    bs ≠ bs' ∧ verifyChain sha256 bs' = .ok () ∧
      (∀ b ∈ bs, ∀ b' ∈ bs', sha256 b.canonicalString = sha256 b'.canonicalString →
        b.canonicalString = b'.canonicalString) ∧
      (∀ b ∈ bs ++ bs', computeBlockHash sha256 b ≠ BlockHash.genesis) ∧
      List.Forall₂ SameChainedFields bs bs' := by
  intro sha256 builder xs bs bs'
  have hhash : ∀ b : LedgerBlock, computeBlockHash sha256 b =
      ⟨⟨lowerHex (List.replicate 31 0 ++ [UInt8.ofNat b.canonicalString.data.length])⟩⟩ :=
    fun _ => rfl
  have hval : (hashValue sha256 id "null").val.data.length = 64 := by
    simp [hashValue, Digest.length_bytes]
  -- 組み立てた二つの block。二つ目の親は一つ目の鎖の hash である。
  obtain ⟨b₁, b₂, hbs, hp₁, hp₂, hlen₁, hlen₂⟩ : ∃ b₁ b₂ : LedgerBlock, bs = [b₁, b₂] ∧
      b₁.parentHash = BlockHash.genesis ∧ b₂.parentHash = computeBlockHash sha256 b₁ ∧
      b₁.canonicalString.data.length = 233 ∧ b₂.canonicalString.data.length = 234 := by
    refine ⟨_, _, rfl, rfl, rfl, ?_, ?_⟩ <;> rw [LedgerBlock.length_canonicalString_data]
    · simp only [LedgerBlockBuilder.build, builder, LedgerBlockBuilder.new, hval]
      decide
    · simp only [LedgerBlockBuilder.build, builder, LedgerBlockBuilder.new, hval, hhash,
        length_lowerHex]
      decide
  have hbs' : bs' = [{ b₁ with timestampUtc := b₁.timestampUtc + 7, signature := some "forged" },
      { b₂ with timestampUtc := b₂.timestampUtc + 7, signature := some "forged" }] := by
    show bs.map _ = _
    rw [hbs]
    rfl
  have hsep : sha256 b₁.canonicalString ≠ sha256 b₂.canonicalString := fun h => by
    have := congrArg Digest.bytes h
    simp only [sha256, hlen₁, hlen₂] at this
    exact absurd this (by decide)
  have hv' : verifyChain sha256 bs' = .ok () := by
    rw [hbs']
    exact (verifyChain_eq_ok_iff sha256 _).mpr ⟨hp₁, hp₂, trivial⟩
  have hcr : ∀ b ∈ bs, ∀ b' ∈ bs', sha256 b.canonicalString = sha256 b'.canonicalString →
      b.canonicalString = b'.canonicalString := by
    rw [hbs', hbs]
    simp only [List.mem_cons, List.mem_singleton, List.not_mem_nil, or_false]
    rintro b (rfl | rfl) b' (rfl | rfl) h
    · rfl
    · exact absurd h hsep
    · exact absurd h.symm hsep
    · rfl
  have hforged : ∀ b : LedgerBlock,
      LedgerBlock.canonicalString
        { b with timestampUtc := b.timestampUtc + 7, signature := some "forged" } =
      b.canonicalString := fun _ => rfl
  have hng : ∀ b ∈ bs ++ bs', computeBlockHash sha256 b ≠ BlockHash.genesis := by
    rw [hbs', hbs]
    simp only [List.mem_append, List.mem_cons, List.not_mem_nil, or_false]
    rintro b ((rfl | rfl) | (rfl | rfl)) <;> rw [hhash]
    · rw [hlen₁]; decide
    · rw [hlen₂]; decide
    · rw [hforged, hlen₁]; decide
    · rw [hforged, hlen₂]; decide
  have hne : bs ≠ [] := by rw [hbs]; exact List.cons_ne_nil _ _
  have hne' : bs' ≠ [] := by rw [hbs']; exact List.cons_ne_nil _ _
  exact ⟨fun h => by simpa [hbs, hbs'] using congrArg (List.map LedgerBlock.timestampUtc) h, hv',
    hcr, hng, buildChain_head_hash_determines_chain sha256 id xs bs' hne hne' hv' hcr hng rfl⟩

end Aether
