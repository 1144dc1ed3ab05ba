import Aether.Core.Types

/-!
# ledger の block

`aether-core/src/ledger.rs` の型である。

* `BlockHash` は SHA-256 の 16 進文字列を包む。`genesis` は 64 個の `0`、
  `is_valid` は「64 byte で、どの文字も 16 進の桁」。
* `LedgerBlock` は一つの操作の記録で、`canonical_string` が鎖に入る五つの欄
  （`id`、通し番号、入力と出力の hash、親の hash）を `|` でつなぐ。

鎖の hash は canonical string だけから計算されるので、改竄の検出は
canonical string が五つの欄を決めるかどうかに懸かっている。
`id` と通し番号は `|` を含み得ないが、三つの hash は任意の文字列を持てる。
主な結果 `sameChainedFields_of_canonicalString_eq` は、片方の block の三つの hash が
`|` を含まなければ canonical string が等しい block は五つの欄が等しい、と言う。
もう片方については何も仮定しない。`|` の個数を数えると、もう片方の hash も
`|` を含まないことが分かるからである。
-/

namespace Aether

/-! ## `BlockHash` -/

/-- `BlockHash(pub String)`。 -/
structure BlockHash where
  val : String
  deriving DecidableEq

/-- `BlockHash::genesis()`：`"0".repeat(64)`。 -/
def BlockHash.genesis : BlockHash := ⟨⟨List.replicate 64 '0'⟩⟩

/-- `BlockHash::is_valid`。`len()` は byte 長である。 -/
def BlockHash.isValid (h : BlockHash) : Bool :=
  h.val.utf8ByteSize == 64 && h.val.data.all isAsciiHexdigit

theorem BlockHash.genesis_isValid : BlockHash.genesis.isValid = true := by decide

/-- 正しい hash は `|` を含まない。 -/
theorem BlockHash.pipe_not_mem_of_isValid {h : BlockHash} (hv : h.isValid = true) :
    '|' ∉ h.val.data := fun hm => by
  simp only [BlockHash.isValid, Bool.and_eq_true, List.all_eq_true] at hv
  exact (ne_delims_of_isAsciiHexdigit (hv.2 _ hm)).1 rfl

/-! ## `LedgerBlock` -/

/-- `LedgerAction`。hash の計算には関わらない。 -/
inductive LedgerAction where
  | toolCall
  | codeChange
  | memoryWrite
  | memoryDelete
  | agentSpawn
  | agentComplete
  | deploy
  | humanReview
  | toolCreated
  | compensation
  deriving DecidableEq

/-- `LedgerBlock`。時刻 `DateTime<Utc>` は epoch からの時間を整数で持つ。 -/
structure LedgerBlock where
  id : LedgerBlockId
  sequenceNumber : UInt64
  timestampUtc : Int
  tenantId : TenantId
  agentId : AgentId
  taskId : TaskId
  action : LedgerAction
  toolId : Option ToolId
  inputHash : BlockHash
  outputHash : BlockHash
  parentHash : BlockHash
  signature : Option String
  deriving DecidableEq

/-- `LedgerBlock::canonical_string`：`{block_id}|{seq}|{input_hash}|{output_hash}|{parent_hash}`。 -/
def LedgerBlock.canonicalString (b : LedgerBlock) : String :=
  b.id.toString ++ "|" ++ toString b.sequenceNumber.toNat ++ "|" ++ b.inputHash.val ++ "|" ++
    b.outputHash.val ++ "|" ++ b.parentHash.val

theorem LedgerBlock.canonicalString_data (b : LedgerBlock) :
    b.canonicalString.data =
      b.id.toString.data ++ '|' :: ((toString b.sequenceNumber.toNat).data ++ '|' ::
        (b.inputHash.val.data ++ '|' :: (b.outputHash.val.data ++ '|' :: b.parentHash.val.data))) := by
  simp [LedgerBlock.canonicalString, String.data_append]

/-- canonical string の長さは、36 文字の `id` と四つの `|` と残る四つの欄の長さの和である。 -/
theorem LedgerBlock.length_canonicalString_data (b : LedgerBlock) :
    b.canonicalString.data.length = 36 + (toString b.sequenceNumber.toNat).data.length +
      b.inputHash.val.data.length + b.outputHash.val.data.length +
        b.parentHash.val.data.length + 4 := by
  rw [LedgerBlock.canonicalString_data]
  simp only [List.length_append, List.length_cons, TypedId.toString, length_toString_data]
  omega

/-! ## canonical string は五つの欄を決める -/

/-- 区切りを含まない前半は、最初の区切りの位置で決まる。 -/
theorem append_cons_eq_iff {c : Char} :
    ∀ {x x' y y' : List Char}, c ∉ x → c ∉ x' → (x ++ c :: y = x' ++ c :: y' ↔ x = x' ∧ y = y')
  | [], [], _, _, _, _ => by simp
  | [], d :: x', _, _, _, hx' => by
    simp only [List.mem_cons, not_or] at hx'
    simp [hx'.1]
  | d :: x, [], _, _, hx, _ => by
    simp only [List.mem_cons, not_or] at hx
    simp [Ne.symm hx.1]
  | d :: x, d' :: x', y, y', hx, hx' => by
    simp only [List.cons_append, List.cons.injEq, List.mem_cons, not_or] at hx hx' ⊢
    rw [append_cons_eq_iff hx.2 hx'.2]
    tauto

/-- 鎖に入る五つの欄が等しいこと。 -/
structure SameChainedFields (b b' : LedgerBlock) : Prop where
  id : b.id = b'.id
  sequenceNumber : b.sequenceNumber = b'.sequenceNumber
  inputHash : b.inputHash = b'.inputHash
  outputHash : b.outputHash = b'.outputHash
  parentHash : b.parentHash = b'.parentHash

/-- canonical string は鎖に入る五つの欄だけで決まる。 -/
theorem LedgerBlock.canonicalString_congr {b b' : LedgerBlock} (h : SameChainedFields b b') :
    b.canonicalString = b'.canonicalString := by
  simp only [LedgerBlock.canonicalString, h.id, h.sequenceNumber, h.inputHash, h.outputHash,
    h.parentHash]

/-- 十進で書いた通し番号は `|` を含まない。 -/
theorem pipe_not_mem_toString_nat (n : Nat) : '|' ∉ (toString n).data :=
  fun h => (ne_delims_of_isDigit (isDigit_of_mem_toString h)).1 rfl

theorem count_pipe_canonicalString (b : LedgerBlock) :
    b.canonicalString.data.count '|' =
      b.inputHash.val.data.count '|' + b.outputHash.val.data.count '|' +
        b.parentHash.val.data.count '|' + 4 := by
  have hid := List.count_eq_zero.mpr b.id.not_delim_mem_toString.1
  have hseq := List.count_eq_zero.mpr (pipe_not_mem_toString_nat b.sequenceNumber.toNat)
  simp only [LedgerBlock.canonicalString_data, List.count_append, List.count_cons_self, hid, hseq]
  omega

/--
**canonical string の単射性。**

`b₁` の三つの hash が `|` を含まなければ、canonical string が `b₁` と等しい block は
五つの欄が `b₁` と等しい。`|` を数えると `b₂` の hash も `|` を含まないと分かり、
あとは先頭から区切りごとに切り分ければよい。
-/
theorem sameChainedFields_of_canonicalString_eq {b₁ b₂ : LedgerBlock}
    (hin : '|' ∉ b₁.inputHash.val.data) (hout : '|' ∉ b₁.outputHash.val.data)
    (hpar : '|' ∉ b₁.parentHash.val.data) (h : b₁.canonicalString = b₂.canonicalString) :
    SameChainedFields b₁ b₂ := by
  have hc := congrArg (fun s : String => s.data.count '|') h
  simp only [count_pipe_canonicalString, List.count_eq_zero.mpr hin, List.count_eq_zero.mpr hout,
    List.count_eq_zero.mpr hpar] at hc
  have hin₂ : '|' ∉ b₂.inputHash.val.data := List.count_eq_zero.mp (by omega)
  have hout₂ : '|' ∉ b₂.outputHash.val.data := List.count_eq_zero.mp (by omega)
  have hd := congrArg String.data h
  rw [LedgerBlock.canonicalString_data, LedgerBlock.canonicalString_data,
    append_cons_eq_iff b₁.id.not_delim_mem_toString.1 b₂.id.not_delim_mem_toString.1,
    append_cons_eq_iff (pipe_not_mem_toString_nat _) (pipe_not_mem_toString_nat _),
    append_cons_eq_iff hin hin₂, append_cons_eq_iff hout hout₂] at hd
  obtain ⟨hid, hseq, hi, ho, hp⟩ := hd
  exact ⟨TypedId.toString_injective (String.ext hid),
    UInt64.toNat.inj (toString_nat_injective (String.ext hseq)),
    congrArg BlockHash.mk (String.ext hi), congrArg BlockHash.mk (String.ext ho),
    congrArg BlockHash.mk (String.ext hp)⟩

/-- **canonical string は曖昧でない。** `b₁` の三つの hash が `|` を含まなければ、canonical string が
等しいことと、id、sequence number、三つの hash が等しいことは同じである。`BlockHash::is_valid` を
満たす hash は `|` を含まない（`BlockHash.pipe_not_mem_of_isValid`）。 -/
theorem LedgerBlock.canonicalString_eq_iff (b₁ b₂ : LedgerBlock)
    (hin : '|' ∉ b₁.inputHash.val.data) (hout : '|' ∉ b₁.outputHash.val.data)
    (hpar : '|' ∉ b₁.parentHash.val.data) :
    b₁.canonicalString = b₂.canonicalString ↔ SameChainedFields b₁ b₂ :=
  ⟨sameChainedFields_of_canonicalString_eq hin hout hpar, LedgerBlock.canonicalString_congr⟩

/-- 例：三つの hash が genesis の hash（`is_valid` を満たす）である block と、時刻だけが違う block。
時刻は canonical string に入らない。 -/
theorem LedgerBlock.canonicalString_eq_iff_genesis :
    let b : LedgerBlock :=
      { id := ⟨Uuid.nil⟩, sequenceNumber := 7, timestampUtc := 0, tenantId := ⟨Uuid.nil⟩,
        agentId := ⟨Uuid.nil⟩, taskId := ⟨Uuid.nil⟩, action := .toolCall, toolId := none,
        inputHash := .genesis, outputHash := .genesis, parentHash := .genesis, signature := none }
    '|' ∉ b.inputHash.val.data ∧ '|' ∉ b.outputHash.val.data ∧ '|' ∉ b.parentHash.val.data ∧
      (b.canonicalString = { b with timestampUtc := 1 }.canonicalString ↔
        SameChainedFields b { b with timestampUtc := 1 }) := by
  intro b
  have hg : '|' ∉ BlockHash.genesis.val.data := BlockHash.pipe_not_mem_of_isValid BlockHash.genesis_isValid
  exact ⟨hg, hg, hg, LedgerBlock.canonicalString_eq_iff b _ hg hg hg⟩

end Aether
