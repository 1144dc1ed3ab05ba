import Aether.Core.Types

/-!
# 会話の履歴

`aether-session/src/history.rs` の `ConversationHistory` である。履歴は `MemoryMessage` の列で、
末尾に足し、古い方から捨てる。

* `truncate_to_last(n)` は長さが `n` を超えるときだけ先頭の `len - n` 個を `drain` する。
  したがって結果はいつも「最後の `min(n, len)` 個」である（`truncateToLast_messages`）。
* `replace_with_summary(s, k)` は最後の `k` 個（`saturating_sub` で長さに切り詰める）を残し、
  その前に要約の system message を一つ置く。

`summary.rs` の `SummaryPolicy` もここに置く。

`lastN` は「列の最後の `n` 個」で、履歴の上限の議論はすべてこれで書く。
その要は `lastN_lastN_append`：最後の `n` 個に何か足してまた最後の `n` 個を取ると、
はじめから全部に足して最後の `n` 個を取ったのと同じになる。
-/

namespace Aether

/-- 列の最後の `n` 個（`n` が長さより大きければ全部）。 -/
def lastN {α : Type} (n : Nat) (l : List α) : List α := l.drop (l.length - n)

@[simp] theorem length_lastN {α : Type} (n : Nat) (l : List α) :
    (lastN n l).length = min n l.length := by
  simp [lastN]; omega

theorem lastN_of_length_le {α : Type} {n : Nat} {l : List α} (h : l.length ≤ n) : lastN n l = l := by
  simp [lastN, Nat.sub_eq_zero_of_le h]

/-- 最後の `n` 個に足してから最後の `n` 個を取っても、捨てた分は戻ってこない。 -/
theorem lastN_lastN_append {α : Type} (n : Nat) (l r : List α) :
    lastN n (lastN n l ++ r) = lastN n (l ++ r) := by
  by_cases h : l.length ≤ n
  · rw [lastN_of_length_le h]
  · -- 右辺は、先に `l` の前の `l.length - n` 個を落とし、次に `r.length` 個を落とす。
    simp only [lastN, List.length_append, List.length_drop]
    rw [show l.length - (l.length - n) + r.length - n = r.length by omega,
      show l.length + r.length - n = l.length - n + r.length by omega, ← List.drop_drop,
      List.drop_append_of_le_length (Nat.sub_le _ _)]

/-- `ConversationHistory`。 -/
structure ConversationHistory where
  messages : List MemoryMessage
  deriving DecidableEq

namespace ConversationHistory

/-- `ConversationHistory::new()`。 -/
def new : ConversationHistory := ⟨[]⟩

/-- `add_user`。 -/
def addUser (h : ConversationHistory) (content : String) : ConversationHistory :=
  ⟨h.messages ++ [⟨.user, content⟩]⟩

/-- `add_assistant`。 -/
def addAssistant (h : ConversationHistory) (content : String) : ConversationHistory :=
  ⟨h.messages ++ [⟨.assistant, content⟩]⟩

/-- `add_tool_result`。 -/
def addToolResult (h : ConversationHistory) (content : String) : ConversationHistory :=
  ⟨h.messages ++ [⟨.tool, content⟩]⟩

/-- `len()`。 -/
def len (h : ConversationHistory) : Nat := h.messages.length

/-- `is_empty()`。 -/
def isEmpty (h : ConversationHistory) : Bool := h.messages.isEmpty

/-- `truncate_to_last(n)`。 -/
def truncateToLast (h : ConversationHistory) (n : Nat) : ConversationHistory :=
  if h.messages.length > n then ⟨h.messages.drop (h.messages.length - n)⟩ else h

/-- 要約の system message の前置き：`"[Summary of earlier conversation]\n{summary}"`。 -/
def summaryMessage (summary : String) : MemoryMessage :=
  ⟨.system, "[Summary of earlier conversation]\n" ++ summary⟩

/-- `replace_with_summary(summary, keep_last)`。 -/
def replaceWithSummary (h : ConversationHistory) (summary : String) (keepLast : Nat) :
    ConversationHistory :=
  let keep := h.messages.length - keepLast
  ⟨[summaryMessage summary] ++ h.messages.drop keep⟩

@[simp] theorem new_messages : new.messages = [] := rfl

@[simp] theorem addUser_messages (h : ConversationHistory) (c : String) :
    (h.addUser c).messages = h.messages ++ [⟨.user, c⟩] := rfl

@[simp] theorem addAssistant_messages (h : ConversationHistory) (c : String) :
    (h.addAssistant c).messages = h.messages ++ [⟨.assistant, c⟩] := rfl

/-- `truncate_to_last(n)` は最後の `n` 個を残す。長さが `n` 以下なら何もしない。 -/
@[simp] theorem truncateToLast_messages (h : ConversationHistory) (n : Nat) :
    (h.truncateToLast n).messages = lastN n h.messages := by
  unfold truncateToLast
  split
  · rfl
  · next hn => exact (lastN_of_length_le (by omega)).symm

@[simp] theorem len_replaceWithSummary (h : ConversationHistory) (summary : String) (keepLast : Nat) :
    (h.replaceWithSummary summary keepLast).len = 1 + min keepLast h.len := by
  simp only [replaceWithSummary, len, List.length_append, List.length_singleton, List.length_drop]
  omega

/-- **要約による置き換え。** 結果は要約の system message 一つの後に、元の履歴の最後の
`min(keep_last, len)` 個を元の順で並べたものである。`keep_last` が 0 でも長さ以上でもよい。 -/
theorem replaceWithSummary_messages (h : ConversationHistory) (summary : String) (keepLast : Nat) :
    (h.replaceWithSummary summary keepLast).messages =
        ⟨.system, "[Summary of earlier conversation]\n" ++ summary⟩ :: lastN keepLast h.messages ∧
      (lastN keepLast h.messages).IsSuffix h.messages ∧
      (lastN keepLast h.messages).length = min keepLast h.len ∧
      (h.replaceWithSummary summary keepLast).len = 1 + min keepLast h.len :=
  ⟨rfl, List.drop_suffix _ _, length_lastN _ _, len_replaceWithSummary h summary keepLast⟩

end ConversationHistory

/-! ## 要約の方針

`aether-session/src/summary.rs` の `SummaryPolicy` である。履歴の長さが `trigger_at_messages`
に達したら要約し、`retain_after` 個を残す。
-/

/-- `SummaryPolicy`。 -/
structure SummaryPolicy where
  triggerAtMessages : Nat
  retainAfter : Nat
  deriving DecidableEq

/-- `SummaryPolicy::default()`：40 個で要約し、10 個を残す。 -/
def SummaryPolicy.default : SummaryPolicy := ⟨40, 10⟩

/-- `should_summarize(history_len)`。 -/
def SummaryPolicy.shouldSummarize (p : SummaryPolicy) (historyLen : Nat) : Bool :=
  decide (historyLen ≥ p.triggerAtMessages)

end Aether
