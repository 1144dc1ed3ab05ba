import Aether.Core.Uuid

/-!
# session key の書き方と読み方

`aether-session/src/keys.rs` の `SessionKey` である。`Display` は

`tenant:{tenant_id}:agent:{agent_id}:channel:{channel}:peer:{peer_id}`

と書き、`parse` は `splitn(8, ':')` で八つに切って読む。`splitn` は七つ目の `:` より後ろを
切らずに最後の部分に残すので、`peer_id` は `:` を含んでよい。ところが `channel` の中の
`:` はそこで切られてしまう。したがって往復が成り立つのは、`channel` が `:` を含まない
key に限る（`parse_toString_of_channel`）。含む key では往復が崩れる（`parse_toString_channel_colon`）。

ID は UUID の文字列で、`:` を含まず、`parse` で元に戻る（`Uuid`）。

逆向きには、`parse` が受けた key の `channel` はいつも `:` を含まないので、その key は往復する
（`parse_toString_parse`）。
-/

namespace Aether

/-! ## `str::splitn` -/

/-- 最初の `c` で二つに切る。`c` が無ければ `none`。 -/
def splitAtFirst (c : Char) : List Char → Option (List Char × List Char)
  | [] => none
  | d :: rest =>
    if d = c then some ([], rest) else (splitAtFirst c rest).map fun p => (d :: p.1, p.2)

/-- `str::splitn(n, c)`：高々 `n` 個に切る。最後の部分は残り全部である。 -/
def splitn : Nat → Char → List Char → List (List Char)
  | 0, _, _ => []
  | 1, _, s => [s]
  | n + 2, c, s =>
    match splitAtFirst c s with
    | some (a, rest) => a :: splitn (n + 1) c rest
    | none => [s]

theorem splitAtFirst_append {c : Char} {a : List Char} (ha : c ∉ a) (rest : List Char) :
    splitAtFirst c (a ++ c :: rest) = some (a, rest) := by
  induction a with
  | nil => simp [splitAtFirst]
  | cons d a ih =>
    simp only [List.mem_cons, not_or] at ha
    simp [splitAtFirst, Ne.symm ha.1, ih ha.2]

/-- 切り口の前に `c` が無ければ、`splitn` は最初の部分としてそれを切り出す。 -/
theorem splitn_append {c : Char} {a : List Char} (ha : c ∉ a) (n : Nat) (rest : List Char) :
    splitn (n + 2) c (a ++ c :: rest) = a :: splitn (n + 1) c rest := by
  simp [splitn, splitAtFirst_append ha]

/-! ## `SessionKey` -/

/-- `SessionKey`。 -/
structure SessionKey where
  tenantId : TenantId
  agentId : AgentId
  channel : String
  peerId : String
  deriving DecidableEq

/-- `impl Display for SessionKey`。 -/
def SessionKey.toString (k : SessionKey) : String :=
  "tenant:" ++ k.tenantId.toString ++ ":agent:" ++ k.agentId.toString ++ ":channel:" ++ k.channel ++
    ":peer:" ++ k.peerId

/-- `SessionKey::parse`。 -/
def SessionKey.parse (s : String) : Option SessionKey :=
  match splitn 8 ':' s.data with
  | [p0, p1, p2, p3, p4, p5, p6, p7] =>
    if p0 = "tenant".data ∧ p2 = "agent".data ∧ p4 = "channel".data ∧ p6 = "peer".data then
      (TypedId.parse ⟨p1⟩).bind fun tenantId =>
        (TypedId.parse ⟨p3⟩).map fun agentId =>
          { tenantId, agentId, channel := ⟨p5⟩, peerId := ⟨p7⟩ }
    else none
  | _ => none

theorem SessionKey.toString_data (k : SessionKey) :
    k.toString.data =
      "tenant".data ++ ':' :: (k.tenantId.toString.data ++ ':' :: ("agent".data ++ ':' ::
        (k.agentId.toString.data ++ ':' :: ("channel".data ++ ':' :: (k.channel.data ++ ':' ::
          ("peer".data ++ ':' :: k.peerId.data)))))) := by
  simp [SessionKey.toString, String.data_append]

/-- 書いた key を `splitn` で八つに切ると、`channel` が `:` を含まない限り、書いた部分がそのまま戻る。 -/
theorem SessionKey.parse_toString_eq_some (k : SessionKey) (h : ':' ∉ k.channel.data) :
    SessionKey.parse k.toString = some k := by
  rw [SessionKey.parse, SessionKey.toString_data,
    splitn_append (by decide), splitn_append k.tenantId.not_delim_mem_toString.2,
    splitn_append (by decide), splitn_append k.agentId.not_delim_mem_toString.2,
    splitn_append (by decide), splitn_append h, splitn_append (by decide)]
  simp [splitn, TypedId.parse_toString]

/-- **session key の往復。** `channel` が `:` を含まなければ、書いた key を読むと元に戻る。
`peer_id` は何を含んでもよい。 -/
theorem SessionKey.parse_toString_of_channel (k : SessionKey) (h : ':' ∉ k.channel.data) :
    SessionKey.parse k.toString = some k :=
  SessionKey.parse_toString_eq_some k h

/-- 往復の例：`:` を含む `peer_id` は `splitn` の最後の部分にそのまま残る。 -/
theorem SessionKey.parse_toString_nil_peer_colon :
    ':' ∉ "discord".data ∧
      SessionKey.parse (SessionKey.mk ⟨Uuid.nil⟩ ⟨Uuid.max⟩ "discord" "user:42").toString =
        some (SessionKey.mk ⟨Uuid.nil⟩ ⟨Uuid.max⟩ "discord" "user:42") :=
  ⟨by decide, SessionKey.parse_toString_of_channel _ (by decide)⟩

/-- `channel` が `:` を含むと往復は崩れる。`channel = "a:b"` では `parts[6]` が `"b"` になり、
`parse` は `None` を返す。 -/
theorem SessionKey.parse_toString_channel_colon :
    SessionKey.parse (SessionKey.mk ⟨Uuid.nil⟩ ⟨Uuid.nil⟩ "a:b" "p").toString = none := by
  decide

/-! ## 読めた key は正しい形をしている -/

theorem splitAtFirst_not_mem {c : Char} : ∀ {s a rest : List Char},
    splitAtFirst c s = some (a, rest) → c ∉ a
  | [], _, _, h => nomatch h
  | d :: s, a, rest, h => by
    unfold splitAtFirst at h
    split_ifs at h with hd
    · cases h; exact List.not_mem_nil c
    · obtain ⟨⟨a', rest'⟩, hs, he⟩ := Option.map_eq_some'.mp h
      cases he
      exact List.not_mem_cons_of_ne_of_not_mem (Ne.symm hd) (splitAtFirst_not_mem hs)

theorem splitn_succ_ne_nil (c : Char) : ∀ (n : Nat) (s : List Char), splitn (n + 1) c s ≠ []
  | 0, _ => by simp [splitn]
  | n + 1, s => by
    rw [splitn]
    split <;> simp

/-- `splitn` の最後より前の部分は区切り文字を含まない。 -/
theorem not_mem_of_mem_dropLast_splitn {c : Char} :
    ∀ (n : Nat) (s p : List Char), p ∈ (splitn (n + 1) c s).dropLast → c ∉ p
  | 0, s, p, h => by simp [splitn] at h
  | n + 1, s, p, h => by
    rw [splitn] at h
    split at h
    · next a rest hs =>
      obtain ⟨q, l, hq⟩ := List.exists_cons_of_ne_nil (splitn_succ_ne_nil c n rest)
      rw [hq, List.dropLast_cons₂] at h
      rcases List.mem_cons.mp h with rfl | h
      · exact splitAtFirst_not_mem hs
      · exact not_mem_of_mem_dropLast_splitn n rest p (hq ▸ h)
    · simp at h

/-- `parse` が返す key の `channel` は、八つのうち六つ目の部分なので `:` を含まない。 -/
theorem SessionKey.channel_not_mem_of_parse {s : String} {k : SessionKey}
    (h : SessionKey.parse s = some k) : ':' ∉ k.channel.data := by
  unfold SessionKey.parse at h
  split at h
  · next p0 p1 p2 p3 p4 p5 p6 p7 hs =>
    split_ifs at h
    simp only [Option.bind_eq_some, Option.map_eq_some'] at h
    obtain ⟨_, _, _, _, rfl⟩ := h
    exact not_mem_of_mem_dropLast_splitn 7 s.data p5 (by rw [hs]; simp)
  · cases h

/-- **読めた key は書いて読み直しても同じ key である。** `parse` が返す key の `channel` は `:` を
含まず、その key を書いて読むと同じ key に戻る。`parse` は大文字の UUID なども受けるので、
書いた文字列が元の文字列と同じとは限らない。 -/
theorem SessionKey.parse_toString_parse {s : String} {k : SessionKey}
    (h : SessionKey.parse s = some k) :
    ':' ∉ k.channel.data ∧ SessionKey.parse k.toString = some k :=
  ⟨SessionKey.channel_not_mem_of_parse h,
    SessionKey.parse_toString_eq_some k (SessionKey.channel_not_mem_of_parse h)⟩

/-- 例：大文字の UUID の key を読み、書き直すと小文字になる。 -/
theorem SessionKey.parse_toString_parse_upper :
    let s := "tenant:FFFFFFFF-FFFF-FFFF-FFFF-FFFFFFFFFFFF:agent:00000000-0000-0000-0000-000000000000" ++
      ":channel:slack:peer:u:1"
    let k := SessionKey.mk ⟨Uuid.max⟩ ⟨Uuid.nil⟩ "slack" "u:1"
    SessionKey.parse s = some k ∧ k.toString ≠ s ∧
      ':' ∉ k.channel.data ∧ SessionKey.parse k.toString = some k := by
  intro s k
  have h : SessionKey.parse s = some k := by decide
  exact ⟨h, by decide, SessionKey.parse_toString_parse h⟩

end Aether
