import Aether.Core.Text

/-!
# UUID と型付きの識別子

`aether-core/src/ids.rs` の `define_id!` は、`Uuid` を包む newtype を九つ作る。
`Display` は中の `Uuid` の `Display`（小文字の hyphenated 形式）、
`FromStr` は `Uuid::parse_str` である。

どちらも uuid crate の関数で、このリポジトリには無い。crate の振る舞いを次のように写す。

* `Display` は 16 byte を 8-4-4-4-12 桁の群に分け、群の間に `-` を入れる。
* `parse_str` は入力の長さで形を見分ける。32 は simple、36 は hyphenated、
  38 は `{...}` で包んだもの、45 は `urn:uuid:` の付いたもの。それ以外は失敗する。
  crate は byte 長で見分けるが、桁と `-` 以外を含む入力はどの形でも失敗するので、
  文字数で見分けても答えは変わらない。

主な結果は `parseStr_toString`：書いたものを読むと元に戻る。
-/

namespace Aether

/-! ## `Uuid` -/

/-- `uuid::Uuid`。16 byte の値である。 -/
structure Uuid where
  bytes : List UInt8
  length_bytes : bytes.length = 16
  deriving DecidableEq

/-- `Uuid::nil()`：すべて 0 の UUID。 -/
def Uuid.nil : Uuid := ⟨List.replicate 16 0, rfl⟩

/-- `Uuid::max()`：すべて `0xff` の UUID。 -/
def Uuid.max : Uuid := ⟨List.replicate 16 0xff, rfl⟩

/-- byte 列を群ごとに `{:x}` で書き、群の間を `-` でつなぐ。 -/
def hyphenate : List Nat → List UInt8 → List Char
  | [], _ => []
  | [n], bs => lowerHex (bs.take n)
  | n :: m :: ns, bs => lowerHex (bs.take n) ++ '-' :: hyphenate (m :: ns) (bs.drop n)

/-- hyphenated 形式の群の byte 数。桁にすると 8-4-4-4-12 である。 -/
def uuidGroups : List Nat := [4, 2, 2, 2, 6]

/-- `impl Display for Uuid`：小文字の hyphenated 形式。 -/
def Uuid.toString (u : Uuid) : String := ⟨hyphenate uuidGroups u.bytes⟩

/-- 群の桁数を確かめながら間の `-` を外し、桁だけを並べる。 -/
def splitGroups : List Nat → List Char → Option (List Char)
  | [], _ => none
  | [n], s => if s.length = n then some s else none
  | n :: m :: ns, s =>
    match s.drop n with
    | '-' :: rest => (splitGroups (m :: ns) rest).map (s.take n ++ ·)
    | _ => none

/-- `uuid::parser::parse_hyphenated`。 -/
def parseHyphenated (s : List Char) : Option (List UInt8) :=
  (splitGroups (uuidGroups.map (2 * ·)) s).bind parseHex

/-- URN 形式の前置き。 -/
def urnPrefix : List Char := "urn:uuid:".data

/-- `uuid::parser::try_parse` の形の見分け。 -/
def parseUuidBytes (cs : List Char) : Option (List UInt8) :=
  if cs.length = 32 then parseHex cs
  else if cs.length = 36 then parseHyphenated cs
  else if cs.length = 38 ∧ cs.head? = some '\x7b' ∧ cs.getLast? = some '\x7d' then
    parseHyphenated (cs.drop 1).dropLast
  else if cs.length = 45 ∧ cs.take 9 = urnPrefix then parseHyphenated (cs.drop 9)
  else none

/-- `Uuid::parse_str`。呼び出し側は `.ok()` で誤りの中身を捨てるので `Option` で返す。 -/
def Uuid.parseStr (s : String) : Option Uuid :=
  (parseUuidBytes s.data).bind fun bs => if h : bs.length = 16 then some ⟨bs, h⟩ else none

/-! ## hyphenated 形式の往復 -/

theorem length_hyphenate : ∀ (gs : List Nat) (bs : List UInt8), gs ≠ [] →
    bs.length = gs.sum → (hyphenate gs bs).length = 2 * gs.sum + gs.length - 1
  | [], _, h, _ => absurd rfl h
  | [n], bs, _, hl => by
    simp only [hyphenate, length_lowerHex, List.length_take, hl, List.sum_cons, List.sum_nil,
      List.length_singleton]
    omega
  | n :: m :: ns, bs, _, hl => by
    have ih := length_hyphenate (m :: ns) (bs.drop n) (List.cons_ne_nil _ _)
      (by simp only [List.length_drop, hl, List.sum_cons]; omega)
    simp only [hyphenate, List.length_append, length_lowerHex, List.length_take, List.length_cons,
      ih, List.sum_cons] at *
    omega

theorem splitGroups_hyphenate : ∀ (gs : List Nat) (bs : List UInt8), gs ≠ [] →
    bs.length = gs.sum → splitGroups (gs.map (2 * ·)) (hyphenate gs bs) = some (lowerHex bs)
  | [], _, h, _ => absurd rfl h
  | [n], bs, _, hl => by
    simp only [List.sum_cons, List.sum_nil, Nat.add_zero] at hl
    subst hl
    simp only [splitGroups, hyphenate, List.take_length, length_lowerHex, ↓reduceIte]
  | n :: m :: ns, bs, _, hl => by
    have hn : (lowerHex (bs.take n)).length = 2 * n := by
      simp only [length_lowerHex, List.length_take, hl, List.sum_cons]; omega
    have ih := splitGroups_hyphenate (m :: ns) (bs.drop n) (List.cons_ne_nil _ _)
      (by simp only [List.length_drop, hl, List.sum_cons]; omega)
    simp only [List.map_cons] at ih ⊢
    rw [hyphenate, splitGroups, List.drop_left' hn, List.take_left' hn]
    simp only [ih, Option.map_some']
    rw [← lowerHex_append, List.take_append_drop]

theorem length_toString_data (u : Uuid) : u.toString.data.length = 36 := by
  simpa [uuidGroups] using length_hyphenate uuidGroups u.bytes (by decide)
    (by rw [u.length_bytes]; rfl)

/-- **UUID の往復。** `Display` で書いたものを `parse_str` で読むと元の値になる。 -/
theorem Uuid.parseStr_toString (u : Uuid) : Uuid.parseStr u.toString = some u := by
  have hsplit := splitGroups_hyphenate uuidGroups u.bytes (by decide)
    (by rw [u.length_bytes]; rfl)
  simp only [Uuid.parseStr, parseUuidBytes, length_toString_data, parseHyphenated]
  simp [Uuid.toString, hsplit, parseHex_lowerHex, u.length_bytes]

theorem Uuid.toString_injective : Function.Injective Uuid.toString := fun a b h => by
  simpa [Uuid.parseStr_toString] using congrArg Uuid.parseStr h

theorem mem_hyphenate : ∀ (gs : List Nat) (bs : List UInt8) (c : Char),
    c ∈ hyphenate gs bs → isAsciiHexdigit c = true ∨ c = '-'
  | [], _, _, h => by simp [hyphenate] at h
  | [n], bs, c, h => .inl (isAsciiHexdigit_of_mem_lowerHex h)
  | n :: m :: ns, bs, c, h => by
    rw [hyphenate, List.mem_append, List.mem_cons] at h
    rcases h with h | rfl | h
    · exact .inl (isAsciiHexdigit_of_mem_lowerHex h)
    · exact .inr rfl
    · exact mem_hyphenate (m :: ns) _ c h

/-- UUID の文字列は `|` も `:` も含まない。 -/
theorem Uuid.not_delim_mem_toString (u : Uuid) : '|' ∉ u.toString.data ∧ ':' ∉ u.toString.data := by
  refine ⟨fun h => ?_, fun h => ?_⟩ <;>
    rcases mem_hyphenate _ _ _ h with h | h
  · exact (ne_delims_of_isAsciiHexdigit h).1 rfl
  · exact absurd h (by decide)
  · exact (ne_delims_of_isAsciiHexdigit h).2.1 rfl
  · exact absurd h (by decide)

/-! ## 型付きの識別子 -/

/-- `define_id!` で作られる型の種類。使われるものだけを置く。 -/
inductive IdKind where
  | tenant
  | agent
  | task
  | tool
  | workflow
  | ledgerBlock
  | session
  | request
  deriving DecidableEq

/-- `define_id!(Name, doc)` の newtype。種類ごとに別の型になり、取り違えられない。 -/
structure TypedId (kind : IdKind) where
  uuid : Uuid
  deriving DecidableEq

/-- `impl fmt::Display`：中の `Uuid` をそのまま書く。 -/
def TypedId.toString {k : IdKind} (i : TypedId k) : String := i.uuid.toString

/-- `impl FromStr`：`Uuid::parse_str`。 -/
def TypedId.parse {k : IdKind} (s : String) : Option (TypedId k) :=
  (Uuid.parseStr s).map TypedId.mk

abbrev TenantId := TypedId .tenant
abbrev AgentId := TypedId .agent
abbrev TaskId := TypedId .task
abbrev ToolId := TypedId .tool
abbrev WorkflowId := TypedId .workflow
abbrev LedgerBlockId := TypedId .ledgerBlock
abbrev SessionId := TypedId .session
abbrev RequestId := TypedId .request

theorem TypedId.parse_toString {k : IdKind} (i : TypedId k) : TypedId.parse i.toString = some i := by
  simp [TypedId.parse, TypedId.toString, Uuid.parseStr_toString]

theorem TypedId.toString_injective {k : IdKind} :
    Function.Injective (TypedId.toString (k := k)) := fun a b h => by
  simpa [TypedId.parse_toString] using congrArg (TypedId.parse (k := k)) h

@[simp] theorem TypedId.toString_inj {k : IdKind} {a b : TypedId k} :
    a.toString = b.toString ↔ a = b :=
  TypedId.toString_injective.eq_iff

theorem TypedId.not_delim_mem_toString {k : IdKind} (i : TypedId k) :
    '|' ∉ i.toString.data ∧ ':' ∉ i.toString.data :=
  i.uuid.not_delim_mem_toString

end Aether
