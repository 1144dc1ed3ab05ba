import Mathlib.Data.List.Basic
import Mathlib.Data.Nat.Digits

/-!
# 16 進と 10 進の文字列

ledger と session の文字列はどれも `format!` で組み立てられ、その中の数は
`{:x}`（SHA-256 の digest と UUID の byte）か `{}`（`u64` の通し番号）で書かれる。
ここではその二つの書き方と、それを読み戻す関数を置く。

どちらの書き方も区切り文字（`|` と `:` と `-`）を含まないこと、
そして読み戻すと元の値になること（したがって単射であること）が、
canonical string と session key の定理の土台になる。
-/

namespace Aether

@[simp] theorem string_mk_data (s : String) : String.mk s.data = s := rfl

/-! ## 16 進 -/

/-- 16 進の一桁を小文字で書く。`{:x}` の桁である。 -/
def hexDigit (n : Nat) : Char :=
  if n < 10 then Char.ofNat (0x30 + n) else Char.ofNat (0x61 + n - 10)

/-- `char::is_ascii_hexdigit`。大文字も受ける。 -/
def isAsciiHexdigit (c : Char) : Bool :=
  ('0' ≤ c && c ≤ '9') || ('a' ≤ c && c ≤ 'f') || ('A' ≤ c && c ≤ 'F')

/-- 16 進の一桁を読む。uuid の parser と同じく大文字も受ける。 -/
def hexValue (c : Char) : Option Nat :=
  let n := c.toNat
  if 0x30 ≤ n ∧ n ≤ 0x39 then some (n - 0x30)
  else if 0x61 ≤ n ∧ n ≤ 0x66 then some (n - 0x61 + 10)
  else if 0x41 ≤ n ∧ n ≤ 0x46 then some (n - 0x41 + 10)
  else none

theorem hexValue_hexDigit {d : Nat} (h : d < 16) : hexValue (hexDigit d) = some d := by
  have hall : ∀ e ∈ List.range 16, hexValue (hexDigit e) = some e := by decide
  exact hall d (List.mem_range.mpr h)

theorem isAsciiHexdigit_hexDigit {d : Nat} (h : d < 16) : isAsciiHexdigit (hexDigit d) = true := by
  have hall : ∀ e ∈ List.range 16, isAsciiHexdigit (hexDigit e) = true := by decide
  exact hall d (List.mem_range.mpr h)

/-- byte 列の `{:x}`。`GenericArray<u8, _>` の `LowerHex` は byte ごとに `{:02x}` を並べる。 -/
def lowerHex : List UInt8 → List Char
  | [] => []
  | b :: bs => hexDigit (b.toNat / 16) :: hexDigit (b.toNat % 16) :: lowerHex bs

/-- 16 進の桁を二つずつ byte に戻す。桁でない文字や奇数個の桁は失敗する。 -/
def parseHex : List Char → Option (List UInt8)
  | [] => some []
  | hi :: lo :: rest =>
    match hexValue hi, hexValue lo, parseHex rest with
    | some h, some l, some r => some (UInt8.ofNat (h * 16 + l) :: r)
    | _, _, _ => none
  | [_] => none

@[simp] theorem lowerHex_nil : lowerHex [] = [] := rfl

@[simp] theorem lowerHex_cons (b : UInt8) (bs : List UInt8) :
    lowerHex (b :: bs) = hexDigit (b.toNat / 16) :: hexDigit (b.toNat % 16) :: lowerHex bs := rfl

@[simp] theorem lowerHex_append (bs cs : List UInt8) :
    lowerHex (bs ++ cs) = lowerHex bs ++ lowerHex cs := by
  induction bs with
  | nil => rfl
  | cons b bs ih => simp [ih]

@[simp] theorem length_lowerHex (bs : List UInt8) : (lowerHex bs).length = 2 * bs.length := by
  induction bs with
  | nil => rfl
  | cons b bs ih => simp [ih]; omega

theorem UInt8.ofNat_hex_pair (b : UInt8) : UInt8.ofNat (b.toNat / 16 * 16 + b.toNat % 16) = b :=
  UInt8.toNat.inj (by rw [Nat.div_add_mod', UInt8.toNat_ofNat_of_lt (UInt8.toNat_lt_size b)])

/-- **16 進の往復。** `{:x}` で書いた byte 列は `parseHex` で元に戻る。 -/
theorem parseHex_lowerHex (bs : List UInt8) : parseHex (lowerHex bs) = some bs := by
  induction bs with
  | nil => rfl
  | cons b bs ih =>
    have hb := UInt8.toNat_lt_size b
    have hi : b.toNat / 16 < 16 := by change b.toNat < 256 at hb; omega
    have hl : b.toNat % 16 < 16 := Nat.mod_lt _ (by omega)
    simp only [lowerHex_cons, parseHex, hexValue_hexDigit hi, hexValue_hexDigit hl, ih,
      UInt8.ofNat_hex_pair]

theorem lowerHex_injective : Function.Injective lowerHex := fun a b h => by
  simpa [parseHex_lowerHex] using congrArg parseHex h

theorem isAsciiHexdigit_of_mem_lowerHex {bs : List UInt8} {c : Char} (h : c ∈ lowerHex bs) :
    isAsciiHexdigit c = true := by
  induction bs with
  | nil => simp at h
  | cons b bs ih =>
    have hb := UInt8.toNat_lt_size b
    change b.toNat < 256 at hb
    simp only [lowerHex_cons, List.mem_cons] at h
    rcases h with rfl | rfl | h
    · exact isAsciiHexdigit_hexDigit (by omega)
    · exact isAsciiHexdigit_hexDigit (Nat.mod_lt _ (by omega))
    · exact ih h

/-- 16 進の桁は区切り文字のどれでもない。 -/
theorem ne_delims_of_isAsciiHexdigit {c : Char} (h : isAsciiHexdigit c = true) :
    c ≠ '|' ∧ c ≠ ':' ∧ c ≠ '-' := by
  refine ⟨?_, ?_, ?_⟩ <;> rintro rfl <;> revert h <;> decide

/-! ## 10 進 -/

/-- 10 進の読み取りの一歩。 -/
def decimalStep (acc : Nat) (c : Char) : Nat := acc * 10 + (c.toNat - 0x30)

/-- 10 進の桁を左から読む。`{}` で書いた `u64` を読み戻す（`str::parse` の成功側）。 -/
def decimalValue (s : List Char) : Nat := s.foldl decimalStep 0

theorem digitChar_toNat {d : Nat} (h : d < 10) : (Nat.digitChar d).toNat - 0x30 = d := by
  have hall : ∀ e ∈ List.range 10, (Nat.digitChar e).toNat - 0x30 = e := by decide
  exact hall d (List.mem_range.mpr h)

theorem digitChar_isDigit {d : Nat} (h : d < 10) : (Nat.digitChar d).isDigit = true := by
  have hall : ∀ e ∈ List.range 10, (Nat.digitChar e).isDigit = true := by decide
  exact hall d (List.mem_range.mpr h)

/-- 燃料が足りていれば、`Nat.toDigitsCore` の出力を左から読むと `n` が先に積まれる。 -/
theorem foldl_toDigitsCore : ∀ (fuel n : Nat) (ds : List Char), n < fuel →
    (Nat.toDigitsCore 10 fuel n ds).foldl decimalStep 0 = ds.foldl decimalStep n
  | 0, _, _, h => absurd h (Nat.not_lt_zero _)
  | fuel + 1, n, ds, h => by
    have hd := digitChar_toNat (Nat.mod_lt n (show 10 > 0 by omega))
    simp only [Nat.toDigitsCore]
    split
    · next h0 => simp only [List.foldl_cons, decimalStep, hd]; congr 1; omega
    · next h0 =>
      rw [foldl_toDigitsCore fuel _ _ (by omega), List.foldl_cons, decimalStep, hd,
        Nat.div_add_mod']

theorem mem_toDigitsCore : ∀ (fuel n : Nat) (ds : List Char) (c : Char),
    c ∈ Nat.toDigitsCore 10 fuel n ds → c ∈ ds ∨ c.isDigit = true
  | 0, _, _, _, h => .inl h
  | fuel + 1, n, ds, c, h => by
    -- 一歩で前に置かれる文字は `n % 10` の桁である。
    have hcons : c ∈ Nat.digitChar (n % 10) :: ds → c ∈ ds ∨ c.isDigit = true := fun h =>
      (List.mem_cons.mp h).elim
        (fun e => .inr (e ▸ digitChar_isDigit (Nat.mod_lt n (show 10 > 0 by omega)))) .inl
    simp only [Nat.toDigitsCore] at h
    split at h
    · exact hcons h
    · exact (mem_toDigitsCore fuel _ _ c h).elim hcons .inr

theorem toString_nat_data (n : Nat) : (toString n).data = Nat.toDigitsCore 10 (n + 1) n [] := rfl

/-- **10 進の往復。** `{}` で書いた数を読み戻すと元の数になる。 -/
theorem decimalValue_toString (n : Nat) : decimalValue (toString n).data = n := by
  rw [toString_nat_data, decimalValue, foldl_toDigitsCore _ _ _ (by omega)]
  rfl

theorem toString_nat_injective : Function.Injective (fun n : Nat => toString n) := fun a b h => by
  simpa [decimalValue_toString] using congrArg (fun s : String => decimalValue s.data) h

theorem isDigit_of_mem_toString {n : Nat} {c : Char} (h : c ∈ (toString n).data) :
    c.isDigit = true := by
  rw [toString_nat_data] at h
  exact (mem_toDigitsCore _ _ _ _ h).resolve_left (List.not_mem_nil c)

/-- 10 進の桁も区切り文字のどれでもない。 -/
theorem ne_delims_of_isDigit {c : Char} (h : c.isDigit = true) : c ≠ '|' ∧ c ≠ ':' := by
  refine ⟨?_, ?_⟩ <;> rintro rfl <;> revert h <;> decide

end Aether
