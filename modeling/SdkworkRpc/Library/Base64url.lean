import SdkworkRpc.Library.Text

/-! base64url without padding: three bytes are four digits of six bits, and a last group
of one or two bytes is two or three digits whose unused bits are zero. -/
namespace Base64url

def digit (n : Nat) : Char :=
  if n < 26 then Char.ofNat (n + 65)
  else if n < 52 then Char.ofNat (n + 71)
  else if n < 62 then Char.ofNat (n - 4)
  else if n = 62 then '-' else '_'

def value (c : Char) : Option Nat :=
  let n := c.toNat
  if 65 ≤ n ∧ n ≤ 90 then some (n - 65)
  else if 97 ≤ n ∧ n ≤ 122 then some (n - 71)
  else if 48 ≤ n ∧ n ≤ 57 then some (n + 4)
  else if c = '-' then some 62
  else if c = '_' then some 63
  else none

def encodeBytes : List UInt8 → List Char
  | [] => []
  | [a] => [digit (a.toNat / 4), digit (a.toNat % 4 * 16)]
  | [a, b] =>
    let n := a.toNat * 256 + b.toNat
    [digit (n / 1024), digit (n / 16 % 64), digit (n % 16 * 4)]
  | a :: b :: c :: rest =>
    let n := a.toNat * 65536 + b.toNat * 256 + c.toNat
    digit (n / 262144) :: digit (n / 4096 % 64) :: digit (n / 64 % 64) :: digit (n % 64) ::
      encodeBytes rest

def decodeChars : List Char → Option (List UInt8)
  | [] => some []
  | [_] => none
  | [p, q] => do
    let p ← value p
    let q ← value q
    if q % 16 = 0 then some [UInt8.ofNat (p * 4 + q / 16)] else none
  | [p, q, r] => do
    let p ← value p
    let q ← value q
    let r ← value r
    let n := p * 1024 + q * 16 + r / 4
    if r % 4 = 0 then some [UInt8.ofNat (n / 256), UInt8.ofNat (n % 256)] else none
  | p :: q :: r :: s :: rest => do
    let p ← value p
    let q ← value q
    let r ← value r
    let s ← value s
    let n := p * 262144 + q * 4096 + r * 64 + s
    let tail ← decodeChars rest
    some (UInt8.ofNat (n / 65536) :: UInt8.ofNat (n / 256 % 256) :: UInt8.ofNat (n % 256) :: tail)

def encode (bs : List UInt8) : String := String.ofList (encodeBytes bs)
def decode (s : String) : Option (List UInt8) := decodeChars s.toList

theorem value_digit : ∀ n < 64, value (digit n) = some n := by decide

theorem byte_eq {n : Nat} {b : UInt8} (same : n = b.toNat) : UInt8.ofNat n = b := by
  rw [same, UInt8.ofNat_toNat]

theorem join_two (n : Nat) : n / 1024 * 1024 + n / 16 % 64 * 16 + n % 16 * 4 / 4 = n := by
  omega

theorem join_three (n : Nat) :
    n / 262144 * 262144 + n / 4096 % 64 * 4096 + n / 64 % 64 * 64 + n % 64 = n := by
  omega

theorem decode_one (a : UInt8) : decodeChars (encodeBytes [a]) = some [a] := by
  have small := a.toNat_lt
  have first := value_digit (a.toNat / 4) (by omega)
  have second := value_digit (a.toNat % 4 * 16) (by omega)
  have unused : a.toNat % 4 * 16 % 16 = 0 := by omega
  have whole : UInt8.ofNat (a.toNat / 4 * 4 + a.toNat % 4 * 16 / 16) = a := byte_eq (by omega)
  simp only [encodeBytes, decodeChars, first, second, Option.bind_eq_bind, Option.bind_some,
    if_pos unused, whole]

theorem decode_two (a b : UInt8) : decodeChars (encodeBytes [a, b]) = some [a, b] := by
  have smallA := a.toNat_lt
  have smallB := b.toNat_lt
  simp only [encodeBytes]
  generalize hn : a.toNat * 256 + b.toNat = n
  have first := value_digit (n / 1024) (by omega)
  have second := value_digit (n / 16 % 64) (by omega)
  have third := value_digit (n % 16 * 4) (by omega)
  have unused : n % 16 * 4 % 4 = 0 := by omega
  have whole := join_two n
  have high : UInt8.ofNat (n / 256) = a := byte_eq (by omega)
  have low : UInt8.ofNat (n % 256) = b := byte_eq (by omega)
  simp only [decodeChars, first, second, third, Option.bind_eq_bind, Option.bind_some,
    if_pos unused, whole, high, low]

theorem decode_three (a b c : UInt8) (rest : List UInt8) {tail : List UInt8}
    (decoded : decodeChars (encodeBytes rest) = some tail) :
    decodeChars (encodeBytes (a :: b :: c :: rest)) = some (a :: b :: c :: tail) := by
  have smallA := a.toNat_lt
  have smallB := b.toNat_lt
  have smallC := c.toNat_lt
  simp only [encodeBytes]
  generalize hn : a.toNat * 65536 + b.toNat * 256 + c.toNat = n
  have first := value_digit (n / 262144) (by omega)
  have second := value_digit (n / 4096 % 64) (by omega)
  have third := value_digit (n / 64 % 64) (by omega)
  have fourth := value_digit (n % 64) (by omega)
  have whole := join_three n
  have high : UInt8.ofNat (n / 65536) = a := byte_eq (by omega)
  have middle : UInt8.ofNat (n / 256 % 256) = b := byte_eq (by omega)
  have low : UInt8.ofNat (n % 256) = c := byte_eq (by omega)
  simp only [decodeChars, first, second, third, fourth, decoded, Option.bind_eq_bind,
    Option.bind_some, whole, high, middle, low]

theorem decodeChars_encodeBytes (bs : List UInt8) : decodeChars (encodeBytes bs) = some bs := by
  induction bs using encodeBytes.induct with
  | case1 => rfl
  | case2 a => exact decode_one a
  | case3 a b => exact decode_two a b
  | case4 a b c rest ih => exact decode_three a b c rest ih

theorem decode_encode (bs : List UInt8) : decode (encode bs) = some bs := by
  unfold decode encode
  rw [String.toList_ofList]
  exact decodeChars_encodeBytes bs

theorem encodeBytes_length (bs : List UInt8) :
    (encodeBytes bs).length = (4 * bs.length + 2) / 3 := by
  induction bs using encodeBytes.induct with
  | case1 => rfl
  | case2 a => simp [encodeBytes]
  | case3 a b => simp [encodeBytes]
  | case4 a b c rest ih =>
    simp only [encodeBytes, List.length_cons, ih]
    omega

theorem digit_small (n : Nat) : ∃ m < 64, digit n = digit m := by
  by_cases small : n < 64
  · exact ⟨n, small, rfl⟩
  · refine ⟨63, by decide, ?_⟩
    unfold digit
    simp only [show ¬ n < 26 by omega, show ¬ n < 52 by omega, show ¬ n < 62 by omega,
      show n ≠ 62 by omega, if_false]
    rfl

theorem encodeBytes_digits (bs : List UInt8) : ∀ c ∈ encodeBytes bs, ∃ n < 64, c = digit n := by
  induction bs using encodeBytes.induct with
  | case1 => simp [encodeBytes]
  | case2 a => simp [encodeBytes, digit_small]
  | case3 a b => simp [encodeBytes, digit_small]
  | case4 a b c rest ih => simpa [encodeBytes, digit_small] using ih

theorem digit_ascii : ∀ n < 64, (digit n).utf8Size = 1 := by decide

theorem bytes_encode (bs : List UInt8) :
    Text.bytes (encode bs) = (encodeBytes bs).map fun c => c.val.toUInt8 := by
  apply Text.bytes_of_ascii
  intro c member
  obtain ⟨n, small, rfl⟩ := encodeBytes_digits bs c member
  exact digit_ascii n small

theorem bytes_encode_length (bs : List UInt8) :
    (Text.bytes (encode bs)).length = (4 * bs.length + 2) / 3 := by
  rw [bytes_encode, List.length_map, encodeBytes_length]

end Base64url
