import Custody.Guid

-- Bytes written as hexadecimal digits: they are read back as they were, and written in lower case.

namespace Custody.Text

theorem hexDigit_value (small : n < 16) : hexValue? (hexDigit n) = some n := by
  have all : ∀ n < 16, hexValue? (hexDigit n) = some n := by decide
  exact all n small

theorem hexDigit_lower (small : n < 16) : (hexDigit n).toLower = hexDigit n := by
  have all : ∀ n < 16, (hexDigit n).toLower = hexDigit n := by decide
  exact all n small

theorem hexDigit_size (small : n < 16) : (hexDigit n).utf8Size = 1 := by
  have all : ∀ n < 16, (hexDigit n).utf8Size = 1 := by decide
  exact all n small

theorem highDigit_small (b : UInt8) : b.toNat / 16 < 16 := by
  have bound := b.toNat_lt
  omega

theorem lowDigit_small (b : UInt8) : b.toNat % 16 < 16 := Nat.mod_lt _ (by decide)

theorem hexText_cons (b : UInt8) (rest : List UInt8) :
    hexText (b :: rest) = String.ofList (hexByte b) ++ hexText rest := by
  rw [hexText,List.flatMap_cons,String.ofList_append,← hexText]

theorem hexText_size (bytes : List UInt8) : (hexText bytes).utf8ByteSize = 2 * bytes.length := by
  induction bytes with
  | nil => rfl
  | cons b rest ih =>
    have pair : String.ofList (hexByte b) =
        String.singleton (hexDigit (b.toNat / 16)) ++
          String.singleton (hexDigit (b.toNat % 16)) := by
      rw [String.singleton_eq_ofList,String.singleton_eq_ofList,← String.ofList_append]
      rfl
    rw [hexText_cons,String.utf8ByteSize_append,ih,pair,String.utf8ByteSize_append,
      String.utf8ByteSize_singleton,String.utf8ByteSize_singleton,
      hexDigit_size (highDigit_small b),hexDigit_size (lowDigit_small b),List.length_cons]
    omega

theorem hexValues_bytes (bytes : List UInt8) (position : Nat) :
    hexValues position (bytes.flatMap hexByte) =
      .ok (bytes.flatMap fun b => [b.toNat / 16,b.toNat % 16]) := by
  induction bytes generalizing position with
  | nil => rfl
  | cons b rest ih =>
    rw [List.flatMap_cons,List.flatMap_cons]
    simp only [hexByte,List.cons_append,List.nil_append,hexValues,
      hexDigit_value (highDigit_small b),hexDigit_value (lowDigit_small b)]
    rw [ih]
    rfl

theorem pairDigits_bytes (bytes : List UInt8) :
    pairDigits (bytes.flatMap fun b => [b.toNat / 16,b.toNat % 16]) = bytes := by
  induction bytes with
  | nil => rfl
  | cons b rest ih =>
    have whole : 16 * (b.toNat / 16) + b.toNat % 16 = b.toNat := Nat.div_add_mod _ _
    rw [List.flatMap_cons]
    simp only [List.cons_append,List.nil_append,pairDigits]
    rw [ih,whole,UInt8.ofNat_toNat]

-- What has been written as digits is read as the bytes that it was.
theorem readHex_hexText (bytes : List UInt8) : readHex (hexText bytes) = .ok bytes := by
  unfold readHex
  rw [hexText_size,if_neg (by omega),hexText,String.toList_ofList,hexValues_bytes]
  exact congrArg Except.ok (pairDigits_bytes bytes)

theorem hexText_lower (bytes : List UInt8) : (hexText bytes).toLower = hexText bytes := by
  unfold hexText String.toLower
  rw [← String.toList_inj,String.toList_map,String.toList_ofList]
  induction bytes with
  | nil => rfl
  | cons b rest ih =>
    rw [List.flatMap_cons,List.map_append,ih]
    simp only [hexByte,List.map_cons,List.map_nil,hexDigit_lower (highDigit_small b),
      hexDigit_lower (lowDigit_small b)]

end Custody.Text

namespace Custody.Guid

theorem parse_text (g : Guid) : parse g.text = .ok g := by
  unfold parse text
  rw [Text.readHex_hexText]
  simp only [ofBytes?,dif_pos g.size]

end Custody.Guid
