import Custody.Application
import Custody.Text.Hex

-- Texts and the bytes in which they are written. One text comes before another exactly if its bytes
-- do, so ids stand in the order of their bytes.

namespace Custody.Text

-- The bytes of a text in UTF-8.
def bytes (s : String) : List UInt8 := s.toUTF8.data.toList

theorem bytes_chars (s : String) : bytes s = s.toList.flatMap String.utf8EncodeChar := by
  rw [bytes,String.toUTF8_eq_toByteArray,← String.utf8Encode_toList]
  exact List.toList_data_toByteArray

theorem bytes_length (s : String) : (bytes s).length = s.utf8ByteSize := rfl

-- How a code point is written: as itself, or as a byte that says how many follow and the digits of
-- the number to the base of 64.
inductive Encodes (v : Nat) : List UInt8 → Prop where
  | one (small : v < 0x80) (first : a.toNat = v) : Encodes v [a]
  | two (large : 0x80 ≤ v) (small : v < 0x800) (first : a.toNat = 0xc0 + v / 0x40)
      (second : b.toNat = 0x80 + v % 0x40) : Encodes v [a,b]
  | three (large : 0x800 ≤ v) (small : v < 0x10000) (first : a.toNat = 0xe0 + v / 0x1000)
      (second : b.toNat = 0x80 + v / 0x40 % 0x40) (third : c.toNat = 0x80 + v % 0x40) :
      Encodes v [a,b,c]
  | four (large : 0x10000 ≤ v) (small : v < 0x110000) (first : a.toNat = 0xf0 + v / 0x40000)
      (second : b.toNat = 0x80 + v / 0x1000 % 0x40) (third : c.toNat = 0x80 + v / 0x40 % 0x40)
      (fourth : d.toNat = 0x80 + v % 0x40) : Encodes v [a,b,c,d]

theorem char_bound (c : Char) : c.toNat < 0x110000 := by
  rcases c.valid with small | ⟨_,large⟩
  · exact Nat.lt_trans small (by decide)
  · exact large

theorem char_encodes (c : Char) : Encodes c.toNat (String.utf8EncodeChar c) := by
  have bound := char_bound c
  unfold String.utf8EncodeChar
  rw [Char.toNat] at *
  dsimp only
  generalize c.val.toNat = v at *
  by_cases one : v ≤ 0x7f
  · rw [if_pos one]
    refine .one (by omega) ?_
    rw [UInt8.toNat_ofNat']
    omega
  rw [if_neg one]
  by_cases two : v ≤ 0x7ff
  · rw [if_pos two]
    refine .two (by omega) (by omega) ?_ ?_ <;> (rw [UInt8.toNat_ofNat']; omega)
  rw [if_neg two]
  by_cases three : v ≤ 0xffff
  · rw [if_pos three]
    refine .three (by omega) (by omega) ?_ ?_ ?_ <;> (rw [UInt8.toNat_ofNat']; omega)
  · rw [if_neg three]
    refine .four (by omega) (by omega) ?_ ?_ ?_ ?_ <;> (rw [UInt8.toNat_ofNat']; omega)

-- A shorter form begins with a smaller byte; within a form the digits decide, the first one first.
theorem Encodes.below (left : Encodes v xs) (right : Encodes w ys) (order : v < w)
    (more rest : List UInt8) : xs ++ more < ys ++ rest := by
  cases left <;> cases right <;>
    (simp only [List.cons_append,List.nil_append,List.cons_lt_cons_iff,UInt8.lt_iff_toNat_lt,
      ← UInt8.toNat_inj]
     omega)

theorem Encodes.lead (encodes : Encodes c.toNat xs) : ∃ rest, xs = leadByte c :: rest := by
  have byte : ∀ {a rest}, a.toNat = (leadByte c).toNat → ∃ more, a :: rest = leadByte c :: more :=
    fun same => ⟨_,congrArg (· :: _) (UInt8.toNat_inj.mp same)⟩
  have bound := char_bound c
  cases encodes with
  | one small first =>
    refine byte (first.trans ?_)
    rw [leadByte,if_pos small,UInt8.toNat_ofNat']
    omega
  | two large small first =>
    refine byte (first.trans ?_)
    rw [leadByte,if_neg (by omega),if_pos small,UInt8.toNat_ofNat']
    omega
  | three large small first =>
    refine byte (first.trans ?_)
    rw [leadByte,if_neg (by omega),if_neg (by omega),if_pos small,UInt8.toNat_ofNat']
    omega
  | four large small first =>
    refine byte (first.trans ?_)
    rw [leadByte,if_neg (by omega),if_neg (by omega),if_neg (by omega),UInt8.toNat_ofNat']
    omega

theorem chars_below {cs ds : List Char} (below : cs < ds) :
    cs.flatMap String.utf8EncodeChar < ds.flatMap String.utf8EncodeChar := by
  induction below with
  | nil =>
    obtain ⟨rest,lead⟩ := (char_encodes _).lead
    rw [List.flatMap_cons,lead]
    exact List.nil_lt_cons ..
  | cons _ ih => exact List.append_left_lt ih
  | rel order => exact (char_encodes _).below (char_encodes _) order _ _

-- One text stands before another exactly if its bytes do.
theorem bytes_below (s t : String) : bytes s < bytes t ↔ s < t := by
  have forward : ∀ {s t : String}, s < t → bytes s < bytes t := fun below => by
    rw [bytes_chars,bytes_chars]
    exact chars_below (String.lt_iff.mp below)
  refine ⟨fun below => ?_,forward⟩
  rcases Std.lt_trichotomy s t with before | rfl | behind
  · exact before
  · exact absurd below (List.lt_irrefl _)
  · exact absurd (forward behind) (List.lt_asymm below)

end Custody.Text

namespace Custody.ApplicationId

-- Ids stand in the order of their bytes.
theorem compare_bytes (a b : ApplicationId) :
    compare a b = .lt ↔ Text.bytes a.text < Text.bytes b.text := by
  rw [Text.bytes_below]
  change compareOfLessAndEq a.text b.text = .lt ↔ _
  exact compareOfLessAndEq_eq_lt

end Custody.ApplicationId
