import Custody.Proofs.Bytes
import Custody.Proofs.Hexadecimal

-- Which texts are read as identifiers, as which, and what is wrong with the others.

namespace Custody.Text

def hexDigits : String := "0123456789abcdefABCDEF"

theorem digit_ascii (digit : c ∈ hexDigits.toList) : c.toNat < 0x80 := by
  have all : hexDigits.toList.all (·.toNat < 0x80) = true := by decide
  exact of_decide_eq_true (List.all_eq_true.mp all c digit)

theorem digitByte_ascii (digit : b ∈ bytes hexDigits) : b.toNat < 0x80 := by
  have all : (bytes hexDigits).all (·.toNat < 0x80) = true := by decide
  exact of_decide_eq_true (List.all_eq_true.mp all b digit)

-- Characters below 0x80 can be looked at one by one.
theorem ascii_all {P : Char → Prop} (each : ∀ n < 0x80, P (Char.ofNat n))
    (ascii : c.toNat < 0x80) : P c := by
  have here := each c.toNat ascii
  rwa [Char.ofNat_toNat] at here

theorem digit_value (digit : c ∈ hexDigits.toList) :
    ∃ value < 16, hexValue? c = some value ∧ hexDigit value = c.toLower :=
  ascii_all (P := fun c => c ∈ hexDigits.toList →
    ∃ value < 16, hexValue? c = some value ∧ hexDigit value = c.toLower)
    (by decide +kernel) (digit_ascii digit) digit

theorem digit_byte (digit : c ∈ hexDigits.toList) :
    String.utf8EncodeChar c = [leadByte c] ∧ leadByte c ∈ bytes hexDigits :=
  ascii_all (P := fun c => c ∈ hexDigits.toList →
    String.utf8EncodeChar c = [leadByte c] ∧ leadByte c ∈ bytes hexDigits)
    (by decide +kernel) (digit_ascii digit) digit

-- What is no digit has no value, and none begins with the byte of a digit: beyond 0x80 the first
-- byte is no code point of its own.
theorem value_digit (value : (hexValue? c).isSome) : c ∈ hexDigits.toList := by
  by_cases ascii : c.toNat < 0x80
  · exact ascii_all (P := fun c => (hexValue? c).isSome → c ∈ hexDigits.toList)
      (by decide +kernel) ascii value
  · unfold hexValue? at value
    rw [if_neg (by omega),if_neg (by omega),if_neg (by omega)] at value
    cases value

theorem leadByte_digit (lead : leadByte c ∈ bytes hexDigits) : c ∈ hexDigits.toList := by
  by_cases ascii : c.toNat < 0x80
  · exact ascii_all (P := fun c => leadByte c ∈ bytes hexDigits → c ∈ hexDigits.toList)
      (by decide +kernel) ascii lead
  · have small := digitByte_ascii lead
    have encodes := char_encodes c
    obtain ⟨rest,first⟩ := encodes.lead
    rw [first] at encodes
    cases encodes <;> omega

theorem toLower_digit (c : Char) : c.toLower ∈ hexDigits.toList ↔ c ∈ hexDigits.toList := by
  by_cases ascii : c.toNat < 0x80
  · exact ascii_all (P := fun c => c.toLower ∈ hexDigits.toList ↔ c ∈ hexDigits.toList)
      (by decide +kernel) ascii
  · have same : c.toLower = c := by
      unfold Char.toLower
      rw [dif_neg]
      rintro ⟨_,upper⟩
      exact ascii (Nat.lt_of_le_of_lt (UInt32.le_iff_toNat_le.mp upper) (by decide))
    rw [same]

-- A row of digits has the values of its digits, and one that is written with them is the row in
-- lower case.
theorem hexValues_digits (digits : ∀ c ∈ cs, c ∈ hexDigits.toList) (position : Nat) :
    ∃ values, hexValues position cs = .ok values ∧ (∀ value ∈ values, value < 16) ∧
      values.map hexDigit = cs.map Char.toLower := by
  induction cs generalizing position with
  | nil => exact ⟨[],rfl,List.forall_mem_nil _,rfl⟩
  | cons c rest ih =>
    obtain ⟨digit,others⟩ := List.forall_mem_cons.mp digits
    obtain ⟨value,small,read,written⟩ := digit_value digit
    obtain ⟨values,row,smalls,lower⟩ := ih others (position + 1)
    refine ⟨value :: values,?_,List.forall_mem_cons.mpr ⟨small,smalls⟩,?_⟩
    · rw [hexValues,read,row]; rfl
    · rw [List.map_cons,List.map_cons,written,lower]

theorem pairDigits_text : ∀ {values : List Nat}, (∀ value ∈ values, value < 16) →
    values.length % 2 = 0 →
    2 * (pairDigits values).length = values.length ∧
      (pairDigits values).flatMap hexByte = values.map hexDigit
  | [],_,_ => ⟨rfl,rfl⟩
  | [_],_,even => by cases even
  | high :: low :: rest,small,even => by
    obtain ⟨first,small⟩ := List.forall_mem_cons.mp small
    obtain ⟨second,small⟩ := List.forall_mem_cons.mp small
    have number : (UInt8.ofNat (16 * high + low)).toNat = 16 * high + low := by
      rw [UInt8.toNat_ofNat']; omega
    have shorter : rest.length % 2 = 0 := by
      rwa [List.length_cons,List.length_cons,Nat.add_assoc,Nat.add_mod_right] at even
    obtain ⟨size,text⟩ := pairDigits_text small shorter
    refine ⟨?_,?_⟩
    · rw [pairDigits,List.length_cons,List.length_cons,List.length_cons]; omega
    · have byte : hexByte (UInt8.ofNat (16 * high + low)) = [hexDigit high,hexDigit low] := by
        rw [hexByte,number,show (16 * high + low) / 16 = high by omega,
          show (16 * high + low) % 16 = low by omega]
      rw [pairDigits,List.flatMap_cons,text,byte]
      rfl

theorem digits_bytes {cs : List Char} (digits : ∀ c ∈ cs, c ∈ hexDigits.toList) :
    cs.flatMap String.utf8EncodeChar = cs.map leadByte := by
  induction cs with
  | nil => rfl
  | cons c rest ih =>
    obtain ⟨digit,others⟩ := List.forall_mem_cons.mp digits
    rw [List.flatMap_cons,(digit_byte digit).1,ih others]
    rfl

theorem bytes_digits (s : String) :
    (∀ b ∈ bytes s, b ∈ bytes hexDigits) ↔ ∀ c ∈ s.toList, c ∈ hexDigits.toList := by
  rw [bytes_chars s]
  constructor
  · intro digits c member
    obtain ⟨rest,first⟩ := (char_encodes c).lead
    refine leadByte_digit (digits _ (List.mem_flatMap.mpr ⟨c,member,?_⟩))
    rw [first]
    exact List.mem_cons_self
  · intro digits
    rw [digits_bytes digits]
    exact List.forall_mem_map.mpr fun c member => (digit_byte (digits c member)).2

-- Reading stops at the first byte that is no digit. Up to there a character is a byte.
theorem hexValues_stops (split : cs.flatMap String.utf8EncodeChar = before ++ b :: after)
    (digits : ∀ d ∈ before, d ∈ bytes hexDigits) (stop : b ∉ bytes hexDigits) (position : Nat) :
    hexValues position cs = .error (.badDigit b (position + before.length)) := by
  induction cs generalizing before position with
  | nil => cases before <;> cases split
  | cons c rest ih =>
    rw [List.flatMap_cons] at split
    by_cases digit : c ∈ hexDigits.toList
    · obtain ⟨byte,lead⟩ := digit_byte digit
      obtain ⟨value,_,read,_⟩ := digit_value digit
      rw [byte] at split
      cases before with
      | nil =>
        obtain ⟨rfl,-⟩ := List.cons.inj split
        exact absurd lead stop
      | cons d before =>
        obtain ⟨-,split⟩ := List.cons.inj split
        rw [hexValues,read]
        dsimp only
        rw [ih split (List.forall_mem_cons.mp digits).2,List.length_cons,Nat.add_assoc,
          Nat.add_comm 1]
        rfl
    · have none : hexValue? c = none := by
        rw [← Option.not_isSome_iff_eq_none]
        exact fun value => digit (value_digit value)
      obtain ⟨more,first⟩ := (char_encodes c).lead
      rw [first] at split
      cases before with
      | nil =>
        obtain ⟨rfl,-⟩ := List.cons.inj split
        rw [hexValues,none]
        rfl
      | cons d before =>
        obtain ⟨rfl,-⟩ := List.cons.inj split
        exact absurd (leadByte_digit (List.forall_mem_cons.mp digits).1) digit

theorem digits_size (digits : ∀ c ∈ s.toList, c ∈ hexDigits.toList) :
    (bytes s).length = s.length := by
  rw [bytes_chars,digits_bytes digits,List.length_map,String.length_toList]

theorem readHex_digits (even : (bytes s).length % 2 = 0)
    (digits : ∀ c ∈ s.toList, c ∈ hexDigits.toList) :
    ∃ read, readHex s = .ok read ∧ 2 * read.length = s.length ∧ hexText read = s.toLower := by
  obtain ⟨values,read,small,lower⟩ := hexValues_digits digits 0
  have size : values.length = s.length := by
    rw [← List.length_map,lower,List.length_map,String.length_toList]
  obtain ⟨half,text⟩ := pairDigits_text small (by rw [size,← digits_size digits,even])
  refine ⟨pairDigits values,?_,half.trans size,?_⟩
  · rw [readHex,← bytes_length,if_neg (by omega),read]
    rfl
  · unfold hexText String.toLower
    rw [text,lower,← String.toList_inj,String.toList_map,String.toList_ofList]

-- The first byte that is no digit, if there is one.
theorem first_stop (list : List UInt8) :
    (∀ b ∈ list, b ∈ bytes hexDigits) ∨
    ∃ before b after, list = before ++ b :: after ∧
      (∀ d ∈ before, d ∈ bytes hexDigits) ∧ b ∉ bytes hexDigits := by
  induction list with
  | nil => exact .inl (List.forall_mem_nil _)
  | cons b rest ih =>
    by_cases digit : b ∈ bytes hexDigits
    · obtain all | ⟨before,c,after,rfl,digits,stop⟩ := ih
      · exact .inl (List.forall_mem_cons.mpr ⟨digit,all⟩)
      · exact .inr ⟨b :: before,c,after,rfl,List.forall_mem_cons.mpr ⟨digit,digits⟩,stop⟩
    · exact .inr ⟨[],b,rest,rfl,List.forall_mem_nil _,digit⟩

end Custody.Text

namespace Custody.Guid

-- The written form of an identifier, in either case.
def Numeral (s : String) : Prop := s.length = 32 ∧ ∀ c ∈ s.toList, c ∈ Text.hexDigits.toList

-- What a text is refused for. Each ground excludes those above it.
inductive Refused (s : String) : Fault → Prop where
  | odd (odd : (Text.bytes s).length % 2 = 1) : Refused s (.notHex .oddLength)
  | digit (even : (Text.bytes s).length % 2 = 0) (split : Text.bytes s = before ++ b :: after)
      (digits : ∀ d ∈ before, d ∈ Text.bytes Text.hexDigits)
      (stop : b ∉ Text.bytes Text.hexDigits) :
      Refused s (.notHex (.badDigit b before.length))
  | size (even : (Text.bytes s).length % 2 = 0)
      (digits : ∀ d ∈ Text.bytes s, d ∈ Text.bytes Text.hexDigits)
      (size : (Text.bytes s).length ≠ 32) : Refused s .notSixteenBytes

theorem numeral_lower (s : String) : Numeral s.toLower ↔ Numeral s := by
  unfold Numeral String.toLower
  rw [String.length_map,String.toList_map,List.forall_mem_map]
  simp only [Text.toLower_digit]

theorem parse_numeral (numeral : Numeral s) : ∃ g, parse s = .ok g ∧ g.text = s.toLower := by
  obtain ⟨size,digits⟩ := numeral
  have even : (Text.bytes s).length % 2 = 0 := by rw [Text.digits_size digits,size]
  obtain ⟨bytes,read,half,text⟩ := Text.readHex_digits even digits
  have sixteen : bytes.length = 16 := by omega
  refine ⟨⟨bytes,sixteen⟩,?_,text⟩
  unfold parse
  rw [read]
  simp only [ofBytes?,dif_pos sixteen]

theorem parse_refused (refused : Refused s fault) : parse s = .error fault := by
  unfold parse
  cases refused with
  | odd odd => rw [Text.readHex,← Text.bytes_length,if_pos odd]
  | digit even split digits stop =>
    have read := Text.hexValues_stops (Text.bytes_chars s ▸ split) digits stop 0
    rw [Text.readHex,← Text.bytes_length,if_neg (by omega),read,Nat.zero_add]
    rfl
  | size even digits size =>
    have digits := (Text.bytes_digits s).mp digits
    obtain ⟨bytes,read,half,-⟩ := Text.readHex_digits even digits
    have other : bytes.length ≠ 16 := by rw [Text.digits_size digits] at size; omega
    rw [read]
    simp only [ofBytes?,dif_neg other]

theorem numeral_or_refused (s : String) : Numeral s ∨ ∃ fault, Refused s fault := by
  obtain odd | even : (Text.bytes s).length % 2 = 1 ∨ (Text.bytes s).length % 2 = 0 := by omega
  · exact .inr ⟨_,.odd odd⟩
  obtain digits | ⟨before,b,after,split,digits,stop⟩ := Text.first_stop (Text.bytes s)
  · by_cases size : (Text.bytes s).length = 32
    · have chars := (Text.bytes_digits s).mp digits
      exact .inl ⟨Text.digits_size chars ▸ size,chars⟩
    · exact .inr ⟨_,.size even digits size⟩
  · exact .inr ⟨_,.digit even split digits stop⟩

theorem text_injective (same : text g = text h) : g = h :=
  Except.ok.inj ((parse_text g).symm.trans (same ▸ parse_text h))

theorem parse_ok (s : String) (g : Guid) :
    parse s = .ok g ↔ Numeral s ∧ g.text = s.toLower := by
  constructor
  · intro read
    obtain numeral | ⟨fault,refused⟩ := numeral_or_refused s
    · obtain ⟨h,other,text⟩ := parse_numeral numeral
      cases Except.ok.inj (read.symm.trans other)
      exact ⟨numeral,text⟩
    · cases read.symm.trans (parse_refused refused)
  · rintro ⟨numeral,text⟩
    obtain ⟨h,read,same⟩ := parse_numeral numeral
    rwa [text_injective (text.trans same.symm)]

theorem parse_error (s : String) (fault : Fault) : parse s = .error fault ↔ Refused s fault := by
  refine ⟨fun failed => ?_,parse_refused⟩
  obtain numeral | ⟨other,refused⟩ := numeral_or_refused s
  · obtain ⟨g,read,-⟩ := parse_numeral numeral
    cases failed.symm.trans read
  · cases Except.error.inj (failed.symm.trans (parse_refused refused))
    exact refused

-- Exactly the texts of 32 hexadecimal digits are read. What is read is written as the text in lower
-- case and read again as what it was, two texts are read as one identifier if they differ in case
-- at most, and every other text has the fault that it is first found to have.
theorem parse_exact (s : String) :
    ((∃ g, parse s = .ok g) ↔ Numeral s) ∧
    (∀ g, parse s = .ok g ↔ Numeral s ∧ g.text = s.toLower) ∧
    (∀ g, parse g.text = .ok g) ∧
    (∀ t, (∃ g, parse s = .ok g ∧ parse t = .ok g) ↔ Numeral s ∧ t.toLower = s.toLower) ∧
    ∀ fault, parse s = .error fault ↔ Refused s fault := by
  refine ⟨⟨?_,?_⟩,parse_ok s,parse_text,?_,parse_error s⟩
  · rintro ⟨g,read⟩
    exact ((parse_ok s g).mp read).1
  · intro numeral
    obtain ⟨g,read,-⟩ := parse_numeral numeral
    exact ⟨g,read⟩
  · intro t
    constructor
    · rintro ⟨g,left,right⟩
      obtain ⟨numeral,text⟩ := (parse_ok s g).mp left
      exact ⟨numeral,((parse_ok t g).mp right).2.symm.trans text⟩
    · rintro ⟨numeral,same⟩
      obtain ⟨g,read,text⟩ := parse_numeral numeral
      have other : Numeral t := by rwa [← numeral_lower,same,numeral_lower]
      exact ⟨g,read,(parse_ok t g).mpr ⟨other,text.trans same.symm⟩⟩

example : parse "é0" = .error (.notHex .oddLength) ∧
    parse "aé0" = .error (.notHex (.badDigit 0xc3 1)) ∧
    parse "0F" = .error .notSixteenBytes := ⟨rfl,rfl,rfl⟩

end Custody.Guid
