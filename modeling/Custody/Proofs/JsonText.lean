import Mathlib.Data.List.DropRight
import Mathlib.Data.List.Forall2
import Mathlib.Tactic.IntervalCases
import Custody.Document.Json.Reader
import Custody.Document.Json.Writer

-- The reader finds in a text of either writer the node that was written. What is proved of a piece
-- of text holds whatever stands behind it, so pieces can be put together.

namespace Custody.Document

-- The nodes that their text tells apart: no number with a point, no date, nothing left open.
inductive Node.Plain : Node → Prop where
  | null : Plain .null
  | boolean : Plain (.boolean value)
  | natural {value : Nat} (small : value < Nat.pow 2 64) : Plain (.integer value)
  | text : Plain (.text written)
  | list (inside : ∀ node ∈ nodes, Plain node) : Plain (.list nodes true)
  | table (named : ∀ pair ∈ pairs, pair.1.isSome) (inside : ∀ pair ∈ pairs, Plain pair.2) :
      Plain (.table pairs true)

namespace Json

-- Nothing with which a numeral in front of it could go on.
def Ends (rest : List Char) : Prop :=
  ∀ c ∈ rest.head?, isDigit c = false ∧ c ≠ '.' ∧ c ≠ 'e' ∧ c ≠ 'E'

theorem ends_cons (other : isDigit c = false ∧ c ≠ '.' ∧ c ≠ 'e' ∧ c ≠ 'E') (rest : List Char) :
    Ends (c :: rest) := by
  rintro _ ⟨⟩
  exact other

def Blank (cs : List Char) : Prop := ∀ c ∈ cs, isSpace c = true

theorem blank_nil : Blank [] := List.forall_mem_nil _

-- A text that is read as the node, whatever stands behind it. A value takes three steps at most
-- for each of its characters.
def Spells (node : Node) (cs : List Char) : Prop :=
  ∀ fuel rest, 3 * cs.length ≤ fuel → Ends rest → value (fuel + 1) (cs ++ rest) = (node,some rest)

theorem isDigit_toDigits (member : c ∈ Nat.toDigits 10 n) : isDigit c = true :=
  Nat.isDigit_of_mem_toDigits (by decide) (by decide) member

theorem splitDigits_toDigits (n : Nat) (ends : Ends rest) :
    splitDigits (Nat.toDigits 10 n ++ rest) = (Nat.toDigits 10 n,rest) := by
  have stops : rest.takeWhile isDigit = [] ∧ rest.dropWhile isDigit = rest := by
    cases rest with
    | nil => exact ⟨rfl,rfl⟩
    | cons c rest => simp [(ends c rfl).1]
  rw [splitDigits,List.takeWhile_append_of_pos fun _ => isDigit_toDigits,
    List.dropWhile_append_of_pos fun _ => isDigit_toDigits,stops.1,stops.2,List.append_nil]

theorem toDigits_head (positive : 0 < n) : (Nat.toDigits 10 n).head? ≠ some '0' := by
  induction n using Nat.strongRecOn with
  | ind n ih =>
    rw [Nat.toDigits_eq_if (by decide)]
    split
    · interval_cases n <;> decide
    · have shorter := ih (n / 10) (by omega) (by omega)
      rwa [List.head?_append_of_ne_nil _ Nat.toDigits_ne_nil]

theorem splitNumeral_toDigits (n : Nat) (ends : Ends rest) :
    splitNumeral (Nat.toDigits 10 n ++ rest) =
      some (⟨false,Nat.toDigits 10 n,none,none⟩,rest) := by
  have sign : splitSign (Nat.toDigits 10 n ++ rest) = (false,Nat.toDigits 10 n ++ rest) := by
    match digits : Nat.toDigits 10 n with
    | [] => exact absurd digits Nat.toDigits_ne_nil
    | c :: cs =>
      have digit : isDigit c = true := isDigit_toDigits (n := n) (digits ▸ .head _)
      have other : c ≠ '-' := by rintro rfl; cases digit
      simp [splitSign,other]
  have leading : (Nat.toDigits 10 n).head? = some '0' → (Nat.toDigits 10 n).length = 1 := by
    rcases Nat.eq_zero_or_pos n with rfl | positive
    · exact fun _ => rfl
    · exact fun zero => absurd zero (toDigits_head positive)
  have fraction : splitFraction rest = some (none,rest) := by
    cases rest with
    | nil => rfl
    | cons c rest => simp [splitFraction,(ends c rfl).2.1]
  have exponent : splitExponent rest = some (none,rest) := by
    cases rest with
    | nil => rfl
    | cons c rest => simp [splitExponent,(ends c rfl).2.2]
  simpa [splitNumeral,sign,splitDigits_toDigits n ends,fraction,exponent] using leading

theorem numeral_node (small : n < Nat.pow 2 64) :
    (Numeral.mk false (Nat.toDigits 10 n) none none).node = .integer n := by
  have whole : wholeValue (Nat.toDigits 10 n) = n :=
    Nat.ofDigitChars_eq_foldl.symm.trans Nat.ofDigitChars_ten_toDigits
  simp [Numeral.node,whole,small]

theorem escape_control (small : c.toNat < 0x20) (rest : List Char) :
    escape? (['u','0','0',if c.toNat < 0x10 then '0' else '1'] ++
      Nat.toDigits 16 (c.toNat % 16) ++ rest) = some (some c,rest) := by
  obtain ⟨point,same⟩ : ∃ point, c.toNat = point := ⟨_,rfl⟩
  have character : Char.ofNat point = c := same ▸ Char.ofNat_toNat c
  rw [same] at small ⊢
  rw [← character]
  interval_cases point <;> rfl

-- A character is written behind a backslash, or as it is.
theorem escapedChar_cases (c : Char) :
    (∃ written, escapedChar c = '\\' :: written ∧
      ∀ rest, escape? (written ++ rest) = some (some c,rest)) ∨
    escapedChar c = [c] ∧ c ≠ '"' ∧ c ≠ '\\' ∧ ¬ c.toNat < 0x20 := by
  unfold escapedChar
  split
  next same => exact .inl ⟨_,rfl,fun _ => by subst same; rfl⟩
  next quote =>
    split
    next same => exact .inl ⟨_,rfl,fun _ => by subst same; rfl⟩
    next backslash =>
      -- The five other characters that have a letter of their own.
      iterate 5
        split
        next same => exact .inl ⟨_,rfl,fun _ => by subst same; rfl⟩
      split
      next control => exact .inl ⟨_,rfl,escape_control control⟩
      next printed => exact .inr ⟨rfl,quote,backslash,printed⟩

theorem quotedText_escaped (fuel : Nat) (c : Char) (rest : List Char) :
    quotedText (fuel + 1) (escapedChar c ++ rest) =
      (quotedText fuel rest).map fun (found,rest) => (found.push c,rest) := by
  rcases escapedChar_cases c with ⟨written,same,escapes⟩ | ⟨same,quote,backslash,large⟩
  · simp [same,quotedText,escapes,Option.map_eq_bind]
  · simp [same,quotedText,quote,backslash,large,Option.map_eq_bind]

theorem quotedText_literal (fuel : Nat) (cs rest : List Char)
    (enough : (cs.flatMap escapedChar).length < fuel) :
    quotedText fuel (cs.flatMap escapedChar ++ '"' :: rest) = some (.text cs,rest) := by
  obtain ⟨fuel,rfl⟩ := Nat.exists_eq_succ_of_ne_zero (by omega : fuel ≠ 0)
  induction cs generalizing fuel with
  | nil => rfl
  | cons c cs ih =>
    have longer : 0 < (escapedChar c).length := by
      rcases escapedChar_cases c with ⟨written,same,_⟩ | ⟨same,_⟩ <;> simp [same]
    rw [List.flatMap_cons,List.length_append] at enough
    obtain ⟨fuel,rfl⟩ := Nat.exists_eq_succ_of_ne_zero (by omega : fuel ≠ 0)
    rw [List.flatMap_cons,List.append_assoc,quotedText_escaped,ih fuel (by omega)]
    rfl

theorem literal_toList (s : String) :
    (literal s).toList = '"' :: (s.toList.flatMap escapedChar ++ ['"']) := by
  rw [literal,String.toList_ofList]
  rfl

theorem skipSpace_append (blank : Blank spaces) (cs : List Char) :
    skipSpace (spaces ++ cs) = skipSpace cs :=
  List.dropWhile_append_of_pos blank

theorem value_congr (same : skipSpace cs = skipSpace others) (fuel : Nat) :
    value fuel cs = value fuel others := by
  cases fuel with
  | zero => rfl
  | succ fuel => rw [value,value,same]

theorem value_numeral (fuel : Nat) (cs : List Char) (digit : isDigit c = true) :
    value (fuel + 1) (c :: cs) = match splitNumeral (c :: cs) with
      | some (numeral,rest) => (numeral.node,some rest)
      | none => (.missing,none) := by
  obtain ⟨point,same⟩ : ∃ point, c.toNat = point := ⟨_,rfl⟩
  have character : Char.ofNat point = c := same ▸ Char.ofNat_toNat c
  simp only [isDigit,Bool.and_eq_true,decide_eq_true_eq] at digit
  have low : 48 ≤ point := same ▸ UInt32.le_iff_toNat_le.mp digit.1
  have high : point ≤ 57 := same ▸ UInt32.le_iff_toNat_le.mp digit.2
  rw [← character]
  interval_cases point <;> rfl

theorem spells_null : Spells .null (scalar .null).toList := by
  intro fuel rest enough ends
  rfl

theorem spells_boolean (flag : Bool) : Spells (.boolean flag) (scalar (.boolean flag)).toList := by
  intro fuel rest enough ends
  cases flag with
  | true => rfl
  | false => rfl

theorem spells_natural (small : n < Nat.pow 2 64) :
    Spells (.integer n) (scalar (.integer n)).toList := by
  intro fuel rest enough ends
  have written : (scalar (.integer n)).toList = Nat.toDigits 10 n :=
    (congrArg String.toList Nat.repr_eq_ofList_toDigits).trans String.toList_ofList
  have split := splitNumeral_toDigits n ends
  rw [written]
  match digits : Nat.toDigits 10 n with
  | [] => exact absurd digits Nat.toDigits_ne_nil
  | c :: cs =>
    have digit : isDigit c = true := isDigit_toDigits (n := n) (digits ▸ .head _)
    rw [digits] at split
    rw [List.cons_append,value_numeral fuel _ digit,← List.cons_append,split]
    simp only [← digits,numeral_node small]

theorem spells_text (written : String) : Spells (.text written) (literal written).toList := by
  intro fuel rest enough ends
  have read := quotedText_literal ((written.toList.flatMap escapedChar ++ '"' :: rest).length + 1)
    written.toList rest (by rw [List.length_append]; omega)
  have start (cs : List Char) : skipSpace ('"' :: cs) = '"' :: cs := rfl
  rw [literal_toList,List.cons_append,List.append_assoc,List.singleton_append,value,start]
  simp only [read,Quoted.node,String.ofList_toList]

theorem value_behind (blank : Blank spaces) (spells : Spells node cs)
    (fuel : Nat) (enough : 3 * cs.length ≤ fuel) (ends : Ends rest) :
    value (fuel + 1) (spaces ++ cs ++ rest) = (node,some rest) := by
  rw [List.append_assoc,value_congr (skipSpace_append blank _)]
  exact spells fuel rest enough ends

-- What stands behind the first piece of a list or a table: each other piece, after a comma and a
-- gap.
def further (gap : List Char) (pieces : List (List Char)) : List Char :=
  pieces.flatMap fun piece => ',' :: (gap ++ piece)

-- The pieces of a list or a table between its brackets.
def enclosed (opening closing : Char) (gap last : List Char) : List (List Char) → List Char
  | [] => [opening,closing]
  | piece :: pieces => opening :: (gap ++ piece ++ further gap pieces ++ last ++ [closing])

theorem further_ends (blank : Blank last) (gap : List Char)
    (pieces : List (List Char)) (ends : Ends (closing :: rest)) :
    Ends (further gap pieces ++ (last ++ closing :: rest)) := by
  cases pieces with
  | cons piece pieces => exact ends_cons (by decide) _
  | nil =>
    cases last with
    | nil => exact ends
    | cons space last =>
      refine ends_cons ?_ _
      have space := blank space (.head _)
      simp only [isSpace,Bool.or_eq_true,decide_eq_true_eq] at space
      obtain ((rfl | rfl) | rfl) | rfl := space <;> decide

-- Where a value begins, a list neither ends nor goes on.
theorem value_start (read : value fuel cs = (node,some rest)) :
    ∃ c tail, skipSpace cs = c :: tail ∧ c ≠ ']' ∧ c ≠ ',' := by
  cases fuel with
  | zero => cases read
  | succ fuel =>
    rw [value] at read
    match start : skipSpace cs with
    | [] => rw [start] at read; cases read
    | c :: tail =>
      refine ⟨c,tail,rfl,?_,?_⟩
      · rintro rfl; rw [start] at read; cases read
      · rintro rfl; rw [start] at read; cases read

section

variable {cs later : List Char} {node : Node} {nodes : List Node} {tail : Option (List Char)}
  (read : value fuel cs = (node,some later)) (next : items fuel false later = (nodes,tail))

include read next

theorem item_read : item (fuel + 1) cs = (node :: nodes,tail) := by
  rw [item,read]
  simp only [next]

theorem items_first : items (fuel + 2) true cs = (node :: nodes,tail) := by
  obtain ⟨c,rest,start,notClosing,notComma⟩ := value_start read
  have again : value fuel (c :: rest) = (node,some later) := by
    rw [← read,← start]
    exact value_congr (List.dropWhile_idempotent _ cs) fuel
  rw [items,start]
  split
  next same => exact absurd (List.cons.inj same).1 notClosing
  next same => exact absurd (List.cons.inj same).1 notComma
  next => exact item_read again next

theorem items_next : items (fuel + 2) false (',' :: cs) = (node :: nodes,tail) := by
  have start : skipSpace (',' :: cs) = ',' :: cs := rfl
  rw [items,start]
  exact item_read read next

end

theorem items_end (blank : Blank spaces) (fuel : Nat) (first : Bool)
    (rest : List Char) : items (fuel + 1) first (spaces ++ ']' :: rest) = ([],some rest) := by
  have start : skipSpace (']' :: rest) = ']' :: rest := rfl
  rw [items,skipSpace_append blank,start]
  rfl

-- A field: its name, a colon, and the text of what it holds.
def SpellsField (pair : Option String × Node) (piece : List Char) : Prop :=
  ∃ key gap text, pair.1 = some key ∧ piece = (literal key).toList ++ ':' :: (gap ++ text) ∧
    Blank gap ∧ Spells pair.2 text

section

variable {spaces piece later : List Char} {pair : Option String × Node}
  {pairs : List (Option String × Node)} {tail : Option (List Char)}
  (blank : Blank spaces) (spells : SpellsField pair piece)
  (enough : 3 * piece.length ≤ fuel) (ends : Ends later)
  (next : fields (fuel + 1) false later = (pairs,tail))

include blank spells

theorem field_start (later : List Char) :
    ∃ tail, skipSpace (spaces ++ piece ++ later) = '"' :: tail ∧ piece ++ later = '"' :: tail := by
  obtain ⟨key,gap,text,_,rfl,_,_⟩ := spells
  rw [List.append_assoc,skipSpace_append blank,literal_toList]
  exact ⟨_,rfl,rfl⟩

include enough ends next

theorem field_read : field (fuel + 2) (spaces ++ piece ++ later) = (pair :: pairs,tail) := by
  obtain ⟨_,node⟩ := pair
  obtain ⟨key,gap,text,rfl,rfl,gapBlank,spells⟩ := spells
  simp only [literal_toList,List.length_append,List.length_cons] at enough
  have read := value_behind gapBlank spells fuel (by omega) ends
  have name := quotedText_literal
    ((key.toList.flatMap escapedChar ++ '"' :: ':' :: (gap ++ text ++ later)).length + 1) key.toList
    (':' :: (gap ++ text ++ later)) (by rw [List.length_append]; omega)
  have start (cs : List Char) : skipSpace ('"' :: cs) = '"' :: cs := rfl
  have colon (cs : List Char) : skipSpace (':' :: cs) = ':' :: cs := rfl
  rw [field,List.append_assoc,skipSpace_append blank,literal_toList]
  simp only [List.cons_append,List.append_assoc,List.nil_append,start] at name read ⊢
  simp only [name,colon,read,next,Quoted.key,String.ofList_toList]

theorem fields_first :
    fields (fuel + 3) true (spaces ++ piece ++ later) = (pair :: pairs,tail) := by
  obtain ⟨rest,start,whole⟩ := field_start blank spells later
  have read := field_read blank_nil spells enough ends next
  rw [List.nil_append,whole] at read
  rw [fields,start]
  simpa using read

theorem fields_next :
    fields (fuel + 3) false (',' :: (spaces ++ piece ++ later)) = (pair :: pairs,tail) := by
  have start (cs : List Char) : skipSpace (',' :: cs) = ',' :: cs := rfl
  have read := field_read blank spells enough ends next
  rw [fields,start]
  simpa using read

end

theorem fields_end (blank : Blank spaces) (fuel : Nat) (first : Bool)
    (rest : List Char) :
    fields (fuel + 1) first (spaces ++ Char.ofNat 0x7d :: rest) = ([],some rest) := by
  have start : skipSpace (Char.ofNat 0x7d :: rest) = Char.ofNat 0x7d :: rest := rfl
  rw [fields,skipSpace_append blank,start]
  rfl

section

variable {gap last : List Char} (gapBlank : Blank gap)
  (lastBlank : Blank last)

include gapBlank lastBlank

theorem items_further (spelt : List.Forall₂ Spells nodes pieces) (rest : List Char) (fuel : Nat)
    (enough : 3 * (further gap pieces).length ≤ fuel) :
    items (fuel + 1) false (further gap pieces ++ (last ++ ']' :: rest)) = (nodes,some rest) := by
  have closing : Ends (']' :: rest) := ends_cons (by decide) rest
  induction spelt generalizing fuel with
  | nil => exact items_end lastBlank fuel false rest
  | @cons node piece nodes pieces spells _ ih =>
    simp only [further,List.flatMap_cons,List.length_append,List.length_cons] at enough ih
    obtain ⟨fuel,rfl⟩ : ∃ less, fuel = less + 2 := ⟨fuel - 2,by omega⟩
    have read := value_behind gapBlank spells fuel (by omega)
      (further_ends lastBlank gap pieces closing)
    have following := items_next read (ih fuel (by omega))
    simpa [further] using following

theorem spells_list (spelt : List.Forall₂ Spells nodes pieces) :
    Spells (.list nodes true) (enclosed '[' ']' gap last pieces) := by
  intro fuel rest enough ends
  cases spelt with
  | nil =>
    obtain ⟨fuel,rfl⟩ : ∃ less, fuel = less + 1 :=
      Nat.exists_eq_succ_of_ne_zero (by simp [enclosed] at enough; omega)
    rfl
  | @cons node piece nodes pieces spells others =>
    simp only [enclosed,List.length_append,List.length_cons] at enough
    obtain ⟨fuel,rfl⟩ : ∃ less, fuel = less + 3 := ⟨fuel - 3,by omega⟩
    have closing : Ends (']' :: rest) := ends_cons (by decide) rest
    have read := value_behind gapBlank spells fuel (by omega)
      (further_ends lastBlank gap pieces closing)
    have inside := items_first read
      (items_further gapBlank lastBlank others rest fuel (by omega))
    have opens (cs : List Char) : value (fuel + 4) ('[' :: cs) =
        (.list (items (fuel + 3) true cs).1 (items (fuel + 3) true cs).2.isSome,
          (items (fuel + 3) true cs).2) := rfl
    rw [enclosed,List.cons_append,opens]
    simp only [List.append_assoc,List.singleton_append] at inside ⊢
    simp only [inside,Option.isSome_some]

theorem fields_further (spelt : List.Forall₂ SpellsField pairs pieces) (rest : List Char)
    (fuel : Nat) (enough : 3 * (further gap pieces).length ≤ fuel) :
    fields (fuel + 1) false (further gap pieces ++ (last ++ Char.ofNat 0x7d :: rest)) =
      (pairs,some rest) := by
  have closing : Ends (Char.ofNat 0x7d :: rest) := ends_cons (by decide) rest
  induction spelt generalizing fuel with
  | nil => exact fields_end lastBlank fuel false rest
  | @cons pair piece pairs pieces spells _ ih =>
    simp only [further,List.flatMap_cons,List.length_append,List.length_cons] at enough ih
    obtain ⟨fuel,rfl⟩ : ∃ less, fuel = less + 2 := ⟨fuel - 2,by omega⟩
    have following := fields_next gapBlank spells (by omega)
      (further_ends lastBlank gap pieces closing) (ih fuel (by omega))
    simpa [further] using following

theorem spells_table (spelt : List.Forall₂ SpellsField pairs pieces) :
    Spells (.table pairs true)
      (enclosed (Char.ofNat 0x7b) (Char.ofNat 0x7d) gap last pieces) := by
  intro fuel rest enough ends
  cases spelt with
  | nil =>
    obtain ⟨fuel,rfl⟩ : ∃ less, fuel = less + 1 :=
      Nat.exists_eq_succ_of_ne_zero (by simp [enclosed] at enough; omega)
    rfl
  | @cons pair piece pairs pieces spells others =>
    simp only [enclosed,List.length_append,List.length_cons] at enough
    obtain ⟨fuel,rfl⟩ : ∃ less, fuel = less + 3 := ⟨fuel - 3,by omega⟩
    have closing : Ends (Char.ofNat 0x7d :: rest) := ends_cons (by decide) rest
    have inside := fields_first gapBlank spells (by omega)
      (further_ends lastBlank gap pieces closing)
      (fields_further gapBlank lastBlank others rest fuel (by omega))
    have opens (cs : List Char) : value (fuel + 4) (Char.ofNat 0x7b :: cs) =
        (.table (fields (fuel + 3) true cs).1 (fields (fuel + 3) true cs).2.isSome,
          (fields (fuel + 3) true cs).2) := rfl
    rw [enclosed,List.cons_append,opens]
    simp only [List.append_assoc,List.singleton_append] at inside ⊢
    simp only [inside,Option.isSome_some]

end

-- Both writers put pieces between brackets. They differ in the space around them only.

theorem intercalate_further (gap piece : List Char) (pieces : List (List Char)) :
    (',' :: gap).intercalate (piece :: pieces) = piece ++ further gap pieces := by
  induction pieces generalizing piece with
  | nil => simp [further]
  | cons next pieces ih =>
    rw [List.intercalate_cons_cons,ih next]
    simp [further]

theorem compact_enclosed (opening closing : String) (lines : List String)
    (opens : opening.toList = [start]) (closes : closing.toList = [finish]) :
    (opening ++ ",".intercalate lines ++ closing).toList =
      enclosed start finish [] [] (lines.map String.toList) := by
  cases lines with
  | nil => simp [enclosed,opens,closes]
  | cons line lines =>
    have comma : ",".toList = ',' :: [] := rfl
    simp only [String.toList_append,String.toList_intercalate,List.map_cons,comma,
      intercalate_further,opens,closes,enclosed]
    simp

theorem block_enclosed (opening closing : String) (indent : Nat) (lines : List String)
    (opens : opening.toList = [start]) (closes : closing.toList = [finish]) :
    (block opening closing indent lines).toList =
      enclosed start finish ('\n' :: List.replicate (2 * (indent + 1)) ' ')
        ('\n' :: List.replicate (2 * indent) ' ') (lines.map String.toList) := by
  cases lines with
  | nil => simp [block,enclosed,opens,closes]
  | cons line lines =>
    have comma : ",\n".toList = ',' :: ['\n'] := rfl
    have wider : List.replicate (2 * (indent + 1)) ' ' =
        List.replicate (2 * indent) ' ' ++ List.replicate 2 ' ' := List.replicate_add ..
    simp only [block,List.isEmpty_cons,Bool.false_eq_true,if_false,String.toList_append,
      String.toList_intercalate,List.map_cons,comma,intercalate_further,opens,closes,enclosed,wider]
    simp [further,List.flatMap_map,Function.comp_def]

theorem compactItems_eq (nodes : List Node) : compactItems nodes = nodes.map compact := by
  induction nodes with
  | nil => rfl
  | cons node nodes ih => rw [compactItems,ih,List.map_cons]

theorem prettyItems_eq (indent : Nat) (nodes : List Node) :
    prettyItems indent nodes = nodes.map (pretty indent) := by
  induction nodes with
  | nil => rfl
  | cons node nodes ih => rw [prettyItems,ih,List.map_cons]

-- A field as both writers write it, with a gap behind the colon.
def fieldLine (gap : String) (write : Node → String) (pair : Option String × Node) : String :=
  fieldName pair.1 ++ (":" ++ gap) ++ write pair.2

theorem compactFields_eq (pairs : List (Option String × Node)) :
    compactFields pairs = pairs.map (fieldLine "" compact) := by
  induction pairs with
  | nil => rfl
  | cons pair pairs ih => rw [compactFields,ih,List.map_cons]; rfl

theorem prettyFields_eq (indent : Nat) (pairs : List (Option String × Node)) :
    prettyFields indent pairs = pairs.map (fieldLine " " (pretty indent)) := by
  induction pairs with
  | nil => rfl
  | cons pair pairs ih => rw [prettyFields,ih,List.map_cons]; rfl

theorem items_spelt {write : Node → String}
    (each : ∀ node ∈ nodes, Spells node (write node).toList) :
    List.Forall₂ Spells nodes ((nodes.map write).map String.toList) := by
  simp only [List.map_map,List.forall₂_map_right_iff,List.forall₂_same]
  exact each

theorem fields_spelt {write : Node → String} (gap : String)
    (blank : Blank gap.toList) (named : ∀ pair ∈ pairs, pair.1.isSome = true)
    (each : ∀ pair ∈ pairs, Spells pair.2 (write pair.2).toList) :
    List.Forall₂ SpellsField pairs ((pairs.map (fieldLine gap write)).map String.toList) := by
  simp only [List.map_map,List.forall₂_map_right_iff,List.forall₂_same]
  rintro ⟨key,node⟩ member
  obtain ⟨key,rfl⟩ := Option.isSome_iff_exists.mp (named _ member)
  exact ⟨key,gap.toList,_,rfl,by simp [fieldLine,fieldName],blank,each _ member⟩

theorem compact_spells (plain : node.Plain) : Spells node (compact node).toList := by
  induction plain with
  | null => exact spells_null
  | boolean => exact spells_boolean _
  | natural small => exact spells_natural small
  | text => exact spells_text _
  | list inside each =>
    rw [compact,compactItems_eq,compact_enclosed "[" "]" _ rfl rfl]
    exact spells_list blank_nil blank_nil (items_spelt each)
  | table named inside each =>
    rw [compact,compactFields_eq,compact_enclosed "\x7b" "\x7d" _ rfl rfl]
    exact spells_table blank_nil blank_nil (fields_spelt "" blank_nil named each)

theorem pretty_spells (plain : node.Plain) (indent : Nat) :
    Spells node (pretty indent node).toList := by
  have margin (width : Nat) : Blank ('\n' :: List.replicate width ' ') := by simp [Blank,isSpace]
  induction plain generalizing indent with
  | null => exact spells_null
  | boolean => exact spells_boolean _
  | natural small => exact spells_natural small
  | text => exact spells_text _
  | list inside each =>
    rw [pretty,prettyItems_eq,block_enclosed "[" "]" _ _ rfl rfl]
    exact spells_list (margin _) (margin _) (items_spelt fun node member => each node member _)
  | table named inside each =>
    rw [pretty,prettyFields_eq,block_enclosed "\x7b" "\x7d" _ _ rfl rfl]
    exact spells_table (margin _) (margin _)
      (fields_spelt " " (by simp [Blank,isSpace]) named fun pair member => each pair member _)

theorem read_spelt (spells : Spells node s.toList) : read s = (node,true) := by
  have whole := spells (3 * s.toList.length + 2) [] (by omega) nofun
  rw [List.append_nil] at whole
  rw [read]
  simp only [whole]
  rfl

end Json

end Custody.Document
