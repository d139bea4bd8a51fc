import Wiring.Json.Parser
import Wiring.Json.Printer
import Wiring.Proofs.Assoc

/-!
Documents read back from the text that they are written as. A document without decimals in which no object has a name
twice is what its text says, as long as it is not nested deeper and no number in it is longer than a text may have it;
else the text is no document.
-/

namespace Wiring

namespace Text

lemma natOfDigits_toDigits (n : Nat) : natOfDigits (Nat.toDigits 10 n) = n :=
  Nat.ofDigitChars_ten_toDigits

lemma head?_toDigits {n : Nat} (h : 0 < n) : (Nat.toDigits 10 n).head? ≠ some '0' := by
  induction n using Nat.strongRecOn with
  | ind n ih =>
    obtain hlt | hle := Nat.lt_or_ge n 10
    · rw [Nat.toDigits_of_lt_base hlt, List.head?_cons, Option.some_inj.ne, Ne, Nat.digitChar_eq_zero]
      exact Nat.ne_of_gt h
    · rw [Nat.toDigits_of_base_le (by decide) hle, List.head?_append_of_ne_nil _ Nat.toDigits_ne_nil]
      exact ih (n / 10) (Nat.div_lt_self h (by decide)) (Nat.div_pos hle (by decide))

lemma hexDigits_succ (width n : Nat) :
    hexDigits (width + 2) n = hexDigits (width + 1) (n / 16) ++ [(n % 16).digitChar] := by
  obtain hlt | hle := Nat.lt_or_ge n 16
  · simp [hexDigits, Nat.toDigits_of_lt_base hlt, Nat.div_eq_of_lt hlt, Nat.mod_eq_of_lt hlt, ← List.replicate_succ']
  · simp [hexDigits, Nat.toDigits_of_base_le (by decide) hle]

lemma hexDigits_four {n : Nat} (h : n < 0x10000) :
    hexDigits 4 n = [n / 0x1000, n / 0x100 % 16, n / 16 % 16, n % 16].map Nat.digitChar := by
  have hfirst : hexDigits 1 (n / 16 / 16 / 16) = [(n / 16 / 16 / 16).digitChar] := by
    simp [hexDigits, Nat.toDigits_of_lt_base (show n / 16 / 16 / 16 < 16 by omega)]
  rw [hexDigits_succ 2, hexDigits_succ 1, hexDigits_succ 0, hfirst]
  simp [Nat.div_div_eq_div_mul]

end Text

namespace Json

namespace Parser

lemma hexDigit?_digitChar {n : Nat} (h : n < 16) : hexDigit? n.digitChar = some n := by
  match n with
  | 0 | 1 | 2 | 3 | 4 | 5 | 6 | 7 | 8 | 9 | 10 | 11 | 12 | 13 | 14 | 15 => rfl
  | n + 16 => omega

lemma hexQuad?_eq {n : Nat} (h : n < 0x10000) :
    hexQuad? (n / 0x1000).digitChar (n / 0x100 % 16).digitChar (n / 16 % 16).digitChar (n % 16).digitChar =
      some n := by
  rw [hexQuad?, hexDigit?_digitChar (by omega), hexDigit?_digitChar (by omega), hexDigit?_digitChar (by omega),
    hexDigit?_digitChar (by omega)]
  simp only [Option.bind_eq_bind, Option.bind_some, Option.pure_def, Option.some.injEq]
  omega

/-! Texts in quotes. -/

lemma toNat_lt_or (c : Char) : c.toNat < 0xD800 ∨ 0xDFFF < c.toNat ∧ c.toNat < 0x110000 :=
  c.valid

lemma stringTail_unitEscape {n : Nat} (h : n < 0x10000) (hhigh : isHighSurrogate n = false)
    (hlow : isLowSurrogate n = false) (acc cs : List Char) :
    stringTail acc (Printer.unitEscape n ++ cs) = stringTail (Char.ofNat n :: acc) cs := by
  rw [Printer.unitEscape, Text.hexDigits_four h]
  simp only [List.map_cons, List.map_nil, List.cons_append, List.nil_append]
  rw [stringTail, hexQuad?_eq h]
  simp [hhigh, hlow]

lemma stringTail_surrogates {n : Nat} (h : n < 0x100000) (acc cs : List Char) :
    stringTail acc (Printer.unitEscape (0xD800 + n / 0x400) ++ Printer.unitEscape (0xDC00 + n % 0x400) ++ cs) =
      stringTail (Char.ofNat (0x10000 + n) :: acc) cs := by
  have hhigh : 0xD800 + n / 0x400 < 0x10000 := by omega
  have hlow : 0xDC00 + n % 0x400 < 0x10000 := by omega
  have hishigh : isHighSurrogate (0xD800 + n / 0x400) = true := by
    simp only [isHighSurrogate, Bool.and_eq_true, decide_eq_true_eq]
    omega
  have hislow : isLowSurrogate (0xDC00 + n % 0x400) = true := by
    simp only [isLowSurrogate, Bool.and_eq_true, decide_eq_true_eq]
    omega
  have hsum : 0x10000 + (0xD800 + n / 0x400 - 0xD800) * 0x400 + (0xDC00 + n % 0x400 - 0xDC00) = 0x10000 + n := by
    omega
  rw [Printer.unitEscape, Printer.unitEscape, Text.hexDigits_four hhigh, Text.hexDigits_four hlow]
  simp only [List.map_cons, List.map_nil, List.cons_append, List.nil_append]
  rw [stringTail, hexQuad?_eq hhigh]
  simp only [hishigh, if_true, hexQuad?_eq hlow, hislow, hsum]

lemma stringTail_escaped (c : Char) (acc cs : List Char) :
    stringTail acc (Printer.escaped c ++ cs) = stringTail (c :: acc) cs := by
  unfold Printer.escaped
  split
  case h_8 hquote hslash _ _ _ _ _ =>
    dsimp only
    split
    · rename_i hshown
      rw [List.singleton_append, stringTail]
      · rw [if_neg (Nat.not_lt.2 hshown.1)]
      all_goals simp_all
    · have hvalid := toNat_lt_or c
      split
      · rename_i hlt
        have hhigh : isHighSurrogate c.toNat = false := by
          simp only [isHighSurrogate, Bool.and_eq_false_iff, decide_eq_false_iff_not]
          omega
        have hlow : isLowSurrogate c.toNat = false := by
          simp only [isLowSurrogate, Bool.and_eq_false_iff, decide_eq_false_iff_not]
          omega
        rw [stringTail_unitEscape hlt hhigh hlow, Char.ofNat_toNat]
      · rw [stringTail_surrogates (by omega), Nat.add_sub_cancel' (by omega), Char.ofNat_toNat]
  all_goals rfl

lemma stringTail_flatMap (cs acc rest : List Char) :
    stringTail acc (cs.flatMap Printer.escaped ++ '"' :: rest) = some (String.ofList (acc.reverse ++ cs), rest) := by
  induction cs generalizing acc with
  | nil => simp [stringTail]
  | cons c cs ih =>
    rw [List.flatMap_cons, List.append_assoc, stringTail_escaped, ih]
    simp

/-! Whole numbers, in front of what may follow a value. -/

def Stops (cs : List Char) : Prop :=
  ∀ c ∈ cs.head?, c ∈ [',', ']', '}']

lemma Stops.eq_or {c : Char} {cs : List Char} (h : Stops (c :: cs)) : c = ',' ∨ c = ']' ∨ c = '}' := by
  simpa using h c rfl

variable {rest : List Char}

lemma digits_append {ds : List Char} (hne : ds ≠ []) (hds : ∀ c ∈ ds, c.isDigit) (hrest : Stops rest) :
    digits (ds ++ rest) = some (ds, rest) := by
  have htake : rest.takeWhile Char.isDigit = [] ∧ rest.dropWhile Char.isDigit = rest := by
    cases rest with
    | nil => exact ⟨rfl, rfl⟩
    | cons c cs =>
      have hc : c.isDigit = false := by obtain rfl | rfl | rfl := hrest.eq_or <;> rfl
      exact ⟨List.takeWhile_cons_of_neg (by simp [hc]), List.dropWhile_cons_of_neg (by simp [hc])⟩
  rw [digits, List.takeWhile_append_of_pos hds, List.dropWhile_append_of_pos hds, htake.1, htake.2, List.append_nil]
  cases ds with
  | nil => contradiction
  | cons d ds => rfl

lemma fraction_of_stops (hrest : Stops rest) : fraction rest = some ([], rest) := by
  cases rest with
  | nil => rfl
  | cons c cs => obtain rfl | rfl | rfl := hrest.eq_or <;> rfl

lemma exponent_of_stops (hrest : Stops rest) : exponent rest = some (none, rest) := by
  cases rest with
  | nil => rfl
  | cons c cs => obtain rfl | rfl | rfl := hrest.eq_or <;> rfl

lemma unsigned_toDigits (negative : Bool) (n : Nat) (hrest : Stops rest) :
    unsigned negative (Nat.toDigits 10 n ++ rest) =
      if Text.decimalLength n ≤ longestNumber then some (.integer (if negative then -(n : Int) else n), rest)
      else none := by
  have hdigits : digits (Nat.toDigits 10 n ++ rest) = some (Nat.toDigits 10 n, rest) :=
    digits_append Nat.toDigits_ne_nil (fun c hc => Nat.isDigit_of_mem_toDigits (by decide) (by decide) hc) hrest
  have hleading : ¬(1 < (Nat.toDigits 10 n).length ∧ (Nat.toDigits 10 n).head? = some '0') := by
    rintro ⟨hlength, hhead⟩
    obtain rfl | hpos := Nat.eq_zero_or_pos n
    · simp at hlength
    · exact Text.head?_toDigits hpos hhead
  have hpoint : rest.head? ≠ some '.' := fun h => by simpa using hrest '.' h
  rw [unsigned, hdigits]
  simp only [Option.bind_eq_bind, Option.bind_some, hleading, false_or, fraction_of_stops hrest,
    exponent_of_stops hrest, hpoint, List.append_nil, Text.natOfDigits_toDigits]
  rw [Text.decimalLength]
  by_cases hlong : (Nat.toDigits 10 n).length ≤ longestNumber
  · rw [if_neg (Nat.not_lt.2 hlong), if_pos hlong]
    cases negative <;> rfl
  · rw [if_pos (Nat.lt_of_not_le hlong), if_neg hlong]
    rfl

lemma number_of_isDigit {c : Char} (hc : c.isDigit) (cs : List Char) : number (c :: cs) = unsigned false (c :: cs) := by
  rw [number]
  -- every other way in which a number starts has a character that is no digit
  all_goals
    rintro rest h
    cases h
    contradiction

lemma number_neg_of_isDigit {c : Char} (hc : c.isDigit) (cs : List Char) :
    number ('-' :: c :: cs) = unsigned true (c :: cs) := by
  rw [number]
  rintro cs' h
  cases h
  contradiction

lemma skipBlanks_of_not_isBlank {c : Char} (hc : isBlank c = false) (cs : List Char) : skipBlanks (c :: cs) = c :: cs :=
  List.dropWhile_cons_of_neg (by simp [hc])

lemma isBlank_of_number {c : Char} (hc : c = '-' ∨ c.isDigit) : isBlank c = false := by
  obtain rfl | hc := hc
  · rfl
  · simp only [isBlank, Bool.or_eq_false_iff, decide_eq_false_iff_not]
    refine ⟨⟨⟨?_, ?_⟩, ?_⟩, ?_⟩ <;> rintro rfl <;> contradiction

lemma value_number {c : Char} (hc : c = '-' ∨ c.isDigit) (steps depth : Nat) (cs : List Char) :
    value (steps + 1) depth (c :: cs) = number (c :: cs) := by
  rw [value, skipBlanks_of_not_isBlank (isBlank_of_number hc)]
  split
  all_goals first
    | rfl
    | rename_i h
      cases h
      simp at hc

end Parser

open Wiring.Json.Parser

/-! Texts as lists of characters. -/

lemma toList_intercalate_cons (s : String) (ss : List String) :
    (", ".intercalate (s :: ss)).toList = s.toList ++ ss.flatMap fun s => ',' :: ' ' :: s.toList := by
  induction ss generalizing s with
  | nil => simp
  | cons s' ss ih =>
    rw [String.intercalate_cons_cons, String.toList_append, String.toList_append, ih, List.flatMap_cons]
    simp

def itemsTail (xs : List Json) : List Char :=
  (xs.flatMap fun x => ',' :: ' ' :: x.text.toList) ++ [']']

def fieldText (f : String × Json) : List Char :=
  (Printer.quoted f.1).toList ++ ':' :: ' ' :: f.2.text.toList

def fieldsTail (fs : List (String × Json)) : List Char :=
  (fs.flatMap fun f => ',' :: ' ' :: fieldText f) ++ ['}']

lemma itemsTail_cons (x : Json) (xs : List Json) :
    itemsTail (x :: xs) = ',' :: ' ' :: (x.text.toList ++ itemsTail xs) := by
  simp [itemsTail]

lemma fieldsTail_cons (f : String × Json) (fs : List (String × Json)) :
    fieldsTail (f :: fs) = ',' :: ' ' :: (fieldText f ++ fieldsTail fs) := by
  simp [fieldsTail]

lemma itemTexts_eq (xs : List Json) : itemTexts xs = xs.map text := by
  induction xs with
  | nil => rfl
  | cons x xs ih => rw [itemTexts, ih, List.map_cons]

lemma fieldTexts_eq (fs : List (String × Json)) :
    fieldTexts fs = fs.map fun f => Printer.quoted f.1 ++ ": " ++ f.2.text := by
  induction fs with
  | nil => rfl
  | cons f fs ih => rw [fieldTexts, ih, List.map_cons]

lemma toList_text_array (x : Json) (xs : List Json) :
    (text (.array (x :: xs))).toList = '[' :: (x.text.toList ++ itemsTail xs) := by
  rw [text, itemTexts_eq, List.map_cons, String.toList_append, String.toList_append, toList_intercalate_cons,
    List.flatMap_map, itemsTail]
  simp

lemma toList_text_object (f : String × Json) (fs : List (String × Json)) :
    (text (.object (f :: fs))).toList = '{' :: (fieldText f ++ fieldsTail fs) := by
  rw [text, fieldTexts_eq, List.map_cons, String.toList_append, String.toList_append, toList_intercalate_cons,
    List.flatMap_map, fieldsTail]
  simp [fieldText]

lemma toList_quoted (s : String) : (Printer.quoted s).toList = '"' :: (s.toList.flatMap Printer.escaped ++ ['"']) := by
  simp [Printer.quoted]

lemma toList_text_integer (n : Int) :
    (text (.integer n)).toList = (if n < 0 then ['-'] else []) ++ Nat.toDigits 10 n.natAbs := by
  rw [text]
  cases n with
  | ofNat n => simp [toString, Int.repr, Nat.repr_eq_ofList_toDigits]
  | negSucc n => simp [toString, Int.repr, Nat.repr_eq_ofList_toDigits]

mutual

def Plain : Json → Prop
  | .decimal _ => False
  | .array xs => AllPlain xs
  | .object fs => (fs.map Prod.fst).Nodup ∧ FieldsPlain fs
  | _ => True

def AllPlain : List Json → Prop
  | [] => True
  | x :: xs => Plain x ∧ AllPlain xs

def FieldsPlain : List (String × Json) → Prop
  | [] => True
  | (_, x) :: fs => Plain x ∧ FieldsPlain fs

end

lemma exists_toDigits_cons (n : Nat) : ∃ d ds, Nat.toDigits 10 n = d :: ds ∧ d.isDigit := by
  cases h : Nat.toDigits 10 n with
  | nil => exact absurd h Nat.toDigits_ne_nil
  | cons d ds => exact ⟨d, ds, rfl, Nat.isDigit_of_mem_toDigits (by decide) (by decide) (h ▸ List.mem_cons_self)⟩

lemma exists_text_cons {x : Json} (hx : x.Plain) :
    ∃ c cs, x.text.toList = c :: cs ∧ isBlank c = false ∧ c ≠ ']' := by
  cases x with
  | null => exact ⟨_, _, rfl, rfl, by decide⟩
  | bool b => cases b <;> exact ⟨_, _, rfl, rfl, by decide⟩
  | decimal d => exact absurd hx (by simp [Plain])
  | string s => exact ⟨_, _, toList_quoted s, rfl, by decide⟩
  | integer n =>
    obtain ⟨d, ds, hds, hd⟩ := exists_toDigits_cons n.natAbs
    rw [toList_text_integer, hds]
    by_cases hneg : n < 0
    · exact ⟨'-', d :: ds, by rw [if_pos hneg]; rfl, rfl, by decide⟩
    · exact ⟨d, ds, by rw [if_neg hneg]; rfl, isBlank_of_number (.inr hd), by rintro rfl; contradiction⟩
  | array xs =>
    cases xs with
    | nil => exact ⟨_, _, rfl, rfl, by decide⟩
    | cons x xs => exact ⟨_, _, toList_text_array x xs, rfl, by decide⟩
  | object fs =>
    cases fs with
    | nil => exact ⟨_, _, rfl, rfl, by decide⟩
    | cons f fs => exact ⟨_, _, toList_text_object f fs, rfl, by decide⟩

variable {steps depth : Nat} {rest : List Char}

lemma value_integer (n : Int) (hrest : Stops rest) :
    value (steps + 1) depth ((text (.integer n)).toList ++ rest) =
      if fits depth (.integer n) then some (.integer n, rest) else none := by
  obtain ⟨d, ds, hds, hd⟩ := exists_toDigits_cons n.natAbs
  have hunsigned := fun negative => unsigned_toDigits negative n.natAbs hrest
  rw [hds, List.cons_append] at hunsigned
  rw [toList_text_integer, hds]
  by_cases hneg : n < 0
  · rw [if_pos hneg, List.singleton_append, List.cons_append, List.cons_append, value_number (.inl rfl),
      number_neg_of_isDigit hd, hunsigned, if_pos rfl, fits, Int.ofNat_natAbs_of_nonpos (Int.le_of_lt hneg),
      Int.neg_neg]
    simp
  · rw [if_neg hneg, List.nil_append, List.cons_append, value_number (.inr hd), number_of_isDigit hd, hunsigned, fits]
    simp [Int.natAbs_of_nonneg (Int.not_lt.1 hneg)]

lemma value_string (s : String) :
    value (steps + 1) depth ((text (.string s)).toList ++ rest) = some (.string s, rest) := by
  rw [text, toList_quoted, List.cons_append, value, skipBlanks_of_not_isBlank rfl]
  simp only
  rw [List.append_assoc, List.singleton_append, stringTail_flatMap]
  simp

lemma value_blank (cs : List Char) : value steps depth (' ' :: cs) = value steps depth cs := by
  cases steps with
  | zero => rfl
  | succ steps =>
    rw [value, value]
    rfl

lemma stops_itemsTail (xs : List Json) : Stops (itemsTail xs ++ rest) := by
  cases xs <;> simp [Stops, itemsTail]

lemma stops_fieldsTail (fs : List (String × Json)) : Stops (fieldsTail fs ++ rest) := by
  cases fs <;> simp [Stops, fieldsTail]

def Reads (x : Json) : Prop :=
  ∀ (steps depth : Nat) (rest : List Char), x.text.toList.length ≤ steps → Stops rest →
    value steps depth (x.text.toList ++ rest) = if x.fits depth then some (x, rest) else none

lemma items_blank (acc : List Json) (cs : List Char) :
    items steps depth acc (' ' :: cs) = items steps depth acc cs := by
  cases steps with
  | zero => rfl
  | succ steps => rw [items, items, value_blank]

lemma fields_blank (acc : List (String × Json)) (cs : List Char) :
    fields steps depth acc (' ' :: cs) = fields steps depth acc cs := by
  cases steps with
  | zero => rfl
  | succ steps =>
    rw [fields, fields]
    rfl

lemma items_text {x : Json} {xs : List Json} (h : ∀ y ∈ x :: xs, y.Reads) (steps depth : Nat) (acc : List Json)
    (rest : List Char) (hsteps : (x.text.toList ++ itemsTail xs).length ≤ steps) :
    items steps depth acc (x.text.toList ++ (itemsTail xs ++ rest)) =
      if allFit depth (x :: xs) then some (acc.reverse ++ x :: xs, rest) else none := by
  -- one step goes for each item, and each item has at least the mark behind it
  induction xs generalizing x steps acc with
  | nil =>
    cases steps with
    | zero => simp [itemsTail] at hsteps
    | succ steps =>
      have hx : x.text.toList.length ≤ steps := by simpa [itemsTail] using hsteps
      rw [items, h x List.mem_cons_self _ _ _ hx (stops_itemsTail [])]
      by_cases hfits : x.fits depth
      · simp [hfits, allFit, itemsTail, skipBlanks_of_not_isBlank (show isBlank ']' = false from rfl)]
      · simp [hfits, allFit]
  | cons y ys ih =>
    cases steps with
    | zero => simp [itemsTail] at hsteps
    | succ steps =>
      rw [itemsTail_cons] at hsteps ⊢
      rw [List.length_append, List.length_cons, List.length_cons] at hsteps
      rw [items, h x List.mem_cons_self _ _ _ (by omega) (by simp [Stops])]
      by_cases hfits : x.fits depth
      · have hys := ih (fun z hz => h z (List.mem_cons_of_mem x hz)) steps (x :: acc) (by omega)
        simp only [hfits, if_true, List.cons_append, List.append_assoc,
          skipBlanks_of_not_isBlank (show isBlank ',' = false from rfl), items_blank, hys]
        simp [allFit, hfits]
      · simp [hfits, allFit]

lemma fieldText_append (f : String × Json) (cs : List Char) :
    fieldText f ++ cs =
      '"' :: (f.1.toList.flatMap Printer.escaped ++ '"' :: ':' :: ' ' :: (f.2.text.toList ++ cs)) := by
  simp [fieldText, toList_quoted]

lemma fields_fieldText {f : String × Json} (hf : f.2.Reads) (acc : List (String × Json)) {cs : List Char}
    (hsteps : f.2.text.toList.length ≤ steps) (hcs : Stops cs) :
    fields (steps + 1) depth acc (fieldText f ++ cs) =
      if f.2.fits depth then
        match skipBlanks cs with
        | ',' :: rest => fields steps depth ((f.1, f.2) :: acc) rest
        | '}' :: rest => some (Assoc.ofPairs ((f.1, f.2) :: acc).reverse, rest)
        | _ => none
      else none := by
  rw [fieldText_append, fields, skipBlanks_of_not_isBlank (show isBlank '"' = false from rfl)]
  simp only [stringTail_flatMap, skipBlanks_of_not_isBlank (show isBlank ':' = false from rfl), value_blank,
    hf _ _ _ hsteps hcs, List.reverse_nil, List.nil_append, String.ofList_toList]
  split_ifs <;> rfl

lemma fields_text {f : String × Json} {fs : List (String × Json)} (h : ∀ g ∈ f :: fs, g.2.Reads)
    (steps depth : Nat) (acc : List (String × Json)) (rest : List Char)
    (hsteps : (fieldText f ++ fieldsTail fs).length ≤ steps) :
    fields steps depth acc (fieldText f ++ (fieldsTail fs ++ rest)) =
      if fieldsFit depth (f :: fs) then some (Assoc.ofPairs (acc.reverse ++ f :: fs), rest) else none := by
  have hf := h f List.mem_cons_self
  rw [fieldText_append] at hsteps
  simp only [List.length_cons, List.length_append] at hsteps
  induction fs generalizing f steps acc with
  | nil =>
    cases steps with
    | zero => simp at hsteps
    | succ steps =>
      rw [fields_fieldText hf acc (by omega) (stops_fieldsTail [])]
      by_cases hfits : f.2.fits depth
      · simp [hfits, fieldsFit, fieldsTail, skipBlanks_of_not_isBlank (show isBlank '}' = false from rfl)]
      · simp [hfits, fieldsFit]
  | cons g gs ih =>
    cases steps with
    | zero => simp at hsteps
    | succ steps =>
      rw [fieldsTail_cons] at hsteps ⊢
      rw [fields_fieldText hf acc (by omega) (by simp [Stops])]
      simp only [List.length_cons, List.length_append] at hsteps
      rw [← List.append_nil (fieldText g), fieldText_append] at hsteps
      simp only [List.length_cons, List.length_append] at hsteps
      by_cases hfits : f.2.fits depth
      · have hgs := ih (fun z hz => h z (List.mem_cons_of_mem f hz)) steps (f :: acc) (h g (by simp)) (by omega)
        simp only [hfits, if_true, List.cons_append, List.append_assoc,
          skipBlanks_of_not_isBlank (show isBlank ',' = false from rfl), fields_blank, hgs]
        simp [fieldsFit, hfits]
      · simp [hfits, fieldsFit]

lemma reads_of_succ {x : Json} (hx : x.Plain) (h : ∀ (steps depth : Nat) (rest : List Char), Stops rest →
    value (steps + 1) depth (x.text.toList ++ rest) = if x.fits depth then some (x, rest) else none) : x.Reads := by
  intro steps depth rest hsteps hrest
  obtain ⟨c, cs, htext, -⟩ := exists_text_cons hx
  cases steps with
  | zero => simp [htext] at hsteps
  | succ steps => exact h steps depth rest hrest

/-! What is not empty is one level deeper than what it holds. -/

lemma value_array {c : Char} (hblank : isBlank c = false) (hc : c ≠ ']') (steps depth : Nat)
    (cs : List Char) : value (steps + 1) 0 ('[' :: c :: cs) = none ∧
      value (steps + 1) (depth + 1) ('[' :: c :: cs) =
        (items steps depth [] (c :: cs)).map fun (xs, r) => (.array xs, r) := by
  rw [value, value, skipBlanks_of_not_isBlank (show isBlank '[' = false from rfl)]
  simp only [skipBlanks_of_not_isBlank hblank]
  constructor <;> split <;> simp_all

lemma value_object {c : Char} (hblank : isBlank c = false) (hc : c ≠ '}') (steps depth : Nat)
    (cs : List Char) : value (steps + 1) 0 ('{' :: c :: cs) = none ∧
      value (steps + 1) (depth + 1) ('{' :: c :: cs) =
        (fields steps depth [] (c :: cs)).map fun (fs, r) => (.object fs, r) := by
  rw [value, value, skipBlanks_of_not_isBlank (show isBlank '{' = false from rfl)]
  simp only [skipBlanks_of_not_isBlank hblank]
  constructor <;> split <;> simp_all

lemma reads_array {xs : List Json} (hxs : AllPlain xs) (h : ∀ x ∈ xs, x.Reads) : Reads (.array xs) := by
  intro steps depth rest hsteps hrest
  cases steps with
  | zero => cases xs <;> simp [text] at hsteps
  | succ steps =>
    cases xs with
    | nil => rfl
    | cons x xs =>
      obtain ⟨c, cs, htext, hblank, hclosing⟩ := exists_text_cons hxs.1
      have hitems := fun depth => items_text h steps depth [] rest (by simpa [toList_text_array] using hsteps)
      rw [toList_text_array, List.cons_append, List.append_assoc]
      rw [htext, List.cons_append] at hitems ⊢
      cases depth with
      | zero => rw [(value_array hblank hclosing steps 0 _).1, fits, if_neg Bool.false_ne_true]
      | succ depth =>
        have hfits : fits (depth + 1) (.array (x :: xs)) = allFit depth (x :: xs) := rfl
        rw [(value_array hblank hclosing steps depth _).2, hitems, hfits]
        split_ifs <;> rfl

lemma reads_object {fs : List (String × Json)} (hfs : (fs.map Prod.fst).Nodup) (h : ∀ f ∈ fs, f.2.Reads) :
    Reads (.object fs) := by
  intro steps depth rest hsteps hrest
  cases steps with
  | zero => cases fs <;> simp [text] at hsteps
  | succ steps =>
    cases fs with
    | nil => rfl
    | cons f fs =>
      have hfields := fun depth => fields_text h steps depth [] rest (by simpa [toList_text_object] using hsteps)
      rw [toList_text_object, List.cons_append, List.append_assoc]
      rw [fieldText_append] at hfields ⊢
      cases depth with
      | zero => rw [(value_object rfl (by decide) steps 0 _).1, fits, if_neg Bool.false_ne_true]
      | succ depth =>
        have hfits : fits (depth + 1) (.object (f :: fs)) = fieldsFit depth (f :: fs) := rfl
        rw [(value_object rfl (by decide) steps depth _).2, hfields, hfits, List.reverse_nil, List.nil_append,
          Assoc.ofPairs_of_nodup hfs]
        split_ifs <;> rfl

mutual

lemma reads : ∀ x : Json, x.Plain → x.Reads
  | .null, h => reads_of_succ h fun _ _ _ _ => rfl
  | .bool b, h => reads_of_succ h fun _ _ _ _ => by cases b <;> rfl
  | .integer n, h => reads_of_succ h fun _ _ _ hrest => value_integer n hrest
  | .string s, h => reads_of_succ h fun _ _ _ _ => value_string s
  | .array xs, h => reads_array h (allReads xs h)
  | .object fs, h => reads_object h.1 (fieldsRead fs h.2)

lemma allReads : ∀ xs : List Json, AllPlain xs → ∀ x ∈ xs, x.Reads
  | [], _ => List.forall_mem_nil _
  | x :: xs, h => List.forall_mem_cons.2 ⟨reads x h.1, allReads xs h.2⟩

lemma fieldsRead : ∀ fs : List (String × Json), FieldsPlain fs → ∀ f ∈ fs, f.2.Reads
  | [], _ => List.forall_mem_nil _
  | (_, x) :: fs, h => List.forall_mem_cons.2 ⟨reads x h.1, fieldsRead fs h.2⟩

end

theorem parse?_text {x : Json} (h : x.Plain) (depth : Nat) :
    parse? depth x.text = if x.fits depth then some x else none := by
  have hread := reads x h (x.text.toList.length + 1) depth [] (Nat.le_succ _) (by simp [Stops])
  rw [List.append_nil, String.length_toList] at hread
  rw [parse?, hread]
  split_ifs <;> rfl

end Json

end Wiring
