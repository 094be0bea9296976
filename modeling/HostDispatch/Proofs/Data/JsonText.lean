import Mathlib
import HostDispatch.Data.Json.Stream

/-!
# Reading written JSON back

`render` writes a tree compactly, each object's members sorted by key, and `next` reads the first
value of a text. Reading what `render` wrote gives the tree back with each object's members in
key order (`sortKeys`), provided every number of the tree is written as JSON writes numbers. The
reader is fuelled; the proof follows its recursion on the fuel, one level of nesting or one member
per unit, and the fuel `next` gives is shown to be enough.
-/

namespace HostDispatch.Json

/-! ## Numbers -/

/-- Digits, at least one. -/
def Digits (ds : List Char) : Prop := ds ≠ [] ∧ ∀ c ∈ ds, c.isDigit

/-- The integer part of a number: `0`, or digits that do not start with `0`. -/
def IntPart (i : List Char) : Prop := i = ['0'] ∨ Digits i ∧ i.head? ≠ some '0'

/-- The fraction part of a number: nothing, or a dot and digits. -/
def FracPart (f : List Char) : Prop := f = [] ∨ ∃ ds, f = '.' :: ds ∧ Digits ds

/-- The exponent part of a number: nothing, or `e` or `E`, an optional sign and digits. -/
def ExpPart (e : List Char) : Prop :=
  e = [] ∨ ∃ c s ds, e = c :: s ++ ds ∧ (c = 'e' ∨ c = 'E') ∧ (s = [] ∨ s = ['+'] ∨ s = ['-']) ∧
    Digits ds

/-- A number as JSON writes it: an optional minus, an integer part, a fraction and an
exponent. -/
def NumberText (t : String) : Prop :=
  ∃ m i f e, t.toList = m ++ i ++ f ++ e ∧ (m = [] ∨ m = ['-']) ∧ IntPart i ∧ FracPart f ∧
    ExpPart e

/-- What follows a value in written JSON: the end of the text, a comma or a closing bracket. -/
def Stops (r : List Char) : Prop := ∀ c ∈ r.head?, c = ',' ∨ c = ']' ∨ c = '}'

theorem Stops.nil : Stops [] := by
  simp [Stops]

theorem Stops.cons {c : Char} {r : List Char} (h : c = ',' ∨ c = ']' ∨ c = '}') :
    Stops (c :: r) := by
  simpa [Stops] using h

theorem Stops.not_digit {r : List Char} (h : Stops r) : ∀ c ∈ r.head?, c.isDigit = false := by
  intro c hc
  rcases h c hc with rfl | rfl | rfl <;> rfl

theorem digitsPrefix_append {ds r : List Char} (hd : ∀ c ∈ ds, c.isDigit)
    (hr : ∀ c ∈ r.head?, c.isDigit = false) : digitsPrefix (ds ++ r) = (ds, r) := by
  unfold digitsPrefix
  rw [List.takeWhile_append_of_pos hd, List.dropWhile_append_of_pos hd]
  cases r with
  | nil => simp
  | cons c r => simp_all

theorem readExponent_append {s ds r : List Char} (hs : s = [] ∨ s = ['+'] ∨ s = ['-'])
    (hd : Digits ds) (hr : ∀ c ∈ r.head?, c.isDigit = false) :
    readExponent (s ++ (ds ++ r)) = .ok (s ++ ds, r) := by
  obtain ⟨hne, hd⟩ := hd
  obtain ⟨d, ds, rfl⟩ := List.exists_cons_of_ne_nil hne
  have hdig : d.isDigit := hd d (by simp)
  have h1 : d ≠ '+' := by rintro rfl; simp at hdig
  have h2 : d ≠ '-' := by rintro rfl; simp at hdig
  have hp : digitsPrefix (d :: (ds ++ r)) = (d :: ds, r) := digitsPrefix_append hd hr
  rcases hs with rfl | rfl | rfl <;> simp [readExponent, h1, h2, hp]

theorem readExponentPart_append {e r : List Char} (he : ExpPart e) (hr : Stops r) :
    readExponentPart (e ++ r) = .ok (e, r) := by
  rcases he with rfl | ⟨c, s, ds, rfl, hc, hs, hd⟩
  · cases r with
    | nil => rfl
    | cons c r => rcases hr c rfl with rfl | rfl | rfl <;> rfl
  · rcases hc with rfl | rfl <;>
      simp [readExponentPart, readExponent_append hs hd hr.not_digit, Except.map]

/-- After a fraction's place, the text goes on with neither a digit nor a dot. -/
theorem ExpPart.not_digit {e r : List Char} (he : ExpPart e) (hr : Stops r) :
    ∀ c ∈ (e ++ r).head?, c.isDigit = false ∧ c ≠ '.' := by
  rcases he with rfl | ⟨c, s, ds, rfl, hc, -, -⟩
  · intro c hc
    rcases hr c (by simpa using hc) with rfl | rfl | rfl <;> decide
  · intro c' hc'
    simp only [List.cons_append, List.head?_cons, Option.mem_def, Option.some.injEq] at hc'
    subst hc'
    rcases hc with rfl | rfl <;> decide

theorem readFraction_append {f e r : List Char} (hf : FracPart f) (he : ExpPart e)
    (hr : Stops r) : readFraction (f ++ (e ++ r)) = .ok (f, e ++ r) := by
  have hn := he.not_digit hr
  rcases hf with rfl | ⟨ds, rfl, hne, hd⟩
  · cases h : e ++ r with
    | nil => rfl
    | cons c rest =>
      have hc : c ≠ '.' := (hn c (by simp [h])).2
      simp [readFraction, hc]
  · obtain ⟨d, ds, rfl⟩ := List.exists_cons_of_ne_nil hne
    have hp : digitsPrefix (d :: (ds ++ (e ++ r))) = (d :: ds, e ++ r) :=
      digitsPrefix_append hd fun c hc => (hn c hc).1
    simp [readFraction, hp]

/-- After an integer part's place, the text goes on without a digit. -/
theorem FracPart.not_digit {f e r : List Char} (hf : FracPart f) (he : ExpPart e) (hr : Stops r) :
    ∀ c ∈ (f ++ (e ++ r)).head?, c.isDigit = false := by
  rcases hf with rfl | ⟨ds, rfl, -⟩
  · exact fun c hc => (he.not_digit hr c hc).1
  · intro c hc
    simp only [List.cons_append, List.head?_cons, Option.mem_def, Option.some.injEq] at hc
    subst hc
    decide

theorem readIntPart_append {i rest : List Char} (hi : IntPart i)
    (hr : ∀ c ∈ rest.head?, c.isDigit = false) : readIntPart (i ++ rest) = .ok (i, rest) := by
  rcases hi with rfl | ⟨⟨hne, hd⟩, h0⟩
  · rfl
  · obtain ⟨d, ds, rfl⟩ := List.exists_cons_of_ne_nil hne
    have hd0 : d ≠ '0' := by simpa using h0
    have hp : digitsPrefix (d :: (ds ++ rest)) = (d :: ds, rest) := digitsPrefix_append hd hr
    simp [readIntPart, hd0, hp]

/-- A number followed by what may follow a value reads back as itself. -/
theorem readNumber_append {t : String} {r : List Char} (ht : NumberText t) (hr : Stops r) :
    readNumber (t.toList ++ r) = .ok (t, r) := by
  obtain ⟨m, i, f, e, htl, hm, hi, hf, he⟩ := ht
  have hint : readIntPart (i ++ (f ++ (e ++ r))) = pure (i, f ++ (e ++ r)) :=
    readIntPart_append hi (hf.not_digit he hr)
  have hfrac : readFraction (f ++ (e ++ r)) = pure (f, e ++ r) := readFraction_append hf he hr
  have hexp : readExponentPart (e ++ r) = pure (e, r) := readExponentPart_append he hr
  have ht : t = String.ofList (m ++ i ++ f ++ e) := by rw [← htl, String.ofList_toList]
  rw [htl, ht]
  -- the minus sign is read only when there is one: an integer part starts with a digit
  rcases hm with rfl | rfl
  · obtain ⟨c, cs, rfl⟩ : ∃ c cs, i = c :: cs := by
      rcases hi with rfl | ⟨⟨hne, -⟩, -⟩
      · exact ⟨'0', [], rfl⟩
      · exact List.exists_cons_of_ne_nil hne
    have hc : c ≠ '-' := by
      rcases hi with h | ⟨⟨-, hd⟩, -⟩
      · cases h; decide
      · have : c.isDigit := hd c (by simp)
        rintro rfl; simp at this
    simp only [List.cons_append] at hint
    simp [readNumber, hc, hint, hfrac, hexp, String.append_assoc]
    rfl
  · simp [readNumber, hint, hfrac, hexp]
    rfl

/-- A number starts with a minus or a digit. -/
theorem NumberText.head {t : String} (ht : NumberText t) :
    ∃ c cs, t.toList = c :: cs ∧ (c = '-' ∨ c.isDigit) := by
  obtain ⟨m, i, f, e, htl, hm, hi, -⟩ := ht
  rcases hm with rfl | rfl
  · rcases hi with rfl | ⟨⟨hne, hd⟩, -⟩
    · exact ⟨'0', f ++ e, by simp [htl], Or.inr rfl⟩
    · obtain ⟨c, cs, rfl⟩ := List.exists_cons_of_ne_nil hne
      exact ⟨c, cs ++ f ++ e, by simp [htl], Or.inr (hd c (by simp))⟩
  · exact ⟨'-', i ++ f ++ e, by simp [htl], Or.inl rfl⟩

/-! ## Strings -/

theorem hexValue_hexDigit : ∀ d, d < 16 → hexValue? (hexDigit d) = some d := by decide

theorem readHex4_hex4 {n : Nat} (h : n < 65536) (r : List Char) :
    readHex4 ((hex4 n).toList ++ r) = .ok n := by
  simp only [hex4, String.toList_ofList, List.cons_append, List.nil_append, readHex4,
    hexValue_hexDigit _ (Nat.mod_lt _ (by decide : 16 > 0))]
  congr 1
  omega

/-- The characters of a string as written between its quotes. -/
def escaped (s : String) : List Char := s.toList.flatMap fun c => (escapeChar c).toList

theorem quote_toList (s : String) : (quote s).toList = '"' :: escaped s ++ ['"'] := by
  simp [quote, escaped, String.toList_join, List.flatMap_map]

/-- One written character reads back as itself, in one step of the reader. -/
theorem readStringBody_escapeChar (c : Char) (n : Nat) (acc r : List Char) :
    readStringBody (n + 1) acc ((escapeChar c).toList ++ r) = readStringBody n (c :: acc) r := by
  unfold escapeChar
  split
  · subst_vars; simp [readStringBody]
  split
  · subst_vars; simp [readStringBody]
  split
  · subst_vars; simp [readStringBody]
  split
  · subst_vars; simp [readStringBody]
  split
  · subst_vars; simp [readStringBody]
  split
  · -- a `\u` escape, of a code below the surrogates
    rename_i h
    simp only [Bool.or_eq_true, decide_eq_true_eq] at h
    have hlt : c.toNat < 65536 := by omega
    have hs1 : ¬ (0xD800 ≤ c.toNat ∧ c.toNat < 0xDC00) := by omega
    have hs2 : ¬ (0xDC00 ≤ c.toNat ∧ c.toNat < 0xE000) := by omega
    have hd : ((hex4 c.toNat).toList ++ r).drop 4 = r := by simp [hex4]
    simp only [String.toList_append, List.append_assoc]
    simp [readStringBody, readHex4_hex4 hlt, hs1, hs2, hd]
  · rename_i h
    have hc : ¬ c.toNat < 32 := by
      simp only [Bool.or_eq_true, decide_eq_true_eq, not_or] at h; exact h.1.1
    simp [readStringBody, hc]

theorem readStringBody_escaped (cs : List Char) {n : Nat} (acc r : List Char)
    (h : cs.length < n) :
    readStringBody n acc ((cs.flatMap fun c => (escapeChar c).toList) ++ '"' :: r) =
      .ok (String.ofList (acc.reverse ++ cs), r) := by
  induction cs generalizing n acc with
  | nil =>
    obtain ⟨n, rfl⟩ : ∃ m, n = m + 1 := ⟨n - 1, by simp at h; omega⟩
    simp [readStringBody]
  | cons c cs ih =>
    obtain ⟨n, rfl⟩ : ∃ m, n = m + 1 := ⟨n - 1, by simp at h; omega⟩
    rw [List.flatMap_cons, List.append_assoc, readStringBody_escapeChar,
      ih _ (by simp at h; omega)]
    simp

/-- Every character is written as at least one. -/
theorem length_le_escaped (cs : List Char) :
    cs.length ≤ (cs.flatMap fun c => (escapeChar c).toList).length := by
  induction cs with
  | nil => simp
  | cons c cs ih =>
    have : 0 < (escapeChar c).toList.length := by
      unfold escapeChar; split_ifs <;> simp [hex4]
    simp only [List.flatMap_cons, List.length_append, List.length_cons]
    omega

/-- The body of a written string, with what follows it, reads back as the string. -/
theorem readStringBody_quote (s : String) (r : List Char) {n : Nat} (h : (escaped s).length < n) :
    readStringBody n [] (escaped s ++ '"' :: r) = .ok (s, r) := by
  have := length_le_escaped s.toList
  rw [escaped, readStringBody_escaped _ _ _ (by rw [escaped] at h; omega)]
  simp

/-! ## Members in key order -/

/-- Insertion into a list of members sorted by key, after the members of equal key. -/
def insertSorted {α : Type} (kv : String × α) : List (String × α) → List (String × α)
  | [] => [kv]
  | x :: xs => if kv.1 < x.1 then kv :: x :: xs else x :: insertSorted kv xs

/-- Members sorted by key, those of equal key in their order: the order `render` writes. -/
def sortMembers {α : Type} (ms : List (String × α)) : List (String × α) :=
  ms.foldr insertSorted []

theorem insertByKey_eq : insertByKey = insertSorted := by
  funext kv l
  induction l with
  | nil => rfl
  | cons x xs ih => simp [insertByKey, insertSorted, ih]

theorem perm_insertSorted {α : Type} (kv : String × α) (l : List (String × α)) :
    (insertSorted kv l).Perm (kv :: l) := by
  induction l with
  | nil => rfl
  | cons x xs ih =>
    unfold insertSorted
    split
    · rfl
    · exact (ih.cons x).trans (List.Perm.swap kv x xs)

theorem perm_sortMembers {α : Type} (ms : List (String × α)) : (sortMembers ms).Perm ms := by
  induction ms with
  | nil => rfl
  | cons kv ms ih => exact (perm_insertSorted kv _).trans (ih.cons kv)

/-- Sorting by key commutes with changing the values. -/
theorem sortMembers_map {α β : Type} (g : α → β) (ms : List (String × α)) :
    sortMembers (ms.map fun kv => (kv.1, g kv.2)) = (sortMembers ms).map fun kv => (kv.1, g kv.2) := by
  have hins : ∀ (kv : String × α) (l : List (String × α)),
      insertSorted (kv.1, g kv.2) (l.map fun kv => (kv.1, g kv.2)) =
        (insertSorted kv l).map fun kv => (kv.1, g kv.2) := by
    intro kv l
    induction l with
    | nil => rfl
    | cons x xs ih =>
      simp only [List.map_cons, insertSorted]
      split_ifs <;> simp [ih]
  induction ms with
  | nil => rfl
  | cons kv ms ih => simp only [sortMembers, List.map_cons, List.foldr_cons] at ih ⊢; rw [ih, hins]

mutual
/-- The tree with every object's members sorted by key: what its written text reads back as. -/
def sortKeys : Json → Json
  | .arr items => .arr (sortKeysItems items)
  | .obj fs => .obj (sortMembers (sortKeysValues fs))
  | j => j

/-- `sortKeys` of each item. -/
def sortKeysItems : List Json → List Json
  | [] => []
  | x :: xs => sortKeys x :: sortKeysItems xs

/-- `sortKeys` of each member's value. -/
def sortKeysValues : List (String × Json) → List (String × Json)
  | [] => []
  | (k, v) :: fs => (k, sortKeys v) :: sortKeysValues fs
end

@[simp] theorem sortKeysItems_eq (xs : List Json) : sortKeysItems xs = xs.map sortKeys := by
  induction xs with
  | nil => rfl
  | cons x xs ih => simp [sortKeysItems, ih]

@[simp] theorem sortKeysValues_eq (fs : List (String × Json)) :
    sortKeysValues fs = fs.map fun kv => (kv.1, sortKeys kv.2) := by
  induction fs with
  | nil => rfl
  | cons kv fs ih => simp [sortKeysValues, ih]

/-! ## Literal trees and their size -/

mutual
/-- The number texts of a tree. -/
def numbers : Json → List String
  | .num t => [t]
  | .arr xs => numbersItems xs
  | .obj fs => numbersValues fs
  | _ => []

/-- The number texts of items. -/
def numbersItems : List Json → List String
  | [] => []
  | x :: xs => numbers x ++ numbersItems xs

/-- The number texts of members' values. -/
def numbersValues : List (String × Json) → List String
  | [] => []
  | (_, v) :: fs => numbers v ++ numbersValues fs
end

@[simp] theorem numbersItems_eq (xs : List Json) : numbersItems xs = xs.flatMap numbers := by
  induction xs with
  | nil => rfl
  | cons x xs ih => simp [numbersItems, ih]

@[simp] theorem numbersValues_eq (fs : List (String × Json)) :
    numbersValues fs = fs.flatMap fun kv => numbers kv.2 := by
  induction fs with
  | nil => rfl
  | cons kv fs ih => simp [numbersValues, ih]

/-- Every number of the tree is written as JSON writes numbers. -/
def Literal (j : Json) : Prop := ∀ t ∈ j.numbers, NumberText t

theorem Literal.item {xs : List Json} (h : Literal (.arr xs)) {x : Json} (hx : x ∈ xs) :
    x.Literal :=
  fun t ht => h t (by simpa [numbers] using ⟨x, hx, ht⟩)

theorem Literal.value {fs : List (String × Json)} (h : Literal (.obj fs)) {kv : String × Json}
    (hkv : kv ∈ fs) : kv.2.Literal :=
  fun t ht => h t (by simpa [numbers] using ⟨kv.1, kv.2, hkv, ht⟩)

mutual
/-- Fuel enough for the reader: one unit per nesting level and per item or member. -/
def weight : Json → Nat
  | .arr xs => weightItems xs + 1
  | .obj fs => weightValues fs + 1
  | _ => 1

/-- Fuel enough for the items of an array. -/
def weightItems : List Json → Nat
  | [] => 1
  | x :: xs => weight x + weightItems xs + 1

/-- Fuel enough for the members of an object. -/
def weightValues : List (String × Json) → Nat
  | [] => 1
  | (_, v) :: fs => weight v + weightValues fs + 1
end

theorem weight_pos (j : Json) : 0 < j.weight := by
  cases j <;> simp [weight]

theorem weightValues_eq (fs : List (String × Json)) :
    weightValues fs = (fs.map fun kv => weight kv.2 + 1).sum + 1 := by
  induction fs with
  | nil => rfl
  | cons kv fs ih => simp only [weightValues, ih, List.map_cons, List.sum_cons]; omega

theorem weightValues_sortMembers (fs : List (String × Json)) :
    weightValues (sortMembers fs) = weightValues fs := by
  rw [weightValues_eq, weightValues_eq, ((perm_sortMembers fs).map _).sum_eq]

/-! ## The shape of written text -/

/-- Texts separated by commas, then a closing bracket. -/
def closeList (close : Char) : List (List Char) → List Char
  | [] => [close]
  | [t] => t ++ [close]
  | t :: ts => t ++ ',' :: closeList close ts

theorem intercalate_append (close : Char) (ts : List String) :
    (",".intercalate ts).toList ++ [close] = closeList close (ts.map String.toList) := by
  rw [String.toList_intercalate]
  induction ts with
  | nil => rfl
  | cons t ts ih =>
    cases ts with
    | nil => simp [closeList]
    | cons u us =>
      simp only [List.map_cons, List.intercalate_cons_cons, List.append_assoc] at ih ⊢
      rw [ih]
      simp [closeList]

/-- A member as written: its key, a colon and its value. -/
def memberText (kv : String × Json) : List Char := (quote kv.1).toList ++ ':' :: (render kv.2).toList

theorem renderItems_eq (xs : List Json) : renderItems xs = xs.map render := by
  induction xs with
  | nil => rfl
  | cons x xs ih => simp [renderItems, ih]

theorem renderMembers_eq (fs : List (String × Json)) :
    renderMembers fs = fs.map fun kv => (kv.1, render kv.2) := by
  induction fs with
  | nil => rfl
  | cons kv fs ih => simp [renderMembers, ih]

theorem render_arr (xs : List Json) :
    (render (.arr xs)).toList = '[' :: closeList ']' (xs.map fun x => (render x).toList) := by
  rw [render, renderItems_eq, String.toList_append, String.toList_append,
    show "]".toList = [']'] from rfl, List.append_assoc, intercalate_append]
  simp
  rfl

theorem render_obj (fs : List (String × Json)) :
    (render (.obj fs)).toList = '{' :: closeList '}' ((sortMembers fs).map memberText) := by
  rw [render, joinMembers, renderMembers_eq, insertByKey_eq, String.toList_append,
    String.toList_append, show "\x7d".toList = ['}'] from rfl, List.append_assoc,
    intercalate_append]
  change _ ++ closeList '}' (List.map _ (List.map _ (sortMembers _))) = _
  rw [sortMembers_map]
  simp [Function.comp_def]
  rfl

/-! ## Reading written values -/

theorem skipBlank_cons {c : Char} (h : isBlank c = false) (cs : List Char) :
    skipBlank (c :: cs) = c :: cs := by
  simp [skipBlank, h]

/-- None of the characters that start written values or stand between them is blank. -/
@[simp] theorem isBlank_punctuation :
    isBlank ',' = false ∧ isBlank ':' = false ∧ isBlank ']' = false ∧ isBlank '}' = false ∧
      isBlank '[' = false ∧ isBlank '{' = false ∧ isBlank '"' = false ∧ isBlank 'n' = false ∧
      isBlank 't' = false ∧ isBlank 'f' = false := by
  decide

/-- A character a number may start with is none that starts another kind of value. -/
theorem number_head {c : Char} (h : c = '-' ∨ c.isDigit) :
    isBlank c = false ∧ c ≠ '{' ∧ c ≠ '[' ∧ c ≠ '"' ∧ c ≠ ']' ∧ (c = '-' || c.isDigit) = true := by
  rcases h with rfl | h
  · decide
  · have ne : ∀ d : Char, d.isDigit = false → c ≠ d := by rintro d hd rfl; simp_all
    refine ⟨?_, ne _ rfl, ne _ rfl, ne _ rfl, ne _ rfl, by simp [h]⟩
    simp [isBlank, ne ' ' rfl, ne '\t' rfl, ne '\n' rfl, ne '\r' rfl]

/-- Written values start with a character that is not blank and does not close an array. -/
theorem render_head {j : Json} (hl : j.Literal) :
    ∃ c cs, (render j).toList = c :: cs ∧ isBlank c = false ∧ c ≠ ']' := by
  cases j with
  | null => exact ⟨'n', "ull".toList, rfl, rfl, by decide⟩
  | bool b => cases b <;> exact ⟨_, _, rfl, rfl, by decide⟩
  | num t =>
    obtain ⟨c, cs, htl, hc⟩ := (hl t (by simp [numbers])).head
    obtain ⟨hb, -, -, -, hr, -⟩ := number_head hc
    exact ⟨c, cs, by rw [render, htl], hb, hr⟩
  | str s => exact ⟨'"', escaped s ++ ['"'], by rw [render, quote_toList, List.cons_append], rfl,
      by decide⟩
  | arr xs => exact ⟨'[', _, render_arr xs, rfl, by decide⟩
  | obj fs => exact ⟨'{', _, render_obj fs, rfl, by decide⟩

mutual
/-- A written value followed by what may follow a value reads back, with fuel of its weight, as
the value with its objects' members in key order. -/
theorem readValue_render : ∀ (n : Nat) (j : Json) (r : List Char), j.Literal → j.weight ≤ n →
    Stops r → readValue n ((render j).toList ++ r) = .ok (j.sortKeys, r)
  | 0, j, _, _, hw, _ => absurd hw (by have := weight_pos j; omega)
  | n + 1, .null, r, _, _, _ => by
    simp [render, readValue, skipBlank_cons, readWord, sortKeys, Except.map]
  | n + 1, .bool b, r, _, _, _ => by
    cases b <;> simp [render, readValue, skipBlank_cons, readWord, sortKeys, Except.map]
  | n + 1, .num t, r, hl, _, hr => by
    have ht := hl t (by simp [numbers])
    obtain ⟨c, cs, htl, hc⟩ := ht.head
    obtain ⟨hb, h1, h2, h3, -, h4⟩ := number_head hc
    have hnum := readNumber_append ht hr
    rw [htl, List.cons_append] at hnum
    simp [render, htl, readValue, skipBlank_cons, hb, h1, h2, h3, h4, hnum, sortKeys, Except.map]
  | n + 1, .str s, r, _, _, _ => by
    have hs := readStringBody_quote s r (n := (escaped s ++ '"' :: r).length + 1) (by simp)
    simp only [List.length_append, List.length_cons] at hs
    simp [render, quote_toList, readValue, skipBlank_cons, hs, sortKeys, Except.map]
  | n + 1, .arr xs, r, hl, hw, _ => by
    have h := readArray_render n xs [] true r (fun x hx => hl.item hx)
      (by simp only [weight] at hw; omega) (fun _ => rfl)
    rw [render_arr]
    simp [readValue, skipBlank_cons, h, sortKeys]
  | n + 1, .obj fs, r, hl, hw, _ => by
    have h := readObject_render n (sortMembers fs) [] true r
      (fun kv hkv => hl.value ((perm_sortMembers fs).subset hkv))
      (by simp only [weight] at hw; rw [weightValues_sortMembers]; omega) (fun _ => rfl)
    rw [render_obj]
    simp [readValue, skipBlank_cons, h, sortKeys, sortMembers_map]

/-- Written items, then the closing bracket, read back as an array. -/
theorem readArray_render : ∀ (n : Nat) (xs acc : List Json) (first : Bool) (r : List Char),
    (∀ x ∈ xs, x.Literal) → weightItems xs ≤ n → (xs = [] → first = true) →
    readArray n acc first (closeList ']' (xs.map fun x => (render x).toList) ++ r) =
      .ok (.arr (acc.reverse ++ xs.map sortKeys), r)
  | 0, xs, _, _, _, _, hw, _ => absurd hw (by cases xs <;> simp [weightItems])
  | n + 1, [], acc, first, r, _, _, hf => by
    simp [hf rfl, closeList, readArray, skipBlank, isBlank]
  | n + 1, [x], acc, first, r, hl, hw, _ => by
    have hx := hl x (by simp)
    obtain ⟨c, cs, htext, hb, hc⟩ := render_head hx
    have hv := readValue_render n x (']' :: r) hx (by simp only [weightItems] at hw; omega)
      (Stops.cons (by simp))
    rw [htext, List.cons_append] at hv
    simp [closeList, htext, readArray, skipBlank_cons, hb, hc, hv]
  | n + 1, x :: y :: ys, acc, first, r, hl, hw, _ => by
    have hx := hl x (by simp)
    obtain ⟨c, cs, htext, hb, hc⟩ := render_head hx
    have hv := readValue_render n x (',' :: (closeList ']' ((y :: ys).map fun x => (render x).toList) ++ r))
      hx (by simp only [weightItems] at hw; omega) (Stops.cons (by simp))
    have ht := readArray_render n (y :: ys) (sortKeys x :: acc) false r
      (fun z hz => hl z (List.mem_cons_of_mem x hz)) (by simp only [weightItems] at hw ⊢; omega)
      (by simp)
    rw [htext, List.cons_append] at hv
    simp only [List.map_cons] at hv ht
    simp [closeList, htext, readArray, skipBlank_cons, hb, hc, hv, ht]

/-- Written members, then the closing brace, read back as an object. -/
theorem readObject_render : ∀ (n : Nat) (ms acc : List (String × Json)) (first : Bool)
    (r : List Char), (∀ kv ∈ ms, kv.2.Literal) → weightValues ms ≤ n → (ms = [] → first = true) →
    readObject n acc first (closeList '}' (ms.map memberText) ++ r) =
      .ok (.obj (acc.reverse ++ ms.map fun kv => (kv.1, sortKeys kv.2)), r)
  | 0, ms, _, _, _, _, hw, _ => absurd hw (by cases ms <;> simp [weightValues])
  | n + 1, [], acc, first, r, _, _, hf => by
    simp [hf rfl, closeList, readObject, skipBlank, isBlank]
  | n + 1, [(k, v)], acc, first, r, hl, hw, _ => by
    have hv := readValue_render n v ('}' :: r) (hl (k, v) (by simp))
      (by simp only [weightValues] at hw; omega) (Stops.cons (by simp))
    have hs := readStringBody_quote k (':' :: ((render v).toList ++ '}' :: r))
      (n := (escaped k ++ '"' :: ':' :: ((render v).toList ++ '}' :: r)).length + 1) (by simp)
    simp only [List.length_append, List.length_cons] at hs
    simp [closeList, memberText, quote_toList, readObject, skipBlank_cons, hs, hv]
  | n + 1, (k, v) :: kv :: ms, acc, first, r, hl, hw, _ => by
    have htext : closeList '}' (((k, v) :: kv :: ms).map memberText) ++ r =
        '"' :: (escaped k ++ '"' :: ':' :: ((render v).toList ++
          ',' :: (closeList '}' ((kv :: ms).map memberText) ++ r))) := by
      simp [closeList, memberText, quote_toList]
    have ht := readObject_render n (kv :: ms) ((k, sortKeys v) :: acc) false r
      (fun kv' h => hl kv' (List.mem_cons_of_mem _ h)) (by simp only [weightValues] at hw ⊢; omega)
      (by simp)
    rw [htext]
    generalize closeList '}' ((kv :: ms).map memberText) = T at ht ⊢
    have hv := readValue_render n v (',' :: (T ++ r)) (hl (k, v) (by simp))
      (by simp only [weightValues] at hw; omega) (Stops.cons (by simp))
    have hs := readStringBody_quote k (':' :: ((render v).toList ++ ',' :: (T ++ r)))
      (n := (escaped k ++ '"' :: ':' :: ((render v).toList ++ ',' :: (T ++ r))).length + 1)
      (by simp)
    simp only [List.length_append, List.length_cons] at hs
    simp [readObject, skipBlank_cons, hs, hv, ht]
end

/-! ## The fuel is enough -/

theorem weightItems_le (xs : List Json) (h : ∀ x ∈ xs, x.weight ≤ 2 * (render x).toList.length) :
    weightItems xs ≤ 2 * (closeList ']' (xs.map fun x => (render x).toList)).length := by
  induction xs with
  | nil => simp [weightItems, closeList]
  | cons x xs ih =>
    have hx := h x (by simp)
    have ih := ih fun y hy => h y (List.mem_cons_of_mem x hy)
    cases xs with
    | nil => simp [weightItems, closeList] at ih ⊢; omega
    | cons y ys =>
      simp only [weightItems, List.map_cons, closeList, List.length_append, List.length_cons] at ih ⊢
      omega

theorem weightValues_le (ms : List (String × Json))
    (h : ∀ kv ∈ ms, kv.2.weight ≤ 2 * (render kv.2).toList.length) :
    weightValues ms ≤ 2 * (closeList '}' (ms.map memberText)).length := by
  induction ms with
  | nil => simp [weightValues, closeList]
  | cons kv ms ih =>
    have hkv := h kv (by simp)
    have ih := ih fun kv' h' => h kv' (List.mem_cons_of_mem kv h')
    have hm : (render kv.2).toList.length + 1 ≤ (memberText kv).length := by
      simp [memberText]
    cases ms with
    | nil => simp [weightValues, closeList] at ih ⊢; omega
    | cons kv' ms =>
      simp only [weightValues, List.map_cons, closeList, List.length_append, List.length_cons] at ih ⊢
      omega

mutual
/-- The weight of a value is at most twice the length of its text. -/
theorem weight_le_length : ∀ j : Json, j.Literal → j.weight ≤ 2 * (render j).toList.length
  | .null, _ => by simp [weight, render]
  | .bool b, _ => by cases b <;> simp [weight, render]
  | .num t, hl => by
    obtain ⟨c, cs, htl, -⟩ := (hl t (by simp [numbers])).head
    simp [weight, render, htl]
    omega
  | .str s, _ => by simp [weight, render, quote_toList]; omega
  | .arr xs, hl => by
    have := weightItems_le xs (weight_le_items xs fun x hx => hl.item hx)
    rw [render_arr]
    simp only [weight, List.length_cons]
    omega
  | .obj fs, hl => by
    have := weightValues_le (sortMembers fs) fun kv hkv =>
      weight_le_values fs (fun kv h => hl.value h) kv ((perm_sortMembers fs).subset hkv)
    rw [render_obj]
    simp only [weight, List.length_cons]
    rw [weightValues_sortMembers] at this
    omega

/-- `weight_le_length` for each item. -/
theorem weight_le_items : ∀ xs : List Json, (∀ x ∈ xs, x.Literal) →
    ∀ x ∈ xs, x.weight ≤ 2 * (render x).toList.length
  | [], _ => by simp
  | x :: xs, hl => by
    have hx := weight_le_length x (hl x (by simp))
    have hxs := weight_le_items xs fun y hy => hl y (List.mem_cons_of_mem x hy)
    simpa [hx] using hxs

/-- `weight_le_length` for each member's value. -/
theorem weight_le_values : ∀ fs : List (String × Json), (∀ kv ∈ fs, kv.2.Literal) →
    ∀ kv ∈ fs, kv.2.weight ≤ 2 * (render kv.2).toList.length
  | [], _ => by simp
  | (k, v) :: fs, hl => by
    have hv := weight_le_length v (hl (k, v) (by simp))
    have hfs := weight_le_values fs fun kv h => hl kv (List.mem_cons_of_mem _ h)
    simpa [hv] using hfs
end

/-- Reading the text of a tree whose numbers are written as JSON writes them gives the tree back,
each object's members in key order, with nothing after it. -/
theorem next_render {j : Json} (hl : j.Literal) : next (render j).toList = .value j.sortKeys [] := by
  obtain ⟨c, cs, htext, hb, -⟩ := render_head hl
  have hw := weight_le_length j hl
  have hread := readValue_render (2 * (render j).toList.length + 2) j [] hl (by omega) Stops.nil
  rw [List.append_nil] at hread
  have hne : (render j).toList.isEmpty = false := by rw [htext]; rfl
  have hskip : skipBlank (render j).toList = (render j).toList := by rw [htext, skipBlank_cons hb]
  simp only [next, readPrefix, hskip, hne, hread]
  rfl

end HostDispatch.Json
