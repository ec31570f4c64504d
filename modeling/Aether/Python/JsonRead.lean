import Aether.Python.Json

/-!
# Reading `json.dumps` output back

`json.dumps` is injective on the values the SDK serializes: the text determines the value.
Each form is shown to be *prefix unique*: when its text is followed by a delimiter (`,`, `]`
or a closing brace), the text and the continuation are both determined. Integers need the
delimiter, since `12` is a prefix of `123`; strings, lists and dicts carry their own closing
character. Strings are read back through `readEscaped`, which undoes one character of
`encode_basestring_ascii`, surrogate pairs included.
-/

namespace Aether

/-- What may follow a value inside `json.dumps` output: an item separator or a closer. -/
def Delimited (rest : List Char) : Prop :=
  rest.head? = some ',' ∨ rest.head? = some ']' ∨ rest.head? = some '\x7d'

/-- An encoding whose text, followed by a delimiter, determines the value and what follows. -/
def PrefixUnique {α : Type} (encoding : α → List Char) : Prop :=
  ∀ ⦃left right : α⦄ ⦃leftRest rightRest : List Char⦄, Delimited leftRest →
    Delimited rightRest → encoding left ++ leftRest = encoding right ++ rightRest →
      left = right ∧ leftRest = rightRest

/-! ## Integers -/

/-- A digit character is a digit and stands for its value. -/
theorem digitChar_facts {digit : Nat} (small : digit < 10) :
    isDigitChar (digitChar digit) = true ∧ (digitChar digit).toNat = 48 + digit := by
  have valid : (48 + digit).isValidChar := Or.inl (by omega)
  have value : (digitChar digit).toNat = 48 + digit := by
    simp only [digitChar, Char.ofNat, valid, dite_true, Char.ofNatAux, Char.toNat]
    rfl
  simp [isDigitChar, value]
  omega

/-- The decimal digits of a number are digit characters. -/
theorem decimalDigits_isDigit (n : Nat) : ∀ c ∈ decimalDigits n, isDigitChar c = true := by
  induction n using Nat.strong_induction_on with
  | _ n inductionHypothesis =>
      rw [decimalDigits]
      split_ifs with small
      · simpa using (digitChar_facts small).1
      · intro c member
        rcases List.mem_append.mp member with inner | last
        · exact inductionHypothesis (n / 10) (by omega) c inner
        · rw [List.mem_singleton.mp last]
          exact (digitChar_facts (Nat.mod_lt n (by decide))).1

/-- The decimal digits of a number stand for the number. -/
theorem digitsValue_decimalDigits (n : Nat) : digitsValue (decimalDigits n) = n := by
  induction n using Nat.strong_induction_on with
  | _ n inductionHypothesis =>
      rw [decimalDigits]
      split_ifs with small
      · simp [digitsValue, (digitChar_facts small).2]
      · have last := (digitChar_facts (Nat.mod_lt n (by decide : 0 < 10))).2
        have inner := inductionHypothesis (n / 10) (by omega)
        simp only [digitsValue, List.foldl_append, List.foldl_cons, List.foldl_nil] at inner ⊢
        rw [inner, last]
        omega

/-- The decimal digits of a number are never empty. -/
theorem decimalDigits_ne_nil (n : Nat) : decimalDigits n ≠ [] := by
  rw [decimalDigits]
  split_ifs <;> simp

/-- Two runs of digits, each followed by a non-digit, split the text at the same place. -/
theorem digitRun_split {left right leftRest rightRest : List Char}
    (leftDigits : ∀ c ∈ left, isDigitChar c = true)
    (rightDigits : ∀ c ∈ right, isDigitChar c = true)
    (leftStop : ∀ c, leftRest.head? = some c → isDigitChar c = false)
    (rightStop : ∀ c, rightRest.head? = some c → isDigitChar c = false)
    (same : left ++ leftRest = right ++ rightRest) : left = right ∧ leftRest = rightRest := by
  induction left generalizing right with
  | nil =>
      cases right with
      | nil => exact ⟨rfl, same⟩
      | cons d others =>
          simp only [List.nil_append] at same
          have := leftStop d (by simp [same])
          simp [rightDigits d (by simp)] at this
  | cons c rest inductionHypothesis =>
      cases right with
      | nil =>
          simp only [List.nil_append] at same
          have := rightStop c (by simp [← same])
          simp [leftDigits c (by simp)] at this
      | cons d others =>
          simp only [List.cons_append, List.cons.injEq] at same
          obtain ⟨rfl, tails⟩ := same
          obtain ⟨rfl, rests⟩ := inductionHypothesis (fun x member => leftDigits x (by simp [member]))
            (fun x member => rightDigits x (by simp [member])) tails
          exact ⟨rfl, rests⟩

/-- A delimiter is no digit. -/
theorem Delimited.not_digit {rest : List Char} (delimited : Delimited rest) :
    ∀ c, rest.head? = some c → isDigitChar c = false := by
  intro c head
  rcases delimited with first | first | first <;> rw [head] at first <;> cases first <;> rfl

/-- The decimal digits determine the number. -/
theorem decimalDigits_injective : Function.Injective decimalDigits := fun m n same => by
  rw [← digitsValue_decimalDigits m, ← digitsValue_decimalDigits n, same]

/-- Decimal digits followed by a delimiter determine the number and what follows. -/
theorem decimalDigits_prefixUnique : PrefixUnique decimalDigits :=
  fun m n _ _ leftDelimited rightDelimited same =>
    let ⟨digits, rests⟩ := digitRun_split (decimalDigits_isDigit m) (decimalDigits_isDigit n)
      leftDelimited.not_digit rightDelimited.not_digit same
    ⟨decimalDigits_injective digits, rests⟩

/-- Decimal digits never start with a minus sign. -/
theorem decimalDigits_ne_minus (n : Nat) (rest tail : List Char) :
    decimalDigits n ++ rest ≠ '-' :: tail := by
  intro equal
  obtain ⟨d, ds, split⟩ := List.exists_cons_of_ne_nil (decimalDigits_ne_nil n)
  have isDigit := decimalDigits_isDigit n d (by simp [split])
  simp only [split, List.cons_append, List.cons.injEq] at equal
  rw [equal.1] at isDigit
  exact absurd isDigit (by decide)

/-- `int.__repr__` is prefix unique. -/
theorem intRepr_prefixUnique : PrefixUnique intRepr := by
  intro left right leftRest rightRest leftDelimited rightDelimited same
  cases left with
  | ofNat m =>
      cases right with
      | ofNat n =>
          obtain ⟨rfl, rests⟩ := decimalDigits_prefixUnique leftDelimited rightDelimited same
          exact ⟨rfl, rests⟩
      | negSucc n =>
          exact absurd (by simpa [intRepr] using same) (decimalDigits_ne_minus m leftRest _)
  | negSucc m =>
      cases right with
      | ofNat n =>
          exact absurd (by simpa [intRepr] using same.symm) (decimalDigits_ne_minus n rightRest _)
      | negSucc n =>
          simp only [intRepr, List.cons_append, List.cons.injEq, true_and] at same
          obtain ⟨digits, rests⟩ := decimalDigits_prefixUnique leftDelimited rightDelimited same
          exact ⟨congrArg Int.negSucc (Nat.add_right_cancel digits), rests⟩

/-! ## Strings -/

/-- Four hex digits read as one UTF-16 code unit. -/
def readHex4 : List Char → Option (Nat × List Char)
  | a :: b :: c :: d :: rest =>
      match hexValue? a, hexValue? b, hexValue? c, hexValue? d with
      | some a, some b, some c, some d => some (4096 * a + 256 * b + 16 * c + d, rest)
      | _, _, _, _ => none
  | _ => none

/-- `hex4` is read back by `readHex4`. -/
theorem readHex4_hex4 {unit : Nat} (small : unit < 0x10000) (rest : List Char) :
    readHex4 (hex4 unit ++ rest) = some (unit, rest) := by
  have first := (hexDigit_facts (by omega : unit / 4096 % 16 < 16)).1
  have second := (hexDigit_facts (by omega : unit / 256 % 16 < 16)).1
  have third := (hexDigit_facts (by omega : unit / 16 % 16 < 16)).1
  have fourth := (hexDigit_facts (by omega : unit % 16 < 16)).1
  simp only [hex4, List.cons_append, List.nil_append, readHex4, first, second, third, fourth,
    Option.some.injEq, Prod.mk.injEq, and_true]
  omega

/-- The character a two-character escape stands for. -/
def shortEscape? : Char → Option Char
  | '\x5c' => some '\x5c'
  | '\x22' => some '\x22'
  | 'b' => some '\x08'
  | 'f' => some '\x0c'
  | 'n' => some '\n'
  | 'r' => some '\r'
  | 't' => some '\t'
  | _ => none

/-- The character a `\uXXXX` escape stands for, a surrogate pair read as one character. -/
def readUnicodeEscape (rest : List Char) : Option (Char × List Char) :=
  match readHex4 rest with
  | none => none
  | some (high, rest) =>
      if 0xD800 ≤ high ∧ high < 0xDC00 then
        match rest with
        | '\x5c' :: 'u' :: rest =>
            (readHex4 rest).map fun (low, rest) =>
              (Char.ofNat (0x10000 + (high - 0xD800) * 1024 + (low - 0xDC00)), rest)
        | _ => none
      else some (Char.ofNat high, rest)

/-- One character of a JSON string body read from the front. -/
def readEscaped : List Char → Option (Char × List Char)
  | [] => none
  | c :: rest =>
      if c = '\x5c' then
        match rest with
        | [] => none
        | e :: rest => if e = 'u' then readUnicodeEscape rest else (shortEscape? e).map (·, rest)
      else some (c, rest)

/-- The two-character escapes are read back, and none of them uses the letter `u`. -/
theorem shortEscape?_letter {c letter : Char} (escaped : shortEscapeLetter? c = some letter) :
    shortEscape? letter = some c ∧ letter ≠ 'u' := by
  unfold shortEscapeLetter? at escaped
  split at escaped <;> cases escaped <;> decide

/-- A plain character is neither the backslash nor the double quote. -/
theorem isPlainChar_ne {c : Char} (plain : isPlainChar c = true) : c ≠ '\x5c' ∧ c ≠ '\x22' := by
  simp only [isPlainChar, Bool.and_eq_true, bne_iff_ne, ne_eq] at plain
  exact ⟨plain.1.2, plain.2⟩

/-- Every escape starts with a backslash. -/
theorem escapeUnichar_cons (c : Char) : ∃ tail, escapeUnichar c = '\x5c' :: tail := by
  unfold escapeUnichar
  split
  · exact ⟨_, rfl⟩
  · split <;> exact ⟨_, rfl⟩

/-- `readEscaped` undoes `escapeChar`, whatever follows. -/
theorem readEscaped_escapeChar (c : Char) (rest : List Char) :
    readEscaped (escapeChar c ++ rest) = some (c, rest) := by
  have valid := char_toNat_not_surrogate c
  have bounded := char_toNat_lt c
  unfold escapeChar
  split
  · next plain => simp [readEscaped, (isPlainChar_ne plain).1]
  · unfold escapeUnichar
    split
    · next letter escaped =>
        obtain ⟨read, notU⟩ := shortEscape?_letter escaped
        simp [readEscaped, read, notU]
    · split
      · next basic =>
          simp only [List.cons_append, readEscaped, if_true, readUnicodeEscape,
            readHex4_hex4 basic]
          rw [if_neg (by omega), char_ofNat_eq rfl]
      · simp only [List.cons_append, List.append_assoc, readEscaped, if_true, readUnicodeEscape,
          readHex4_hex4 (by omega : 0xD7C0 + c.toNat / 1024 < 0x10000)]
        rw [if_pos (by omega)]
        simp only [readHex4_hex4 (by omega : 0xDC00 + c.toNat % 1024 < 0x10000),
          Option.map_some']
        rw [char_ofNat_eq]
        omega

/-- No escaped character starts with a double quote. -/
theorem escapeChar_ne_quote (c : Char) (rest tail : List Char) :
    escapeChar c ++ rest ≠ '\x22' :: tail := by
  unfold escapeChar
  split
  · next plain => exact fun same => (isPlainChar_ne plain).2 (List.cons.inj same).1
  · obtain ⟨escaped, split⟩ := escapeUnichar_cons c
    simp [split]

/-- The escapes of one character are a prefix of no other character's escapes. -/
theorem escapeChar_append_inj {left right : Char} {leftRest rightRest : List Char}
    (same : escapeChar left ++ leftRest = escapeChar right ++ rightRest) :
    left = right ∧ leftRest = rightRest := by
  have read := congrArg readEscaped same
  simpa only [readEscaped_escapeChar, Option.some.injEq, Prod.mk.injEq] using read

/-- An escaped string body followed by the closing quote determines the body. -/
theorem escapedBody_append_inj {left right leftRest rightRest : List Char}
    (same : left.flatMap escapeChar ++ '\x22' :: leftRest =
      right.flatMap escapeChar ++ '\x22' :: rightRest) :
    left = right ∧ leftRest = rightRest := by
  induction left generalizing right with
  | nil =>
      cases right with
      | nil => simpa using same
      | cons d others =>
          simp only [List.flatMap_nil, List.nil_append, List.flatMap_cons, List.append_assoc]
            at same
          exact absurd same.symm (escapeChar_ne_quote d _ _)
  | cons c rest inductionHypothesis =>
      cases right with
      | nil =>
          simp only [List.flatMap_nil, List.nil_append, List.flatMap_cons, List.append_assoc]
            at same
          exact absurd same (escapeChar_ne_quote c _ _)
      | cons d others =>
          simp only [List.flatMap_cons, List.append_assoc] at same
          obtain ⟨rfl, tails⟩ := escapeChar_append_inj same
          obtain ⟨rfl, rests⟩ := inductionHypothesis tails
          exact ⟨rfl, rests⟩

/-- A quoted string determines the string and what follows it. -/
theorem quoteString_append_inj {left right : String} {leftRest rightRest : List Char}
    (same : quoteString left ++ leftRest = quoteString right ++ rightRest) :
    left = right ∧ leftRest = rightRest := by
  simp only [quoteString, List.cons_append, List.append_assoc, List.singleton_append,
    List.cons.injEq, true_and] at same
  obtain ⟨data, rests⟩ := escapedBody_append_inj same
  exact ⟨String.ext data, rests⟩

/-! ## Scalars, lists and dicts -/

/-- The kind of value a first character announces: `n`, `t`, `f`, a number, a string. -/
def leadKind (c : Char) : Nat :=
  if c = 'n' then 0 else if c = 't' then 1 else if c = 'f' then 2
  else if c = '-' ∨ isDigitChar c then 3 else if c = '\x22' then 4 else 5

/-- The kind `leadKind` assigns to the text of a scalar. -/
def JsonScalar.kind : JsonScalar → Nat
  | .none => 0
  | .bool true => 1
  | .bool false => 2
  | .int _ => 3
  | .str _ => 4

/-- The text of an integer starts with a minus sign or a digit. -/
theorem intRepr_cons (value : Int) :
    ∃ c tail, intRepr value = c :: tail ∧ (c = '-' ∨ isDigitChar c = true) := by
  cases value with
  | ofNat n =>
      obtain ⟨c, tail, split⟩ := List.exists_cons_of_ne_nil (decimalDigits_ne_nil n)
      exact ⟨c, tail, split, .inr (decimalDigits_isDigit n c (by simp [split]))⟩
  | negSucc n => exact ⟨'-', _, rfl, .inl rfl⟩

/-- The first character of a scalar's text announces its kind. -/
theorem dumpsScalar_cons (value : JsonScalar) :
    ∃ c tail, dumpsScalar value = c :: tail ∧ leadKind c = value.kind := by
  cases value with
  | none => exact ⟨_, _, rfl, rfl⟩
  | bool flag => cases flag <;> exact ⟨_, _, rfl, rfl⟩
  | int n =>
      obtain ⟨c, tail, split, lead⟩ := intRepr_cons n
      refine ⟨c, tail, split, ?_⟩
      rcases lead with rfl | digit
      · rfl
      · have notN : c ≠ 'n' := fun h => by subst h; exact absurd digit (by decide)
        have notT : c ≠ 't' := fun h => by subst h; exact absurd digit (by decide)
        have notF : c ≠ 'f' := fun h => by subst h; exact absurd digit (by decide)
        simp [leadKind, JsonScalar.kind, digit, notN, notT, notF]
  | str text => exact ⟨_, _, rfl, rfl⟩

/-- The kinds of scalars are those `leadKind` gives to their first characters. -/
theorem JsonScalar.kind_lt (value : JsonScalar) : value.kind < 5 := by
  rcases value with _ | ⟨_ | _⟩ | _ | _ <;> simp [JsonScalar.kind]

/-- Scalar texts are prefix unique. -/
theorem dumpsScalar_prefixUnique : PrefixUnique dumpsScalar := by
  intro left right leftRest rightRest leftDelimited rightDelimited same
  have kinds : left.kind = right.kind := by
    obtain ⟨c, tail, leftSplit, leftKind⟩ := dumpsScalar_cons left
    obtain ⟨d, others, rightSplit, rightKind⟩ := dumpsScalar_cons right
    rw [leftSplit, rightSplit] at same
    rw [← leftKind, ← rightKind, (List.cons.inj same).1]
  rcases left with _ | ⟨_ | _⟩ | m | text <;> rcases right with _ | ⟨_ | _⟩ | n | other <;>
    simp only [JsonScalar.kind] at kinds <;> try omega
  all_goals simp only [dumpsScalar] at same
  · exact ⟨rfl, List.append_cancel_left same⟩
  · exact ⟨rfl, List.append_cancel_left same⟩
  · exact ⟨rfl, List.append_cancel_left same⟩
  · obtain ⟨rfl, rests⟩ := intRepr_prefixUnique leftDelimited rightDelimited same
    exact ⟨rfl, rests⟩
  · obtain ⟨rfl, rests⟩ := quoteString_append_inj same
    exact ⟨rfl, rests⟩

/-- A scalar's text never starts with a character of kind five, such as a bracket. -/
theorem dumpsScalar_ne_of_leadKind (value : JsonScalar) (tail rest : List Char) {c : Char}
    (bracket : leadKind c = 5) : dumpsScalar value ++ tail ≠ c :: rest := by
  obtain ⟨d, others, split, kind⟩ := dumpsScalar_cons value
  rw [split]
  intro same
  rw [(List.cons.inj same).1, bracket] at kind
  have := value.kind_lt
  omega

section Bracketed

variable {α : Type} {encoding : α → List Char} {closing : Char}

/-- What follows an item inside brackets, more items or the closer, starts with a delimiter. -/
theorem separatedItems_delimited (closes : closing = ']' ∨ closing = '\x7d') (items : List α)
    (rest : List Char) :
    Delimited ((items.map encoding).flatMap (',' :: ' ' :: ·) ++ closing :: rest) := by
  cases items with
  | nil => rcases closes with rfl | rfl <;> simp [Delimited]
  | cons item others => simp [Delimited]

/-- The items after the first, each behind `", "`, then the closer, are read back. -/
theorem separatedItems_append_inj (unique : PrefixUnique encoding)
    (closes : closing = ']' ∨ closing = '\x7d') :
    ∀ {left right : List α} {leftRest rightRest : List Char},
      (left.map encoding).flatMap (',' :: ' ' :: ·) ++ closing :: leftRest =
        (right.map encoding).flatMap (',' :: ' ' :: ·) ++ closing :: rightRest →
      left = right ∧ leftRest = rightRest := by
  intro left
  induction left with
  | nil =>
      intro right leftRest rightRest same
      cases right with
      | nil => simpa using same
      | cons item others =>
          rcases closes with rfl | rfl <;> simp at same
  | cons item others inductionHypothesis =>
      intro right leftRest rightRest same
      cases right with
      | nil => rcases closes with rfl | rfl <;> simp at same
      | cons other rest =>
          simp only [List.map_cons, List.flatMap_cons, List.cons_append, List.append_assoc,
            List.cons.injEq, true_and] at same
          obtain ⟨rfl, tails⟩ := unique (separatedItems_delimited closes others leftRest)
            (separatedItems_delimited closes rest rightRest) same
          obtain ⟨rfl, rests⟩ := inductionHypothesis tails
          exact ⟨rfl, rests⟩

/-- A bracketed sequence of items is read back item by item, whatever follows it. -/
theorem bracketed_append_inj (unique : PrefixUnique encoding)
    (closes : closing = ']' ∨ closing = '\x7d')
    (notClosing : ∀ item tail rest, encoding item ++ tail ≠ closing :: rest)
    {opening : Char} {left right : List α} {leftRest rightRest : List Char}
    (same : bracketed opening closing (left.map encoding) ++ leftRest =
      bracketed opening closing (right.map encoding) ++ rightRest) :
    left = right ∧ leftRest = rightRest := by
  simp only [bracketed, List.cons_append, List.append_assoc, List.singleton_append,
    List.cons.injEq, true_and] at same
  cases left with
  | nil =>
      cases right with
      | nil => simpa [joinItems] using same
      | cons item others =>
          simp only [List.map_cons, joinItems, List.map_nil, List.nil_append, List.append_assoc]
            at same
          exact absurd same.symm (notClosing _ _ _)
  | cons item others =>
      cases right with
      | nil =>
          simp only [List.map_cons, joinItems, List.map_nil, List.nil_append, List.append_assoc]
            at same
          exact absurd same (notClosing _ _ _)
      | cons other rest =>
          simp only [List.map_cons, joinItems, List.append_assoc] at same
          obtain ⟨rfl, tails⟩ := unique (separatedItems_delimited closes others leftRest)
            (separatedItems_delimited closes rest rightRest) same
          obtain ⟨rfl, rests⟩ := separatedItems_append_inj unique closes tails
          exact ⟨rfl, rests⟩

end Bracketed

/-- Value texts are prefix unique. -/
theorem dumpsValue_prefixUnique : PrefixUnique dumpsValue := by
  intro left right leftRest rightRest leftDelimited rightDelimited same
  have scalarNotList : ∀ (value : JsonScalar) (items : List JsonScalar) (tail rest : List Char),
      dumpsScalar value ++ tail ≠ bracketed '[' ']' (items.map dumpsScalar) ++ rest :=
    fun value _ tail _ => dumpsScalar_ne_of_leadKind value tail _ (by decide)
  cases left with
  | scalar value =>
      cases right with
      | scalar other =>
          obtain ⟨rfl, rests⟩ := dumpsScalar_prefixUnique leftDelimited rightDelimited same
          exact ⟨rfl, rests⟩
      | list items => exact absurd same (scalarNotList _ _ _ _)
  | list items =>
      cases right with
      | scalar other => exact absurd same.symm (scalarNotList _ _ _ _)
      | list others =>
          obtain ⟨rfl, rests⟩ := bracketed_append_inj dumpsScalar_prefixUnique (.inl rfl)
            (fun value tail rest => dumpsScalar_ne_of_leadKind value tail rest (by decide)) same
          exact ⟨rfl, rests⟩

/-- Dict entry texts are prefix unique. -/
theorem dumpsEntry_prefixUnique : PrefixUnique dumpsEntry := by
  intro left right leftRest rightRest leftDelimited rightDelimited same
  simp only [dumpsEntry, List.append_assoc, List.cons_append] at same
  obtain ⟨keys, tails⟩ := quoteString_append_inj same
  simp only [List.cons.injEq, true_and] at tails
  obtain ⟨values, rests⟩ := dumpsValue_prefixUnique leftDelimited rightDelimited tails
  exact ⟨Prod.ext keys values, rests⟩

/-- `json.dumps(dict, sort_keys=True)` determines the dict's sorted entries. -/
theorem dumpsSorted_injective {left right : List (String × JsonValue)}
    (same : dumpsSorted left = dumpsSorted right) :
    left.insertionSort keyLe = right.insertionSort keyLe := by
  have notClosing : ∀ (entry : String × JsonValue) (tail rest : List Char),
      dumpsEntry entry ++ tail ≠ '\x7d' :: rest := by
    intro entry tail rest
    simp [dumpsEntry, quoteString]
  have withEnd := congrArg (· ++ ([] : List Char)) same
  exact (bracketed_append_inj dumpsEntry_prefixUnique (.inr rfl) notClosing withEnd).1

end Aether
