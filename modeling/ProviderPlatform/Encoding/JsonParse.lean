import ProviderPlatform.Encoding.Json

/-! # Reading JSON text back

`JSON.parse` for texts whose numbers are whole. A string is a sequence of UTF-16
code units: an escape writes one unit, and two of them may make one character.
The members of an object stay as the text lists them, so a text that names a
member twice is read to both. The parser inverts the serialization, with enough
fuel for the depth of the value. -/
namespace Encoding

/-! ## Code units -/

/-- The code units of a character. -/
def units (c : Char) : List Nat :=
  if c.toNat ≤ 0xFFFF then [c.toNat]
  else [0xD800 + (c.toNat - 0x10000) / 0x400, 0xDC00 + (c.toNat - 0x10000) % 0x400]

/-- The characters that code units spell; none for half a pair. -/
def spell : List Nat → Option (List Char)
  | [] => some []
  | unit :: rest =>
    if 0xD800 ≤ unit ∧ unit < 0xDC00 then
      match rest with
      | [] => none
      | next :: rest =>
        if 0xDC00 ≤ next ∧ next < 0xE000 then
          (spell rest).map (Char.ofNat (0x10000 + (unit - 0xD800) * 0x400 + (next - 0xDC00)) :: ·)
        else none
    else if 0xDC00 ≤ unit ∧ unit < 0xE000 then none
    else (spell rest).map (Char.ofNat unit :: ·)

theorem spell_units (c : Char) (rest : List Nat) :
    spell (units c ++ rest) = (spell rest).map (c :: ·) := by
  have hvalid : c.toNat < 0xD800 ∨ 0xDFFF < c.toNat ∧ c.toNat < 0x110000 := c.valid
  unfold units
  split
  · rename_i hlow
    rw [List.singleton_append, spell.eq_def]
    simp only
    rw [if_neg (by omega), if_neg (by omega), Char.ofNat_toNat]
  · rename_i hhigh
    have hchar : 0x10000 + (0xD800 + (c.toNat - 0x10000) / 0x400 - 0xD800) * 0x400 +
        (0xDC00 + (c.toNat - 0x10000) % 0x400 - 0xDC00) = c.toNat := by omega
    rw [List.cons_append, List.singleton_append, spell.eq_def]
    simp only
    rw [if_pos (by omega), if_pos (by omega), hchar, Char.ofNat_toNat]

theorem spell_flatMap (text : List Char) : spell (text.flatMap units) = some text := by
  induction text with
  | nil => rfl
  | cons c text ih => rw [List.flatMap_cons, spell_units, ih, Option.map_some]

/-! ## The parser -/

/-- White space between the tokens. -/
def isBlank (c : Char) : Bool :=
  c.toNat == 0x20 || c.toNat == 0x09 || c.toNat == 0x0A || c.toNat == 0x0D

def skip (text : List Char) : List Char := text.dropWhile isBlank

/-- The text after a word it starts with. -/
def afterWord (word text : List Char) : Option (List Char) :=
  if word.isPrefixOf text then some (text.drop word.length) else none

def hexValue (c : Char) : Option Nat :=
  if 0x30 ≤ c.toNat ∧ c.toNat ≤ 0x39 then some (c.toNat - 0x30)
  else if 0x61 ≤ c.toNat ∧ c.toNat ≤ 0x66 then some (c.toNat - 0x57)
  else if 0x41 ≤ c.toNat ∧ c.toNat ≤ 0x46 then some (c.toNat - 0x37)
  else none

/-- The unit a short escape writes. -/
def unescape (c : Char) : Option Nat :=
  if c = '"' then some 0x22
  else if c = '\\' then some 0x5C
  else if c = '/' then some 0x2F
  else if c = 'b' then some 0x08
  else if c = 'f' then some 0x0C
  else if c = 'n' then some 0x0A
  else if c = 'r' then some 0x0D
  else if c = 't' then some 0x09
  else none

/-- Where the reader of a string stands: between characters, behind a backslash,
or before some more digits of a unit. -/
inductive StringMode
  | plain
  | escape
  | hex (left value : Nat)

/-- The units of a string up to its closing quote, and the text behind it. -/
def parseUnits : StringMode → List Char → Option (List Nat × List Char)
  | _, [] => none
  | .plain, c :: rest =>
    if c = '"' then some ([], rest)
    else if c = '\\' then parseUnits .escape rest
    else if c.toNat < 0x20 then none
    else (parseUnits .plain rest).map fun (more, behind) => (units c ++ more, behind)
  | .escape, c :: rest =>
    if c = 'u' then parseUnits (.hex 3 0) rest
    else (unescape c).bind fun unit =>
      (parseUnits .plain rest).map fun (more, behind) => (unit :: more, behind)
  | .hex left value, c :: rest =>
    (hexValue c).bind fun digit =>
      match left with
      | 0 => (parseUnits .plain rest).map fun (more, behind) =>
          ((value * 16 + digit) :: more, behind)
      | left + 1 => parseUnits (.hex left (value * 16 + digit)) rest

/-- The string behind an opening quote. -/
def parseString (text : List Char) : Option (String × List Char) :=
  (parseUnits .plain text).bind fun (more, behind) =>
    (spell more).map fun chars => (String.ofList chars, behind)

/-- Digits without leading zeros; a fraction or an exponent is refused. -/
def parseDigits (text : List Char) : Option (Nat × List Char) :=
  let digits := text.takeWhile Char.isDigit
  let rest := text.dropWhile Char.isDigit
  if digits.isEmpty || (digits.head? == some '0' && decide (1 < digits.length)) ||
      rest.head?.any (fun c => c == '.' || c == 'e' || c == 'E') then none
  else some (Nat.ofDigitChars 10 digits 0, rest)

def parseNumber : List Char → Option (Int × List Char)
  | '-' :: rest => (parseDigits rest).map fun (value, behind) => (-(value : Int), behind)
  | text => (parseDigits text).map fun (value, behind) => ((value : Int), behind)

mutual

/-- The value a text starts with, and the text behind it. -/
def parseValue : Nat → List Char → Option (Json × List Char)
  | 0, _ => none
  | fuel + 1, text =>
    match skip text with
    | c :: rest =>
      if c = 'n' then (afterWord "ull".toList rest).map fun behind => (.null, behind)
      else if c = 't' then (afterWord "rue".toList rest).map fun behind => (.bool true, behind)
      else if c = 'f' then (afterWord "alse".toList rest).map fun behind => (.bool false, behind)
      else if c = '"' then (parseString rest).map fun (text, behind) => (.string text, behind)
      else if c = '[' then
        match afterWord [']'] (skip rest) with
        | some behind => some (.array [], behind)
        | none => (parseElements fuel rest).map fun (elements, behind) => (.array elements, behind)
      else if c = '\x7b' then
        match afterWord ['\x7d'] (skip rest) with
        | some behind => some (.object [], behind)
        | none => (parseMembers fuel rest).map fun (members, behind) => (.object members, behind)
      else (parseNumber (c :: rest)).map fun (value, behind) => (.number value, behind)
    | [] => none

/-- One element and what follows it, up to the closing bracket. -/
def parseElements : Nat → List Char → Option (List Json × List Char)
  | 0, _ => none
  | fuel + 1, text =>
    (parseValue fuel text).bind fun (element, rest) =>
      match afterWord [','] (skip rest) with
      | some more => (parseElements fuel more).map fun (elements, behind) =>
          (element :: elements, behind)
      | none => (afterWord [']'] (skip rest)).map fun behind => ([element], behind)

/-- One member and what follows it, up to the closing brace. -/
def parseMembers : Nat → List Char → Option (List (String × Json) × List Char)
  | 0, _ => none
  | fuel + 1, text =>
    (afterWord ['"'] (skip text)).bind fun quoted =>
      (parseString quoted).bind fun (key, rest) =>
        (afterWord [':'] (skip rest)).bind fun named =>
          (parseValue fuel named).bind fun (value, rest) =>
            match afterWord [','] (skip rest) with
            | some more => (parseMembers fuel more).map fun (members, behind) =>
                ((key, value) :: members, behind)
            | none => (afterWord ['\x7d'] (skip rest)).map fun behind =>
                ([(key, value)], behind)

end

/-- A property of a value; of members of one name the last counts. -/
def Json.member (name : String) : Json → Option Json
  | .object members => (members.reverse.find? fun (key, _) => key == name).map Prod.snd
  | _ => none

/-- `JSON.parse`: one value with nothing but white space behind it. -/
def Json.parse (text : List Char) : Option Json :=
  (parseValue (text.length + 1) text).bind fun (value, behind) =>
    if (skip behind).isEmpty then some value else none

/-! ## Strings -/

theorem afterWord_append (word rest : List Char) : afterWord word (word ++ rest) = some rest := by
  have hprefix : word.isPrefixOf (word ++ rest) = true :=
    List.isPrefixOf_iff_prefix.mpr (List.prefix_append word rest)
  rw [afterWord, if_pos hprefix, List.drop_left]

theorem afterWord_single_ne {w c : Char} (h : w ≠ c) (rest : List Char) :
    afterWord [w] (c :: rest) = none := by
  have hne : [w].isPrefixOf (c :: rest) = false := by
    simp [List.isPrefixOf, h]
  rw [afterWord, hne]
  rfl

theorem skip_cons {c : Char} (h : isBlank c = false) (rest : List Char) :
    skip (c :: rest) = c :: rest := by
  rw [skip, List.dropWhile_cons, h]
  rfl

theorem parseUnits_short {c : Char} {unit : Nat} (hc : unescape c = some unit) (hu : c ≠ 'u')
    (rest : List Char) : parseUnits .plain ('\\' :: c :: rest) =
      (parseUnits .plain rest).map fun (more, behind) => (unit :: more, behind) := by
  rw [parseUnits, if_neg (by decide), if_pos rfl, parseUnits, if_neg hu, hc]
  rfl

theorem hexValue_digitChar : ∀ n < 16, hexValue (Nat.digitChar n) = some n := by decide

/-- A control character is written as four hexadecimal digits. -/
theorem parseUnits_hex {n : Nat} (h : n < 0x20) (rest : List Char) :
    parseUnits .plain ("\\u00".toList ++ [Nat.digitChar (n / 16), Nat.digitChar (n % 16)] ++
      rest) = (parseUnits .plain rest).map fun (more, behind) => (n :: more, behind) := by
  have hhigh := hexValue_digitChar (n / 16) (by omega)
  have hlow := hexValue_digitChar (n % 16) (by omega)
  have hzero : hexValue '0' = some 0 := by decide
  have hvalue : (0 * 16 + n / 16) * 16 + n % 16 = n := by omega
  show parseUnits .plain ('\\' :: 'u' :: '0' :: '0' :: Nat.digitChar (n / 16) ::
    Nat.digitChar (n % 16) :: rest) = _
  rw [parseUnits, if_neg (by decide), if_pos rfl, parseUnits, if_pos rfl]
  simp only [parseUnits, hzero, hhigh, hlow, Option.bind_some, Nat.zero_mul, Nat.zero_add]
  rw [show n / 16 * 16 + n % 16 = n by omega]

/-- What the writer makes of a character is read back to its units. -/
theorem parseUnits_escape (c : Char) (rest : List Char) :
    parseUnits .plain (escape c ++ rest) =
      (parseUnits .plain rest).map fun (more, behind) => (units c ++ more, behind) := by
  have hunits (n : Nat) (h : c.toNat = n) (hn : n ≤ 0xFFFF) : units c = [n] := by
    rw [units, h, if_pos hn]
  unfold escape
  split_ifs with h₁ h₂ h₃ h₄ h₅ h₆ h₇ hcontrol
  · rw [hunits _ h₁ (by decide)]
    exact parseUnits_short rfl (by decide) rest
  · rw [hunits _ h₂ (by decide)]
    exact parseUnits_short rfl (by decide) rest
  · rw [hunits _ h₃ (by decide)]
    exact parseUnits_short rfl (by decide) rest
  · rw [hunits _ h₄ (by decide)]
    exact parseUnits_short rfl (by decide) rest
  · rw [hunits _ h₅ (by decide)]
    exact parseUnits_short rfl (by decide) rest
  · rw [hunits _ h₆ (by decide)]
    exact parseUnits_short rfl (by decide) rest
  · rw [hunits _ h₇ (by decide)]
    exact parseUnits_short rfl (by decide) rest
  · rw [hunits _ rfl (by omega)]
    exact parseUnits_hex hcontrol rest
  · have hquote : c ≠ '"' := by
      rintro rfl
      exact h₁ rfl
    have hslash : c ≠ '\\' := by
      rintro rfl
      exact h₂ rfl
    rw [List.singleton_append, parseUnits, if_neg hquote, if_neg hslash, if_neg hcontrol]

theorem parseUnits_flatMap (text rest : List Char) :
    parseUnits .plain (text.flatMap escape ++ '"' :: rest) = some (text.flatMap units, rest) := by
  induction text with
  | nil => rfl
  | cons c text ih =>
    rw [List.flatMap_cons, List.append_assoc, parseUnits_escape, ih, List.flatMap_cons]
    rfl

theorem parseString_quoted (text : String) (rest : List Char) :
    parseString (text.toList.flatMap escape ++ '"' :: rest) = some (text, rest) := by
  rw [parseString, parseUnits_flatMap]
  simp only [Option.bind_some, spell_flatMap, Option.map_some, String.ofList_toList]

theorem quote_append (text : String) (rest : List Char) :
    quote text ++ rest = '"' :: (text.toList.flatMap escape ++ '"' :: rest) := by
  simp [quote]

/-! ## Numbers -/

/-- What follows a number does not go on with it. -/
def Stops (rest : List Char) : Prop :=
  ∀ c ∈ rest.head?, c.isDigit = false ∧ c ≠ '.' ∧ c ≠ 'e' ∧ c ≠ 'E'

theorem stops_nil : Stops [] := by
  intro c hc
  cases hc

theorem stops_cons {c : Char} (hdigit : c.isDigit = false) (hdot : c ≠ '.') (he : c ≠ 'e')
    (hE : c ≠ 'E') (rest : List Char) : Stops (c :: rest) := by
  intro d hd
  obtain rfl : c = d := Option.some.inj hd
  exact ⟨hdigit, hdot, he, hE⟩

theorem takeWhile_digits {digits rest : List Char} (hdigits : ∀ c ∈ digits, c.isDigit = true)
    (hrest : Stops rest) : (digits ++ rest).takeWhile Char.isDigit = digits ∧
      (digits ++ rest).dropWhile Char.isDigit = rest := by
  rw [List.takeWhile_append_of_pos hdigits, List.dropWhile_append_of_pos hdigits]
  cases rest with
  | nil => simp
  | cons c rest =>
    have hc := (hrest c rfl).1
    simp [hc]

/-- A decimal starts with a zero only if it is one. -/
theorem toDigits_head_zero (n : Nat) (h : (Nat.toDigits 10 n).head? = some '0') : n = 0 := by
  induction n using Nat.strong_induction_on with
  | _ n ih =>
    by_cases hsmall : n < 10
    · rw [Nat.toDigits_of_lt_base hsmall] at h
      have hchar : Nat.digitChar n = '0' := Option.some.inj h
      have hall : ∀ k < 10, Nat.digitChar k = '0' → k = 0 := by decide
      exact hall n hsmall hchar
    · rw [Nat.toDigits_of_base_le (by decide) (by omega),
        List.head?_append_of_ne_nil _ Nat.toDigits_ne_nil] at h
      have hzero := ih (n / 10) (by omega) h
      omega

theorem digits_of_toDigits (n : Nat) : ∀ c ∈ Nat.toDigits 10 n, c.isDigit = true :=
  fun _ hc => Nat.isDigit_of_mem_toDigits (by decide) (by decide) hc

theorem parseDigits_toDigits (n : Nat) {rest : List Char} (hrest : Stops rest) :
    parseDigits (Nat.toDigits 10 n ++ rest) = some (n, rest) := by
  obtain ⟨htake, hdrop⟩ := takeWhile_digits (digits_of_toDigits n) hrest
  have hne : (Nat.toDigits 10 n).isEmpty = false := by
    simp [Nat.toDigits_ne_nil]
  have hzero : ((Nat.toDigits 10 n).head? == some '0' &&
      decide (1 < (Nat.toDigits 10 n).length)) = false := by
    cases hhead : (Nat.toDigits 10 n).head? == some '0' with
    | false => rfl
    | true =>
      rw [toDigits_head_zero n (eq_of_beq hhead)]
      rfl
  have hstop : rest.head?.any (fun c => c == '.' || c == 'e' || c == 'E') = false := by
    cases rest with
    | nil => rfl
    | cons c rest =>
      obtain ⟨-, hdot, he, hE⟩ := hrest c rfl
      simp [hdot, he, hE]
  rw [parseDigits]
  simp only [htake, hdrop, hne, hzero, hstop, Bool.or_self, Bool.false_eq_true, if_false,
    Nat.ofDigitChars_ten_toDigits]

/-- The first character of a decimal is a digit. -/
theorem toDigits_eq_cons (n : Nat) :
    ∃ c rest, Nat.toDigits 10 n = c :: rest ∧ c.isDigit = true := by
  cases hdigits : Nat.toDigits 10 n with
  | nil => exact absurd hdigits Nat.toDigits_ne_nil
  | cons c rest =>
    have hmem : c ∈ Nat.toDigits 10 n := by
      rw [hdigits]
      exact List.mem_cons_self
    exact ⟨c, rest, rfl, digits_of_toDigits n c hmem⟩

theorem ne_of_isDigit {c d : Char} (h : c.isDigit = true) (hd : d.isDigit = false) : c ≠ d := by
  rintro rfl
  rw [h] at hd
  cases hd

theorem parseNumber_of_ne {c : Char} (h : c ≠ '-') (rest : List Char) :
    parseNumber (c :: rest) =
      (parseDigits (c :: rest)).map fun (value, behind) => ((value : Int), behind) := by
  unfold parseNumber
  split
  · rename_i heq
    cases heq
    exact absurd rfl h
  · rfl

theorem toString_toList (n : Int) : (toString n).toList =
    if 0 ≤ n then Nat.toDigits 10 n.toNat else '-' :: Nat.toDigits 10 (-n).toNat := by
  rw [Int.toString_eq_repr, Int.repr_eq_if]
  split
  · rw [Nat.toList_repr]
  · rw [String.toList_append, Nat.toList_repr]
    rfl

theorem parseNumber_toString (n : Int) {rest : List Char} (hrest : Stops rest) :
    parseNumber ((toString n).toList ++ rest) = some (n, rest) := by
  rw [toString_toList]
  split
  · rename_i hn
    obtain ⟨c, more, hdigits, hc⟩ := toDigits_eq_cons n.toNat
    have hparse := parseDigits_toDigits n.toNat hrest
    rw [hdigits, List.cons_append] at hparse ⊢
    rw [parseNumber_of_ne (ne_of_isDigit hc rfl), hparse]
    simp only [Option.map_some, Int.toNat_of_nonneg hn]
  · rename_i hn
    have hvalue : -((-n).toNat : Int) = n := by omega
    rw [List.cons_append, parseNumber, parseDigits_toDigits _ hrest]
    simp only [Option.map_some, hvalue]

/-! ## Values -/

/-- A number starts with its sign or a digit. -/
theorem toString_eq_cons (n : Int) : ∃ c rest, (toString n).toList = c :: rest ∧
    (c = '-' ∨ 48 ≤ c.toNat ∧ c.toNat ≤ 57) := by
  rw [toString_toList]
  split
  · obtain ⟨c, rest, hdigits, hc⟩ := toDigits_eq_cons n.toNat
    exact ⟨c, rest, hdigits, .inr (Char.isDigit_iff_toNat.mp hc)⟩
  · exact ⟨'-', _, rfl, .inl rfl⟩

theorem ne_of_sign_or_digit {c d : Char} (h : c = '-' ∨ 48 ≤ c.toNat ∧ c.toNat ≤ 57)
    (hsign : d ≠ '-') (hdigit : d.toNat < 48 ∨ 57 < d.toNat) : c ≠ d := by
  rintro rfl
  rcases h with hc | hc
  · exact hsign hc
  · omega

theorem isBlank_eq_false {c : Char} (h : 0x20 < c.toNat) : isBlank c = false := by
  simp only [isBlank, Bool.or_eq_false_iff, beq_eq_false_iff_ne]
  omega

/-- The first character of a value is neither a blank nor a closing bracket. -/
theorem stringify_eq_cons (value : Json) :
    ∃ c rest, value.stringify = c :: rest ∧ isBlank c = false ∧ ']' ≠ c := by
  cases value with
  | null => exact ⟨'n', "ull".toList, rfl, rfl, by decide⟩
  | bool value =>
    cases value with
    | false => exact ⟨'f', "alse".toList, rfl, rfl, by decide⟩
    | true => exact ⟨'t', "rue".toList, rfl, rfl, by decide⟩
  | number value =>
    obtain ⟨c, rest, hcons, hc⟩ := toString_eq_cons value
    refine ⟨c, rest, hcons, ?_, (ne_of_sign_or_digit hc (by decide) (by decide)).symm⟩
    rcases hc with rfl | hc
    · rfl
    · exact isBlank_eq_false (by omega)
  | string value => exact ⟨'"', _, by rw [Json.stringify, quote]; rfl, rfl, by decide⟩
  | array elements => exact ⟨'[', _, by rw [Json.stringify]; rfl, rfl, by decide⟩
  | object members => exact ⟨'\x7b', _, by rw [Json.stringify]; rfl, rfl, by decide⟩

theorem separated_cons (part next : List Char) (parts : List (List Char)) :
    separated (part :: next :: parts) = part ++ ',' :: separated (next :: parts) := by
  simp [separated, List.intercalate]

theorem separated_singleton (part : List Char) : separated [part] = part := by
  simp [separated]

/-- The closing marks and the comma end a number. -/
theorem stops_of_mark {c : Char} (h : c = ',' ∨ c = ']' ∨ c = '\x7d') (rest : List Char) :
    Stops (c :: rest) := by
  rcases h with rfl | rfl | rfl
  · exact stops_cons rfl (by decide) (by decide) (by decide) rest
  · exact stops_cons rfl (by decide) (by decide) (by decide) rest
  · exact stops_cons rfl (by decide) (by decide) (by decide) rest

theorem afterWord_single (c : Char) (rest : List Char) : afterWord [c] (c :: rest) = some rest :=
  afterWord_append [c] rest

theorem stringifyElements_eq_cons (element : Json) (elements : List Json) :
    ∃ c rest, separated (stringifyElements (element :: elements)) = c :: rest ∧
      isBlank c = false ∧ ']' ≠ c := by
  obtain ⟨c, rest, hcons, hblank, hmark⟩ := stringify_eq_cons element
  cases elements with
  | nil => exact ⟨c, rest, by rw [stringifyElements, stringifyElements, separated_singleton, hcons],
      hblank, hmark⟩
  | cons next elements =>
    refine ⟨c, rest ++ ',' :: separated (stringifyElements (next :: elements)), ?_, hblank, hmark⟩
    rw [stringifyElements, stringifyElements, separated_cons, hcons, List.cons_append]

/-- What stands behind the first member. -/
def furtherMembers : List (String × Json) → List Char
  | [] => []
  | next :: members => ',' :: separated (stringifyMembers (next :: members))

theorem stringifyMembers_eq_cons (key : String) (value : Json) (members : List (String × Json)) :
    separated (stringifyMembers ((key, value) :: members)) =
      '"' :: (key.toList.flatMap escape ++
        '"' :: ':' :: (value.stringify ++ furtherMembers members)) := by
  cases members with
  | nil =>
    rw [stringifyMembers, stringifyMembers, separated_singleton, List.append_assoc, quote_append,
      furtherMembers, List.append_nil]
    rfl
  | cons next members =>
    obtain ⟨name, more⟩ := next
    have hnext : stringifyMembers ((name, more) :: members) =
        (quote name ++ ":".toList ++ more.stringify) :: stringifyMembers members := by
      rw [stringifyMembers]
    rw [stringifyMembers, hnext, separated_cons, ← hnext, List.append_assoc, List.append_assoc,
      quote_append]
    rfl

mutual

theorem parseValue_stringify (value : Json) {fuel : Nat} {rest : List Char}
    (hfuel : value.stringify.length < fuel) (hrest : Stops rest) :
    parseValue fuel (value.stringify ++ rest) = some (value, rest) := by
  obtain ⟨fuel, rfl⟩ : ∃ n, fuel = n + 1 := ⟨fuel - 1, by omega⟩
  cases value with
  | null =>
    have hword := afterWord_append "ull".toList rest
    show parseValue (fuel + 1) ('n' :: ("ull".toList ++ rest)) = _
    rw [parseValue, skip_cons rfl]
    simp only [if_true, hword, Option.map_some]
  | bool value =>
    cases value with
    | false =>
      have hword := afterWord_append "alse".toList rest
      show parseValue (fuel + 1) ('f' :: ("alse".toList ++ rest)) = _
      rw [parseValue, skip_cons rfl]
      simp only [hword, Option.map_some]
      rfl
    | true =>
      have hword := afterWord_append "rue".toList rest
      show parseValue (fuel + 1) ('t' :: ("rue".toList ++ rest)) = _
      rw [parseValue, skip_cons rfl]
      simp only [hword, Option.map_some]
      rfl
  | number value =>
    have hnumber := parseNumber_toString value hrest
    obtain ⟨c, more, hcons, hc⟩ := toString_eq_cons value
    have hblank : isBlank c = false := by
      rcases hc with rfl | hc
      · rfl
      · exact isBlank_eq_false (by omega)
    rw [Json.stringify]
    rw [hcons, List.cons_append] at hnumber ⊢
    rw [parseValue, skip_cons hblank]
    simp only
    rw [if_neg (ne_of_sign_or_digit hc (by decide) (by decide)),
      if_neg (ne_of_sign_or_digit hc (by decide) (by decide)),
      if_neg (ne_of_sign_or_digit hc (by decide) (by decide)),
      if_neg (ne_of_sign_or_digit hc (by decide) (by decide)),
      if_neg (ne_of_sign_or_digit hc (by decide) (by decide)),
      if_neg (ne_of_sign_or_digit hc (by decide) (by decide)), hnumber]
    rfl
  | string value =>
    rw [Json.stringify, quote_append, parseValue, skip_cons rfl]
    simp only [parseString_quoted, Option.map_some]
    rfl
  | array elements =>
    cases elements with
    | nil =>
      show parseValue (fuel + 1) ('[' :: ']' :: rest) = _
      rw [parseValue, skip_cons rfl]
      simp only [skip_cons (show isBlank ']' = false from rfl)]
      rfl
    | cons element elements =>
      have hlength : (Json.array (element :: elements)).stringify.length =
          (separated (stringifyElements (element :: elements))).length + 2 := by
        simp [Json.stringify]
      have hbody := @parseElements_stringify (element :: elements)
        (List.cons_ne_nil _ _) fuel rest (by omega)
      obtain ⟨c, more, hcons, hblank, hmark⟩ := stringifyElements_eq_cons element elements
      have htext : (Json.array (element :: elements)).stringify ++ rest =
          '[' :: (separated (stringifyElements (element :: elements)) ++ ']' :: rest) := by
        simp [Json.stringify]
      rw [htext, parseValue, skip_cons rfl]
      rw [hcons, List.cons_append] at hbody ⊢
      simp only [skip_cons hblank, afterWord_single_ne hmark, hbody, Option.map_some]
      rfl
  | object members =>
    cases members with
    | nil =>
      show parseValue (fuel + 1) ('\x7b' :: '\x7d' :: rest) = _
      rw [parseValue, skip_cons rfl]
      simp only [skip_cons (show isBlank '\x7d' = false from rfl)]
      rfl
    | cons member members =>
      obtain ⟨key, value⟩ := member
      have hlength : (Json.object ((key, value) :: members)).stringify.length =
          (separated (stringifyMembers ((key, value) :: members))).length + 2 := by
        simp [Json.stringify]
      have hbody := @parseMembers_stringify ((key, value) :: members)
        (List.cons_ne_nil _ _) fuel rest (by omega)
      have htext : (Json.object ((key, value) :: members)).stringify ++ rest =
          '\x7b' :: (separated (stringifyMembers ((key, value) :: members)) ++ '\x7d' :: rest) := by
        simp [Json.stringify]
      rw [htext, parseValue, skip_cons rfl]
      rw [stringifyMembers_eq_cons, List.cons_append] at hbody ⊢
      simp only [skip_cons (show isBlank '"' = false from rfl),
        afterWord_single_ne (show '\x7d' ≠ '"' by decide), hbody, Option.map_some]
      rfl

theorem parseElements_stringify (elements : List Json) (hne : elements ≠ []) {fuel : Nat}
    {rest : List Char} (hfuel : (separated (stringifyElements elements)).length + 1 < fuel) :
    parseElements fuel (separated (stringifyElements elements) ++ ']' :: rest) =
      some (elements, rest) := by
  obtain ⟨fuel, rfl⟩ : ∃ n, fuel = n + 1 := ⟨fuel - 1, by omega⟩
  cases elements with
  | nil => exact absurd rfl hne
  | cons element elements =>
    cases elements with
    | nil =>
      rw [stringifyElements, stringifyElements, separated_singleton] at hfuel ⊢
      have hfirst := @parseValue_stringify element fuel (']' :: rest) (by omega)
        (stops_of_mark (.inr (.inl rfl)) rest)
      rw [parseElements, hfirst]
      simp only [Option.bind_some]
      rw [skip_cons rfl]
      rfl
    | cons next elements =>
      have hcons : separated (stringifyElements (element :: next :: elements)) =
          element.stringify ++ ',' :: separated (stringifyElements (next :: elements)) := by
        rw [stringifyElements, stringifyElements, separated_cons]
      rw [hcons, List.length_append, List.length_cons] at hfuel
      have hmore := @parseElements_stringify (next :: elements) (List.cons_ne_nil _ _)
        fuel rest (by omega)
      have hfirst := @parseValue_stringify element fuel
        (',' :: (separated (stringifyElements (next :: elements)) ++ ']' :: rest))
        (by omega) (stops_of_mark (.inl rfl) _)
      rw [hcons, List.append_assoc, List.cons_append, parseElements, hfirst]
      simp only [Option.bind_some]
      rw [skip_cons rfl]
      simp only [afterWord_single, hmore, Option.map_some]

theorem parseMembers_stringify (members : List (String × Json)) (hne : members ≠ []) {fuel : Nat}
    {rest : List Char} (hfuel : (separated (stringifyMembers members)).length + 1 < fuel) :
    parseMembers fuel (separated (stringifyMembers members) ++ '\x7d' :: rest) =
      some (members, rest) := by
  obtain ⟨fuel, rfl⟩ : ∃ n, fuel = n + 1 := ⟨fuel - 1, by omega⟩
  cases members with
  | nil => exact absurd rfl hne
  | cons member members =>
    obtain ⟨key, value⟩ := member
    cases members with
    | nil =>
      rw [stringifyMembers_eq_cons, furtherMembers] at hfuel ⊢
      simp only [List.length_cons, List.length_append, List.length_nil] at hfuel
      have hvalue := @parseValue_stringify value fuel ('\x7d' :: rest) (by omega)
        (stops_of_mark (.inr (.inr rfl)) rest)
      simp only [List.cons_append, List.append_assoc, List.append_nil]
      rw [parseMembers, skip_cons rfl]
      simp only [afterWord_single, Option.bind_some, parseString_quoted,
        skip_cons (show isBlank ':' = false from rfl), hvalue,
        skip_cons (show isBlank '\x7d' = false from rfl),
        afterWord_single_ne (show ',' ≠ '\x7d' by decide), Option.map_some]
    | cons next members =>
      rw [stringifyMembers_eq_cons, furtherMembers] at hfuel ⊢
      simp only [List.length_cons, List.length_append] at hfuel
      have hmore := @parseMembers_stringify (next :: members) (List.cons_ne_nil _ _)
        fuel rest (by omega)
      have hvalue := @parseValue_stringify value fuel
        (',' :: (separated (stringifyMembers (next :: members)) ++ '\x7d' :: rest))
        (by omega) (stops_of_mark (.inl rfl) _)
      simp only [List.cons_append, List.append_assoc]
      rw [parseMembers, skip_cons rfl]
      simp only [afterWord_single, Option.bind_some, parseString_quoted,
        skip_cons (show isBlank ':' = false from rfl), hvalue,
        skip_cons (show isBlank ',' = false from rfl), hmore, Option.map_some]

end

/-- **Nothing is lost in the text.** What is serialized is read back as it was. -/
theorem parse_stringify (value : Json) : Json.parse value.stringify = some value := by
  have hvalue := parseValue_stringify value (Nat.lt_succ_self _) stops_nil
  rw [List.append_nil] at hvalue
  rw [Json.parse, hvalue]
  rfl

end Encoding
