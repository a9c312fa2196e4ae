import Mathlib.Algebra.GroupWithZero.Nat
import Mathlib.Algebra.Order.Group.Nat
import Mathlib.Data.String.Basic

/-! # JSON text and its two sizes

A text has a length in UTF-16 code units and a size in UTF-8 bytes. They differ
by one or two for each character beyond ASCII, and serialization neither adds
nor removes such a character: what it writes of its own is ASCII, and what it
escapes was. -/
namespace Encoding

/-! ## The sizes of a text -/

/-- The UTF-16 code units of a character; beyond the first plane a pair. -/
def codeUnits (c : Char) : Nat := if c.toNat ≤ 0xFFFF then 1 else 2

/-- The UTF-8 bytes of a character beyond one for each of its code units. -/
def extraBytes (c : Char) : Nat := if c.toNat ≤ 0x7F then 0 else if c.toNat ≤ 0x7FF then 1 else 2

def utf16Length (text : List Char) : Nat := (text.map codeUnits).sum

def extra (text : List Char) : Nat := (text.map extraBytes).sum

theorem utf8Size_eq (c : Char) : c.utf8Size = codeUnits c + extraBytes c := by
  have hutf8 : c.utf8Size = if c.toNat ≤ 0x7F then 1 else if c.toNat ≤ 0x7FF then 2
      else if c.toNat ≤ 0xFFFF then 3 else 4 := rfl
  rw [hutf8, codeUnits, extraBytes]
  split_ifs
  all_goals omega

@[simp] theorem utf16Length_append (text more : List Char) :
    utf16Length (text ++ more) = utf16Length text + utf16Length more := by
  simp [utf16Length]

@[simp] theorem extra_nil : extra [] = 0 := rfl

@[simp] theorem extra_cons (c : Char) (text : List Char) :
    extra (c :: text) = extraBytes c + extra text := by
  simp [extra]

@[simp] theorem extra_append (text more : List Char) :
    extra (text ++ more) = extra text + extra more := by
  simp [extra]

/-- The bytes of a text are its units and what its characters add to them. -/
theorem utf8ByteSize_eq (text : List Char) :
    (String.ofList text).utf8ByteSize = utf16Length text + extra text := by
  rw [String.utf8ByteSize_ofList]
  induction text with
  | nil => rfl
  | cons c text ih =>
    rw [String.utf8Len_cons, ih, utf8Size_eq, extra_cons]
    simp only [utf16Length, List.map_cons, List.sum_cons]
    omega

theorem extra_of_ascii {text : List Char} (h : ∀ c ∈ text, c.toNat ≤ 0x7F) : extra text = 0 := by
  induction text with
  | nil => rfl
  | cons c text ih =>
    obtain ⟨hc, htext⟩ := List.forall_mem_cons.mp h
    rw [extra_cons, ih htext, extraBytes, if_pos hc]

/-! ## JSON -/

/-- A value that is serialized, with the order of its members. -/
inductive Json
  | null
  | bool (value : Bool)
  | number (value : Int)
  | string (value : String)
  | array (elements : List Json)
  | object (members : List (String × Json))

/-- `JSON.stringify` on one character of a string. -/
def escape (c : Char) : List Char :=
  if c.toNat = 0x22 then "\\\"".toList
  else if c.toNat = 0x5C then "\\\\".toList
  else if c.toNat = 0x08 then "\\b".toList
  else if c.toNat = 0x09 then "\\t".toList
  else if c.toNat = 0x0A then "\\n".toList
  else if c.toNat = 0x0C then "\\f".toList
  else if c.toNat = 0x0D then "\\r".toList
  else if c.toNat < 0x20 then
    "\\u00".toList ++ [Nat.digitChar (c.toNat / 16), Nat.digitChar (c.toNat % 16)]
  else [c]

/-- A quoted string. -/
def quote (text : String) : List Char :=
  "\"".toList ++ text.toList.flatMap escape ++ "\"".toList

/-- The text between the separators. -/
def separated (parts : List (List Char)) : List Char := ",".toList.intercalate parts

mutual

/-- `JSON.stringify`. -/
def Json.stringify : Json → List Char
  | .null => "null".toList
  | .bool value => (toString value).toList
  | .number value => (toString value).toList
  | .string value => quote value
  | .array elements => "[".toList ++ separated (stringifyElements elements) ++ "]".toList
  | .object members =>
    "\x7b".toList ++ separated (stringifyMembers members) ++ "\x7d".toList

def stringifyElements : List Json → List (List Char)
  | [] => []
  | element :: elements => element.stringify :: stringifyElements elements

def stringifyMembers : List (String × Json) → List (List Char)
  | [] => []
  | (key, value) :: members =>
    (quote key ++ ":".toList ++ value.stringify) :: stringifyMembers members

end

mutual

/-- The extra bytes of the texts in a value, its keys included. -/
def Json.extra : Json → Nat
  | .null | .bool _ | .number _ => 0
  | .string value => Encoding.extra value.toList
  | .array elements => extraElements elements
  | .object members => extraMembers members

def extraElements : List Json → Nat
  | [] => 0
  | element :: elements => element.extra + extraElements elements

def extraMembers : List (String × Json) → Nat
  | [] => 0
  | (key, value) :: members => Encoding.extra key.toList + value.extra + extraMembers members

end

/-! ## Serialization adds ASCII only -/

theorem extraBytes_digitChar : ∀ n < 16, extraBytes (Nat.digitChar n) = 0 := by decide

theorem escape_self {c : Char} (h : ¬ c.toNat ≤ 0x7F) : escape c = [c] := by
  unfold escape
  rw [if_neg (by omega), if_neg (by omega), if_neg (by omega), if_neg (by omega),
    if_neg (by omega), if_neg (by omega), if_neg (by omega), if_neg (by omega)]

/-- A string of characters that are not escaped. -/
theorem quote_replicate {c : Char} (h : ¬ c.toNat ≤ 0x7F) (n : Nat) :
    quote (String.ofList (List.replicate n c)) =
      "\"".toList ++ List.replicate n c ++ "\"".toList := by
  have hbody : (List.replicate n c).flatMap escape = List.replicate n c := by
    induction n with
    | zero => rfl
    | succ n ih => rw [List.replicate_succ, List.flatMap_cons, ih, escape_self h]; rfl
  simp only [quote, String.toList_ofList, hbody]

theorem extra_escape (c : Char) : extra (escape c) = extraBytes c := by
  by_cases hascii : c.toNat ≤ 0x7F
  · have hzero : extraBytes c = 0 := if_pos hascii
    rw [hzero]
    unfold escape
    split_ifs with h₁ h₂ h₃ h₄ h₅ h₆ h₇ hcontrol
    · decide
    · decide
    · decide
    · decide
    · decide
    · decide
    · decide
    · have hhigh := extraBytes_digitChar (c.toNat / 16) (by omega)
      have hlow := extraBytes_digitChar (c.toNat % 16) (by omega)
      have hmark : extra "\\u00".toList = 0 := by decide
      rw [extra_append, extra_cons, extra_cons, extra_nil, hhigh, hlow, hmark]
    · rw [extra_cons, hzero, extra_nil]
  · rw [escape_self hascii, extra_cons, extra_nil, Nat.add_zero]

theorem extra_quote (text : String) : extra (quote text) = extra text.toList := by
  have hbody (chars : List Char) : extra (chars.flatMap escape) = extra chars := by
    induction chars with
    | nil => rfl
    | cons c chars ih => rw [List.flatMap_cons, extra_append, extra_escape, ih, extra_cons]
  have hmark : extra "\"".toList = 0 := by decide
  rw [quote, extra_append, extra_append, hbody, hmark, Nat.zero_add, Nat.add_zero]

theorem extra_separated (parts : List (List Char)) :
    extra (separated parts) = (parts.map extra).sum := by
  have hmark : extra ",".toList = 0 := by decide
  induction parts with
  | nil => rfl
  | cons part parts ih =>
    cases parts with
    | nil => simp [separated]
    | cons next parts =>
      have hcons : separated (part :: next :: parts) =
          part ++ ",".toList ++ separated (next :: parts) := by
        simp [separated, List.intercalate]
      rw [hcons, extra_append, extra_append, hmark, ih, Nat.add_zero]
      rfl

theorem extra_repr (n : Nat) : extra n.repr.toList = 0 := by
  rw [Nat.repr_eq_ofList_toDigits, String.toList_ofList]
  refine extra_of_ascii fun c hc => ?_
  have hdigit := Nat.isDigit_of_mem_toDigits (by decide) (by decide) hc
  have hle : c.toNat ≤ 57 := (Char.isDigit_iff_toNat.mp hdigit).2
  omega

theorem extra_toString (n : Int) : extra (toString n).toList = 0 := by
  rw [Int.toString_eq_repr, Int.repr_eq_if]
  split
  · exact extra_repr _
  · have hsign : extra "-".toList = 0 := by decide
    rw [String.toList_append, extra_append, hsign, extra_repr]

mutual

theorem extra_stringify (value : Json) : extra value.stringify = value.extra := by
  cases value with
  | null => decide
  | bool value => cases value <;> decide
  | number value => exact extra_toString value
  | string value => exact extra_quote value
  | array elements =>
    have hopen : extra "[".toList = 0 := by decide
    have hclose : extra "]".toList = 0 := by decide
    rw [Json.stringify, extra_append, extra_append, hopen, hclose, extra_separated,
      extra_stringifyElements, Json.extra]
    omega
  | object members =>
    have hopen : extra "\x7b".toList = 0 := by decide
    have hclose : extra "\x7d".toList = 0 := by decide
    rw [Json.stringify, extra_append, extra_append, hopen, hclose, extra_separated,
      extra_stringifyMembers, Json.extra]
    omega

theorem extra_stringifyElements (elements : List Json) :
    ((stringifyElements elements).map extra).sum = extraElements elements := by
  cases elements with
  | nil => rfl
  | cons element elements =>
    rw [stringifyElements, List.map_cons, List.sum_cons, extra_stringify element,
      extra_stringifyElements elements, extraElements]

theorem extra_stringifyMembers (members : List (String × Json)) :
    ((stringifyMembers members).map extra).sum = extraMembers members := by
  cases members with
  | nil => rfl
  | cons member members =>
    obtain ⟨key, value⟩ := member
    have hmark : extra ":".toList = 0 := by decide
    rw [stringifyMembers, List.map_cons, List.sum_cons, extra_append, extra_append, extra_quote,
      hmark, extra_stringify value, extra_stringifyMembers members, extraMembers]
    omega

end

end Encoding
