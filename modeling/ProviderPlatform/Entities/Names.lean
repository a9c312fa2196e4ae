import ProviderPlatform.Encoding.Scan
import ProviderPlatform.Entities.PostEntity

/-! # The names that the sanitiser leaves

`sanitiseName` is three scans in a row, with the angle brackets as marks. The
language runs them over the UTF-16 code units of a string, which may be any:
half of a surrogate pair is a string too. On a string of characters this is what
the handler computes. -/
namespace ProviderPlatform
open Encoding

/-! ## Over characters -/

def nameChars : Marks Char := ⟨(· == '<'), (· == '>'), isJsSpace, ' '⟩

theorem stripTags_eq (text : List Char) : stripTags text = nameChars.eraseSpans false text := by
  fun_induction stripTags text with
  | case1 => rfl
  | case2 rest hnone ih =>
    have hclosed : rest.any nameChars.closes = false := by
      rw [List.any_eq_false]
      intro d hd
      have hall := List.dropWhile_eq_nil_iff.mp hnone d hd
      simpa [nameChars] using hall
    rw [Marks.eraseSpans, hclosed, Bool.and_false, if_neg Bool.false_ne_true, ih]
  | case3 rest d after hspan hlen ih =>
    have hd : d ∈ rest := (List.dropWhile_suffix _).subset (hspan ▸ List.mem_cons_self)
    have hcloses : nameChars.closes d = true := by
      have hhead := List.head?_dropWhile_not (· != '>') rest
      rw [hspan] at hhead
      simpa [nameChars] using hhead
    have hopens : nameChars.opens '<' = true := rfl
    rw [Marks.eraseSpans, hopens, List.any_eq_true.mpr ⟨d, hd, hcloses⟩, Bool.true_and, if_pos rfl,
      Marks.eraseSpans_inside, ih]
    show _ = nameChars.eraseSpans false (rest.dropWhile (· != '>')).tail
    rw [hspan, List.tail_cons]
  | case4 c rest hc ih =>
    have hopens : nameChars.opens c = false := by simpa [nameChars] using hc
    rw [Marks.eraseSpans, hopens, Bool.false_and, if_neg Bool.false_ne_true, ih]

theorem collapseSpaces_eq (text : List Char) : collapseSpaces text = nameChars.squeeze text := by
  induction text with
  | nil => rfl
  | cons c rest ih =>
    rw [Marks.squeeze, ← ih]
    cases rest with
    | nil => rfl
    | cons d rest => rfl

theorem toList_sanitiseName (raw : String) :
    (sanitiseName raw).toList = nameChars.clean raw.toList := by
  rw [sanitiseName, String.toList_ofList, stripTags_eq, collapseSpaces_eq]
  rfl

/-! ## Over code units -/

/-- A string of the language: its code units, whether or not they pair up. -/
abbrev JsString := List UInt16

/-- `\s` on a code unit; half of a surrogate pair is none. -/
def isSpaceUnit (unit : UInt16) : Bool := isJsSpace (Char.ofNat unit.toNat)

def nameUnits : Marks UInt16 := ⟨(· == 0x3C), (· == 0x3E), isSpaceUnit, 0x20⟩

/-- `sanitiseName` on the code units of a string. -/
def sanitiseUnits (raw : JsString) : JsString := nameUnits.clean raw

/-- The code units of a character: beyond the first plane a surrogate pair. -/
def utf16 (c : Char) : JsString :=
  if c.toNat ≤ 0xFFFF then [c.toNat.toUInt16]
  else
    let offset := c.toNat - 0x10000
    [(0xD800 + offset / 0x400).toUInt16, (0xDC00 + offset % 0x400).toUInt16]

def jsString (text : String) : JsString := text.toList.flatMap utf16

theorem toNat_toUInt16 {n : Nat} (h : n ≤ 0xFFFF) : n.toUInt16.toNat = n := by
  rw [Nat.toUInt16_eq, UInt16.toNat_ofNat']
  omega

theorem isJsSpace_beyond {c : Char} (h : ¬ c.toNat ≤ 0xFFFF) : isJsSpace c = false := by
  have hcode : c.val.toNat = c.toNat := rfl
  unfold isJsSpace
  simp only [hcode, Bool.or_eq_false_iff, Bool.and_eq_false_iff, decide_eq_false_iff_not,
    List.contains_cons, List.contains_nil, beq_eq_false_iff_ne, and_true]
  omega

/-- Surrogates are not scalar values. -/
theorem ordinary_surrogate {n : Nat} (h : 0xD800 ≤ n) (h' : n ≤ 0xDFFF) :
    nameUnits.Ordinary n.toUInt16 := by
  have hnat := toNat_toUInt16 (n := n) (by omega)
  have hne (k : UInt16) (hk : k.toNat < 0xD800) : (n.toUInt16 == k) = false := by
    rw [beq_eq_false_iff_ne]
    rintro rfl
    omega
  refine ⟨hne _ (by decide), hne _ (by decide), ?_⟩
  have hinvalid : ¬ n.isValidChar := by
    unfold Nat.isValidChar
    omega
  show isJsSpace (Char.ofNat n.toUInt16.toNat) = false
  rw [hnat, Char.ofNat, dif_neg hinvalid]
  rfl

/-- A character of the first plane is told by its code unit. -/
theorem unit_beq {c : Char} (hc : c.toNat ≤ 0xFFFF) (d : Char) (hd : d.toNat ≤ 0xFFFF) :
    (c.toNat.toUInt16 == d.toNat.toUInt16) = (c == d) := by
  rw [Bool.eq_iff_iff, beq_iff_eq, beq_iff_eq]
  constructor
  · intro h
    have hnat := congrArg UInt16.toNat h
    rw [toNat_toUInt16 hc, toNat_toUInt16 hd] at hnat
    exact Char.toNat_inj.mp hnat
  · rintro rfl
    rfl

theorem spells_utf16 : nameChars.Spells nameUnits utf16 where
  spelled c := by
    by_cases hc : c.toNat ≤ 0xFFFF
    · refine .inl ⟨c.toNat.toUInt16, if_pos hc, unit_beq hc '<' (by decide),
        unit_beq hc '>' (by decide), ?_⟩
      show isJsSpace (Char.ofNat c.toNat.toUInt16.toNat) = isJsSpace c
      rw [toNat_toUInt16 hc, Char.ofNat_toNat]
    · have hne (d : Char) (hd : d.toNat ≤ 0xFFFF) : (c == d) = false := by
        rw [beq_eq_false_iff_ne]
        rintro rfl
        exact hc hd
      have hbound : c.toNat < 0x110000 := by
        rcases c.valid with hlow | ⟨-, hhigh⟩
        · exact Nat.lt_trans hlow (by decide)
        · exact hhigh
      rw [utf16, if_neg hc]
      refine .inr ⟨⟨hne '<' (by decide), hne '>' (by decide), isJsSpace_beyond hc⟩,
        List.cons_ne_nil _ _, ?_⟩
      intro unit hunit
      rcases List.mem_pair.mp hunit with rfl | rfl
      · apply ordinary_surrogate <;> omega
      · apply ordinary_surrogate <;> omega
  blank := rfl

/-- On a string of characters the code units give what the characters give. -/
theorem sanitiseUnits_jsString (raw : String) :
    sanitiseUnits (jsString raw) = jsString (sanitiseName raw) := by
  rw [sanitiseUnits, jsString, spells_utf16.clean, jsString, toList_sanitiseName]

/-! ## Plain text -/

/-- No `<` with a `>` anywhere after it, no white space at either end, and no
two white spaces next to each other. -/
structure PlainText (text : JsString) : Prop where
  untagged : text.Pairwise fun a b => ¬ (a = 0x3C ∧ b = 0x3E)
  leading : ∀ unit ∈ text.head?, ¬ isSpaceUnit unit
  trailing : ∀ unit ∈ text.getLast?, ¬ isSpaceUnit unit
  single : text.IsChain fun a b => ¬ (isSpaceUnit a ∧ isSpaceUnit b)

theorem sanitiseUnits_clean (raw : JsString) : nameUnits.Clean (sanitiseUnits raw) :=
  Marks.clean_clean rfl rfl raw

theorem sanitiseUnits_plainText (raw : JsString) : PlainText (sanitiseUnits raw) := by
  have hclean := sanitiseUnits_clean raw
  refine ⟨?_, hclean.leading, hclean.trailing, hclean.single⟩
  apply hclean.unspanned.imp
  rintro a b hab ⟨ha, hb⟩
  exact hab ⟨beq_iff_eq.mpr ha, beq_iff_eq.mpr hb⟩

theorem sanitiseName_idem (raw : String) : sanitiseName (sanitiseName raw) = sanitiseName raw := by
  have hclean : nameChars.Clean (sanitiseName raw).toList := by
    rw [toList_sanitiseName]
    exact Marks.clean_clean rfl rfl raw.toList
  apply String.toList_injective
  rw [toList_sanitiseName, hclean.clean_eq]

/-- **No markup, ever.** What the sanitiser makes of a string is plain text, and
sanitising it again changes nothing: over all strings of code units, and so over
the strings of characters of the model. -/
theorem sanitiseName_leaves_no_tag :
    (∀ raw : JsString, PlainText (sanitiseUnits raw) ∧
      sanitiseUnits (sanitiseUnits raw) = sanitiseUnits raw) ∧
    ∀ raw : String, PlainText (jsString (sanitiseName raw)) ∧
      sanitiseName (sanitiseName raw) = sanitiseName raw := by
  constructor
  · intro raw
    exact ⟨sanitiseUnits_plainText raw, (sanitiseUnits_clean raw).clean_eq⟩
  · intro raw
    constructor
    · rw [← sanitiseUnits_jsString]
      exact sanitiseUnits_plainText _
    · exact sanitiseName_idem raw

/-- Nested brackets: the span runs from the first `<` to the first `>`. -/
example : sanitiseUnits (jsString "<<b>script> \t x<") = jsString "script> x<" := by decide

end ProviderPlatform
