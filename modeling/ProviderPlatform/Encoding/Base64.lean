import Mathlib.Data.List.Basic

/-! # Bytes as base64

`btoa` writes bytes as base64; `atob` reads it forgivingly: white space is
dropped, the pads may be missing, and the bits that are left over are. What the
one writes, the other reads back. -/
namespace Encoding

abbrev Bytes := List UInt8

namespace Base64

/-! ## Symbols -/

/-- The symbol of six bits. -/
def symbol (n : Nat) : Char :=
  if n < 26 then Char.ofNat (n + 65)
  else if n < 52 then Char.ofNat (n + 71)
  else if n < 62 then Char.ofNat (n - 4)
  else if n = 62 then '+' else '/'

/-- The six bits of a symbol. -/
def sextet (c : Char) : Option Nat :=
  if 65 ≤ c.toNat ∧ c.toNat ≤ 90 then some (c.toNat - 65)
  else if 97 ≤ c.toNat ∧ c.toNat ≤ 122 then some (c.toNat - 71)
  else if 48 ≤ c.toNat ∧ c.toNat ≤ 57 then some (c.toNat + 4)
  else if c = '+' then some 62
  else if c = '/' then some 63
  else none

/-- ASCII white space. -/
def isSpace (c : Char) : Bool := c.toNat ∈ [9, 10, 12, 13, 32]

theorem sextet_symbol {n : Nat} (h : n < 64) : sextet (symbol n) = some n := by
  revert n
  decide

theorem symbol_ne_pad {n : Nat} (h : n < 64) : symbol n ≠ '=' := by
  revert n
  decide

theorem symbol_not_space {n : Nat} (h : n < 64) : isSpace (symbol n) = false := by
  revert n
  decide

/-! ## Groups -/

/-- Three bytes as four sextets; one or two bytes are filled up with zeros. -/
def sextets : Bytes → List Nat
  | a :: b :: c :: rest =>
    a.toNat / 4 :: (a.toNat % 4 * 16 + b.toNat / 16) :: (b.toNat % 16 * 4 + c.toNat / 64) ::
      c.toNat % 64 :: sextets rest
  | [a, b] => [a.toNat / 4, a.toNat % 4 * 16 + b.toNat / 16, b.toNat % 16 * 4]
  | [a] => [a.toNat / 4, a.toNat % 4 * 16]
  | [] => []

/-- Four sextets as three bytes; of two or three the low bits are left out. -/
def octets : List Nat → Bytes
  | a :: b :: c :: d :: rest =>
    UInt8.ofNat (a * 4 + b / 16) :: UInt8.ofNat (b % 16 * 16 + c / 4) ::
      UInt8.ofNat (c % 4 * 64 + d) :: octets rest
  | [a, b, c] => [UInt8.ofNat (a * 4 + b / 16), UInt8.ofNat (b % 16 * 16 + c / 4)]
  | [a, b] => [UInt8.ofNat (a * 4 + b / 16)]
  | _ => []

theorem sextets_lt (bytes : Bytes) : ∀ n ∈ sextets bytes, n < 64 := by
  induction bytes using sextets.induct with
  | case1 a b c rest ih =>
    have ha := a.toNat_lt
    have hb := b.toNat_lt
    have hc := c.toNat_lt
    simp only [sextets, List.mem_cons, forall_eq_or_imp]
    refine ⟨by omega, by omega, by omega, by omega, ih⟩
  | case2 a b =>
    have ha := a.toNat_lt
    have hb := b.toNat_lt
    simp only [sextets, List.mem_cons, List.not_mem_nil, or_false, forall_eq_or_imp, forall_eq]
    omega
  | case3 a =>
    have ha := a.toNat_lt
    simp only [sextets, List.mem_cons, List.not_mem_nil, or_false, forall_eq_or_imp, forall_eq]
    omega
  | case4 => simp [sextets]

theorem octet_eq {n : Nat} {a : UInt8} (h : n = a.toNat) : UInt8.ofNat n = a := by
  rw [h, UInt8.ofNat_toNat]

theorem octets_sextets (bytes : Bytes) : octets (sextets bytes) = bytes := by
  induction bytes using sextets.induct with
  | case1 a b c rest ih =>
    have ha := a.toNat_lt
    have hb := b.toNat_lt
    have hc := c.toNat_lt
    simp only [sextets, octets, ih]
    rw [octet_eq (a := a), octet_eq (a := b), octet_eq (a := c)] <;> omega
  | case2 a b =>
    have ha := a.toNat_lt
    have hb := b.toNat_lt
    simp only [sextets, octets]
    rw [octet_eq (a := a), octet_eq (a := b)] <;> omega
  | case3 a =>
    have ha := a.toNat_lt
    simp only [sextets, octets]
    rw [octet_eq (a := a)]
    omega
  | case4 => rfl

/-- The pads that fill up the last group. -/
def pads (bytes : Bytes) : Nat := (3 - bytes.length % 3) % 3

/-- No group has one sextet only, and with the pads all groups are full. -/
theorem length_sextets (bytes : Bytes) :
    (sextets bytes).length % 4 ≠ 1 ∧ ((sextets bytes).length + pads bytes) % 4 = 0 := by
  induction bytes using sextets.induct with
  | case1 a b c rest ih =>
    simp only [pads, sextets, List.length_cons] at ih ⊢
    omega
  | case2 a b => simp [sextets, pads]
  | case3 a => simp [sextets, pads]
  | case4 => simp [sextets, pads]

/-! ## Texts -/

def btoa (bytes : Bytes) : List Char :=
  (sextets bytes).map symbol ++ List.replicate (pads bytes) '='

/-- One or two pads at the end are dropped, if the groups are full. -/
def unpad (text : List Char) : List Char :=
  if text.length % 4 = 0 then
    if ['=', '='].isSuffixOf text then text.dropLast.dropLast
    else if ['='].isSuffixOf text then text.dropLast
    else text
  else text

def atob (text : List Char) : Option Bytes :=
  let data := unpad (text.filter fun c => !isSpace c)
  if data.length % 4 = 1 then none else (data.mapM sextet).map octets

theorem mapM_symbols {ns : List Nat} (h : ∀ n ∈ ns, n < 64) :
    (ns.map symbol).mapM sextet = some ns := by
  induction ns with
  | nil => rfl
  | cons n ns ih =>
    obtain ⟨hn, hns⟩ := List.forall_mem_cons.mp h
    simp [sextet_symbol hn, ih hns]

theorem unpad_pads {data : List Char} (h : ∀ c ∈ data, c ≠ '=') {n : Nat} (hn : n < 3)
    (hfull : (data.length + n) % 4 = 0) : unpad (data ++ List.replicate n '=') = data := by
  have hlength : (data ++ List.replicate n '=').length % 4 = 0 := by simpa using hfull
  have hends (pre : List Char) (he : pre ++ ['='] = data) : False := by
    refine h '=' ?_ rfl
    rw [← he]
    simp
  have hone (text : List Char) : ['='].isSuffixOf text = true ↔ ∃ pre, pre ++ ['='] = text := by
    rw [List.isSuffixOf_iff_suffix]
    rfl
  have htwo (text : List Char) : ['=', '='].isSuffixOf text = true ↔
      ∃ pre, pre ++ ['='] ++ ['='] = text := by
    simp [List.isSuffixOf_iff_suffix, List.IsSuffix]
  rw [unpad, if_pos hlength]
  obtain rfl | rfl | rfl : n = 0 ∨ n = 1 ∨ n = 2 := by omega
  · rw [List.replicate_zero, List.append_nil, if_neg, if_neg]
    · rintro hpad
      obtain ⟨pre, he⟩ := (hone data).mp hpad
      exact hends pre he
    · rintro hpad
      obtain ⟨pre, he⟩ := (htwo data).mp hpad
      exact hends _ he
  · rw [List.replicate_one, if_neg, if_pos ((hone _).mpr ⟨data, rfl⟩), List.dropLast_concat]
    rintro hpad
    obtain ⟨pre, he⟩ := (htwo _).mp hpad
    exact hends pre (List.append_cancel_right he)
  · have hpad : data ++ List.replicate 2 '=' = data ++ ['='] ++ ['='] := by simp
    rw [hpad, if_pos ((htwo _).mpr ⟨data, rfl⟩), List.dropLast_concat, List.dropLast_concat]

/-- **Round trip.** What `btoa` writes, `atob` reads back. -/
theorem atob_btoa (bytes : Bytes) : atob (btoa bytes) = some bytes := by
  obtain ⟨hone, hfull⟩ := length_sextets bytes
  have hlt := sextets_lt bytes
  have hsymbol : ∀ c ∈ (sextets bytes).map symbol, c ≠ '=' := by
    intro c hc
    obtain ⟨n, hn, rfl⟩ := List.mem_map.mp hc
    exact symbol_ne_pad (hlt n hn)
  have hspace : (btoa bytes).filter (fun c => !isSpace c) = btoa bytes := by
    rw [List.filter_eq_self]
    intro c hc
    rcases List.mem_append.mp hc with hc | hc
    · obtain ⟨n, hn, rfl⟩ := List.mem_map.mp hc
      simp [symbol_not_space (hlt n hn)]
    · rw [List.eq_of_mem_replicate hc]
      rfl
  have hdata : unpad (btoa bytes) = (sextets bytes).map symbol :=
    unpad_pads hsymbol (Nat.mod_lt _ (by omega)) (by simpa using hfull)
  simp only [atob, hspace, hdata, List.length_map, if_neg hone, mapM_symbols hlt, Option.map_some,
    octets_sextets]

end Base64
end Encoding
