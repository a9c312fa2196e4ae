import Mathlib.Data.List.Chain
import Mathlib.Data.List.DropRight

/-! # Scans of a text

What a pattern does that is replaced all over a text, over any alphabet: erase
the spans between two marks, squeeze each run of spaces to one blank, cut the
spaces off both ends. Each scan brings a text into one shape and keeps the
shape that the scans before it brought, and a text of that shape passes
unchanged. -/
namespace Encoding

/-- What the scans tell of a symbol, and the one that a run of spaces becomes. -/
structure Marks (α : Type) where
  opens : α → Bool
  closes : α → Bool
  space : α → Bool
  blank : α

namespace Marks

section Scans
variable {α : Type} (m : Marks α)

/-- Erase from each opening mark up to the next closing one, from left to
right. An opening mark that nothing closes stays. -/
def eraseSpans : Bool → List α → List α
  | _, [] => []
  | true, c :: rest => eraseSpans (!m.closes c) rest
  | false, c :: rest =>
    if m.opens c && rest.any m.closes then eraseSpans true rest else c :: eraseSpans false rest

/-- Put one blank for each run of spaces. -/
def squeeze : List α → List α
  | [] => []
  | c :: rest =>
    if m.space c then
      if rest.head?.any m.space then squeeze rest else m.blank :: squeeze rest
    else c :: squeeze rest

def trim (text : List α) : List α := (text.dropWhile m.space).rdropWhile m.space

def clean (text : List α) : List α := m.trim (m.squeeze (m.eraseSpans false text))

/-- No opening mark has a closing one anywhere after it. -/
def Unspanned (text : List α) : Prop := text.Pairwise fun a b => ¬ (m.opens a ∧ m.closes b)

/-- No two spaces stand next to each other, and each is the blank. -/
structure Squeezed (text : List α) : Prop where
  single : text.IsChain fun a b => ¬ (m.space a ∧ m.space b)
  blanks : ∀ c ∈ text, m.space c → c = m.blank

/-- No space stands at either end. -/
structure Trimmed (text : List α) : Prop where
  leading : ∀ c ∈ text.head?, ¬ m.space c
  trailing : ∀ c ∈ text.getLast?, ¬ m.space c

structure Clean (text : List α) : Prop extends m.Squeezed text, m.Trimmed text where
  unspanned : m.Unspanned text

end Scans

/-! ## Erasing spans -/

section Erase
variable {α : Type} {m : Marks α}

theorem eraseSpans_sublist (inside : Bool) (text : List α) :
    (m.eraseSpans inside text).Sublist text := by
  induction text generalizing inside with
  | nil => exact List.Sublist.refl _
  | cons c rest ih =>
    cases inside with
    | true => exact (ih _).cons c
    | false =>
      rw [eraseSpans]
      split
      · exact (ih true).cons c
      · exact (ih false).cons_cons c

/-- Inside a span, all up to the first closing mark goes. -/
theorem eraseSpans_inside (text : List α) : m.eraseSpans true text =
    m.eraseSpans false (text.dropWhile fun c => !m.closes c).tail := by
  induction text with
  | nil => rfl
  | cons c rest ih =>
    rw [eraseSpans, List.dropWhile_cons]
    cases m.closes c with
    | true => rfl
    | false => exact ih

theorem Unspanned.sublist {text text' : List α} (h : m.Unspanned text)
    (hs : text'.Sublist text) : m.Unspanned text' := List.Pairwise.sublist hs h

/-- What stays of an opening mark has no closing mark after it, so one pass is
enough: joining the text on both sides of a span makes no new span. -/
theorem eraseSpans_unspanned (inside : Bool) (text : List α) :
    m.Unspanned (m.eraseSpans inside text) := by
  induction text generalizing inside with
  | nil => exact List.Pairwise.nil
  | cons c rest ih =>
    cases inside with
    | true => exact ih _
    | false =>
      rw [eraseSpans]
      split
      · exact ih true
      · rename_i hkept
        refine List.Pairwise.cons ?_ (ih false)
        rintro b hb ⟨hopens, hcloses⟩
        have hmem : b ∈ rest := (eraseSpans_sublist false rest).subset hb
        exact hkept (Bool.and_eq_true_iff.mpr ⟨hopens, List.any_eq_true.mpr ⟨b, hmem, hcloses⟩⟩)

theorem Unspanned.eraseSpans_eq {text : List α} (h : m.Unspanned text) :
    m.eraseSpans false text = text := by
  induction text with
  | nil => rfl
  | cons c rest ih =>
    obtain ⟨hc, hrest⟩ := List.pairwise_cons.mp h
    rw [eraseSpans, ih hrest, if_neg]
    intro hspan
    obtain ⟨hopens, hany⟩ := Bool.and_eq_true_iff.mp hspan
    obtain ⟨b, hb, hcloses⟩ := List.any_eq_true.mp hany
    exact hc b hb ⟨hopens, hcloses⟩

end Erase

/-! ## Squeezing runs -/

section Squeeze
variable {α : Type} {m : Marks α}

/-- A text with each space made the blank. -/
def blanked (m : Marks α) (text : List α) : List α :=
  text.map fun c => if m.space c then m.blank else c

theorem squeeze_sublist (text : List α) : (m.squeeze text).Sublist (m.blanked text) := by
  induction text with
  | nil => exact List.Sublist.refl _
  | cons c rest ih =>
    simp only [squeeze, blanked, List.map_cons]
    split
    · split
      · exact ih.cons _
      · exact ih.cons_cons _
    · exact ih.cons_cons _

/-- The first symbol of a squeezed text is a space only if the text begins with one. -/
theorem space_head_squeeze {text : List α} {c : α} (h : c ∈ (m.squeeze text).head?)
    (hc : m.space c) : text.head?.any m.space := by
  cases text with
  | nil => cases h
  | cons d rest =>
    simp only [squeeze] at h
    split at h
    · assumption
    · cases h
      exact hc

theorem squeeze_squeezed (text : List α) : m.Squeezed (m.squeeze text) where
  single := by
    induction text with
    | nil => exact List.IsChain.nil
    | cons c rest ih =>
      rw [squeeze]
      split
      · split
        · exact ih
        · rename_i hnext
          refine List.IsChain.cons ih ?_
          rintro b hb ⟨-, hspace⟩
          exact hnext (space_head_squeeze hb hspace)
      · rename_i hc
        refine List.IsChain.cons ih ?_
        rintro b hb ⟨hspace, -⟩
        exact hc hspace
  blanks := by
    intro c hc hspace
    obtain ⟨d, -, rfl⟩ := List.mem_map.mp ((squeeze_sublist text).subset hc)
    split
    · rfl
    · rename_i hd
      rw [if_neg hd] at hspace
      exact absurd hspace hd

theorem Squeezed.squeeze_eq {text : List α} (h : m.Squeezed text) : m.squeeze text = text := by
  induction text with
  | nil => rfl
  | cons c rest ih =>
    have hrest : m.Squeezed rest :=
      ⟨h.single.tail, fun d hd => h.blanks d (List.mem_cons_of_mem _ hd)⟩
    rw [squeeze, ih hrest]
    split
    · rename_i hc
      rw [if_neg, ← h.blanks c List.mem_cons_self hc]
      intro hnext
      obtain ⟨d, hd, hspace⟩ := (Option.any_eq_true _ _).mp hnext
      exact (List.isChain_cons.mp h.single).1 d hd ⟨hc, hspace⟩
    · rfl

/-- Blanking makes no mark of a span. -/
theorem Unspanned.squeeze {text : List α} (h : m.Unspanned text)
    (hopens : m.opens m.blank = false) (hcloses : m.closes m.blank = false) :
    m.Unspanned (m.squeeze text) := by
  refine Unspanned.sublist ?_ (squeeze_sublist text)
  apply List.Pairwise.map _ _ h
  rintro a b hab ⟨ha, hb⟩
  split at ha
  · exact Bool.false_ne_true (hopens.symm.trans ha)
  · split at hb
    · exact Bool.false_ne_true (hcloses.symm.trans hb)
    · exact hab ⟨ha, hb⟩

end Squeeze

/-! ## Trimming -/

section Trim
variable {α : Type} {m : Marks α}

theorem trim_isInfix (text : List α) : m.trim text <:+: text :=
  (List.rdropWhile_prefix _ _).isInfix.trans (List.dropWhile_suffix _).isInfix

theorem trim_trimmed (text : List α) : m.Trimmed (m.trim text) where
  leading := by
    intro c hc
    have hhead : c ∈ (text.dropWhile m.space).head? := by
      obtain ⟨tail, htail⟩ := List.rdropWhile_prefix m.space (text.dropWhile m.space)
      rw [← htail]
      cases hkept : (text.dropWhile m.space).rdropWhile m.space with
      | nil =>
        rw [trim, hkept] at hc
        cases hc
      | cons d rest =>
        rw [trim, hkept] at hc
        exact hc
    intro hspace
    have hnot := List.head?_dropWhile_not m.space text
    rw [Option.mem_def.mp hhead] at hnot
    exact Bool.false_ne_true (hnot.symm.trans hspace)
  trailing := by
    intro c hc hspace
    obtain ⟨hne, rfl⟩ := List.mem_getLast?_eq_getLast hc
    exact List.rdropWhile_last_not m.space _ hne hspace

theorem Trimmed.trim_eq {text : List α} (h : m.Trimmed text) : m.trim text = text := by
  have hleft : text.dropWhile m.space = text := by
    apply List.dropWhile_eq_self_iff.mpr
    intro hpos hspace
    exact h.leading _ (List.head?_eq_getElem? ▸ List.getElem?_eq_getElem hpos) hspace
  rw [trim, hleft]
  apply List.rdropWhile_eq_self_iff.mpr
  intro hne hspace
  exact h.trailing _ (List.getLast?_eq_getLast_of_ne_nil hne) hspace

theorem Squeezed.trim {text : List α} (h : m.Squeezed text) : m.Squeezed (m.trim text) where
  single := h.single.infix (trim_isInfix text)
  blanks := fun c hc => h.blanks c ((trim_isInfix text).subset hc)

end Trim

/-! ## The three in a row -/

section Clean
variable {α : Type} {m : Marks α}

theorem clean_clean (hopens : m.opens m.blank = false) (hcloses : m.closes m.blank = false)
    (text : List α) : m.Clean (m.clean text) where
  toSqueezed := (squeeze_squeezed _).trim
  toTrimmed := trim_trimmed _
  unspanned :=
    ((eraseSpans_unspanned false text).squeeze hopens hcloses).sublist (trim_isInfix _).sublist

theorem Clean.clean_eq {text : List α} (h : m.Clean text) : m.clean text = text := by
  rw [clean, h.unspanned.eraseSpans_eq, h.toSqueezed.squeeze_eq, h.toTrimmed.trim_eq]

end Clean

/-! ## Texts that are spelled out

A text over one alphabet can be spelled in another, each symbol by one symbol
of its kind or by several that are of no kind. Scanning and spelling commute. -/

/-- Neither a mark nor a space. -/
structure Ordinary {α : Type} (m : Marks α) (c : α) : Prop where
  opens : m.opens c = false
  closes : m.closes c = false
  space : m.space c = false

/-- Symbols of two alphabets that the scans treat alike. -/
structure Alike {α β : Type} (m : Marks α) (m' : Marks β) (c : α) (d : β) : Prop where
  opens : m'.opens d = m.opens c
  closes : m'.closes d = m.closes c
  space : m'.space d = m.space c

structure Spells {α β : Type} (m : Marks α) (m' : Marks β) (f : α → List β) : Prop where
  spelled : ∀ c, (∃ d, f c = [d] ∧ m.Alike m' c d) ∨
    m.Ordinary c ∧ f c ≠ [] ∧ ∀ d ∈ f c, m'.Ordinary d
  blank : f m.blank = [m'.blank]

section Spells
variable {α β : Type} {m : Marks α} {m' : Marks β} {f : α → List β}

theorem Spells.any_closes (h : m.Spells m' f) (text : List α) :
    (text.flatMap f).any m'.closes = text.any m.closes := by
  rw [List.any_flatMap]
  congr 1
  funext c
  rcases h.spelled c with ⟨d, hd, halike⟩ | ⟨hc, -, hds⟩
  · simp [hd, halike.closes]
  · rw [hc.closes, List.any_eq_false]
    intro d hd
    simp [(hds d hd).closes]

theorem eraseSpans_ordinary {part : List β} (hpart : ∀ d ∈ part, m'.Ordinary d) (inside : Bool)
    (rest : List β) : m'.eraseSpans inside (part ++ rest) =
      (if inside then [] else part) ++ m'.eraseSpans inside rest := by
  induction part with
  | nil => cases inside <;> rfl
  | cons d part ih =>
    obtain ⟨hd, htail⟩ := List.forall_mem_cons.mp hpart
    cases inside with
    | true =>
      rw [List.cons_append, eraseSpans, hd.closes]
      exact ih htail
    | false =>
      rw [List.cons_append, eraseSpans, hd.opens, ih htail]
      rfl

theorem Spells.eraseSpans (h : m.Spells m' f) (inside : Bool) (text : List α) :
    m'.eraseSpans inside (text.flatMap f) = (m.eraseSpans inside text).flatMap f := by
  induction text generalizing inside with
  | nil => rfl
  | cons c rest ih =>
    rw [List.flatMap_cons]
    rcases h.spelled c with ⟨d, hd, halike⟩ | ⟨hc, -, hds⟩
    · cases inside with
      | true => rw [hd, List.singleton_append, Marks.eraseSpans, Marks.eraseSpans, halike.closes, ih]
      | false =>
        rw [hd, List.singleton_append, Marks.eraseSpans, Marks.eraseSpans, halike.opens,
          h.any_closes]
        split
        · exact ih true
        · rw [List.flatMap_cons, hd, ih, List.singleton_append]
    · rw [eraseSpans_ordinary hds, ih]
      cases inside with
      | true =>
        rw [Marks.eraseSpans, hc.closes]
        rfl
      | false =>
        rw [Marks.eraseSpans, hc.opens]
        rfl

theorem squeeze_ordinary {part : List β} (hpart : ∀ d ∈ part, m'.Ordinary d) (rest : List β) :
    m'.squeeze (part ++ rest) = part ++ m'.squeeze rest := by
  induction part with
  | nil => rfl
  | cons d part ih =>
    obtain ⟨hd, htail⟩ := List.forall_mem_cons.mp hpart
    rw [List.cons_append, squeeze, if_neg (by simp [hd.space]), ih htail, List.cons_append]

/-- A spelled text begins with a space if the text does. -/
theorem Spells.any_space_head (h : m.Spells m' f) (text : List α) :
    (text.flatMap f).head?.any m'.space = text.head?.any m.space := by
  cases text with
  | nil => rfl
  | cons c rest =>
    rw [List.flatMap_cons, List.head?_cons, Option.any_some]
    rcases h.spelled c with ⟨d, hd, halike⟩ | ⟨hc, hne, hds⟩
    · rw [hd, List.singleton_append, List.head?_cons, Option.any_some, halike.space]
    · obtain ⟨d, part, hd⟩ := List.exists_cons_of_ne_nil hne
      rw [hd, List.cons_append, List.head?_cons, Option.any_some, hc.space]
      exact (hds d (hd ▸ List.mem_cons_self)).space

theorem Spells.squeeze (h : m.Spells m' f) (text : List α) :
    m'.squeeze (text.flatMap f) = (m.squeeze text).flatMap f := by
  induction text with
  | nil => rfl
  | cons c rest ih =>
    rw [List.flatMap_cons, Marks.squeeze]
    rcases h.spelled c with ⟨d, hd, halike⟩ | ⟨hc, -, hds⟩
    · rw [hd, List.singleton_append, Marks.squeeze, halike.space, h.any_space_head, ih]
      split
      · split
        · rfl
        · rw [List.flatMap_cons, h.blank, List.singleton_append]
      · rw [List.flatMap_cons, hd, List.singleton_append]
    · rw [squeeze_ordinary hds, ih, if_neg (by simp [hc.space]), List.flatMap_cons]

theorem Spells.dropWhile (h : m.Spells m' f) (text : List α) :
    (text.flatMap f).dropWhile m'.space = (text.dropWhile m.space).flatMap f := by
  induction text with
  | nil => rfl
  | cons c rest ih =>
    rw [List.flatMap_cons, List.dropWhile_cons]
    rcases h.spelled c with ⟨d, hd, halike⟩ | ⟨hc, hne, hds⟩
    · rw [hd, List.singleton_append, List.dropWhile_cons, halike.space, ih]
      split
      · rfl
      · rw [List.flatMap_cons, hd, List.singleton_append]
    · obtain ⟨d, part, hd⟩ := List.exists_cons_of_ne_nil hne
      have hspace : m'.space d = false := (hds d (hd ▸ List.mem_cons_self)).space
      rw [hd, List.cons_append, List.dropWhile_cons, if_neg (by simp [hspace]),
        if_neg (by simp [hc.space]), List.flatMap_cons, hd, List.cons_append]

/-- Spelling each symbol backwards. -/
theorem Spells.reverse (h : m.Spells m' f) : m.Spells m' (List.reverse ∘ f) where
  spelled c := by
    rcases h.spelled c with ⟨d, hd, halike⟩ | ⟨hc, hne, hds⟩
    · exact .inl ⟨d, by rw [Function.comp, hd, List.reverse_singleton], halike⟩
    · refine .inr ⟨hc, ?_, fun d hd => hds d (List.mem_reverse.mp hd)⟩
      rwa [Function.comp, Ne, List.reverse_eq_nil_iff]
  blank := by rw [Function.comp, h.blank, List.reverse_singleton]

theorem Spells.trim (h : m.Spells m' f) (text : List α) :
    m'.trim (text.flatMap f) = (m.trim text).flatMap f := by
  rw [Marks.trim, h.dropWhile, List.rdropWhile, List.reverse_flatMap, h.reverse.dropWhile,
    Marks.trim, List.rdropWhile, List.flatMap_reverse]

theorem Spells.clean (h : m.Spells m' f) (text : List α) :
    m'.clean (text.flatMap f) = (m.clean text).flatMap f := by
  rw [Marks.clean, h.eraseSpans, h.squeeze, h.trim, Marks.clean]

end Spells

end Marks
end Encoding
