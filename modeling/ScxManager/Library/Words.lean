import Mathlib.Data.List.DropRight
import Mathlib.Tactic.Common

/-!
# Lists of words in one line of text

A list of words is written as one text, joined by a separator. It is read back by cutting off the
blanks at both ends and splitting at the separators that are left, with the empty text standing
for no words. Writing what was read gives the trimmed text again. Reading what was written gives
the words again only for some lists, which are characterised here. So are the texts whose pieces are
their words, the longest runs without a blank.
-/

namespace Words

universe u

variable {α : Type u}

/-- Cut off the blanks at both ends. -/
def trim (blank : α → Bool) (text : List α) : List α := (text.dropWhile blank).rdropWhile blank

/-- Write words as one text. -/
def join (sep : α) (words : List (List α)) : List α := [sep].intercalate words

/-- The words of a text: the longest runs in it without a blank, in their order. -/
def words (blank : α → Bool) (text : List α) : List (List α) :=
  (text.splitOnP blank).filter fun word => !word.isEmpty

/-- Split a text at its separators; the empty text has no words. -/
def split [DecidableEq α] (sep : α) (text : List α) : List (List α) :=
  if text = [] then [] else text.splitOn sep

variable {blank : α → Bool} {sep : α}

/-- Trimming keeps a text exactly if it neither begins nor ends with a blank. -/
theorem trim_eq_self_iff {text : List α} :
    trim blank text = text ↔
      (∀ c ∈ text.head?, blank c = false) ∧ ∀ c ∈ text.getLast?, blank c = false := by
  have hhead : text.dropWhile blank = text ↔ ∀ c ∈ text.head?, blank c = false := by
    cases text with
    | nil => simp
    | cons c rest => simp [List.dropWhile_eq_self_iff]
  have hlast : text.rdropWhile blank = text ↔ ∀ c ∈ text.getLast?, blank c = false := by
    rw [List.rdropWhile_eq_self_iff]
    by_cases htext : text = []
    · simp [htext]
    · simp [htext, List.getLast?_eq_some_getLast htext]
  constructor
  · intro h
    have hlength := congrArg List.length h
    have hdrop : text.dropWhile blank = text := by
      have hprefix := (List.rdropWhile_prefix blank (text.dropWhile blank)).length_le
      have hsuffix := (List.dropWhile_suffix blank (l := text)).length_le
      change ((text.dropWhile blank).rdropWhile blank).length = text.length at hlength
      exact (List.dropWhile_suffix blank).eq_of_length (by omega)
    unfold trim at h
    rw [hdrop] at h
    exact ⟨hhead.mp hdrop, hlast.mp h⟩
  · intro h
    obtain ⟨hfirst, hend⟩ := h
    unfold trim
    rw [hhead.mpr hfirst, hlast.mpr hend]

/-- A trimmed text neither begins nor ends with a blank. -/
theorem trim_trim (text : List α) : trim blank (trim blank text) = trim blank text := by
  rw [trim_eq_self_iff]
  constructor
  · intro c hc
    obtain ⟨rest, hrest⟩ := List.rdropWhile_prefix blank (text.dropWhile blank)
    have hfirst : (text.dropWhile blank).head? = some c := by
      change (trim blank text) ++ rest = _ at hrest
      rw [← hrest, List.head?_append, Option.mem_def.mp hc]
      rfl
    have hnot := List.head?_dropWhile_not blank text
    rw [hfirst] at hnot
    exact hnot
  · intro c hc
    have hne : trim blank text ≠ [] := by
      intro hnil
      rw [hnil] at hc
      cases hc
    have hlast := List.rdropWhile_last_not blank (text.dropWhile blank) hne
    rw [Option.mem_def, List.getLast?_eq_some_getLast hne] at hc
    rw [← Option.some.inj hc]
    exact Bool.eq_false_iff.mpr hlast

/-- A joined text begins with its first word, or with a separator if that word is empty. -/
theorem head?_join (sep : α) (first : List α) (rest : List (List α)) :
    (join sep (first :: rest)).head? = first.head?.or (if rest = [] then none else some sep) := by
  unfold join
  cases rest with
  | nil => simp
  | cons second rest =>
    rw [List.intercalate_cons_cons, List.append_assoc, List.head?_append]
    simp

/-- A joined text ends with its last word, or with a separator if that word is empty. -/
theorem getLast?_join (sep : α) (earlier : List (List α)) (last : List α) :
    (join sep (earlier ++ [last])).getLast? =
      last.getLast?.or (if earlier = [] then none else some sep) := by
  unfold join
  induction earlier with
  | nil => simp
  | cons first earlier ih =>
    have hne : earlier ++ [last] ≠ [] := by simp
    rw [List.cons_append, List.intercalate_cons_of_ne_nil hne, List.getLast?_append, ih]
    by_cases hearlier : earlier = []
    · simp [hearlier]
    · simp [hearlier]

/-- The words are read back from the text they are written as: no word has a separator in it, the
first one begins and the last one ends with something that is not a blank. -/
structure ReadBack (blank : α → Bool) (sep : α) (words : List (List α)) : Prop where
  noSep : ∀ word ∈ words, sep ∉ word
  begins : ∀ first ∈ words.head?, ∃ c, first.head? = some c ∧ blank c = false
  ends : ∀ last ∈ words.getLast?, ∃ c, last.getLast? = some c ∧ blank c = false

/-- A joined text that is not empty and does not begin with a blank begins with its first word. -/
theorem begins_of_join (hsep : blank sep = true) {first : List α} {rest : List (List α)}
    (hne : join sep (first :: rest) ≠ [])
    (hblank : ∀ c ∈ (join sep (first :: rest)).head?, blank c = false) :
    ∃ c, first.head? = some c ∧ blank c = false := by
  have hhead := head?_join sep first rest
  cases hfirst : first.head? with
  | some c =>
    rw [hfirst] at hhead
    exact ⟨c, rfl, hblank c hhead⟩
  | none =>
    rw [hfirst, Option.none_or] at hhead
    by_cases hrest : rest = []
    · rw [if_pos hrest] at hhead
      exact absurd (List.head?_eq_none_iff.mp hhead) hne
    · rw [if_neg hrest] at hhead
      rw [hblank sep hhead] at hsep
      cases hsep

/-- A joined text that is not empty and does not end with a blank ends with its last word. -/
theorem ends_of_join (hsep : blank sep = true) {earlier : List (List α)} {last : List α}
    (hne : join sep (earlier ++ [last]) ≠ [])
    (hblank : ∀ c ∈ (join sep (earlier ++ [last])).getLast?, blank c = false) :
    ∃ c, last.getLast? = some c ∧ blank c = false := by
  have hend := getLast?_join sep earlier last
  cases hlast : last.getLast? with
  | some c =>
    rw [hlast] at hend
    exact ⟨c, rfl, hblank c hend⟩
  | none =>
    rw [hlast, Option.none_or] at hend
    by_cases hearlier : earlier = []
    · rw [if_pos hearlier] at hend
      exact absurd (List.getLast?_eq_none_iff.mp hend) hne
    · rw [if_neg hearlier] at hend
      rw [hblank sep hend] at hsep
      cases hsep

/-- Words that are read back make a text without blanks at its ends. -/
theorem ReadBack.trim_join {words : List (List α)} (h : ReadBack blank sep words) :
    trim blank (join sep words) = join sep words := by
  rw [trim_eq_self_iff]
  constructor
  · intro c hc
    cases words with
    | nil => cases hc
    | cons first rest =>
      obtain ⟨d, hd, hblank⟩ := h.begins first rfl
      rw [head?_join, hd] at hc
      cases hc
      exact hblank
  · intro c hc
    rcases List.eq_nil_or_concat words with hnil | ⟨earlier, last, hwords⟩
    · rw [hnil] at hc
      cases hc
    · rw [List.concat_eq_append] at hwords
      obtain ⟨d, hd, hblank⟩ := h.ends last (by simp [hwords])
      rw [hwords, getLast?_join, hd] at hc
      cases hc
      exact hblank

/-- What is between blanks has none in it. -/
theorem notBlank_of_mem_splitOnP {text word : List α} (h : word ∈ text.splitOnP blank) :
    ∀ c ∈ word, blank c = false := by
  induction text generalizing word with
  | nil =>
    rw [List.splitOnP_nil, List.mem_singleton] at h
    simp [h]
  | cons d rest ih =>
    rw [List.splitOnP_cons_eq_if_modifyHead] at h
    by_cases hd : blank d = true
    · rw [if_pos hd, List.mem_cons] at h
      obtain hnil | hrest := h
      · simp [hnil]
      · exact ih hrest
    · rw [if_neg hd] at h
      obtain ⟨first, later, hpieces⟩ := List.exists_cons_of_ne_nil (List.splitOnP_ne_nil blank rest)
      rw [hpieces] at h ih
      obtain hfirst | hlater := List.mem_cons.mp h
      · intro c hc
        rw [hfirst] at hc
        obtain hhead | hfirst := List.mem_cons.mp hc
        · rw [hhead]
          exact Bool.eq_false_iff.mpr hd
        · exact ih List.mem_cons_self c hfirst
      · exact ih (List.mem_cons_of_mem _ hlater)

/-- A word is not empty and has no blank in it. -/
theorem mem_words {text word : List α} (h : word ∈ words blank text) :
    word ≠ [] ∧ ∀ c ∈ word, blank c = false := by
  obtain ⟨hpiece, hne⟩ := List.mem_filter.mp h
  exact ⟨by simpa using hne, notBlank_of_mem_splitOnP hpiece⟩

/-- The words around a blank are those before it and those behind it. -/
theorem words_append_cons (first rest : List α) {c : α} (hc : blank c = true) :
    words blank (first ++ c :: rest) = words blank first ++ words blank rest := by
  unfold words
  rw [List.splitOnP_append_cons first rest hc, List.filter_append]

/-- Blanks at the front make no words. -/
theorem words_dropWhile (text : List α) : words blank (text.dropWhile blank) = words blank text := by
  induction text with
  | nil => rfl
  | cons c rest ih =>
    by_cases hc : blank c = true
    · rw [List.dropWhile_cons_of_pos hc, ih]
      exact (words_append_cons [] rest hc).symm
    · rw [List.dropWhile_cons_of_neg hc]

/-- Blanks at the end make no words. -/
theorem words_rdropWhile (text : List α) : words blank (text.rdropWhile blank) = words blank text := by
  induction text using List.reverseRecOn with
  | nil => rfl
  | append_singleton rest c ih =>
    by_cases hc : blank c = true
    · rw [List.rdropWhile_concat_pos blank rest c hc, ih, words_append_cons rest [] hc]
      exact (List.append_nil _).symm
    · rw [List.rdropWhile_concat_neg blank rest c hc]

/-- A trimmed text has the words of the text. -/
theorem words_trim (text : List α) : words blank (trim blank text) = words blank text := by
  unfold trim
  rw [words_rdropWhile, words_dropWhile]

/-- What is written of two parts is what is written of each, with a separator between. -/
theorem join_append (sep : α) {earlier later : List (List α)} (hearlier : earlier ≠ [])
    (hlater : later ≠ []) :
    join sep (earlier ++ later) = join sep earlier ++ sep :: join sep later := by
  unfold join
  induction earlier with
  | nil => exact absurd rfl hearlier
  | cons first rest ih =>
    by_cases hrest : rest = []
    · rw [hrest, List.cons_append, List.nil_append, List.intercalate_cons_of_ne_nil hlater]
      simp
    · have hne : rest ++ later ≠ [] := by simp [hrest]
      rw [List.cons_append, List.intercalate_cons_of_ne_nil hne, ih hrest,
        List.intercalate_cons_of_ne_nil hrest]
      simp

/-- Classes of blanks that agree on a text split it alike. -/
theorem splitOnP_congr {blank' : α → Bool} {text : List α} (h : ∀ c ∈ text, blank c = blank' c) :
    text.splitOnP blank = text.splitOnP blank' := by
  induction text with
  | nil => rfl
  | cons c rest ih =>
    rw [List.forall_mem_cons] at h
    rw [List.splitOnP_cons_eq_if_modifyHead, List.splitOnP_cons_eq_if_modifyHead, ih h.2, h.1]

/-- What is written is separators and what is in the words. -/
theorem mem_join {words : List (List α)} {c : α} (h : c ∈ join sep words) :
    c = sep ∨ ∃ word ∈ words, c ∈ word := by
  induction words with
  | nil => cases h
  | cons first rest ih =>
    by_cases hrest : rest = []
    · rw [hrest] at h ⊢
      unfold join at h
      rw [List.intercalate_singleton] at h
      exact Or.inr ⟨first, List.mem_singleton_self first, h⟩
    · have happend := join_append sep (List.cons_ne_nil first []) hrest
      rw [List.cons_append, List.nil_append] at happend
      rw [happend, List.mem_append, List.mem_cons] at h
      unfold join at h
      rw [List.intercalate_singleton] at h
      obtain hfirst | hsep | hlater := h
      · exact Or.inr ⟨first, List.mem_cons_self, hfirst⟩
      · exact Or.inl hsep
      · obtain hsep | ⟨word, hword, hc⟩ := ih hlater
        · exact Or.inl hsep
        · exact Or.inr ⟨word, List.mem_cons_of_mem first hword, hc⟩

/-- The only blanks in a text are separators, and no two of them in a row. -/
structure SingleSpaced (blank : α → Bool) (sep : α) (text : List α) : Prop where
  onlySep : ∀ c ∈ text, blank c = true → c = sep
  noTwo : ¬ [sep, sep] <:+: text

variable [DecidableEq α]

/-- Writing what was read from a text gives the text again. -/
theorem join_split (sep : α) (text : List α) : join sep (split sep text) = text := by
  unfold join split
  by_cases htext : text = []
  · simp [htext]
  · rw [if_neg htext, List.intercalate_splitOn]

/-- A word that was read has no separator in it. -/
theorem sep_notMem_of_mem_splitOn {text word : List α} (h : word ∈ text.splitOn sep) :
    sep ∉ word := by
  rw [List.splitOn_eq_splitOnP] at h
  intro hsep
  have hnot := notBlank_of_mem_splitOnP h sep hsep
  simp at hnot

/-- Trimming and splitting a joined text gives the words again exactly if they are such. -/
theorem split_trim_join_iff (hsep : blank sep = true) (words : List (List α)) :
    split sep (trim blank (join sep words)) = words ↔ ReadBack blank sep words := by
  constructor
  · intro h
    by_cases htext : trim blank (join sep words) = []
    · rw [htext] at h
      obtain rfl : [] = words := h
      exact ⟨by simp, by simp, by simp⟩
    · have hjoin : join sep words = trim blank (join sep words) := by
        have hagain := join_split sep (trim blank (join sep words))
        rwa [h] at hagain
      have hne : join sep words ≠ [] := by rwa [hjoin]
      obtain ⟨hfirst, hlast⟩ := trim_eq_self_iff.mp hjoin.symm
      have hsplit : (trim blank (join sep words)).splitOn sep = words := by
        unfold split at h
        rwa [if_neg htext] at h
      refine ⟨?_, ?_, ?_⟩
      · intro word hword
        rw [← hsplit] at hword
        exact sep_notMem_of_mem_splitOn hword
      · intro first hhead
        obtain ⟨rest, rfl⟩ := List.head?_eq_some_iff.mp hhead
        exact begins_of_join hsep hne hfirst
      · intro last hend
        obtain ⟨earlier, rfl⟩ := List.getLast?_eq_some_iff.mp hend
        exact ends_of_join hsep hne hlast
  · intro h
    rw [h.trim_join]
    unfold split
    cases words with
    | nil => rfl
    | cons first rest =>
      obtain ⟨c, hc, -⟩ := h.begins first rfl
      have hne : join sep (first :: rest) ≠ [] := by
        intro hnil
        have hhead := head?_join sep first rest
        rw [hnil, hc] at hhead
        cases hhead
      rw [if_neg hne]
      exact List.splitOn_intercalate sep h.noSep (by simp)

/-- A text that neither begins nor ends with a separator has an empty piece exactly if it has two
separators in a row. -/
theorem nil_mem_splitOn_iff {text : List α} (hne : text ≠ []) (hfirst : sep ∉ text.head?)
    (hlast : sep ∉ text.getLast?) : [] ∈ text.splitOn sep ↔ [sep, sep] <:+: text := by
  constructor
  · intro hnil
    obtain ⟨earlier, later, hpieces⟩ := List.append_of_mem hnil
    have htext : join sep (earlier ++ [] :: later) = text := by
      rw [← hpieces]
      exact List.intercalate_splitOn sep
    by_cases hearlier : earlier = []
    · -- the text begins with a separator, unless it is empty
      rw [hearlier, List.nil_append] at htext
      by_cases hlater : later = []
      · rw [hlater] at htext
        exact absurd htext.symm hne
      · have hhead := head?_join sep [] later
        rw [htext, if_neg hlater] at hhead
        exact absurd hhead hfirst
    · by_cases hlater : later = []
      · -- the text ends with a separator
        have hend := getLast?_join sep earlier []
        rw [hlater] at htext
        rw [htext, if_neg hearlier] at hend
        exact absurd hend hlast
      · have hcons : join sep ([] :: later) = sep :: join sep later :=
          join_append sep (List.cons_ne_nil [] []) hlater
        rw [join_append sep hearlier (List.cons_ne_nil [] later), hcons] at htext
        exact ⟨join sep earlier, join sep later, by rw [← htext]; simp⟩
  · intro htwo
    obtain ⟨first, rest, rfl⟩ := htwo
    have hsplit : (first ++ [sep, sep] ++ rest).splitOn sep =
        first.splitOn sep ++ [] :: rest.splitOn sep := by
      rw [List.append_assoc, List.cons_append, List.cons_append, List.nil_append,
        List.splitOn_append_cons_self, List.splitOn_cons_eq_if_modifyHead, if_pos (beq_self_eq_true sep)]
    rw [hsplit]
    exact List.mem_append_right _ List.mem_cons_self

/-- Where the pieces of a text are its words, all blanks in it are separators. -/
theorem onlySep_of_splitOn_eq_words {text : List α} (h : text.splitOn sep = words blank text) :
    ∀ c ∈ text, blank c = true → c = sep := by
  intro c hc hblank
  have hjoin : join sep (words blank text) = text := by
    rw [← h]
    exact List.intercalate_splitOn sep
  rw [← hjoin] at hc
  obtain hcsep | ⟨word, hword, hmem⟩ := mem_join hc
  · exact hcsep
  · rw [(mem_words hword).2 c hmem] at hblank
    cases hblank

/-- Where all blanks in a text are separators and no piece of it is empty, its pieces are its words. -/
theorem splitOn_eq_words {text : List α} (hsep : blank sep = true)
    (honly : ∀ c ∈ text, blank c = true → c = sep) (hnil : [] ∉ text.splitOn sep) :
    text.splitOn sep = words blank text := by
  have hagree : ∀ c ∈ text, (c == sep) = blank c := by
    intro c hc
    by_cases hcsep : c = sep
    · rw [hcsep, hsep]
      exact beq_self_eq_true sep
    · rw [beq_eq_false_iff_ne.mpr hcsep]
      exact (Bool.eq_false_iff.mpr fun hblank => hcsep (honly c hc hblank)).symm
  rw [List.splitOn_eq_splitOnP, splitOnP_congr hagree] at hnil ⊢
  refine (List.filter_eq_self.mpr ?_).symm
  intro word hword
  have hne : word ≠ [] := fun heq => hnil (heq ▸ hword)
  simpa using hne

/-- What is read from a text are its words exactly if the trimmed text has single separators between
them. -/
theorem split_trim_eq_words_iff (hsep : blank sep = true) (text : List α) :
    split sep (trim blank text) = words blank text ↔ SingleSpaced blank sep (trim blank text) := by
  have htrimmed : trim blank (trim blank text) = trim blank text := trim_trim text
  obtain ⟨hfirst, hlast⟩ := trim_eq_self_iff.mp htrimmed
  rw [← words_trim]
  generalize trim blank text = trimmed at hfirst hlast ⊢
  have hnotFirst : sep ∉ trimmed.head? := fun h => by
    rw [hfirst sep h] at hsep
    cases hsep
  have hnotLast : sep ∉ trimmed.getLast? := fun h => by
    rw [hlast sep h] at hsep
    cases hsep
  by_cases hne : trimmed = []
  · rw [hne]
    exact iff_of_true rfl ⟨by simp, by simp⟩
  · have hempty := nil_mem_splitOn_iff hne hnotFirst hnotLast
    unfold split
    rw [if_neg hne]
    constructor
    · intro h
      refine ⟨onlySep_of_splitOn_eq_words h, fun htwo => ?_⟩
      have hnil := hempty.mpr htwo
      rw [h] at hnil
      exact (mem_words hnil).1 rfl
    · intro h
      exact splitOn_eq_words hsep h.onlySep fun hnil => h.noTwo (hempty.mp hnil)

end Words
