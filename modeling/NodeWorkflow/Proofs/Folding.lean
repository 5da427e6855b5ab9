import NodeWorkflow.Proofs.CharacterTables
import NodeWorkflow.Prompt.Role

/-!
# Folding what is folded already

Titles are folded before they are looked at: first letters are made small, then characters are taken
apart, then marks go. The first step comes before the second, so a sign that is made of capitals
without being one itself, such as a mathematical letter or the sign for a trade mark, leaves capitals
in the folded text. Folding a second time makes these small and changes nothing else.

## Main definitions

* `isCapital` — a character has a small form.
* `hidesCapital` — a character is no capital, but has one among its parts.
* `Prompt.Refolds` — what a second folding makes of a text and of what it says as a title.

## Main statements

* `decompose_of_mem_decompose` — parts have no parts.
* `foldChars_foldChars` — a second folding makes capitals small.
* `foldChars_foldChars_eq_self_iff` — when a folded text is left alone.
* `Prompt.refolds` — folding a text a second time.
-/

namespace NodeWorkflow

/-! ## Small forms of a character -/

/-- Whether a character has a small form other than itself. -/
def isCapital (c : Char) : Bool :=
  lowerCase [c] != [c]

/-- Whether a character, which is no capital, has a capital among its parts. -/
def hidesCapital (c : Char) : Bool :=
  !isCapital c && (decompose c).any isCapital

theorem forall_mem_of_any {p : Char → Bool} {cs : List Char} (h : cs.any p = false) :
    ∀ c ∈ cs, p c = false := by
  simpa using h

namespace LowerCase

/-- The small form of a character between others. -/
def formIn (before : List Char) (c : Char) (rest : List Char) : List Char :=
  if c.toNat = 0x3A3 then
    [Char.ofNat (if touchesCased before && !touchesCased rest then 0x3C2 else 0x3C3)]
  else ofChar c

theorem following_cons (before : List Char) (c : Char) (rest : List Char) :
    following before (c :: rest) = formIn before c rest ++ following (c :: before) rest := rfl

theorem lowerCase_singleton (c : Char) : lowerCase [c] = formIn [] c [] := by
  rw [lowerCase, following_cons, following, List.append_nil]

theorem formIn_of_ne {c : Char} (h : c.toNat ≠ 0x3A3) (before rest : List Char) :
    formIn before c rest = ofChar c :=
  if_neg h

theorem formIn_ne_singleton {c : Char} (h : c.toNat = 0x3A3) (before rest : List Char) :
    formIn before c rest ≠ [c] := by
  rw [formIn, if_pos h]
  intro he
  have hsigma := congrArg Char.toNat (List.singleton_inj.1 he)
  rw [h] at hsigma
  split at hsigma
  · exact absurd hsigma (by decide)
  · exact absurd hsigma (by decide)

/-- What is no capital stays as it is, wherever it stands. -/
theorem formIn_eq_singleton_iff {before rest : List Char} {c : Char} :
    formIn before c rest = [c] ↔ isCapital c = false := by
  rw [isCapital, lowerCase_singleton, bne_eq_false_iff_eq]
  by_cases h : c.toNat = 0x3A3
  · exact iff_of_false (formIn_ne_singleton h _ _) (formIn_ne_singleton h _ _)
  · rw [formIn_of_ne h, formIn_of_ne h]

theorem eq_of_mem_formIn {before rest : List Char} {c d : Char} (h : isCapital c = false)
    (hd : d ∈ formIn before c rest) : d = c := by
  rw [formIn_eq_singleton_iff.2 h] at hd
  exact List.mem_singleton.1 hd

theorem exists_mem_ofChar (c : Char) : ∃ d, d ∈ ofChar c := by
  unfold ofChar
  split
  · exact ⟨_, List.mem_singleton_self _⟩
  · split
    · exact ⟨_, List.mem_cons_self⟩
    · split <;> exact ⟨_, List.mem_singleton_self _⟩

theorem exists_mem_formIn (before : List Char) (c : Char) (rest : List Char) :
    ∃ d, d ∈ formIn before c rest := by
  unfold formIn
  split
  · exact ⟨_, List.mem_singleton_self _⟩
  · exact exists_mem_ofChar c

/-- The only characters below 128 that have a small form are the letters from A to Z. -/
theorem toLower_cases (c : Char) :
    c.toLower = c ∨ ∃ k < 26, c.toNat = 0x41 + k ∧ c.toLower = Char.ofNat (0x61 + k) := by
  have hletters : ∀ k < 26, (Char.ofNat (0x41 + k)).toLower = Char.ofNat (0x61 + k) := by decide
  by_cases hrange : 0x41 ≤ c.toNat ∧ c.toNat ≤ 0x5A
  · have hsum : 0x41 + (c.toNat - 0x41) = c.toNat := Nat.add_sub_cancel' hrange.1
    refine .inr ⟨c.toNat - 0x41, by omega, hsum.symm, ?_⟩
    rw [← hletters _ (by omega), hsum, Char.ofNat_toNat]
  · have hval : ¬ (c.val ≥ 'A'.val ∧ c.val ≤ 'Z'.val) := by
      rw [ge_iff_le, UInt32.le_iff_toNat_le, UInt32.le_iff_toNat_le]
      exact hrange
    exact .inl (dif_neg hval)

section Forms

open Characters

variable {before rest : List Char} {c d : Char}

/-- A character other than the capital sigma is its own small form or has its small forms in the
tables. -/
theorem ofChar_cases (c : Char) :
    ofChar c = [c] ∨ ∀ d ∈ ofChar c, ∃ m, (c.toNat, m) ∈ tables.forms ∧ d = Char.ofNat m := by
  rw [Tables.forms, runs_tables]
  unfold ofChar
  split
  case isTrue hlow =>
    rcases toLower_cases c with hself | ⟨k, hk, hc, hlower⟩
    · exact .inl (by rw [hself])
    · refine .inr fun d hd => ⟨0x61 + k, ?_, (List.mem_singleton.1 hd).trans hlower⟩
      rw [hc, List.append_assoc]
      exact List.mem_append_left _ (List.mem_map_of_mem (List.mem_range.2 hk))
  case isFalse hlow =>
    split
    case isTrue hdotted =>
      rw [hdotted]
      refine .inr fun d hd => ?_
      simp only [List.mem_cons, List.not_mem_nil, or_false] at hd
      rcases hd with rfl | rfl
      · exact ⟨0x69, by simp, rfl⟩
      · exact ⟨0x307, by simp, rfl⟩
    case isFalse hdotted =>
      split
      case h_1 n hfind =>
        obtain ⟨r, hr, hsmall⟩ := List.exists_of_findSome?_eq_some hfind
        have hform : (c.toNat, n) ∈ LowerCase.runs.flatMap Run.forms :=
          List.mem_flatMap.2 ⟨r, hr, Run.mem_forms hsmall⟩
        exact .inr fun d hd => ⟨n, List.mem_append_right _ hform, List.mem_singleton.1 hd⟩
      case h_2 => exact .inl rfl

/-- The small forms of a capital are in the tables. -/
theorem exists_form (h : isCapital c = true) (hd : d ∈ formIn before c rest) :
    ∃ m, (c.toNat, m) ∈ tables.forms ∧ d = Char.ofNat m := by
  by_cases hsigma : c.toNat = 0x3A3
  · rw [formIn, if_pos hsigma, List.mem_singleton] at hd
    rw [hsigma, hd, Tables.forms]
    split
    · exact ⟨0x3C2, by simp, rfl⟩
    · exact ⟨0x3C3, by simp, rfl⟩
  · rw [formIn_of_ne hsigma] at hd
    rcases ofChar_cases c with hself | hforms
    · rw [← formIn_of_ne hsigma [] [], formIn_eq_singleton_iff, h] at hself
      cases hself
    · exact hforms d hd

theorem testBit_capitals_of_isCapital (h : isCapital c = true) :
    tables.capitals.testBit c.toNat = true := by
  obtain ⟨d, hd⟩ := exists_mem_formIn [] c []
  obtain ⟨m, hm, -⟩ := exists_form h hd
  exact testBit_capitals_of_mem_forms hm

/-- What is not among the capitals of the table, given letter by letter, is no capital. -/
theorem isCapital_of_spells {letters : List (List Char)}
    (hletters : CodeTable.Spells letters letterTable)
    (h : (Tables.mk [] (runsOf letters) []).capitals.testBit c.toNat = false) :
    isCapital c = false := by
  apply Bool.eq_false_iff.2
  intro hcapital
  have hbit := testBit_capitals_of_isCapital hcapital
  rw [Tables.capitals, Tables.forms, runs_tables, runs_of_spells hletters] at hbit
  rw [Tables.capitals, Tables.forms, hbit] at h
  cases h

end Forms

end LowerCase

/-! ## Parts of a character -/

section Parts

open Characters LowerCase

variable {before rest : List Char} {c d e : Char}

theorem decompose_of_lookup (h : Decomposition.lookup c.toNat = none) : decompose c = [c] := by
  rw [decompose, h]

/-- A part is the character itself, or its code point is in the tables. -/
theorem mem_decompose_cases (h : d ∈ decompose c) :
    d = c ∧ decompose c = [c] ∨
      ∃ targets t, Decomposition.lookup c.toNat = some targets ∧ t ∈ targets ∧ d = Char.ofNat t := by
  unfold decompose at h ⊢
  split at h
  case h_1 targets hlookup =>
    obtain ⟨t, ht, rfl⟩ := List.mem_map.1 h
    exact .inr ⟨targets, t, hlookup, ht, rfl⟩
  case h_2 => exact .inl ⟨List.mem_singleton.1 h, rfl⟩

/-- **Parts have no parts.** -/
theorem decompose_of_mem_decompose (h : d ∈ decompose c) : decompose d = [d] := by
  rcases mem_decompose_cases h with ⟨rfl, hself⟩ | ⟨targets, t, hlookup, ht, rfl⟩
  · exact hself
  · have hpart := testBit_parts_of_lookup hlookup ht
    apply decompose_of_lookup
    rw [toNat_ofNat_of_testBit_parts hpart]
    exact lookup_of_testBit_parts hpart

theorem isMark_of_isCapital (h : isCapital c = true) : isMark c = false := by
  apply Bool.eq_false_iff.2
  intro hmark
  exact CodeSet.false_of_testBit isClosed_tables.capitals_marked (testBit_capitals_of_isCapital h)
    (testBit_marked_of_isMark hmark)

/-- A small form is no capital. -/
theorem isCapital_of_mem_formIn (hd : d ∈ formIn before c rest) : isCapital d = false := by
  by_cases h : isCapital c = true
  · obtain ⟨m, hm, rfl⟩ := exists_form h hd
    apply Bool.eq_false_iff.2
    intro hcapital
    have hbit := testBit_capitals_of_isCapital hcapital
    rw [toNat_ofNat_of_mem_forms hm] at hbit
    exact CodeSet.false_of_testBit isClosed_tables.smalls_capitals
      (testBit_smalls_of_mem_forms hm) hbit
  · rw [Bool.not_eq_true] at h
    rwa [eq_of_mem_formIn h hd]

/-- No part of a small form of a capital is a capital. -/
theorem isCapital_of_mem_decompose (h : isCapital c = true) (hd : d ∈ formIn before c rest)
    (he : e ∈ decompose d) : isCapital e = false := by
  rcases mem_decompose_cases he with ⟨rfl, -⟩ | ⟨targets, t, hlookup, ht, rfl⟩
  · exact isCapital_of_mem_formIn hd
  · obtain ⟨m, hm, rfl⟩ := exists_form h hd
    rw [toNat_ofNat_of_mem_forms hm] at hlookup
    apply Bool.eq_false_iff.2
    intro hcapital
    have hbit := testBit_capitals_of_isCapital hcapital
    rw [toNat_ofNat_of_testBit_parts (testBit_parts_of_lookup hlookup ht)] at hbit
    exact CodeSet.false_of_testBit isClosed_tables.smalls_signs (testBit_smalls_of_mem_forms hm)
      (testBit_signs_of_lookup hlookup ht hbit)

/-- A character that folding leaves as it is, but for its case. -/
structure IsBase (c : Char) : Prop where
  decompose_eq : decompose c = [c]
  isMark_eq : isMark c = false

theorem isBase_of_form {n m : Nat} (hm : (n, m) ∈ tables.forms)
    (hpart : tables.parts.testBit n = true) : IsBase (Char.ofNat m) := by
  have hbit := testBit_partSmalls_of_mem_forms hm hpart
  have hcode := toNat_ofNat_of_mem_forms hm
  constructor
  · apply decompose_of_lookup
    rw [hcode, Option.eq_none_iff_forall_ne_some]
    intro targets hlookup
    exact CodeSet.false_of_testBit isClosed_tables.partSmalls_apart hbit
      (testBit_apart_of_lookup hlookup)
  · apply Bool.eq_false_iff.2
    intro hmark
    have hmarked := testBit_marked_of_isMark hmark
    rw [hcode] at hmarked
    exact CodeSet.false_of_testBit isClosed_tables.partSmalls_marked hbit hmarked

/-- If a capital is a part of a character that is no capital, its small forms are base characters. -/
theorem isBase_of_mem_formIn (hc : isCapital c = false) (he : e ∈ decompose c)
    (h : isCapital e = true) (hd : d ∈ formIn before e rest) : IsBase d := by
  rcases mem_decompose_cases he with ⟨rfl, -⟩ | ⟨targets, t, hlookup, ht, rfl⟩
  · simp [hc] at h
  · obtain ⟨m, hm, rfl⟩ := exists_form h hd
    have hpart := testBit_parts_of_lookup hlookup ht
    rw [toNat_ofNat_of_testBit_parts hpart] at hm
    exact isBase_of_form hm hpart

end Parts

/-! ## Lower case of a text -/

section Lower

open LowerCase

variable {cs : List Char} {c d e : Char}

theorem exists_of_mem_following {before : List Char} (h : d ∈ following before cs) :
    ∃ c ∈ cs, ∃ around rest, d ∈ formIn around c rest := by
  induction cs generalizing before with
  | nil => cases h
  | cons c cs ih =>
    rw [following_cons, List.mem_append] at h
    rcases h with h | h
    · exact ⟨c, List.mem_cons_self, before, cs, h⟩
    · obtain ⟨c', hc', hform⟩ := ih h
      exact ⟨c', List.mem_cons_of_mem _ hc', hform⟩

/-- What is small stays as it is, and the rest is read as behind it. -/
theorem following_append {front : List Char} (h : ∀ c ∈ front, isCapital c = false)
    (before back : List Char) :
    following before (front ++ back) = front ++ following (front.reverse ++ before) back := by
  induction front generalizing before with
  | nil => rfl
  | cons c front ih =>
    rw [List.forall_mem_cons] at h
    rw [List.cons_append, following_cons, formIn_eq_singleton_iff.2 h.1, ih h.2,
      List.reverse_cons, List.append_assoc, List.singleton_append, List.singleton_append,
      List.cons_append]

theorem isCapital_of_mem_lowerCase (h : d ∈ lowerCase cs) : isCapital d = false := by
  obtain ⟨c, -, _, _, hform⟩ := exists_of_mem_following h
  exact isCapital_of_mem_formIn hform

theorem lowerCase_eq_self_iff : lowerCase cs = cs ↔ ∀ c ∈ cs, isCapital c = false := by
  constructor
  · intro h c hc
    rw [← h] at hc
    exact isCapital_of_mem_lowerCase hc
  · intro h
    simpa [lowerCase, following] using following_append h [] []

theorem lowerCase_lowerCase (cs : List Char) : lowerCase (lowerCase cs) = lowerCase cs :=
  lowerCase_eq_self_iff.2 fun _ => isCapital_of_mem_lowerCase

theorem exists_following_append (front : List Char) (before back : List Char) :
    ∃ smalls around, following before (front ++ back) = smalls ++ following around back := by
  induction front generalizing before with
  | nil => exact ⟨[], before, rfl⟩
  | cons c front ih =>
    obtain ⟨smalls, around, heq⟩ := ih (c :: before)
    refine ⟨formIn before c (front ++ back) ++ smalls, around, ?_⟩
    rw [List.cons_append, following_cons, heq, List.append_assoc]

/-- A piece without capitals stays a piece of the text in lower case. -/
theorem infix_lowerCase {part : List Char} (hpart : ∀ c ∈ part, isCapital c = false)
    (h : part <:+: cs) : part <:+: lowerCase cs := by
  obtain ⟨front, back, rfl⟩ := h
  obtain ⟨smalls, around, heq⟩ := exists_following_append front [] (part ++ back)
  rw [lowerCase, List.append_assoc, heq, following_append hpart, ← List.append_assoc]
  exact ⟨smalls, _, rfl⟩

theorem mem_lowerCase (h : c ∈ cs) (hc : isCapital c = false) : c ∈ lowerCase cs := by
  obtain ⟨front, back, rfl⟩ := List.append_of_mem h
  have hone : [c] <:+: front ++ c :: back := ⟨front, back, List.append_assoc ..⟩
  exact (infix_lowerCase (List.forall_mem_singleton.2 hc) hone).subset List.mem_cons_self

end Lower

/-! ## Folding twice -/

section Folding

open LowerCase

variable {cs : List Char} {c d e : Char}

theorem mem_foldChars :
    e ∈ foldChars cs ↔ ∃ d ∈ lowerCase cs, e ∈ decompose d ∧ isMark e = false := by
  rw [foldChars, List.mem_filter, List.mem_flatMap, Bool.not_eq_true']
  constructor
  · rintro ⟨⟨d, hd, he⟩, hmark⟩
    exact ⟨d, hd, he, hmark⟩
  · rintro ⟨d, hd, he, hmark⟩
    exact ⟨⟨d, hd, he⟩, hmark⟩

theorem isBase_of_mem_foldChars (h : e ∈ foldChars cs) : IsBase e := by
  obtain ⟨d, -, he, -⟩ := mem_foldChars.1 h
  exact ⟨decompose_of_mem_decompose he, not_isMark_of_mem_foldChars h⟩

/-- Base characters are neither taken apart nor dropped. -/
theorem filter_flatMap_decompose (h : ∀ c ∈ cs, IsBase c) :
    (cs.flatMap decompose).filter (!isMark ·) = cs := by
  induction cs with
  | nil => rfl
  | cons c cs ih =>
    rw [List.forall_mem_cons] at h
    rw [List.flatMap_cons, h.1.decompose_eq, List.singleton_append, List.filter_cons_of_pos, ih h.2]
    rw [h.1.isMark_eq]
    rfl

/-- The lower case of a folded text is made of base characters. -/
theorem isBase_of_mem_lowerCase (h : d ∈ lowerCase (foldChars cs)) : IsBase d := by
  obtain ⟨e, he, _, _, hform⟩ := exists_of_mem_following h
  by_cases hcapital : isCapital e = true
  · obtain ⟨c, hc, hpart, -⟩ := mem_foldChars.1 he
    exact isBase_of_mem_formIn (isCapital_of_mem_lowerCase hc) hpart hcapital hform
  · rw [Bool.not_eq_true] at hcapital
    rw [eq_of_mem_formIn hcapital hform]
    exact isBase_of_mem_foldChars he

/-- **A second folding makes the capitals small that are left, and changes nothing else.** -/
theorem foldChars_foldChars (cs : List Char) :
    foldChars (foldChars cs) = lowerCase (foldChars cs) :=
  filter_flatMap_decompose fun _ => isBase_of_mem_lowerCase

/-- Capitals are left by the characters that hide them, and by no others. -/
theorem forall_mem_foldChars_iff :
    (∀ e ∈ foldChars cs, isCapital e = false) ↔ ∀ c ∈ cs, hidesCapital c = false := by
  constructor
  · intro h c hc
    apply Bool.eq_false_iff.2
    intro hhides
    simp only [hidesCapital, Bool.and_eq_true, Bool.not_eq_true', List.any_eq_true] at hhides
    obtain ⟨hsmall, e, he, hcapital⟩ := hhides
    have hfold : e ∈ foldChars cs :=
      mem_foldChars.2 ⟨c, mem_lowerCase hc hsmall, he, isMark_of_isCapital hcapital⟩
    simp [h e hfold] at hcapital
  · intro h e he
    obtain ⟨d, hd, hpart, -⟩ := mem_foldChars.1 he
    obtain ⟨c, hc, _, _, hform⟩ := exists_of_mem_following hd
    by_cases hcapital : isCapital c = true
    · exact isCapital_of_mem_decompose hcapital hform hpart
    · rw [Bool.not_eq_true] at hcapital
      rw [eq_of_mem_formIn hcapital hform] at hpart
      have hhides := h c hc
      simp only [hidesCapital, hcapital, Bool.not_false, Bool.true_and, List.any_eq_false,
        Bool.not_eq_true] at hhides
      exact hhides e hpart

theorem foldChars_foldChars_eq_self_iff :
    foldChars (foldChars cs) = foldChars cs ↔ ∀ c ∈ cs, hidesCapital c = false := by
  rw [foldChars_foldChars, lowerCase_eq_self_iff, forall_mem_foldChars_iff]

end Folding

/-! ## Texts and titles -/

section Texts

variable (text : String)

theorem toList_foldText_foldText :
    (foldText (foldText text)).toList = lowerCase (foldText text).toList := by
  rw [foldText, foldText, String.toList_ofList, String.toList_ofList, foldChars_foldChars]

theorem foldText_foldText_eq_self_iff :
    foldText (foldText text) = foldText text ↔ ∀ c ∈ text.toList, hidesCapital c = false := by
  rw [← foldChars_foldChars_eq_self_iff, ← String.toList_inj]
  simp only [foldText, String.toList_ofList]

theorem foldText_foldText_foldText :
    foldText (foldText (foldText text)) = foldText (foldText text) := by
  rw [← String.toList_inj, toList_foldText_foldText, toList_foldText_foldText, lowerCase_lowerCase]

end Texts

namespace Prompt

variable {title : String}

theorem readsNegative_iff :
    readsNegative title = true ↔
      ∃ part ∈ negativeTitles, part.toList <:+: (foldText title).toList := by
  simp only [readsNegative, List.any_eq_true, contains, occursIn_iff]

/-- That only a title that is not empty can be negative excludes none. -/
theorem titleIsNegative_str : titleIsNegative (.str title) = readsNegative title := by
  by_cases h : title = ""
  · rw [h]
    decide
  · rw [titleIsNegative, bne_iff_ne.2 h, Bool.true_and]

theorem isCapital_of_mem_negativeTitles {part : String} (hpart : part ∈ negativeTitles) :
    ∀ c ∈ part.toList, isCapital c = false := by
  have hany : ∀ part ∈ negativeTitles, part.toList.any isCapital = false := by decide +kernel
  exact forall_mem_of_any (hany part hpart)

/-- A text folded a second time, and what it says as a title before and after a folding. -/
structure Refolds (text : String) : Prop where
  /-- A second folding makes the capitals small that are left. -/
  toList_eq : (foldText (foldText text)).toList = lowerCase (foldText text).toList
  /-- It changes nothing exactly if no character of the text hides a capital. -/
  eq_iff : foldText (foldText text) = foldText text ↔ ∀ c ∈ text.toList, hidesCapital c = false
  /-- After that nothing is left to fold. -/
  settled : foldText (foldText (foldText text)) = foldText (foldText text)
  negative_iff : titleIsNegative (.str text) = true ↔
    ∃ part ∈ negativeTitles, part.toList <:+: (foldText text).toList
  /-- After a folding capitals that are left count as small letters. -/
  negative_foldText_iff : titleIsNegative (.str (foldText text)) = true ↔
    ∃ part ∈ negativeTitles, part.toList <:+: lowerCase (foldText text).toList
  /-- A negative title stays negative. -/
  still_negative : titleIsNegative (.str text) = true →
    titleIsNegative (.str (foldText text)) = true
  /-- A title without hidden capitals says the same after a folding. -/
  same_title : (∀ c ∈ text.toList, hidesCapital c = false) →
    titleIsNegative (.str text) = titleIsNegative (.str (foldText text))

/-- **Folding a text a second time.** -/
theorem refolds (text : String) : Refolds text where
  toList_eq := toList_foldText_foldText text
  eq_iff := foldText_foldText_eq_self_iff text
  settled := foldText_foldText_foldText text
  negative_iff := by rw [titleIsNegative_str, readsNegative_iff]
  negative_foldText_iff := by
    rw [titleIsNegative_str, readsNegative_iff, toList_foldText_foldText]
  still_negative h := by
    rw [titleIsNegative_str, readsNegative_iff] at h ⊢
    obtain ⟨part, hpart, hinfix⟩ := h
    rw [toList_foldText_foldText]
    exact ⟨part, hpart, infix_lowerCase (isCapital_of_mem_negativeTitles hpart) hinfix⟩
  same_title h := by
    rw [titleIsNegative_str, titleIsNegative_str, readsNegative, readsNegative,
      (foldText_foldText_eq_self_iff text).2 h]

/-- Nothing in this title hides a capital. -/
theorem refolds_plainTitle :
    (∀ c ∈ "NEGATIVE prompt".toList, hidesCapital c = false) ∧
      titleIsNegative (.str "NEGATIVE prompt") = true ∧
      titleIsNegative (.str (foldText "NEGATIVE prompt")) = true := by
  have hplain : ∀ c ∈ "NEGATIVE prompt".toList, hidesCapital c = false :=
    forall_mem_of_any (by decide +kernel)
  have hnegative : titleIsNegative (.str "NEGATIVE prompt") = true := by decide +kernel
  exact ⟨hplain, hnegative, (refolds "NEGATIVE prompt").same_title hplain ▸ hnegative⟩

/-- A title whose first letter is a mathematical letter in bold. -/
def styledTitle : String := "𝐍egative"

/-- The capital that the first letter hides is left by a folding, and the title is not taken for
negative, as its folded form is. -/
theorem unsettled_styledTitle :
    foldText styledTitle = "Negative" ∧ foldText (foldText styledTitle) = "negative" ∧
      titleIsNegative (.str styledTitle) = false ∧
      titleIsNegative (.str (foldText styledTitle)) = true := by
  have hbold : isCapital '𝐍' = false := by
    apply LowerCase.isCapital_of_spells
    case hletters =>
      unfold LowerCase.letterTable
      repeat first | exact .nil | apply CodeTable.Spells.cons
    case h => decide +kernel
  have hparts : decompose '𝐍' = ['N'] := by decide +kernel
  have hsmall : lowerCase styledTitle.toList = styledTitle.toList := by
    refine lowerCase_eq_self_iff.2 (List.forall_mem_cons.2 ⟨hbold, ?_⟩)
    exact forall_mem_of_any (by decide +kernel)
  have hfold : foldText styledTitle = "Negative" := by
    have hcons : styledTitle.toList = '𝐍' :: "egative".toList := by decide +kernel
    rw [foldText, foldChars, hsmall, hcons, List.flatMap_cons, hparts]
    decide +kernel
  refine ⟨hfold, ?_, ?_, ?_⟩
  · rw [hfold]
    decide +kernel
  · rw [titleIsNegative_str, readsNegative, hfold]
    decide +kernel
  · rw [hfold]
    decide +kernel

end Prompt

end NodeWorkflow
