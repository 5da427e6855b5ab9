import Mathlib.Data.Nat.Bitwise
import NodeWorkflow.Text.Folded

/-!
# Tables of characters as a whole

What lower case, decompositions and marks have to do with one another is a matter of what their
tables hold: nothing but the tables says that a part of a character has no parts of its own, or that
the small form of a capital is no capital. Such facts are settled here by comparing whole tables.
A set of code points is kept as the bits of a number, so that two sets are compared in one step, and
the lines of the tables are given letter by letter, since a text in quotes is kept as bytes and its
letters are found only by undoing their encoding.

## Main definitions

* `CodeSet.range`, `CodeSet.ofList`, `CodeSet.union` — sets of code points.
* `CodeTable.Spells` — the letters of the lines of a table.
* `Characters.Tables` — the tables, and the sets of code points that they speak of.
* `Characters.Tables.IsClosed` — what the tables have to do with one another.

## Main statements

* `Characters.isClosed_tables` — the tables are closed.
-/

namespace NodeWorkflow

/-! ## Sets of code points -/

namespace CodeSet

/-- The code points from `first` to `last`. -/
def range (first last : Nat) : Nat :=
  (2 ^ (last + 1 - first) - 1) <<< first

/-- The code points in one of the sets. -/
def union : List Nat → Nat
  | [] => 0
  | s :: rest => s ||| union rest

/-- The code points of a list. -/
def ofList (codes : List Nat) : Nat :=
  union (codes.map (2 ^ ·))

theorem testBit_range {first last n : Nat} :
    (range first last).testBit n = true ↔ first ≤ n ∧ n ≤ last := by
  rw [range, Nat.testBit_shiftLeft, Nat.testBit_two_pow_sub_one, Bool.and_eq_true,
    decide_eq_true_eq, decide_eq_true_eq]
  omega

theorem testBit_union {sets : List Nat} {n : Nat} :
    (union sets).testBit n = true ↔ ∃ s ∈ sets, s.testBit n = true := by
  induction sets with
  | nil => simp [union]
  | cons s rest ih => simp [union, ih]

theorem testBit_ofList {codes : List Nat} {n : Nat} :
    (ofList codes).testBit n = true ↔ n ∈ codes := by
  simp [ofList, testBit_union, Nat.testBit_two_pow]

/-- No code point is in both of two sets that have nothing in common. -/
theorem false_of_testBit {s t n : Nat} (h : s &&& t = 0) (hs : s.testBit n = true)
    (ht : t.testBit n = true) : False := by
  have hboth := Nat.testBit_and s t n
  simp [h, hs, ht] at hboth

/-- What is in a set is in every set that it adds nothing to. -/
theorem testBit_of_or_eq {s t n : Nat} (h : s ||| t = t) (hs : s.testBit n = true) :
    t.testBit n = true := by
  rw [← h, Nat.testBit_or, hs, Bool.true_or]

end CodeSet

/-! ## Letters of tables -/

namespace CodeTable

/-- Lists of letters, and the lines that they make. -/
inductive Spells : List (List Char) → List String → Prop
  | nil : Spells [] []
  | cons (cs : List Char) {css : List (List Char)} {lines : List String} (h : Spells css lines) :
      Spells (cs :: css) (String.ofList cs :: lines)

/-- The rows of a line that is given letter by letter. -/
def letterRows (cs : List Char) : List (List Nat) :=
  let p := cs.foldl Progress.step ⟨[], [], 0⟩
  ((p.number :: p.row).reverse :: p.rows).reverse

theorem lineRows_ofList (cs : List Char) : lineRows (String.ofList cs) = letterRows cs := by
  rw [lineRows, letterRows, String.toList_ofList]

theorem rows_of_spells {css : List (List Char)} {lines : List String} (h : Spells css lines) :
    rows lines = css.flatMap letterRows := by
  induction h with
  | nil => rfl
  | cons cs _ ih => rw [rows, List.flatMap_cons, lineRows_ofList, ← rows, ih, List.flatMap_cons]

end CodeTable

/-! ## Decompositions -/

namespace Decomposition

/-- The code points that have an entry. -/
def Rows.apart (b : Rows) : Nat :=
  CodeSet.union (b.runs.map fun (first, last, _) => CodeSet.range first last) |||
    CodeSet.ofList (b.sequences.map Prod.fst)

/-- The code points that entries name as parts. -/
def Rows.parts (b : Rows) : Nat :=
  CodeSet.union
      (b.runs.map fun (first, last, target) => CodeSet.range target (target + (last - first))) |||
    CodeSet.ofList (b.sequences.flatMap Prod.snd)

/-- The code points with an entry that names one of the capitals. -/
def Rows.signs (capitals : Nat) (b : Rows) : Nat :=
  CodeSet.union
      (b.runs.map fun (first, last, target) =>
        (capitals >>> target) <<< first &&& CodeSet.range first last) |||
    CodeSet.ofList
      ((b.sequences.filter fun (_, targets) => targets.any capitals.testBit).map Prod.fst)

/-- What is looked up in a block comes from one of its rows. -/
theorem Rows.exists_of_lookup {b : Rows} {n : Nat} {targets : List Nat}
    (h : b.lookup n = some targets) :
    (n, targets) ∈ b.sequences ∨
      ∃ first last target, (first, last, target) ∈ b.runs ∧ first ≤ n ∧ n ≤ last ∧
        targets = [target + (n - first)] := by
  unfold Rows.lookup at h
  split at h
  case h_1 found hfound =>
    cases h
    obtain ⟨before, after, hsplit, -⟩ := List.lookup_eq_some_iff.1 hfound
    exact .inl (hsplit ▸ List.mem_append_cons_self)
  case h_2 =>
    obtain ⟨⟨first, last, target⟩, hfind, rfl⟩ := Option.map_eq_some_iff.1 h
    have hin := List.find?_some hfind
    simp only [Bool.and_eq_true, decide_eq_true_eq] at hin
    exact .inr ⟨first, last, target, List.mem_of_find?_eq_some hfind, hin.1, hin.2, rfl⟩

section Sets

variable {b : Rows} {n : Nat} {targets : List Nat}

theorem Rows.testBit_apart (h : b.lookup n = some targets) : b.apart.testBit n = true := by
  rw [apart, Nat.testBit_or, Bool.or_eq_true, CodeSet.testBit_union, CodeSet.testBit_ofList]
  rcases Rows.exists_of_lookup h with hmem | ⟨first, last, target, hrun, hfirst, hlast, -⟩
  · exact .inr (List.mem_map_of_mem hmem)
  · exact .inl ⟨_, List.mem_map_of_mem hrun, CodeSet.testBit_range.2 ⟨hfirst, hlast⟩⟩

theorem Rows.testBit_parts (h : b.lookup n = some targets) {t : Nat} (ht : t ∈ targets) :
    b.parts.testBit t = true := by
  rw [parts, Nat.testBit_or, Bool.or_eq_true, CodeSet.testBit_union, CodeSet.testBit_ofList]
  rcases Rows.exists_of_lookup h with hmem | ⟨first, last, target, hrun, hfirst, hlast, rfl⟩
  · exact .inr (List.mem_flatMap.2 ⟨_, hmem, ht⟩)
  · refine .inl ⟨_, List.mem_map_of_mem hrun, CodeSet.testBit_range.2 ?_⟩
    rw [List.mem_singleton.1 ht]
    omega

theorem Rows.testBit_signs {capitals : Nat} (h : b.lookup n = some targets) {t : Nat}
    (ht : t ∈ targets) (hcapital : capitals.testBit t = true) :
    (b.signs capitals).testBit n = true := by
  rw [signs, Nat.testBit_or, Bool.or_eq_true, CodeSet.testBit_union, CodeSet.testBit_ofList]
  rcases Rows.exists_of_lookup h with hmem | ⟨first, last, target, hrun, hfirst, hlast, rfl⟩
  · have hany : targets.any capitals.testBit = true := List.any_eq_true.2 ⟨t, ht, hcapital⟩
    exact .inr (List.mem_map_of_mem (List.mem_filter.2 ⟨hmem, hany⟩))
  · refine .inl ⟨_, List.mem_map_of_mem hrun, ?_⟩
    rw [List.mem_singleton.1 ht] at hcapital
    rw [Nat.testBit_and, Nat.testBit_shiftLeft, Nat.testBit_shiftRight, hcapital, Bool.and_true,
      Bool.and_eq_true, decide_eq_true_eq]
    exact ⟨hfirst, CodeSet.testBit_range.2 ⟨hfirst, hlast⟩⟩

end Sets

/-- A block letter by letter. -/
structure Spelling where
  first : Nat
  last : Nat
  runs : List (List Char)
  sequences : List (List Char)

/-- The rows of a block that is given letter by letter. -/
def Spelling.rows (s : Spelling) : Rows where
  first := s.first
  last := s.last
  runs := (s.runs.flatMap CodeTable.letterRows).filterMap fun
    | [first, last, target] => some (first, last, target)
    | _ => none
  sequences := (s.sequences.flatMap CodeTable.letterRows).filterMap fun
    | code :: next :: targets => some (code, next :: targets)
    | _ => none

/-- Blocks letter by letter, and the blocks as they are kept. -/
inductive Spells : List Spelling → List Block → Prop
  | nil : Spells [] []
  | cons {first last : Nat} {runLetters sequenceLetters : List (List Char)}
      {runs sequences : List String} {ss : List Spelling} {bs : List Block}
      (hruns : CodeTable.Spells runLetters runs)
      (hsequences : CodeTable.Spells sequenceLetters sequences) (h : Spells ss bs) :
      Spells (⟨first, last, runLetters, sequenceLetters⟩ :: ss) (⟨first, last, runs, sequences⟩ :: bs)

theorem rows_of_spells {ss : List Spelling} {bs : List Block} (h : Spells ss bs) :
    bs.map Block.rows = ss.map Spelling.rows := by
  induction h with
  | nil => rfl
  | cons hruns hsequences _ ih =>
    rw [List.map_cons, List.map_cons, ih, Block.rows, CodeTable.rows_of_spells hruns,
      CodeTable.rows_of_spells hsequences]
    rfl

end Decomposition

/-! ## Lower case -/

namespace LowerCase

/-- The capitals of a run with their small letters. -/
def Run.forms (r : Run) : List (Nat × Nat) :=
  (List.range ((r.last - r.first) / r.distance + 1)).map fun k =>
    (r.first + k * r.distance, r.small + k * r.distance)

theorem Run.mem_forms {r : Run} {n m : Nat} (h : r.small? n = some m) : (n, m) ∈ r.forms := by
  rw [small?, Option.ite_none_right_eq_some] at h
  obtain ⟨⟨hfirst, hlast, hmod⟩, hm⟩ := h
  have hwhole : (n - r.first) / r.distance * r.distance = n - r.first :=
    Nat.div_mul_cancel (Nat.dvd_of_mod_eq_zero hmod)
  have hcount : (n - r.first) / r.distance < (r.last - r.first) / r.distance + 1 :=
    Nat.lt_succ_of_le (Nat.div_le_div_right (by omega))
  refine List.mem_map.2 ⟨_, List.mem_range.2 hcount, ?_⟩
  rw [hwhole, ← Option.some.inj hm, Nat.add_sub_cancel' hfirst]

/-- The runs of a table that is given letter by letter. -/
def runsOf (letters : List (List Char)) : List Run :=
  (letters.flatMap CodeTable.letterRows).filterMap fun
    | [first, last, distance, small] => some { first, last, distance, small }
    | _ => none

theorem runs_of_spells {letters : List (List Char)} (h : CodeTable.Spells letters letterTable) :
    runs = runsOf letters := by
  rw [runs, CodeTable.rows_of_spells h]
  rfl

end LowerCase

namespace CombiningClass

/-- The ranges of a table that is given letter by letter. -/
def rowsOf (letters : List (List Char)) : List (Nat × Nat × Nat) :=
  (letters.flatMap CodeTable.letterRows).filterMap fun
    | [first, last, number] => some (first, last, number)
    | _ => none

theorem rows_of_spells {letters : List (List Char)} (h : CodeTable.Spells letters table) :
    rows = rowsOf letters := by
  rw [rows, CodeTable.rows_of_spells h]
  rfl

end CombiningClass

namespace Characters

/-- The tables of characters: decompositions, runs of capitals, and ranges of marks. -/
structure Tables where
  blocks : List Decomposition.Rows
  runs : List LowerCase.Run
  marks : List (Nat × Nat × Nat)

/-- The code points of characters. -/
def chars : Nat :=
  CodeSet.range 0 0xD7FF ||| CodeSet.range 0xE000 0x10FFFF

/-- The consonants and vowels that Hangul syllables are made of. -/
def jamo : Nat :=
  CodeSet.range 0x1100 0x11C2

namespace Tables

variable (t : Tables)

/-- The code points that are taken apart. -/
def apart : Nat :=
  CodeSet.range 0xAC00 0xD7A3 ||| CodeSet.union (t.blocks.map Decomposition.Rows.apart)

/-- The code points that are parts of others. -/
def parts : Nat :=
  jamo ||| CodeSet.union (t.blocks.map Decomposition.Rows.parts)

/-- The capitals with the small letters that may stand for them. -/
def forms : List (Nat × Nat) :=
  (List.range 26).map (fun k => (0x41 + k, 0x61 + k)) ++
    [(0x130, 0x69), (0x130, 0x307), (0x3A3, 0x3C2), (0x3A3, 0x3C3)] ++
      t.runs.flatMap LowerCase.Run.forms

def capitals : Nat :=
  CodeSet.ofList (t.forms.map Prod.fst)

def smalls : Nat :=
  CodeSet.ofList (t.forms.map Prod.snd)

/-- The small letters of those capitals that are parts of other characters. -/
def partSmalls : Nat :=
  CodeSet.ofList ((t.forms.filter fun (capital, _) => t.parts.testBit capital).map Prod.snd)

/-- The code points of which a capital is a part. -/
def signs : Nat :=
  CodeSet.union (t.blocks.map (Decomposition.Rows.signs t.capitals))

/-- The code points of marks. -/
def marked : Nat :=
  CodeSet.union (t.marks.map fun (first, last, _) => CodeSet.range first last)

/-- What the tables have to do with one another. -/
structure IsClosed : Prop where
  /-- Parts are characters. -/
  parts_chars : t.parts ||| chars = chars
  /-- Small letters are characters. -/
  smalls_chars : t.smalls ||| chars = chars
  /-- A part has no parts of its own. -/
  apart_parts : t.apart &&& t.parts = 0
  /-- A small letter is no capital. -/
  smalls_capitals : t.smalls &&& t.capitals = 0
  /-- No part of a small letter is a capital. -/
  smalls_signs : t.smalls &&& t.signs = 0
  /-- A capital is no mark. -/
  capitals_marked : t.capitals &&& t.marked = 0
  /-- Hangul has no capitals. -/
  jamo_capitals : jamo &&& t.capitals = 0
  /-- If a capital is a part, its small letter has no parts. -/
  partSmalls_apart : t.partSmalls &&& t.apart = 0
  /-- If a capital is a part, its small letter is no mark. -/
  partSmalls_marked : t.partSmalls &&& t.marked = 0

instance : Decidable t.IsClosed :=
  decidable_of_iff
    (t.parts ||| chars = chars ∧ t.smalls ||| chars = chars ∧ t.apart &&& t.parts = 0 ∧
      t.smalls &&& t.capitals = 0 ∧ t.smalls &&& t.signs = 0 ∧ t.capitals &&& t.marked = 0 ∧
      jamo &&& t.capitals = 0 ∧ t.partSmalls &&& t.apart = 0 ∧ t.partSmalls &&& t.marked = 0)
    ⟨fun ⟨h₁, h₂, h₃, h₄, h₅, h₆, h₇, h₈, h₉⟩ => ⟨h₁, h₂, h₃, h₄, h₅, h₆, h₇, h₈, h₉⟩,
      fun ⟨h₁, h₂, h₃, h₄, h₅, h₆, h₇, h₈, h₉⟩ => ⟨h₁, h₂, h₃, h₄, h₅, h₆, h₇, h₈, h₉⟩⟩

end Tables

theorem Tables.runs_mk (blocks : List Decomposition.Rows) (runs : List LowerCase.Run)
    (marks : List (Nat × Nat × Nat)) : (Tables.mk blocks runs marks).runs = runs := rfl

theorem Tables.marks_mk (blocks : List Decomposition.Rows) (runs : List LowerCase.Run)
    (marks : List (Nat × Nat × Nat)) : (Tables.mk blocks runs marks).marks = marks := rfl

/-- The tables as they are kept. -/
def tables : Tables where
  blocks := Decomposition.blocks
  runs := LowerCase.runs
  marks := CombiningClass.rows

-- `rfl` would begin to read the tables.
theorem runs_tables : tables.runs = LowerCase.runs := Tables.runs_mk ..

theorem marks_tables : tables.marks = CombiningClass.rows := Tables.marks_mk ..

section Spelled

open Decomposition

variable {ss : List Spelling} {capitals marks : List (List Char)}

theorem isClosed_of_spells
    (hblocks : Spells ss [latin, greekCyrillic, middle, phonetic, latinAdditional, greekExtended,
      symbols, eastAsian, ideographs, presentation, supplementary, mathematical, enclosed,
      ideographsSupplement])
    (hcapitals : CodeTable.Spells capitals LowerCase.letterTable)
    (hmarks : CodeTable.Spells marks CombiningClass.table)
    (h : (Tables.mk (ss.map Spelling.rows) (LowerCase.runsOf capitals)
      (CombiningClass.rowsOf marks)).IsClosed) : tables.IsClosed := by
  rwa [← rows_of_spells hblocks, ← LowerCase.runs_of_spells hcapitals,
    ← CombiningClass.rows_of_spells hmarks] at h

/-- **The tables are closed.** The letters of all tables are found by unification, and the sets are
compared by evaluation. -/
theorem isClosed_tables : tables.IsClosed := by
  apply isClosed_of_spells
  case hblocks =>
    simp only [latin, greekCyrillic, middle, phonetic, latinAdditional, greekExtended, symbols,
      eastAsian, ideographs, presentation, supplementary, mathematical, enclosed,
      ideographsSupplement]
    repeat first | exact .nil | apply Spells.cons | apply CodeTable.Spells.cons
  case hcapitals =>
    unfold LowerCase.letterTable
    repeat first | exact .nil | apply CodeTable.Spells.cons
  case hmarks =>
    unfold CombiningClass.table
    repeat first | exact .nil | apply CodeTable.Spells.cons
  case h => decide +kernel

end Spelled

/-! ## Code points and the sets of the tables -/

section Sets

open Decomposition

variable {n m t : Nat} {targets : List Nat}

/-- What is looked up is found by the rule for Hangul or in a block. -/
theorem exists_of_lookup (h : lookup n = some targets) :
    (0xAC00 ≤ n ∧ n ≤ 0xD7A3 ∧ targets = ofHangul (n - 0xAC00)) ∨
      ∃ b ∈ blocks, b.lookup n = some targets := by
  unfold lookup at h
  split at h
  · cases h
  · split at h
    case isTrue hrange => exact .inl ⟨hrange.1, hrange.2, (Option.some.inj h).symm⟩
    case isFalse =>
      obtain ⟨b, hfind, hlookup⟩ := Option.bind_eq_some_iff.1 h
      exact .inr ⟨b, List.mem_of_find?_eq_some hfind, hlookup⟩

theorem testBit_jamo_of_mem_ofHangul {index : Nat} (h : index ≤ 0xD7A3 - 0xAC00)
    (ht : t ∈ ofHangul index) : jamo.testBit t = true := by
  rw [jamo, CodeSet.testBit_range]
  simp only [ofHangul, List.cons_append, List.nil_append, List.mem_cons] at ht
  rcases ht with rfl | rfl | ht
  · omega
  · omega
  · split at ht
    · cases ht
    · rw [List.mem_singleton.1 ht]
      omega

theorem testBit_apart_of_lookup (h : lookup n = some targets) :
    tables.apart.testBit n = true := by
  rw [Tables.apart, Nat.testBit_or, Bool.or_eq_true, CodeSet.testBit_union]
  rcases exists_of_lookup h with ⟨hfirst, hlast, -⟩ | ⟨b, hb, hlookup⟩
  · exact .inl (CodeSet.testBit_range.2 ⟨hfirst, hlast⟩)
  · exact .inr ⟨_, List.mem_map_of_mem hb, Rows.testBit_apart hlookup⟩

theorem testBit_parts_of_lookup (h : lookup n = some targets) (ht : t ∈ targets) :
    tables.parts.testBit t = true := by
  rw [Tables.parts, Nat.testBit_or, Bool.or_eq_true, CodeSet.testBit_union]
  rcases exists_of_lookup h with ⟨-, hlast, rfl⟩ | ⟨b, hb, hlookup⟩
  · exact .inl (testBit_jamo_of_mem_ofHangul (by omega) ht)
  · exact .inr ⟨_, List.mem_map_of_mem hb, Rows.testBit_parts hlookup ht⟩

theorem testBit_signs_of_lookup (h : lookup n = some targets) (ht : t ∈ targets)
    (hcapital : tables.capitals.testBit t = true) : tables.signs.testBit n = true := by
  rw [Tables.signs, CodeSet.testBit_union]
  rcases exists_of_lookup h with ⟨-, hlast, rfl⟩ | ⟨b, hb, hlookup⟩
  · have hjamo := testBit_jamo_of_mem_ofHangul (by omega) ht
    exact (CodeSet.false_of_testBit isClosed_tables.jamo_capitals hjamo hcapital).elim
  · exact ⟨_, List.mem_map_of_mem hb, Rows.testBit_signs hlookup ht hcapital⟩

/-- A code point of a character is that of the character read from it. -/
theorem toNat_ofNat_of_testBit_chars (h : chars.testBit n = true) : (Char.ofNat n).toNat = n := by
  rw [chars, Nat.testBit_or, Bool.or_eq_true, CodeSet.testBit_range, CodeSet.testBit_range] at h
  have hvalid : n.isValidChar := by
    rw [Nat.isValidChar]
    omega
  rw [Char.ofNat, dif_pos hvalid]
  rfl

theorem toNat_ofNat_of_testBit_parts (h : tables.parts.testBit t = true) :
    (Char.ofNat t).toNat = t :=
  toNat_ofNat_of_testBit_chars (CodeSet.testBit_of_or_eq isClosed_tables.parts_chars h)

/-- A part has no parts of its own. -/
theorem lookup_of_testBit_parts (h : tables.parts.testBit t = true) : lookup t = none := by
  apply Option.eq_none_iff_forall_ne_some.2
  intro targets hlookup
  exact CodeSet.false_of_testBit isClosed_tables.apart_parts (testBit_apart_of_lookup hlookup) h

theorem testBit_capitals_of_mem_forms (h : (n, m) ∈ tables.forms) :
    tables.capitals.testBit n = true :=
  CodeSet.testBit_ofList.2 (List.mem_map_of_mem h)

theorem testBit_smalls_of_mem_forms (h : (n, m) ∈ tables.forms) :
    tables.smalls.testBit m = true :=
  CodeSet.testBit_ofList.2 (List.mem_map_of_mem h)

theorem toNat_ofNat_of_mem_forms (h : (n, m) ∈ tables.forms) : (Char.ofNat m).toNat = m := by
  have hsmall := testBit_smalls_of_mem_forms h
  exact toNat_ofNat_of_testBit_chars
    (CodeSet.testBit_of_or_eq isClosed_tables.smalls_chars hsmall)

theorem testBit_partSmalls_of_mem_forms (h : (n, m) ∈ tables.forms)
    (hpart : tables.parts.testBit n = true) : tables.partSmalls.testBit m = true :=
  CodeSet.testBit_ofList.2 (List.mem_map_of_mem (List.mem_filter.2 ⟨h, hpart⟩))

/-- A mark lies in one of the ranges. -/
theorem exists_of_isMark {c : Char} (h : isMark c = true) :
    ∃ r ∈ CombiningClass.rows, r.1 ≤ c.toNat ∧ c.toNat ≤ r.2.1 := by
  have hclass : combiningClass c ≠ 0 := by simpa [isMark] using h
  unfold combiningClass at hclass
  split at hclass
  · exact absurd rfl hclass
  · split at hclass
    case h_1 first last number hfind =>
      have hin := List.find?_some hfind
      simp only [Bool.and_eq_true, decide_eq_true_eq] at hin
      exact ⟨_, List.mem_of_find?_eq_some hfind, hin⟩
    case h_2 => exact absurd rfl hclass

theorem testBit_marked_of_isMark {c : Char} (h : isMark c = true) :
    tables.marked.testBit c.toNat = true := by
  obtain ⟨r, hmem, hin⟩ := exists_of_isMark h
  rw [← marks_tables] at hmem
  exact CodeSet.testBit_union.2 ⟨_, List.mem_map_of_mem hmem, CodeSet.testBit_range.2 hin⟩

end Sets

end Characters

end NodeWorkflow
