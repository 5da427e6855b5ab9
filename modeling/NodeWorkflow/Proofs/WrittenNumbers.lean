import Mathlib.Data.List.Forall2
import Mathlib.Data.Nat.Digits.Defs
import Mathlib.Tactic.Positivity
import NodeWorkflow.Editor.Link
import NodeWorkflow.Proofs.Keys

/-!
# Numbers written in links

The numbers of a link may be saved as whole numbers, as floating point numbers and as text. A text
is read in two steps: a first look lets through digits of every kind, any count of minus signs and
any blanks, and only then the digits are read. What passes both is told here as a grammar, and what
a program writes for a number is shown to be read back as that number, in a link saved as a list and
in one saved as an object.

## Main definitions

* `Decimal.Denotes` — the numerals and the numbers they denote.
* `Magnitude.value?` — the rational number that a floating point number is.
* `Editor.Writes` — the ways to save a whole number.
* `Editor.Saves` — the ways to save a link.

## Main statements

* `Binary64.toInt?_eq_some_iff` — a float is read as the whole number it equals.
* `Editor.linkNumber_str_iff` — which texts are numbers, and which numbers they are.
* `Editor.linkNumber_of_writes` — a number is read back however it was saved.
* `Editor.ofJson_of_saves` — so is a link, in either form.
-/

namespace NodeWorkflow

theorem not_space {c : Char} (h : isBlank c = false) : isSpace c = false := by
  simp only [isBlank, Bool.or_eq_false_iff] at h
  exact h.1

/-! ## Digits -/

theorem decimalDigit?_of_isDigit {c : Char} (h : c.isDigit = true) :
    decimalDigit? c = some (c.toNat - '0'.toNat) := by
  have hrange := toNat_of_isDigit h
  have hzero : digitZeros.find? (fun z => z ≤ c.toNat && c.toNat < z + 10) = some '0'.toNat := by
    refine List.find?_cons_of_pos ?_
    simp only [Bool.and_eq_true, decide_eq_true_eq]
    omega
  rw [decimalDigit?, hzero, Option.map_some]

/-- No script has a digit that is blank. -/
theorem isBlank_of_decimal {c : Char} {d : Nat} (h : decimalDigit? c = some d) :
    isBlank c = false := by
  have hzeros : ∀ z ∈ digitZeros, ∀ k < 10, isBlank (Char.ofNat (z + k)) = false := by
    decide +kernel
  simp only [decimalDigit?, Option.map_eq_some_iff] at h
  obtain ⟨z, hz, -⟩ := h
  have hin := List.find?_some hz
  simp only [Bool.and_eq_true, decide_eq_true_eq] at hin
  have hsum : z + (c.toNat - z) = c.toNat := by omega
  have hblank := hzeros z (List.mem_of_find?_eq_some hz) (c.toNat - z) (by omega)
  rwa [hsum, Char.ofNat_toNat] at hblank

theorem digitsValue_eq_ofDigits (values : List Nat) :
    digitsValue values = Nat.ofDigits 10 values.reverse := by
  rw [Nat.ofDigits_eq_foldr, List.foldr_reverse, digitsValue]
  congr 1
  funext n d
  rw [Nat.add_comm]
  rfl

/-! ## Floating point numbers -/

/-- The rational number that a number in double precision is. -/
def Magnitude.value? : Magnitude → Option ℚ
  | .finite negative coefficient power => some (signed negative coefficient * 2 ^ power)
  | _ => none

theorem signed_mul (negative : Bool) (a b : Nat) :
    signed negative (a * b) = signed negative a * b := by
  cases negative <;> simp [signed]

theorem natAbs_signed (negative : Bool) (a : Nat) : (signed negative a).natAbs = a := by
  cases negative <;> simp [signed]

/-- A whole magnitude in terms of products alone: one of the two powers is one. -/
theorem Magnitude.isWhole_and_whole_iff {m a : Nat} {q : Int} :
    (isWhole m q = true ∧ whole m q = a) ↔ a * 2 ^ (-q).toNat = m * 2 ^ q.toNat := by
  rw [isWhole, whole]
  by_cases hq : 0 ≤ q
  · have hzero : (-q).toNat = 0 := by omega
    simp [hq, hzero, eq_comm]
  · have hzero : q.toNat = 0 := by omega
    have hpos : 0 < 2 ^ (-q).toNat := by positivity
    simp only [hq, decide_false, Bool.false_or, beq_iff_eq, if_false, hzero, pow_zero, mul_one]
    constructor
    · rintro ⟨hdvd, rfl⟩
      exact Nat.div_mul_cancel (Nat.dvd_of_mod_eq_zero hdvd)
    · rintro rfl
      exact ⟨Nat.mul_mod_left a _, Nat.mul_div_cancel a hpos⟩

/-- The same for the number with its sign. -/
theorem Magnitude.value?_finite_iff {negative : Bool} {m : Nat} {q n : Int} :
    (finite negative m q).value? = some (n : ℚ) ↔
      n * 2 ^ (-q).toNat = signed negative (m * 2 ^ q.toNat) := by
  have hpower : (2 : ℚ) ^ q * 2 ^ (-q).toNat = 2 ^ q.toNat := by
    rw [← zpow_natCast, ← zpow_natCast, ← zpow_add₀ two_ne_zero]
    congr 1
    omega
  rw [value?, Option.some.injEq, ← mul_left_inj' (pow_ne_zero (-q).toNat (two_ne_zero' ℚ)),
    mul_assoc, hpower, signed_mul, eq_comm]
  norm_cast

/-- **A float is read as the whole number that it equals.** -/
theorem Binary64.toInt?_eq_some_iff {x : Float} {n : Int} :
    toInt? x = some n ↔ (Magnitude.ofFloat x).value? = some (n : ℚ) := by
  rw [toInt?]
  cases Magnitude.ofFloat x with
  | notANumber | infinite => simp [Magnitude.value?]
  | finite negative m q =>
      simp only [Magnitude.value?_finite_iff]
      constructor
      · intro h
        split at h
        next hwhole =>
          obtain rfl := Option.some.inj h
          rw [← Magnitude.isWhole_and_whole_iff.mp ⟨hwhole, rfl⟩, signed_mul]
          norm_cast
        next => cases h
      · intro h
        have habs := congrArg Int.natAbs h
        rw [Int.natAbs_mul, natAbs_signed, Int.natAbs_pow] at habs
        obtain ⟨hwhole, heq⟩ := Magnitude.isWhole_and_whole_iff.mpr habs
        have hcancel : signed negative n.natAbs * 2 ^ (-q).toNat = n * 2 ^ (-q).toNat := by
          rw [h, ← habs, signed_mul]
          norm_cast
        rw [if_pos hwhole, heq]
        exact congrArg some (mul_right_cancel₀ (pow_ne_zero _ two_ne_zero) hcancel)

/-! ## Numerals -/

namespace Decimal

/-- Characters that are decimal digits of the given values. -/
abbrev AreDigits (cs : List Char) (values : List Nat) : Prop :=
  List.Forall₂ (fun c d => decimalDigit? c = some d) cs values

/-- The numerals and the numbers that they denote: decimal digits of any script, one at least, the
last of which counts once and every other ten times what the next one counts, behind one minus sign
or none. -/
inductive Denotes : List Char → Int → Prop
  | plain {digits : List Char} {values : List Nat} (hne : digits ≠ [])
      (h : AreDigits digits values) : Denotes digits (Nat.ofDigits 10 values.reverse : Nat)
  | minus {digits : List Char} {values : List Nat} (hne : digits ≠ [])
      (h : AreDigits digits values) :
      Denotes ('-' :: digits) (-(Nat.ofDigits 10 values.reverse : Nat))

section Digits

variable {cs : List Char} {values : List Nat}

theorem digitValues?_eq_some_iff : digitValues? cs = some values ↔ AreDigits cs values := by
  unfold AreDigits
  induction cs generalizing values with
  | nil =>
      rw [digitValues?, List.mapM_nil, List.forall₂_nil_left_iff]
      simp [eq_comm]
  | cons c cs ih =>
      simp only [digitValues?, List.mapM_cons, List.forall₂_cons_left_iff, ← ih]
      simp [Option.bind_eq_some_iff, @eq_comm _ values]

theorem AreDigits.isSome (h : AreDigits cs values) {c : Char} (hc : c ∈ cs) :
    (decimalDigit? c).isSome = true := by
  induction h with
  | nil => cases hc
  | cons hd _ ih =>
      rcases List.mem_cons.mp hc with rfl | hc
      · rw [hd]
        rfl
      · exact ih hc

theorem AreDigits.not_blank (h : AreDigits cs values) {c : Char} (hc : c ∈ cs) :
    isBlank c = false :=
  have ⟨_, hd⟩ := Option.isSome_iff_exists.mp (h.isSome hc)
  isBlank_of_decimal hd

/-- Every character of a numeral is the minus sign or a digit. -/
theorem Denotes.eq_minus_or_isSome {n : Int} (h : Denotes cs n) {c : Char} (hc : c ∈ cs) :
    c = '-' ∨ (decimalDigit? c).isSome = true := by
  cases h with
  | plain _ h => exact .inr (h.isSome hc)
  | minus _ h => exact (List.mem_cons.mp hc).imp_right h.isSome

theorem Denotes.not_blank {n : Int} (h : Denotes cs n) {c : Char} (hc : c ∈ cs) :
    isBlank c = false := by
  rcases h.eq_minus_or_isSome hc with rfl | hd
  · decide
  · exact isBlank_of_decimal (Option.isSome_iff_exists.mp hd).choose_spec

/-- A numeral has nothing at its ends that could be trimmed. -/
theorem Denotes.trimWhere_eq {n : Int} (h : Denotes cs n) {p : Char → Bool}
    (hp : ∀ c, isBlank c = false → p c = false) : trimWhere p cs = cs :=
  trimWhere_eq_self (fun c hc => hp c (h.not_blank (List.mem_of_mem_head? hc)))
    fun c hc => hp c (h.not_blank (List.mem_of_mem_getLast? hc))

end Digits

/-- What decimal digits, one at least, denote. -/
def unsigned? (digits : List Char) : Option Nat :=
  if digits.isEmpty then none else (digitValues? digits).map digitsValue

theorem unsigned?_eq_some_iff {digits : List Char} {m : Nat} :
    unsigned? digits = some m ↔
      digits ≠ [] ∧ ∃ values, AreDigits digits values ∧ Nat.ofDigits 10 values.reverse = m := by
  rw [unsigned?]
  split
  next hempty => simp [List.isEmpty_iff.mp hempty]
  next hne =>
    rw [Option.map_eq_some_iff]
    simp only [digitValues?_eq_some_iff, digitsValue_eq_ofDigits, List.isEmpty_iff] at hne ⊢
    exact (and_iff_right hne).symm

theorem wholeNumber?_eq (text : List Char) :
    wholeNumber? text =
      match trimWhere isSpace text with
      | '-' :: digits => (unsigned? digits).map fun m : Nat => -(m : Int)
      | '+' :: digits => (unsigned? digits).map Int.ofNat
      | digits => (unsigned? digits).map Int.ofNat := by
  rw [wholeNumber?]
  change (match trimWhere isSpace text with
    | '-' :: digits => (unsigned? digits >>= fun m => some (m : Int)).map fun n => -n
    | '+' :: digits => (unsigned? digits).map Int.ofNat
    | digits => (unsigned? digits).map Int.ofNat) = _
  simp only [Option.bind_eq_bind, Option.map_bind]
  congr 1
  funext digits
  rw [Option.map_eq_bind]
  rfl

/-- **The whole number in a text without a plus sign is what the text denotes.** -/
theorem wholeNumber?_eq_some_iff {text : List Char} {n : Int}
    (hplus : '+' ∉ trimWhere isSpace text) :
    wholeNumber? text = some n ↔ Denotes (trimWhere isSpace text) n := by
  rw [wholeNumber?_eq]
  generalize trimWhere isSpace text = core at hplus
  constructor
  · intro h
    split at h <;> obtain ⟨m, hm, rfl⟩ := Option.map_eq_some_iff.mp h <;>
      obtain ⟨hne, values, hdigits, rfl⟩ := unsigned?_eq_some_iff.mp hm
    next => exact .minus hne hdigits
    next => exact absurd List.mem_cons_self hplus
    next => exact .plain hne hdigits
  · rintro (⟨hne, hdigits⟩ | ⟨hne, hdigits⟩) <;>
      have hvalue := unsigned?_eq_some_iff.mpr ⟨hne, _, hdigits, rfl⟩
    case minus =>
      change (unsigned? _).map _ = _
      rw [hvalue]
      rfl
    case plain =>
      split
      next => cases hdigits with | cons hd => cases hd
      next => exact absurd List.mem_cons_self hplus
      next => rw [hvalue]; rfl

/-! ## Counts of digits -/

theorem digitCount_append_left {before : List Char} (hbefore : ∀ c ∈ before, isSpace c = true)
    (cs : List Char) : digitCount (before ++ cs) = digitCount cs := by
  rw [digitCount, List.dropWhile_append_of_pos hbefore, ← digitCount.eq_def]

section Counting

variable {digits after : List Char} {values : List Nat}

theorem takeWhile_digits (h : AreDigits digits values) (hafter : ∀ c ∈ after, isSpace c = true) :
    (digits ++ after).takeWhile (fun c => (decimalDigit? c).isSome) = digits := by
  rw [List.takeWhile_append_of_pos fun c hc => h.isSome hc]
  have hnone : after.takeWhile (fun c => (decimalDigit? c).isSome) = [] := by
    cases after with
    | nil => rfl
    | cons c after =>
        refine List.takeWhile_cons_of_neg fun hdigit => ?_
        obtain ⟨d, hd⟩ := Option.isSome_iff_exists.mp hdigit
        have hblank := isBlank_of_isSpace (hafter c List.mem_cons_self)
        rw [isBlank_of_decimal hd] at hblank
        cases hblank
  rw [hnone, List.append_nil]

theorem digitCount_minus (h : AreDigits digits values) (hafter : ∀ c ∈ after, isSpace c = true) :
    digitCount ('-' :: digits ++ after) = digits.length := by
  change ((digits ++ after).takeWhile _).length = _
  rw [takeWhile_digits h hafter]

theorem digitCount_plain (hne : digits ≠ []) (h : AreDigits digits values)
    (hafter : ∀ c ∈ after, isSpace c = true) :
    digitCount (digits ++ after) = digits.length := by
  obtain ⟨c, cs, rfl⟩ := List.exists_cons_of_ne_nil hne
  have hdigit := h.isSome List.mem_cons_self
  have hspace : isSpace c = false := not_space (h.not_blank List.mem_cons_self)
  have hfirst : (c :: cs ++ after).dropWhile isSpace = c :: cs ++ after := by
    simp [hspace]
  have hcount := congrArg List.length (takeWhile_digits h hafter)
  rw [digitCount, hfirst]
  split
  next heq =>
    obtain ⟨rfl, -⟩ := List.cons.inj heq
    exact absurd hdigit (by decide)
  next heq =>
    obtain ⟨rfl, -⟩ := List.cons.inj heq
    exact absurd hdigit (by decide)
  next => exact hcount

end Counting

/-! ## Numbers as text -/

theorem areDigits_toDigits (m : Nat) :
    AreDigits (Nat.toDigits 10 m) ((Nat.toDigits 10 m).map fun c => c.toNat - '0'.toNat) := by
  rw [AreDigits, List.forall₂_map_right_iff, List.forall₂_same]
  exact fun c hc =>
    decimalDigit?_of_isDigit (Nat.isDigit_of_mem_toDigits (by decide) (by decide) hc)

theorem ofDigits_toDigits (m : Nat) :
    Nat.ofDigits 10 ((Nat.toDigits 10 m).map fun c => c.toNat - '0'.toNat).reverse = m := by
  rw [← digitsValue_eq_ofDigits, digitsValue, List.foldl_map]
  exact Nat.ofDigitChars_toDigits (by decide) (by decide)

/-- **The text of a number denotes the number.** -/
theorem denotes_toString (n : Int) : Denotes (toString n).toList n := by
  rw [toList_toString]
  split
  next hneg =>
    have h := Denotes.minus Nat.toDigits_ne_nil (areDigits_toDigits n.natAbs)
    rwa [ofDigits_toDigits, Int.ofNat_natAbs_of_nonpos (by omega), Int.neg_neg] at h
  next hneg =>
    have h := Denotes.plain Nat.toDigits_ne_nil (areDigits_toDigits n.natAbs)
    rwa [ofDigits_toDigits, Int.natAbs_of_nonneg (by omega)] at h

theorem digitCount_toString {before after : List Char} (hbefore : ∀ c ∈ before, isSpace c = true)
    (hafter : ∀ c ∈ after, isSpace c = true) (n : Int) :
    digitCount (before ++ (toString n).toList ++ after) = (Nat.toDigits 10 n.natAbs).length := by
  rw [List.append_assoc, digitCount_append_left hbefore, toList_toString]
  split
  next => exact digitCount_minus (areDigits_toDigits n.natAbs) hafter
  next => exact digitCount_plain Nat.toDigits_ne_nil (areDigits_toDigits n.natAbs) hafter

end Decimal

namespace Editor

open Decimal (Denotes)

/-! ## Texts -/

/-- What looks like a number has no characters in it but minus signs, digits and blanks. -/
theorem of_looksNumeric {text : List Char} (h : looksNumeric text = true) {c : Char}
    (hc : c ∈ text) : c = '-' ∨ isDigitLike c = true ∨ isBlank c = true := by
  simp only [looksNumeric, Bool.and_eq_true, List.all_eq_true] at h
  by_cases hblank : isBlank c = true
  · exact .inr (.inr hblank)
  · have hmem := mem_trimWhere hc (Bool.eq_false_iff.mpr hblank)
    rw [← List.takeWhile_append_dropWhile (p := (· == '-')) (l := trimWhere isBlank text),
      List.mem_append] at hmem
    rcases hmem with hsign | hdigit
    · exact .inl (beq_iff_eq.mp (List.all_eq_true.mp List.all_takeWhile c hsign))
    · exact .inr (.inl (h.2 c hdigit))

theorem dropWhile_minus {digits : List Char} {values : List Nat}
    (h : Decimal.AreDigits digits values) : digits.dropWhile (· == '-') = digits := by
  cases h with
  | nil => rfl
  | @cons c d cs ds hd hrest =>
      refine List.dropWhile_cons_of_neg fun hminus => ?_
      obtain rfl := beq_iff_eq.mp hminus
      cases hd

/-- A numeral with white space around looks like a number. -/
theorem looksNumeric_of_denotes {text : List Char} {n : Int}
    (h : Denotes (trimWhere isSpace text) n) : looksNumeric text = true := by
  obtain ⟨before, after, htext, hbefore, hafter⟩ := exists_eq_append_trimWhere isSpace text
  -- The first look trims more than the reading does, but a numeral has none of it at its ends.
  have hcore : trimWhere isBlank text = trimWhere isSpace text := by
    rw [htext, trimWhere_append (fun c hc => isBlank_of_isSpace (hbefore c hc))
      fun c hc => isBlank_of_isSpace (hafter c hc), ← htext, h.trimWhere_eq fun _ hc => hc]
  have hlooks : ∀ {digits : List Char} {values : List Nat}, digits ≠ [] →
      Decimal.AreDigits digits values →
        (!(digits.dropWhile (· == '-')).isEmpty &&
          (digits.dropWhile (· == '-')).all isDigitLike) = true := by
    intro digits values hne hdigits
    rw [dropWhile_minus hdigits, Bool.and_eq_true, List.all_eq_true]
    exact ⟨by simpa using hne, fun c hc => isDigitLike_of_decimal (hdigits.isSome hc)⟩
  rw [looksNumeric, hcore]
  generalize trimWhere isSpace text = core at h
  cases h with
  | plain hne hdigits => exact hlooks hne hdigits
  | minus hne hdigits =>
      rw [List.dropWhile_cons_of_pos (p := (· == '-')) rfl]
      exact hlooks hne hdigits

/-- The two steps in which a text is read. -/
theorem linkNumber_str_eq_ok_iff {text : String} {n : Int} :
    linkNumber (.str text) = .ok n ↔ looksNumeric text.toList = true ∧
      Decimal.digitCount text.toList ≤ Decimal.digitLimit ∧
        Decimal.wholeNumber? text.toList = some n := by
  rw [linkNumber]
  split
  next hlooks =>
    rw [numeral]
    split
    next hlong => simp [hlooks, Nat.not_le.mpr hlong]
    next hshort => split <;> simp_all
  next hlooks => simp [hlooks]

/-- **Which texts are numbers, and which numbers they are.** -/
theorem linkNumber_str_iff {text : String} {n : Int} :
    linkNumber (.str text) = .ok n ↔
      Denotes (trimWhere isSpace text.toList) n ∧
        Decimal.digitCount text.toList ≤ Decimal.digitLimit := by
  rw [linkNumber_str_eq_ok_iff]
  -- A plus sign could be read, so that only the first look keeps it out.
  constructor
  · rintro ⟨hlooks, hshort, hnumber⟩
    have hplus : '+' ∉ trimWhere isSpace text.toList := fun hmem =>
      absurd (of_looksNumeric hlooks (mem_of_mem_trimWhere hmem)) (by decide)
    exact ⟨(Decimal.wholeNumber?_eq_some_iff hplus).mp hnumber, hshort⟩
  · rintro ⟨hdenotes, hshort⟩
    have hplus : '+' ∉ trimWhere isSpace text.toList := fun hmem =>
      absurd (hdenotes.eq_minus_or_isSome hmem) (by decide)
    exact ⟨looksNumeric_of_denotes hdenotes, hshort,
      (Decimal.wholeNumber?_eq_some_iff hplus).mpr hdenotes⟩

/-- A text that is no number is refused. -/
theorem linkNumber_str_eq_error_iff {text : String} :
    (∃ fault, linkNumber (.str text) = .error fault) ↔
      ¬∃ n, Denotes (trimWhere isSpace text.toList) n ∧
        Decimal.digitCount text.toList ≤ Decimal.digitLimit := by
  cases h : linkNumber (.str text) with
  | error fault =>
      refine iff_of_true ⟨fault, rfl⟩ ?_
      rintro ⟨n, hn⟩
      rw [linkNumber_str_iff.mpr hn] at h
      cases h
  | ok n =>
      refine iff_of_false (fun ⟨fault, hfault⟩ => by cases hfault) (not_not_intro ⟨n, ?_⟩)
      exact linkNumber_str_iff.mp h

/-! ## Links -/

/-- The ways to save a whole number: as it is, as a floating point number that equals it, and as its
text, with any white space around. A text has no more digits than are read. -/
inductive Writes (n : Int) : Json → Prop
  | int : Writes n (.int n)
  | float {x : Float} (h : (Magnitude.ofFloat x).value? = some (n : ℚ)) : Writes n (.float x)
  | text {before after : List Char} (hbefore : ∀ c ∈ before, isSpace c = true)
      (hafter : ∀ c ∈ after, isSpace c = true) (hshort : n.natAbs < 10 ^ Decimal.digitLimit) :
      Writes n (.str (String.ofList (before ++ (toString n).toList ++ after)))

/-- The ways to save a link: as a list of its five numbers, with its type behind them unless it has
none, and as an object. -/
inductive Saves (link : Link) : Json → Prop
  | list {id source sourceSlot target targetSlot : Json} {rest : List Json}
      (hid : Writes link.id id) (hsource : Writes link.source source)
      (hsourceSlot : Writes link.sourceSlot sourceSlot) (htarget : Writes link.target target)
      (htargetSlot : Writes link.targetSlot targetSlot)
      (htype : linkType (rest.head?.getD .null) = link.type) :
      Saves link (.arr (id :: source :: sourceSlot :: target :: targetSlot :: rest))
  | object {fields : Fields} (hid : Writes link.id (Fields.value fields "id"))
      (hsource : Writes link.source (Fields.value fields "origin_id"))
      (hsourceSlot : Writes link.sourceSlot (Fields.value fields "origin_slot"))
      (htarget : Writes link.target (Fields.value fields "target_id"))
      (htargetSlot : Writes link.targetSlot (Fields.value fields "target_slot"))
      (htype : linkType (Fields.value fields "type") = link.type) : Saves link (.obj fields)

/-- **A number is read back however it was saved.** -/
theorem linkNumber_of_writes {n : Int} {v : Json} (h : Writes n v) : linkNumber v = .ok n := by
  cases h with
  | int => rfl
  | float h =>
      rw [linkNumber, Binary64.toInt?_eq_some_iff.mpr h]
  | @text before after hbefore hafter hshort =>
      have hdenotes := Decimal.denotes_toString n
      rw [linkNumber_str_iff, String.toList_ofList, trimWhere_append hbefore hafter,
        hdenotes.trimWhere_eq fun _ => not_space, Decimal.digitCount_toString hbefore hafter]
      refine ⟨hdenotes, ?_⟩
      exact (Nat.length_toDigits_le_iff (by decide) (by decide)).mpr hshort

theorem ofParts_of_writes {link : Link} {id source sourceSlot target targetSlot type : Json}
    (hid : Writes link.id id) (hsource : Writes link.source source)
    (hsourceSlot : Writes link.sourceSlot sourceSlot) (htarget : Writes link.target target)
    (htargetSlot : Writes link.targetSlot targetSlot) (htype : linkType type = link.type) :
    Link.ofParts id source sourceSlot target targetSlot type = .ok link := by
  rw [Link.ofParts, linkNumber_of_writes hid, linkNumber_of_writes hsource,
    linkNumber_of_writes hsourceSlot, linkNumber_of_writes htarget,
    linkNumber_of_writes htargetSlot, htype]
  rfl

/-- **A link is read back however it was saved.** -/
theorem ofJson_of_saves {link : Link} {entry : Json} (h : Saves link entry) :
    Link.ofJson entry = .ok link := by
  cases h with
  | list hid hsource hsourceSlot htarget htargetSlot htype =>
      exact ofParts_of_writes hid hsource hsourceSlot htarget htargetSlot htype
  | object hid hsource hsourceSlot htarget htargetSlot htype =>
      exact ofParts_of_writes hid hsource hsourceSlot htarget htargetSlot htype

/-- **Which texts are numbers, and how links are read whose numbers are saved in any of the ways.**
A text is a number exactly if it is a numeral with white space around, and any other is refused; and
a saved link is read as the link it saves, in either form and whichever way each number is saved. -/
theorem linkNumber_str_iff_and_ofJson_of_saves :
    (∀ (text : String) (n : Int), linkNumber (.str text) = .ok n ↔
      Denotes (trimWhere isSpace text.toList) n ∧
        Decimal.digitCount text.toList ≤ Decimal.digitLimit) ∧
    (∀ text : String, (∃ fault, linkNumber (.str text) = .error fault) ↔
      ¬∃ n, Denotes (trimWhere isSpace text.toList) n ∧
        Decimal.digitCount text.toList ≤ Decimal.digitLimit) ∧
    ∀ (link : Link) (entry : Json), Saves link entry → Link.ofJson entry = .ok link :=
  ⟨fun _ _ => linkNumber_str_iff, fun _ => linkNumber_str_eq_error_iff,
    fun _ _ => ofJson_of_saves⟩

/-- The theorem at a link whose numbers are saved in several ways. -/
theorem linkNumber_str_iff_and_ofJson_of_saves_padded :
    Link.ofJson
        (.arr [.str " 4\n", .int 11, .str "0", .str "\u3000-2", .int 1, .str "MODEL"]) =
      .ok { id := 4, source := 11, sourceSlot := 0, target := -2, targetSlot := 1,
            type := "MODEL" } := by
  have hshort : ∀ n : Int, n.natAbs < 10 → n.natAbs < 10 ^ Decimal.digitLimit := fun n h =>
    h.trans_le (Nat.le_self_pow (by decide) 10)
  have hspace {cs : List Char} (h : cs.all isSpace = true) : ∀ c ∈ cs, isSpace c = true :=
    List.all_eq_true.mp h
  refine linkNumber_str_iff_and_ofJson_of_saves.2.2 _ _ (.list ?_ .int ?_ ?_ .int rfl)
  · exact @Writes.text 4 [' '] ['\n'] (hspace rfl) (hspace rfl) (hshort 4 (by decide))
  · exact @Writes.text 0 [] [] (hspace rfl) (hspace rfl) (hshort 0 (by decide))
  · exact @Writes.text (-2) ['\u3000'] [] (hspace rfl) (hspace rfl) (hshort (-2) (by decide))

/-- An information separator counts as a blank around identifiers and is let through by the first
look, but it is not white space around a number. -/
theorem refused_separator :
    Denotes (trimWhere isBlank "\x1c5".toList) 5 ∧
      Link.ofJson (.arr [.str "\x1c5", .int 1, .int 0, .int 2, .int 0, .str "X"]) =
        .error (.notNumeral "\x1c5") := by
  constructor
  · exact @Denotes.plain ['5'] [5] (by decide) (.cons (by decide) .nil)
  · rfl

end Editor

end NodeWorkflow
