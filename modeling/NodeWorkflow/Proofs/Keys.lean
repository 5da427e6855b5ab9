import NodeWorkflow.Execution.Check

/-!
# Keys of nodes

The key of a node is its id as text without the blanks around it. The key of a
usable id is a usable id itself, so that whatever checks ids again later finds
nothing new.

## Main statements

* `trimWhere_trimWhere` — trimming twice is trimming once.
* `isUsableId_keyOf` — the key of a usable id is usable.
* `keyOf_int` — the key of a number is its text.
-/

namespace NodeWorkflow

/-! ## Trimming -/

variable {p : Char → Bool}

theorem eq_false_of_mem_head?_dropWhile {cs : List Char} {c : Char}
    (h : c ∈ (cs.dropWhile p).head?) : p c = false := by
  have := List.head?_dropWhile_not p cs
  rw [Option.mem_def.mp h] at this
  exact this

/-- A trimmed text does not end with what was trimmed. -/
theorem eq_false_of_mem_getLast?_trimWhere {cs : List Char} {c : Char}
    (h : c ∈ (trimWhere p cs).getLast?) : p c = false := by
  rw [trimWhere, List.getLast?_reverse] at h
  exact eq_false_of_mem_head?_dropWhile h

/-- A trimmed text does not begin with what was trimmed: the second cut is made
at the end, and leaves the beginning as the first cut left it. -/
theorem eq_false_of_mem_head?_trimWhere {cs : List Char} {c : Char}
    (h : c ∈ (trimWhere p cs).head?) : p c = false := by
  rw [trimWhere, List.head?_reverse] at h
  obtain ⟨cut, hcut⟩ := List.dropWhile_suffix p (l := (cs.dropWhile p).reverse)
  have hlast : c ∈ (cs.dropWhile p).reverse.getLast? := by
    rw [← hcut, List.getLast?_append, Option.mem_def.mp h]
    rfl
  rw [List.getLast?_reverse] at hlast
  exact eq_false_of_mem_head?_dropWhile hlast

/-- What is trimmed stands in front and behind. -/
theorem exists_eq_append_trimWhere (p : Char → Bool) (cs : List Char) :
    ∃ before after, cs = before ++ trimWhere p cs ++ after ∧ (∀ c ∈ before, p c = true) ∧
      ∀ c ∈ after, p c = true := by
  have hback := List.takeWhile_append_dropWhile (p := p) (l := (cs.dropWhile p).reverse)
  refine ⟨cs.takeWhile p, ((cs.dropWhile p).reverse.takeWhile p).reverse, ?_,
    List.all_eq_true.mp List.all_takeWhile, ?_⟩
  · rw [trimWhere, List.append_assoc, ← List.reverse_append, hback, List.reverse_reverse,
      List.takeWhile_append_dropWhile]
  · intro c hc
    exact List.all_eq_true.mp List.all_takeWhile c (List.mem_reverse.mp hc)

theorem mem_of_mem_trimWhere {cs : List Char} {c : Char} (h : c ∈ trimWhere p cs) : c ∈ cs := by
  obtain ⟨before, after, heq, -, -⟩ := exists_eq_append_trimWhere p cs
  rw [heq]
  exact List.mem_append_left _ (List.mem_append_right _ h)

/-- Only what is trimmed gets lost. -/
theorem mem_trimWhere {cs : List Char} {c : Char} (hc : c ∈ cs) (hp : p c = false) :
    c ∈ trimWhere p cs := by
  obtain ⟨before, after, heq, hbefore, hafter⟩ := exists_eq_append_trimWhere p cs
  rw [heq, List.mem_append, List.mem_append] at hc
  rcases hc with (hc | hc) | hc
  · exact absurd (hbefore c hc) (Bool.eq_false_iff.mp hp)
  · exact hc
  · exact absurd (hafter c hc) (Bool.eq_false_iff.mp hp)

/-- What is trimmed may be added in front and behind. -/
theorem trimWhere_append {before after : List Char} (hbefore : ∀ c ∈ before, p c = true)
    (hafter : ∀ c ∈ after, p c = true) (cs : List Char) :
    trimWhere p (before ++ cs ++ after) = trimWhere p cs := by
  have hback : ∀ c ∈ after.reverse, p c = true := fun c hc => hafter c (List.mem_reverse.mp hc)
  rw [trimWhere, List.append_assoc, List.dropWhile_append_of_pos hbefore, List.dropWhile_append]
  split
  next hempty =>
    have hnone : after.dropWhile p = [] := by
      rw [← List.append_nil after, List.dropWhile_append_of_pos hafter, List.dropWhile_nil]
    rw [hnone, trimWhere, List.isEmpty_iff.mp hempty]
  next => rw [List.reverse_append, List.dropWhile_append_of_pos hback, trimWhere]

theorem trimWhere_trimWhere (cs : List Char) : trimWhere p (trimWhere p cs) = trimWhere p cs :=
  trimWhere_eq_self (fun _ h => eq_false_of_mem_head?_trimWhere h)
    (fun _ h => eq_false_of_mem_getLast?_trimWhere h)

theorem toList_trimmed (text : String) :
    (trimmed text).toList = trimWhere isBlank text.toList := by
  simp [trimmed]

theorem trimmed_trimmed (text : String) : trimmed (trimmed text) = trimmed text := by
  rw [trimmed, toList_trimmed, trimWhere_trimWhere, ← trimmed]

/-! ## Digits of a number -/

theorem toNat_of_isDigit {c : Char} (h : c.isDigit = true) : 48 ≤ c.toNat ∧ c.toNat ≤ 57 := by
  simp only [Char.isDigit, Bool.and_eq_true, decide_eq_true_eq] at h
  exact h

/-- The text of a whole number is its digits, behind a minus sign if it is negative. -/
theorem toList_toString (n : Int) :
    (toString n).toList =
      if n < 0 then '-' :: Nat.toDigits 10 n.natAbs else Nat.toDigits 10 n.natAbs := by
  cases n with
  | ofNat m =>
      have hnonneg : ¬Int.ofNat m < 0 := Int.not_lt.mpr (Int.natCast_nonneg m)
      rw [if_neg hnonneg]
      change (toString m).toList = _
      rw [Nat.toString_eq_ofList_toDigits, String.toList_ofList]
      rfl
  | negSucc m =>
      rw [if_pos (Int.negSucc_lt_zero m)]
      change ("-" ++ toString (m + 1)).toList = _
      rw [String.toList_append, Nat.toString_eq_ofList_toDigits, String.toList_ofList,
        String.toList_ofList]
      rfl

/-- No two whole numbers have one text. -/
theorem eq_of_toString_eq {m n : Int} (h : toString m = toString n) : m = n := by
  have hdigits : ∀ {j k : Nat}, Nat.toDigits 10 j = Nat.toDigits 10 k → j = k := by
    intro j k h
    calc
      j = Nat.ofDigitChars 10 (Nat.toDigits 10 j) 0 := Nat.ofDigitChars_ten_toDigits.symm
      _ = Nat.ofDigitChars 10 (Nat.toDigits 10 k) 0 := by rw [h]
      _ = k := Nat.ofDigitChars_ten_toDigits
  have hminus : ∀ {k : Nat} {rest : List Char}, Nat.toDigits 10 k ≠ '-' :: rest := by
    intro k rest h
    have hdigit : '-'.isDigit = true :=
      Nat.isDigit_of_mem_toDigits (by decide) (by decide) (h ▸ List.mem_cons_self)
    cases hdigit
  have h := congrArg String.toList h
  rw [toList_toString, toList_toString] at h
  by_cases hm : m < 0 <;> by_cases hn : n < 0
  · rw [if_pos hm, if_pos hn] at h
    have habs := hdigits (List.cons.inj h).2
    omega
  · rw [if_pos hm, if_neg hn] at h
    exact absurd h.symm hminus
  · rw [if_neg hm, if_pos hn] at h
    exact absurd h hminus
  · rw [if_neg hm, if_neg hn] at h
    have habs := hdigits h
    omega

namespace Execution

/-! ## Keys -/

theorem isUsableId_str_iff {text : String} :
    isUsableId (.str text) = true ↔
      trimWhere isBlank text.toList ≠ [] ∧ '#' ∉ trimWhere isBlank text.toList := by
  simp [isUsableId]

/-- The text of a usable id is usable. -/
theorem isUsableId_inWords {id : Json} (h : isUsableId id = true) :
    isUsableId (.str id.inWords) = true := by
  cases id with
  | null | bool => simp [isUsableId] at h
  | int | float | str | arr | obj => exact h

/-- **The key of a usable id is usable.** -/
theorem isUsableId_keyOf {id : Json} (h : isUsableId id = true) :
    isUsableId (.str (keyOf id)) = true := by
  have h := isUsableId_str_iff.mp (isUsableId_inWords h)
  rw [isUsableId_str_iff, keyOf, toList_trimmed, trimWhere_trimWhere]
  exact h

/-! ## Numbers as ids -/

/-- The text of a whole number is made of digits, with a minus sign in front of some. -/
theorem eq_minus_or_isDigit_of_mem {n : Int} {c : Char} (h : c ∈ (toString n).toList) :
    c = '-' ∨ c.isDigit = true := by
  have hdigits (hc : c ∈ Nat.toDigits 10 n.natAbs) : c.isDigit = true :=
    Nat.isDigit_of_mem_toDigits (by decide) (by decide) hc
  rw [toList_toString] at h
  split at h
  next => exact (List.mem_cons.mp h).imp_right hdigits
  next => exact .inr (hdigits h)

theorem toList_toString_ne_nil (n : Int) : (toString n).toList ≠ [] := by
  rw [toList_toString]
  split
  next => exact List.cons_ne_nil _ _
  next => exact Nat.toDigits_ne_nil

theorem isBlank_of_mem_toString {n : Int} {c : Char} (h : c ∈ (toString n).toList) :
    isBlank c = false ∧ c ≠ '#' := by
  rcases eq_minus_or_isDigit_of_mem h with rfl | hdigit
  · decide
  · have hrange := toNat_of_isDigit hdigit
    refine ⟨?_, ?_⟩
    · rw [Bool.eq_false_iff]
      intro hblank
      simp only [isBlank, isSpace, Bool.or_eq_true, Bool.and_eq_true, decide_eq_true_eq,
        beq_iff_eq] at hblank
      omega
    · rintro rfl
      exact absurd hrange.1 (by decide)

theorem trimWhere_toString (n : Int) :
    trimWhere isBlank (toString n).toList = (toString n).toList :=
  trimWhere_eq_self
    (fun _ h => (isBlank_of_mem_toString (List.mem_of_mem_head? h)).1)
    (fun _ h => (isBlank_of_mem_toString (List.mem_of_mem_getLast? h)).1)

/-- **The key of a number is its text.** -/
theorem keyOf_int (n : Int) : keyOf (.int n) = toString n := by
  rw [keyOf, Json.inWords_int, trimmed, trimWhere_toString, String.ofList_toList]

/-- Every number is a usable id. -/
theorem isUsableId_int (n : Int) : isUsableId (.int n) = true := by
  have htext : isUsableId (.str (toString n)) = true := by
    rw [isUsableId_str_iff, trimWhere_toString]
    exact ⟨toList_toString_ne_nil n, fun h => (isBlank_of_mem_toString h).2 rfl⟩
  rw [← Json.inWords_int] at htext
  exact htext

end Execution

end NodeWorkflow
