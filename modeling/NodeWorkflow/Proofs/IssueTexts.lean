import NodeWorkflow.Proofs.Issues

/-!
# Telling issues apart by their texts

An issue is a text, and whatever stands in a workflow may stand in it: ids, names of sockets and
links. Still a text tells which finding it is of. The first characters tell the stage, except
that two stages begin alike; of these the last characters tell one from the other, since the
names of parameters end as no value that is written out does. And what stands before the last
bracket, or before the last blank in front of a number, is the same in two texts that are the
same, so that the text of an issue about missing parameters or missing values names the node.

## Main definitions

* `beginning` — the characters that tell the stage.
* `lackText`, `danglingText` — the issues about single nodes.
* `EndsAsParam` — what ends like one of the watched parameters.

## Main statements

* `not_endsAsParam_append_shown` — values that are written out end in another way.
* `key_eq_of_lackText_eq`, `eq_of_defaultsText_eq` — the node can be read off the text.
* `issue_cases` — the issues of a compilation.
-/

namespace NodeWorkflow

open Execution (RedirectRule linkAt?)

/-- What stands on both sides of the last occurrence of a character is determined. -/
theorem eq_of_append_cons_eq {α : Type} {c : α} {front front' back back' : List α}
    (hback : c ∉ back) (hback' : c ∉ back') (h : front ++ c :: back = front' ++ c :: back') :
    front = front' ∧ back = back' := by
  have hshorter : ∀ {front front' back back' : List α} (more : List α), c ∉ back →
      front' = front ++ more → c :: back = more ++ c :: back' → front = front' ∧ back = back' := by
    intro front front' back back' more hback hfront hrest
    cases more with
    | nil => exact ⟨by rw [hfront, List.append_nil], (List.cons.inj hrest).2⟩
    | cons d more =>
        obtain ⟨-, rfl⟩ := List.cons.inj hrest
        exact absurd (List.mem_append_right _ List.mem_cons_self) hback
  rcases List.append_eq_append_iff.mp h with ⟨more, hfront, hrest⟩ | ⟨more, hfront, hrest⟩
  · exact hshorter more hback hfront hrest
  · obtain ⟨hf, hb⟩ := hshorter more hback' hfront hrest
    exact ⟨hf.symm, hb.symm⟩

/-! ## Numbers -/

/-- A text ends as the text of a number does: with a digit, or as the words for infinity and
for what is not a number. -/
def EndsAsNumber (s : String) : Prop :=
  ∃ c, s.toList.getLast? = some c ∧ (c.isDigit = true ∨ c = 'f' ∨ c = 'n')

theorem EndsAsNumber.append {t : String} (h : EndsAsNumber t) (s : String) :
    EndsAsNumber (s ++ t) := by
  obtain ⟨c, hlast, hc⟩ := h
  refine ⟨c, ?_, hc⟩
  rw [String.toList_append, List.getLast?_append, hlast, Option.some_or]

theorem endsAsNumber_of_digits {digits : List Char} (hne : digits ≠ [])
    (hdigits : ∀ c ∈ digits, c.isDigit = true) (front : List Char) :
    EndsAsNumber (String.ofList (front ++ digits)) := by
  refine ⟨digits.getLast hne, ?_, .inl (hdigits _ (List.getLast_mem hne))⟩
  rw [String.toList_ofList, List.getLast?_append, List.getLast?_eq_some_getLast hne,
    Option.some_or]

theorem isDigit_of_mem_toDigits {n : Nat} {c : Char} (h : c ∈ Nat.toDigits 10 n) :
    c.isDigit = true :=
  Nat.isDigit_of_mem_toDigits (by omega) (by omega) h

theorem endsAsNumber_toString (n : Nat) : EndsAsNumber (toString n) := by
  rw [Nat.toString_eq_ofList_toDigits]
  exact endsAsNumber_of_digits Nat.toDigits_ne_nil (fun _ => isDigit_of_mem_toDigits) []

namespace Decimal

theorem endsAsNumber_plain {digits : List Char} (hne : digits ≠ [])
    (hdigits : ∀ c ∈ digits, c.isDigit = true) (exponent : Int) :
    EndsAsNumber (layout.plain digits exponent) := by
  rw [Layout.plain]
  split
  · exact (endsAsNumber_of_digits hne hdigits _).append _
  · simp only
    split
    · exact EndsAsNumber.append ⟨'0', by decide, .inl (by decide)⟩ _
    · rename_i hlonger
      refine (endsAsNumber_of_digits ?_ ?_ []).append _
      · rw [Ne, List.drop_eq_nil_iff]
        exact hlonger
      · exact fun c hc => hdigits c (List.mem_of_mem_drop hc)

theorem endsAsNumber_magnitude (m : Nat) (q : Int) : EndsAsNumber (layout.magnitude m q) := by
  rw [Layout.magnitude]
  split
  · exact ⟨'0', by decide, .inl (by decide)⟩
  · simp only
    split
    · exact endsAsNumber_plain Nat.toDigits_ne_nil (fun _ => isDigit_of_mem_toDigits) _
    · refine EndsAsNumber.append ?_ _
      exact endsAsNumber_of_digits Nat.toDigits_ne_nil (fun _ => isDigit_of_mem_toDigits) _

/-- **The text of a number ends as one.** -/
theorem endsAsNumber_floatText (x : Float) : EndsAsNumber (floatText x) := by
  rw [floatText, Layout.write]
  split
  · exact ⟨'n', by decide, .inr (.inr rfl)⟩
  · exact EndsAsNumber.append ⟨'f', by decide, .inr (.inl rfl)⟩ _
  · exact (endsAsNumber_magnitude _ _).append _

end Decimal

/-! ## Names of parameters -/

/-- The types that an analysis watches and that need no sampler. -/
def simpleTypes : List String :=
  [Repair.resolutionType, "LoraLoaderModelOnly", "UpscaleModelLoader"]

/-- How the names of the parameters that these types need end. -/
def paramEndings : List (List Char) :=
  [['l'], ['o'], ['y'], ['m', 'e']]

/-- A text ends like the name of one of these parameters. -/
def EndsAsParam (s : String) : Prop :=
  ∃ ending ∈ paramEndings, ending <:+ s.toList

theorem endsAsParam_of_mem_requiredParams {type p : String} (htype : type ∈ simpleTypes)
    (hp : p ∈ Catalog.standard.requiredParams type) : EndsAsParam p := by
  have hall : ∀ type ∈ simpleTypes, ∀ p ∈ Catalog.standard.requiredParams type,
      ∃ ending ∈ paramEndings, ending <:+ p.toList := by
    decide +kernel
  exact hall type htype p hp

theorem EndsAsParam.append {t : String} (h : EndsAsParam t) (s : String) :
    EndsAsParam (s ++ t) := by
  obtain ⟨ending, hending, hsuffix⟩ := h
  refine ⟨ending, hending, ?_⟩
  rw [String.toList_append]
  exact hsuffix.trans (List.suffix_append _ _)

/-- The last character alone settles most texts. -/
theorem not_endsAsParam_of_getLast? {s : String} {c : Char} (h : s.toList.getLast? = some c)
    (hc : c ∉ ['l', 'o', 'y', 'e']) : ¬EndsAsParam s := by
  rintro ⟨ending, hending, front, hfront⟩
  rw [← hfront, List.getLast?_append] at h
  simp only [paramEndings, List.mem_cons, List.not_mem_nil, or_false] at hending hc
  rcases hending with rfl | rfl | rfl | rfl <;>
    (obtain rfl := Option.some.inj h; simp at hc)

theorem EndsAsNumber.not_endsAsParam {s : String} (h : EndsAsNumber s) : ¬EndsAsParam s := by
  obtain ⟨c, hlast, hc⟩ := h
  refine not_endsAsParam_of_getLast? hlast ?_
  intro hmem
  simp only [List.mem_cons, List.not_mem_nil, or_false] at hmem
  rcases hmem with rfl | rfl | rfl | rfl <;> revert hc <;> decide

/-- **A value that is written out ends in another way than the names of parameters do.** -/
theorem not_endsAsParam_append_shown (s : String) {v : Json} (h : v.isNull = false) :
    ¬EndsAsParam (s ++ v.shown) := by
  have hlast : ∀ (t : String) {c : Char}, t.toList.getLast? = some c →
      c ∉ ['l', 'o', 'y', 'e'] → ¬EndsAsParam (s ++ t) := by
    intro t c ht hc
    refine not_endsAsParam_of_getLast? ?_ hc
    rw [String.toList_append, List.getLast?_append, ht, Option.some_or]
  cases v with
  | null => cases h
  | bool b =>
      -- the last character is that of a parameter, and the one before it is not
      rintro ⟨ending, hending, hsuffix⟩
      simp only [paramEndings, List.mem_cons, List.not_mem_nil, or_false] at hending
      rw [← List.reverse_prefix, String.toList_append, List.reverse_append] at hsuffix
      rcases hending with rfl | rfl | rfl | rfl <;> cases b <;> simp [Json.shown] at hsuffix
  | int n =>
      cases n with
      | ofNat n =>
          exact ((endsAsNumber_toString n).append s).not_endsAsParam
      | negSucc n =>
          exact (((endsAsNumber_toString (n + 1)).append "-").append s).not_endsAsParam
  | float x => exact ((Decimal.endsAsNumber_floatText x).append s).not_endsAsParam
  | str text =>
      have hquote : Quoted.quoteFor text.toList ∉ ['l', 'o', 'y', 'e'] := by
        rw [Quoted.quoteFor]
        split <;> decide
      refine hlast _ ?_ hquote
      rw [Json.shown, quoted, String.toList_ofList, List.getLast?_concat]
  | arr items =>
      refine hlast _ ?_ (show ']' ∉ _ by decide)
      rw [Json.shown, String.toList_append, List.getLast?_append]
      rfl
  | obj fields =>
      refine hlast _ ?_ (show '\x7d' ∉ _ by decide)
      rw [Json.shown, String.toList_append, List.getLast?_append]
      rfl

/-! ## Texts about nodes -/

/-- The issue about a node that lacks parameters. -/
def lackText (key type : String) (missing : List String) : String :=
  s!"Node {key} ({type}) missing required parameters: " ++ ", ".intercalate missing

/-- The issue about a socket whose link is not known. -/
def danglingText (id : Json) (slot : Editor.InputSlot) : String :=
  s!"Node {id.inWords} input '{slot.name}' references unknown link {slot.link.shown}"

theorem not_mem_intercalate {c : Char} {separator : String} (hc : c ∉ separator.toList)
    {texts : List String} (h : ∀ t ∈ texts, c ∉ t.toList) :
    c ∉ (separator.intercalate texts).toList := by
  induction texts with
  | nil => simp
  | cons t texts ih =>
      cases texts with
      | nil => simpa using h t List.mem_cons_self
      | cons u texts =>
          have ih := ih fun v hv => h v (List.mem_cons_of_mem _ hv)
          rw [String.intercalate_cons_cons, String.toList_append, String.toList_append,
            List.mem_append, List.mem_append]
          rintro ((ht | hs) | hrest)
          · exact h t List.mem_cons_self ht
          · exact hc hs
          · exact ih hrest

/-- Texts in a row end with the last of them. -/
theorem exists_intercalate_eq_append (separator : String) {texts : List String}
    (h : texts ≠ []) : ∃ front, ∃ last ∈ texts, separator.intercalate texts = front ++ last := by
  induction texts with
  | nil => exact absurd rfl h
  | cons t texts ih =>
      cases texts with
      | nil => exact ⟨"", t, List.mem_cons_self, by simp⟩
      | cons u texts =>
          obtain ⟨front, last, hlast, heq⟩ := ih (List.cons_ne_nil u texts)
          refine ⟨t ++ separator ++ front, last, List.mem_cons_of_mem _ hlast, ?_⟩
          rw [String.intercalate_cons_cons, heq, String.append_assoc, String.append_assoc,
            String.append_assoc]

theorem endsAsParam_lackText (key : String) {type : String} (htype : type ∈ simpleTypes)
    {missing : List String} (hne : missing ≠ [])
    (h : missing ⊆ Catalog.standard.requiredParams type) :
    EndsAsParam (lackText key type missing) := by
  obtain ⟨front, last, hlast, heq⟩ := exists_intercalate_eq_append ", " hne
  rw [lackText, heq]
  exact ((endsAsParam_of_mem_requiredParams htype (h hlast)).append _).append _

theorem not_endsAsParam_danglingText (id : Json) {slot : Editor.InputSlot}
    (h : slot.link.isNull = false) : ¬EndsAsParam (danglingText id slot) :=
  not_endsAsParam_append_shown _ h

/-- No type that needs parameters has a bracket in its name, and none of these parameters
has. -/
theorem not_mem_of_mem_requiredParams {type p : String}
    (hp : p ∈ Catalog.standard.requiredParams type) : '(' ∉ type.toList ∧ '(' ∉ p.toList := by
  have hall : ∀ entry ∈ Catalog.standard, ∀ p ∈ entry.2.requiredParams,
      '(' ∉ entry.1.toList ∧ '(' ∉ p.toList := by
    decide +kernel
  rw [Catalog.requiredParams, Catalog.find?] at hp
  split at hp
  · cases hp
  · cases hget : Entries.get? Catalog.standard type with
    | none =>
        rw [hget] at hp
        cases hp
    | some known =>
        rw [hget] at hp
        exact hall _ (Entries.mem_of_get? hget) p hp

/-- **The key can be read off the text about missing parameters.** -/
theorem key_eq_of_lackText_eq {key key' type type' : String} {missing missing' : List String}
    (hne : missing ≠ []) (hsub : missing ⊆ Catalog.standard.requiredParams type)
    (hne' : missing' ≠ []) (hsub' : missing' ⊆ Catalog.standard.requiredParams type')
    (h : lackText key type missing = lackText key' type' missing') : key = key' := by
  have hback : ∀ {type : String} {missing : List String}, missing ≠ [] →
      missing ⊆ Catalog.standard.requiredParams type →
      '(' ∉ (type ++ ") missing required parameters: " ++ ", ".intercalate missing).toList := by
    intro type missing hne hsub
    obtain ⟨p, hp⟩ := List.exists_mem_of_ne_nil missing hne
    rw [String.toList_append, String.toList_append, List.mem_append, List.mem_append]
    rintro ((htype | hwords) | hlist)
    · exact (not_mem_of_mem_requiredParams (hsub hp)).1 htype
    · exact absurd hwords (by decide)
    · exact not_mem_intercalate (by decide)
        (fun q hq => (not_mem_of_mem_requiredParams (hsub hq)).2) hlist
  have hsplit : ∀ (key type : String) (missing : List String), (lackText key type missing).toList =
      ("Node " ++ key ++ " ").toList ++
        '(' :: (type ++ ") missing required parameters: " ++ ", ".intercalate missing).toList := by
    intro key type missing
    change ("Node " ++ key ++ " (" ++ type ++ ") missing required parameters: " ++
      ", ".intercalate missing).toList = _
    simp [String.toList_append]
  have heq := congrArg String.toList h
  rw [hsplit, hsplit] at heq
  have hfront := (eq_of_append_cons_eq (hback hne hsub) (hback hne' hsub') heq).1
  exact String.toList_inj.mp (by simpa [String.toList_append] using hfront)

/-- **The id and the number can be read off the text about missing values.** -/
theorem eq_of_defaultsText_eq {id id' : String} {count count' : Nat}
    (h : defaultsText id count = defaultsText id' count') : id = id' ∧ count = count' := by
  have hsplit : ∀ (id : String) (count : Nat), (defaultsText id count).toList =
      "Resolution node ".toList ++ ((id ++ " has").toList ++ ' ' :: (toString count).toList) ++
        " widget values, expected 5; applying defaults".toList := by
    intro id count
    change ("Resolution node " ++ id ++ " has " ++ toString count ++
      " widget values, expected " ++ (toString Execution.resolutionParams.length ++
        "; applying defaults")).toList = _
    have hlength : toString Execution.resolutionParams.length = "5" := by
      decide
    simp [String.toList_append, hlength]
  have hdigits : ∀ n : Nat, ' ' ∉ (toString n).toList := by
    intro n hmem
    rw [Nat.toString_eq_ofList_toDigits, String.toList_ofList] at hmem
    exact absurd (isDigit_of_mem_toDigits hmem) (by decide)
  have heq := congrArg String.toList h
  rw [hsplit, hsplit, List.append_cancel_right_eq, List.append_cancel_left_eq] at heq
  obtain ⟨hwords, hcount⟩ := eq_of_append_cons_eq (hdigits _) (hdigits _) heq
  refine ⟨String.toList_inj.mp (by simpa [String.toList_append] using hwords), ?_⟩
  rw [Nat.toString_eq_ofList_toDigits, Nat.toString_eq_ofList_toDigits, String.toList_ofList,
    String.toList_ofList] at hcount
  rw [← Nat.ofDigitChars_ten_toDigits (n := count), hcount, Nat.ofDigitChars_ten_toDigits]

/-! ## Stages -/

/-- The characters that tell the stage of a finding. -/
def beginning (s : String) : List Char := s.toList.take 3

theorem beginning_lackText (key type : String) (missing : List String) :
    beginning (lackText key type missing) = ['N', 'o', 'd'] := by
  change beginning ("Node " ++ key ++ " (" ++ type ++ ") missing required parameters: " ++
    ", ".intercalate missing) = _
  simp [beginning, String.toList_append]

theorem beginning_danglingText (id : Json) (slot : Editor.InputSlot) :
    beginning (danglingText id slot) = ['N', 'o', 'd'] := by
  change beginning ("Node " ++ id.inWords ++ " input '" ++ slot.name ++
    "' references unknown link " ++ slot.link.shown) = _
  simp [beginning, String.toList_append]

theorem beginning_defaultsText (id : String) (count : Nat) :
    beginning (defaultsText id count) = ['R', 'e', 's'] := by
  change beginning ("Resolution node " ++ id ++ " has " ++ toString count ++
      " widget values, expected " ++ _) = _
  simp [beginning, String.toList_append]

theorem mem_issuesIn_flatMap {α : Type} {xs : List α} {f : α → List Finding} {text : String} :
    text ∈ issuesIn (xs.flatMap f) ↔ ∃ x ∈ xs, text ∈ issuesIn (f x) := by
  rw [issuesIn, List.filterMap_flatMap, List.mem_flatMap]
  rfl

theorem beginning_of_mem_extendTable {index : Nat} {table : Editor.LinkTable}
    {entries : List Json} {text : String}
    (h : text ∈ issuesIn (Editor.extendTable index table entries).2) :
    beginning text = ['S', 'k', 'i'] := by
  induction entries generalizing index table with
  | nil => cases h
  | cons entry entries ih =>
      simp only [Editor.extendTable, issuesIn_append, List.mem_append] at h
      rcases h with h | h
      · cases hread : Editor.Link.ofJson entry with
        | error fault =>
            rw [hread, Editor.linkFindings, issuesIn_issue, issuesIn_nil, List.mem_singleton] at h
            subst h
            change beginning ("Skipping link #" ++ toString index ++ ": " ++ fault.message) = _
            simp [beginning, String.toList_append]
        | ok link =>
            rw [hread, Editor.linkFindings] at h
            split at h <;> cases h
      · exact ih h

theorem beginning_of_mem_rewire {rules : List RedirectRule} {g : Execution.Graph}
    {text : String} (h : text ∈ issuesIn (Execution.rewire rules g).2) :
    beginning text = ['R', 'e', 'm'] := by
  rw [Execution.rewire, mem_issuesIn_flatMap] at h
  obtain ⟨⟨id, node⟩, -, h⟩ := h
  obtain ⟨⟨name, b⟩, -, h⟩ := mem_issuesIn_flatMap.mp h
  cases b with
  | literal value => cases h
  | wire from_ slot =>
      simp only [Execution.mendFindings] at h
      split at h
      · cases h
      · split at h
        · cases h
        · rw [issuesIn_issue, issuesIn_nil, List.mem_singleton] at h
          subst h
          change beginning ("Removed " ++ id ++ "." ++ name ++ ": source node " ++ from_ ++
            " is not in the compiled workflow") = _
          simp [beginning, String.toList_append]

theorem exists_of_mem_danglingLinks {table : Editor.LinkTable} {id : Json}
    {slots : List Editor.InputSlot} {text : String}
    (h : text ∈ issuesIn (Execution.danglingLinks table id slots)) :
    ∃ slot ∈ slots, slot.link.isNull = false ∧ text = danglingText id slot := by
  obtain ⟨finding, hfinding, htext⟩ := List.mem_filterMap.mp h
  obtain ⟨slot, hslot, hfound⟩ := List.mem_filterMap.mp hfinding
  split at hfound
  · cases hfound
  · rename_i hlinked
    obtain rfl := Option.some.inj hfound
    refine ⟨slot, hslot, ?_, (Option.some.inj htext).symm⟩
    rw [Bool.or_eq_true, not_or, Bool.not_eq_true] at hlinked
    exact hlinked.1

theorem mem_lackFindings_iff {catalog : Catalog} {entry : String × Execution.Node}
    {text : String} :
    text ∈ issuesIn (lackFindings catalog entry) ↔
      Execution.missingParams catalog entry.2.classType entry.2.inputs ≠ [] ∧
        text = lackText entry.1 entry.2.classType
          (Execution.missingParams catalog entry.2.classType entry.2.inputs) := by
  rw [lackFindings, Execution.missingFindings]
  split
  · rename_i h
    simp [List.isEmpty_iff.mp h]
  · rename_i h
    rw [issuesIn_issue, issuesIn_nil, List.mem_singleton]
    exact ⟨fun htext => ⟨by simpa using h, htext⟩, And.right⟩

/-- Where an issue of a compilation comes from: it is about a link that cannot be read, a wire
from nowhere, a socket whose link is not known, a resolution calculator with too few values, or
an entry of the compiled graph that lacks parameters. -/
inductive IsIssueOf (e : Editor.Graph) (g : Execution.Graph) (text : String) : Prop where
  | link (h : beginning text = ['S', 'k', 'i'])
  | wire (h : beginning text = ['R', 'e', 'm'])
  | socket {n : Editor.Node} {slot : Editor.InputSlot} (hlink : slot.link.isNull = false)
      (h : text = danglingText n.id slot)
  | values {n : Editor.Node} (hn : n ∈ e.nodes)
      (hruns : n.runningType? = some Repair.resolutionType) (hfew : n.widgets.length < 5)
      (h : text = defaultsText n.id.inWords n.widgets.length)
  | params {entry : String × Execution.Node} (hentry : entry ∈ g)
      (h : text ∈ issuesIn (lackFindings Catalog.standard entry))

section Compilation

variable {rules : List RedirectRule} {source : WorkflowSource} {e : Editor.Graph}
  {g : Execution.Graph}

/-- **The issues of a compilation.** -/
theorem issue_cases (he : source.graph = .ok e)
    (h : (compileSource Catalog.standard rules source).outcome = .ok g) {text : String}
    (ht : text ∈ (compileSource Catalog.standard rules source).diagnostics.issues) :
    IsIssueOf e g text := by
  obtain ⟨e', he', hnodes, hne, rfl⟩ := compileSource_eq_ok_iff.mp h
  obtain rfl : e = e' := Except.ok.inj (he.symm.trans he')
  rw [diagnostics_compileSource he, issues_compileGraph hnodes hne, List.mem_append,
    List.mem_append, List.mem_append] at ht
  rcases ht with ((hlink | hnode) | hwire) | hparams
  · exact .link (beginning_of_mem_extendTable hlink)
  · obtain ⟨n, hn, hfound⟩ := mem_issuesIn_flatMap.mp hnode
    cases hruns : n.runningType? with
    | none =>
        rw [outcomeOf, hruns] at hfound
        cases hfound
    | some type =>
        rw [issuesIn_outcomeOf _ hruns, List.mem_append, issuesIn_offersFor] at hfound
        rcases hfound with hsocket | hvalues
        · obtain ⟨slot, -, hslot, rfl⟩ := exists_of_mem_danglingLinks hsocket
          exact .socket hslot rfl
        · split at hvalues
          · rename_i hfew
            obtain ⟨rfl, hfew⟩ := hfew
            exact .values hn hruns hfew (List.mem_singleton.mp hvalues)
          · cases hvalues
  · exact .wire (beginning_of_mem_rewire hwire)
  · obtain ⟨entry, hentry, hfound⟩ := mem_issuesIn_flatMap.mp hparams
    exact .params hentry hfound

/-- **An issue about missing parameters is about an entry that lacks some.** -/
theorem exists_lacking_of_mem_issues (he : source.graph = .ok e)
    (h : (compileSource Catalog.standard rules source).outcome = .ok g) {key type : String}
    (htype : type ∈ simpleTypes) {missing : List String} (hne : missing ≠ [])
    (hsub : missing ⊆ Catalog.standard.requiredParams type)
    (ht : lackText key type missing ∈
      (compileSource Catalog.standard rules source).diagnostics.issues) :
    ∃ node, (key, node) ∈ g ∧ issuesIn (lackFindings Catalog.standard (key, node)) ≠ [] := by
  have hbeginning := beginning_lackText key type missing
  rcases issue_cases he h ht with hlink | hwire | ⟨hlink, hsocket⟩ | ⟨-, -, -, hvalues⟩ |
    ⟨hentry, hparams⟩
  · rw [hlink] at hbeginning
    cases hbeginning
  · rw [hwire] at hbeginning
    cases hbeginning
  · have hends := endsAsParam_lackText key htype hne hsub
    rw [hsocket] at hends
    exact absurd hends (not_endsAsParam_danglingText _ hlink)
  · rw [hvalues, beginning_defaultsText] at hbeginning
    cases hbeginning
  · rename_i entry
    obtain ⟨hlacks, htext⟩ := mem_lackFindings_iff.mp hparams
    obtain rfl : key = entry.1 :=
      key_eq_of_lackText_eq hne hsub hlacks List.filter_sublist.subset htext
    exact ⟨entry.2, hentry, List.ne_nil_of_mem hparams⟩

/-- **An issue about missing values is about a resolution calculator with this id and this
number of values.** -/
theorem defaultsText_mem_issues_iff (he : source.graph = .ok e)
    (h : (compileSource Catalog.standard rules source).outcome = .ok g) {id : String}
    {count : Nat} :
    defaultsText id count ∈ (compileSource Catalog.standard rules source).diagnostics.issues ↔
      ∃ n ∈ e.nodes, n.runningType? = some Repair.resolutionType ∧ n.widgets.length < 5 ∧
        n.id.inWords = id ∧ n.widgets.length = count := by
  have hbeginning := beginning_defaultsText id count
  constructor
  · intro ht
    rcases issue_cases he h ht with hlink | hwire | ⟨-, hsocket⟩ | ⟨hn, hruns, hfew, hvalues⟩ |
      ⟨-, hparams⟩
    · rw [hlink] at hbeginning
      cases hbeginning
    · rw [hwire] at hbeginning
      cases hbeginning
    · rw [hsocket, beginning_danglingText] at hbeginning
      cases hbeginning
    · obtain ⟨hid, hcount⟩ := eq_of_defaultsText_eq hvalues
      exact ⟨_, hn, hruns, hfew, hid.symm, hcount.symm⟩
    · rw [(mem_lackFindings_iff.mp hparams).2, beginning_lackText] at hbeginning
      cases hbeginning
  · rintro ⟨n, hn, hruns, hfew, rfl, rfl⟩
    obtain ⟨e', he', hnodes, hne, -⟩ := compileSource_eq_ok_iff.mp h
    obtain rfl : e = e' := Except.ok.inj (he.symm.trans he')
    rw [diagnostics_compileSource he, issues_compileGraph hnodes hne]
    refine List.mem_append_left _ (List.mem_append_left _ (List.mem_append_right _ ?_))
    refine mem_issuesIn_flatMap.mpr ⟨n, hn, ?_⟩
    rw [issuesIn_outcomeOf _ hruns, issuesIn_offersFor, if_pos ⟨rfl, hfew⟩]
    exact List.mem_append_right _ (List.mem_singleton.mpr rfl)

end Compilation

end NodeWorkflow
