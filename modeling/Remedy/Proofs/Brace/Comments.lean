import Mathlib.Data.List.Forall2
import Mathlib.Data.List.Infix
import Remedy.Brace.Check
import Remedy.Proofs.Diagnosis.NormalForm

/-!
# Comments and findings

Most checks of a brace language look at the code of a line only, so what a comment says is nothing to
them. Two do not: an unconditional loop is excused by the word `break` in a comment nearby, and the
head of a typed function is looked for in the whole line. `analyze_eq_iff` says that these are the only
two ways for comments to be seen: two texts that are the same but for their comments have the same
findings exactly if every unconditional loop has a `break` nearby in both or in neither, comments
included, and every function that never returns has a head that is seen in both or in neither.

Each check finds at most one defect for each line, of a category of its own (`Places`), so the normal
form loses none of them, and what is found of one category at one line is what its check says there
(`find?_eachLine`).
-/

namespace Remedy.Brace

open Text

/-! ## Texts that are the same but for their comments -/

/-- Two lines are the same but for what follows their first `//`. -/
inductive SameCode : List Char → List Char → Prop where
  | same (line : List Char) : SameCode line line
  | comment (front comment comment' : List Char) (hfirst : ¬['/', '/'] <:+: front ++ ['/']) :
      SameCode (front ++ '/' :: '/' :: comment) (front ++ '/' :: '/' :: comment')

/-- Two texts are the same but for what follows the first `//` of some lines. -/
def SameButComments (s t : String) : Prop :=
  List.Forall₂ SameCode (lines s.toList) (lines t.toList)

/-- The first `//` of a line starts its comment. -/
theorem splitFirst?_comment {front : List Char} (h : ¬['/', '/'] <:+: front ++ ['/'])
    (comment : List Char) :
    splitFirst? ['/', '/'] (front ++ '/' :: '/' :: comment) = some (front, comment) := by
  induction front with
  | nil => simp [splitFirst?]
  | cons c front ih =>
      rw [List.cons_append, List.infix_cons_iff, not_or] at h
      have hprefix : ['/', '/'].isPrefixOf (c :: (front ++ '/' :: '/' :: comment)) = false := by
        rw [Bool.eq_false_iff]
        intro hslashes
        refine h.1 ?_
        rw [List.isPrefixOf_iff_prefix, List.cons_prefix_cons] at hslashes
        rw [List.cons_prefix_cons]
        refine ⟨hslashes.1, ?_⟩
        -- a slash behind `c` is the first one of the rest or that of the comment
        cases front with
        | nil => exact List.prefix_rfl
        | cons d front =>
            rw [List.cons_append, List.cons_prefix_cons] at hslashes
            rw [List.cons_append, List.cons_prefix_cons]
            exact ⟨hslashes.2.1, List.nil_prefix⟩
      rw [List.cons_append, splitFirst?, hprefix, ih h.2]
      rfl

theorem SameCode.code_eq {line line' : List Char} (h : SameCode line line') :
    code line = code line' := by
  cases h with
  | same => rfl
  | comment front comment comment' hfirst =>
      have hslashes : "//".toList = ['/', '/'] := rfl
      rw [code, code, hslashes, splitFirst?_comment hfirst, splitFirst?_comment hfirst]

theorem map_code_eq {text text' : List (List Char)} (h : List.Forall₂ SameCode text text') :
    text.map code = text'.map code := by
  induction h with
  | nil => rfl
  | cons hline _ ih => rw [List.map_cons, List.map_cons, hline.code_eq, ih]

/-! ## One finding for each line -/

/-- A check of lines, with the number of the line and the lines from it on. -/
abbrev LineCheck := Nat → List Char → List (List Char) → Option Finding

/-- What a check finds is of one category, and at the line it looks at. -/
def Places (check : LineCheck) (category : FindingCategory) : Prop :=
  ∀ number line below f, check number line below = some f → f.place = (category, some number)

section EachLine

variable {check check' : LineCheck} {category : FindingCategory} {n i : Nat}
  {text text' : List (List Char)} {f : Finding}

theorem exists_of_mem_eachLine (h : f ∈ eachLine check n text) :
    ∃ i line, text[i]? = some line ∧ check (n + i) line (text.drop i) = some f := by
  induction text generalizing n with
  | nil => cases h
  | cons line below ih =>
      rw [eachLine, List.mem_append, Option.mem_toList] at h
      rcases h with h | h
      · exact ⟨0, line, rfl, h⟩
      · obtain ⟨i, line', hline, hcheck⟩ := ih h
        have hindex : n + (i + 1) = n + 1 + i := by omega
        refine ⟨i + 1, line', hline, ?_⟩
        rw [hindex]
        exact hcheck

theorem place_of_mem_eachLine (hplaces : Places check category) (h : f ∈ eachLine check n text) :
    f.category = category ∧ ∃ i, f.line = some (n + i) := by
  obtain ⟨i, line, -, hcheck⟩ := exists_of_mem_eachLine h
  obtain ⟨hcategory, hline⟩ := Prod.mk.inj (hplaces _ _ _ _ hcheck)
  exact ⟨hcategory, i, hline⟩

/-- At a line, a check finds what it says there. -/
theorem find?_eachLine (hplaces : Places check category) (n i : Nat) (text : List (List Char)) :
    (eachLine check n text).find? (fun f => f.place = (category, some (n + i)))
      = text[i]?.bind fun line => check (n + i) line (text.drop i) := by
  induction text generalizing n i with
  | nil => rfl
  | cons line below ih =>
      rw [eachLine, List.find?_append]
      cases i with
      | zero =>
          have hbelow : (eachLine check (n + 1) below).find?
              (fun f => f.place = (category, some (n + 0))) = none := by
            refine List.find?_eq_none.mpr fun f hf hplace => ?_
            obtain ⟨-, i, hline⟩ := place_of_mem_eachLine hplaces hf
            rw [decide_eq_true_eq, Finding.place, hline, Prod.mk.injEq, Option.some.injEq] at hplace
            omega
          rw [hbelow, Option.or_none]
          cases hcheck : check n line (line :: below) with
          | none => simp [hcheck]
          | some f => simp [hcheck, hplaces _ _ _ _ hcheck]
      | succ i =>
          have hhead : (check n line (line :: below)).toList.find?
              (fun f => f.place = (category, some (n + (i + 1)))) = none := by
            refine List.find?_eq_none.mpr fun f hf hplace => ?_
            rw [Option.mem_toList] at hf
            rw [decide_eq_true_eq, hplaces _ _ _ _ hf, Prod.mk.injEq, Option.some.injEq] at hplace
            omega
          have hindex : n + (i + 1) = n + 1 + i := by omega
          rw [hhead, Option.none_or, hindex, ih]
          rfl

/-- A check finds nothing of another category. -/
theorem find?_eachLine_of_ne (hplaces : Places check category) {category' : FindingCategory}
    (hne : category ≠ category') (line : Option Nat) :
    (eachLine check n text).find? (fun f => f.place = (category', line)) = none := by
  refine List.find?_eq_none.mpr fun f hf hplace => ?_
  rw [decide_eq_true_eq] at hplace
  exact hne ((place_of_mem_eachLine hplaces hf).1.symm.trans (congrArg Prod.fst hplace))

theorem find?_ite_eachLine_of_ne (c : Prop) [Decidable c] (hplaces : Places check category)
    {category' : FindingCategory} (hne : category ≠ category') (line : Option Nat) :
    (if c then [] else eachLine check n text).find? (fun f => f.place = (category', line)) = none := by
  split
  · rfl
  · exact find?_eachLine_of_ne hplaces hne line

/-- Checks that agree at each line find the same. -/
theorem eachLine_congr (hlength : text.length = text'.length)
    (h : ∀ i line line', text[i]? = some line → text'[i]? = some line' →
      check (n + i) line (text.drop i) = check' (n + i) line' (text'.drop i)) :
    eachLine check n text = eachLine check' n text' := by
  induction text generalizing n text' with
  | nil =>
      obtain rfl := List.length_eq_zero_iff.mp hlength.symm
      rfl
  | cons line below ih =>
      cases text' with
      | nil => cases hlength
      | cons line' below' =>
          rw [eachLine, eachLine]
          congr 1
          · rw [show check n line (line :: below) = _ from h 0 line line' rfl rfl]
            rfl
          · refine ih (Nat.succ.inj hlength) fun i l l' hl hl' => ?_
            have hindex : n + (i + 1) = n + 1 + i := by omega
            have hcheck := h (i + 1) l l' hl hl'
            rw [hindex] at hcheck
            exact hcheck

end EachLine

/-! ## The checks -/

section Checks

variable {language : Language} {number : Nat} {line line' : List Char}
  {below below' text text' : List (List Char)}

theorem places_endlessLoop : Places (endlessLoop language) .infiniteLoop := by
  intro number line below f h
  unfold endlessLoop at h
  split at h
  · obtain rfl := Option.some.inj h
    rfl
  · cases h

theorem places_inclusiveLoop : Places (fun number line _ => inclusiveLoop number line) .offByOne := by
  intro number line below f h
  obtain ⟨m, -, h⟩ := Option.bind_eq_some_iff.mp h
  split at h
  · obtain rfl := Option.some.inj h
    rfl
  · cases h

theorem places_strayEnd : Places (fun number line _ => strayEnd number line) .deadCode := by
  intro number line below f h
  dsimp only [strayEnd] at h
  split at h
  · obtain rfl := Option.some.inj h
    rfl
  · cases h

theorem places_assignedCondition :
    Places (fun number line _ => assignedCondition number line) .wrongComparison := by
  intro number line below f h
  obtain ⟨m, -, h⟩ := Option.bind_eq_some_iff.mp h
  split at h
  · obtain rfl := Option.some.inj h
    rfl
  · cases h

theorem places_missingReturn : Places (missingReturn language) .missingReturn := by
  intro number line below f h
  obtain ⟨name, -, rfl⟩ := Option.map_eq_some_iff.mp h
  rfl

theorem isSome_endlessLoop :
    (endlessLoop language number line below).isSome
      = ((loopHead language).occurs (code line) && !breakNear below) := by
  unfold endlessLoop
  split
  · next h => rw [h]; rfl
  · next h => rw [Bool.not_eq_true] at h; rw [h]; rfl

/-- Whether an unconditional loop is reported hangs on its code and on the words around it. -/
theorem endlessLoop_congr (hcode : code line = code line') :
    endlessLoop language number line below = endlessLoop language number line' below' ↔
      ((loopHead language).occurs (code line) = true → breakNear below = breakNear below') := by
  constructor
  · intro h hhead
    have hsome := congrArg Option.isSome h
    rw [isSome_endlessLoop, isSome_endlessLoop, ← hcode, hhead, Bool.true_and, Bool.true_and] at hsome
    exact Bool.not_inj hsome
  · intro h
    unfold endlessLoop
    rw [← hcode]
    cases hhead : (loopHead language).occurs (code line) with
    | false => rfl
    | true => rw [h hhead]

theorem unreturned_injective : Function.Injective (unreturned number) := by
  intro name name' h
  have hmessage := congrArg (fun f : Finding => f.message.toList) h
  simpa [unreturned, String.toList_inj] using hmessage

theorem inclusiveLoop_congr (hcode : code line = code line') :
    inclusiveLoop number line = inclusiveLoop number line' := by
  rw [inclusiveLoop, hcode, ← inclusiveLoop]

theorem strayEnd_congr (hcode : code line = code line') :
    strayEnd number line = strayEnd number line' := by
  rw [strayEnd, hcode, ← strayEnd]

theorem assignedCondition_congr (hcode : code line = code line') :
    assignedCondition number line = assignedCondition number line' := by
  rw [assignedCondition, hcode, ← assignedCondition]

theorem foldlM_readLine_congr (h : text.map code = text'.map code) (s : Search) :
    text.foldlM Search.readLine s = text'.foldlM Search.readLine s := by
  induction text generalizing text' s with
  | nil =>
      obtain rfl := List.map_eq_nil_iff.mp h.symm
      rfl
  | cons line below ih =>
      obtain ⟨line', below', rfl, hline, hbelow⟩ := List.map_eq_cons_iff.mp h.symm
      rw [List.foldlM_cons, List.foldlM_cons, Search.readLine, Search.readLine, hline]
      simp only [ih hbelow.symm]

theorem neverReturns_congr (h : below.map code = below'.map code) :
    neverReturns below = neverReturns below' := by
  unfold neverReturns functionBody?
  rw [foldlM_readLine_congr h]

/-- Whether a function that never returns is reported hangs on its whole first line. -/
theorem missingReturn_congr (h : below.map code = below'.map code) :
    missingReturn language number line below = missingReturn language number line' below' ↔
      (neverReturns below = true →
        (headName? language line).filter (· != "main")
          = (headName? language line').filter (· != "main")) := by
  unfold missingReturn
  rw [(Option.map_injective unreturned_injective).eq_iff, ← neverReturns_congr h]
  cases neverReturns below with
  | false => simp
  | true => simp

end Checks

/-! ## What comments are seen in -/

/-- Every unconditional loop has a `break` nearby in both texts or in neither. -/
def SameBreaks (language : Language) (text text' : List (List Char)) : Prop :=
  ∀ i line, text[i]? = some line → (loopHead language).occurs (code line) = true →
    breakNear (text.drop i) = breakNear (text'.drop i)

/-- Every function that never returns, `main` apart, has a head that is seen in both texts, with the
same name, or in neither. -/
def SameHeads (language : Language) (text text' : List (List Char)) : Prop :=
  ∀ i line line', text[i]? = some line → text'[i]? = some line' → neverReturns (text.drop i) = true →
    (headName? language line).filter (· != "main") = (headName? language line').filter (· != "main")

section Findings

variable {language : Language} {s t : String}

theorem find?_findings_infiniteLoop (language : Language) (s : String) (i : Nat) :
    (findings language s).find? (fun f => f.place = (.infiniteLoop, some (1 + i)))
      = (lines s.toList)[i]?.bind fun line =>
          endlessLoop language (1 + i) line ((lines s.toList).drop i) := by
  rw [findings, List.find?_append, List.find?_append, List.find?_append, List.find?_append,
    find?_eachLine places_endlessLoop, find?_eachLine_of_ne places_inclusiveLoop (by decide),
    find?_eachLine_of_ne places_strayEnd (by decide),
    find?_ite_eachLine_of_ne _ places_assignedCondition (by decide),
    find?_ite_eachLine_of_ne _ places_missingReturn (by decide), Option.or_none, Option.or_none,
    Option.or_none, Option.or_none]

theorem find?_findings_missingReturn (hlanguage : language ≠ .javaScript) (s : String) (i : Nat) :
    (findings language s).find? (fun f => f.place = (.missingReturn, some (1 + i)))
      = (lines s.toList)[i]?.bind fun line =>
          missingReturn language (1 + i) line ((lines s.toList).drop i) := by
  rw [findings, List.find?_append, List.find?_append, List.find?_append, List.find?_append,
    find?_eachLine_of_ne places_endlessLoop (by decide),
    find?_eachLine_of_ne places_inclusiveLoop (by decide),
    find?_eachLine_of_ne places_strayEnd (by decide),
    find?_ite_eachLine_of_ne _ places_assignedCondition (by decide), if_neg hlanguage,
    find?_eachLine places_missingReturn, Option.none_or, Option.none_or, Option.none_or,
    Option.none_or]

/-- The normal form loses no finding of a brace language. -/
theorem find?_findings_of_analyze (h : analyze language s = analyze language t)
    (p : FindingCategory × Option Nat) :
    (findings language s).find? (fun f => f.place = p)
      = (findings language t).find? fun f => f.place = p := by
  have hfind := congrArg (fun fs => fs.find? fun f => f.place = p) h
  simpa only [analyze, Finding.find?_normalize] using hfind

/-- The code of a line is the same in both texts. -/
theorem code_eq_of_map {text text' : List (List Char)} (hmap : text.map code = text'.map code) {i : Nat}
    {line line' : List Char} (hline : text[i]? = some line) (hline' : text'[i]? = some line') :
    code line = code line' := by
  have hi := congrArg (fun codes => codes[i]?) hmap
  simpa [hline, hline'] using hi

theorem map_code_drop {text text' : List (List Char)} (hmap : text.map code = text'.map code)
    (i : Nat) : (text.drop i).map code = (text'.drop i).map code := by
  rw [List.map_drop, List.map_drop, hmap]

theorem length_eq_of_map {text text' : List (List Char)} (hmap : text.map code = text'.map code) :
    text.length = text'.length := by
  simpa using congrArg List.length hmap

theorem findings_congr (hmap : (lines s.toList).map code = (lines t.toList).map code)
    (hbreaks : SameBreaks language (lines s.toList) (lines t.toList))
    (hheads : language ≠ .javaScript → SameHeads language (lines s.toList) (lines t.toList)) :
    findings language s = findings language t := by
  have hlength := length_eq_of_map hmap
  have hloops : eachLine (endlessLoop language) 1 (lines s.toList)
      = eachLine (endlessLoop language) 1 (lines t.toList) :=
    eachLine_congr hlength fun i line line' hline hline' =>
      (endlessLoop_congr (code_eq_of_map hmap hline hline')).mpr (hbreaks i line hline)
  have hcounted : eachLine (fun number line _ => inclusiveLoop number line) 1 (lines s.toList)
      = eachLine (fun number line _ => inclusiveLoop number line) 1 (lines t.toList) :=
    eachLine_congr hlength fun i line line' hline hline' =>
      inclusiveLoop_congr (code_eq_of_map hmap hline hline')
  have hstray : eachLine (fun number line _ => strayEnd number line) 1 (lines s.toList)
      = eachLine (fun number line _ => strayEnd number line) 1 (lines t.toList) :=
    eachLine_congr hlength fun i line line' hline hline' =>
      strayEnd_congr (code_eq_of_map hmap hline hline')
  have hassigned : eachLine (fun number line _ => assignedCondition number line) 1 (lines s.toList)
      = eachLine (fun number line _ => assignedCondition number line) 1 (lines t.toList) :=
    eachLine_congr hlength fun i line line' hline hline' =>
      assignedCondition_congr (code_eq_of_map hmap hline hline')
  have hreturns : (if language = .javaScript then []
        else eachLine (missingReturn language) 1 (lines s.toList))
      = if language = .javaScript then []
        else eachLine (missingReturn language) 1 (lines t.toList) := by
    split
    · rfl
    · next hlanguage =>
        exact eachLine_congr hlength fun i line line' hline hline' =>
          (missingReturn_congr (map_code_drop hmap i)).mpr
            (hheads hlanguage i line line' hline hline')
  rw [findings, findings, hloops, hcounted, hstray, hassigned, hreturns]

/-- Two texts that are the same but for their comments have the same findings exactly if no comment
tells of a `break` near an unconditional loop of one text only, and none hides the head of a function
that never returns in one text only. -/
theorem analyze_eq_iff (h : SameButComments s t) :
    analyze language s = analyze language t ↔
      SameBreaks language (lines s.toList) (lines t.toList) ∧
        (language ≠ .javaScript → SameHeads language (lines s.toList) (lines t.toList)) := by
  have hmap := map_code_eq h
  constructor
  · intro heq
    have hfind := find?_findings_of_analyze heq
    refine ⟨fun i line hline hhead => ?_, fun hlanguage i line line' hline hline' hnever => ?_⟩
    · obtain ⟨line', hline'⟩ : ∃ line', (lines t.toList)[i]? = some line' := by
        have hi := (List.getElem?_eq_some_iff.mp hline).1
        exact ⟨_, List.getElem?_eq_getElem (length_eq_of_map hmap ▸ hi)⟩
      have hloop := hfind (.infiniteLoop, some (1 + i))
      rw [find?_findings_infiniteLoop, find?_findings_infiniteLoop, hline, hline'] at hloop
      exact (endlessLoop_congr (code_eq_of_map hmap hline hline')).mp hloop hhead
    · have hreturn := hfind (.missingReturn, some (1 + i))
      rw [find?_findings_missingReturn hlanguage, find?_findings_missingReturn hlanguage, hline,
        hline'] at hreturn
      exact (missingReturn_congr (map_code_drop hmap i)).mp hreturn hnever
  · rintro ⟨hbreaks, hheads⟩
    rw [analyze, findings_congr hmap hbreaks hheads, ← analyze]

end Findings

/-- An unconditional loop with a remark. -/
def remarkedLoop (remark : String) : String := "while (true) \x7b // " ++ remark ++ "\n\x7d\n"

/-- A function that never returns, with a remark at its head. -/
def remarkedHead (remark : String) : String := "int f(int x) \x7b // " ++ remark ++ "\n\x7d\n"

theorem lines_remarkedLoop :
    lines (remarkedLoop "wait").toList
        = ["while (true) \x7b ".toList ++ '/' :: '/' :: " wait".toList, ['}']] ∧
      lines (remarkedLoop "break").toList
        = ["while (true) \x7b ".toList ++ '/' :: '/' :: " break".toList, ['}']] := by
  decide

theorem lines_remarkedHead :
    lines (remarkedHead "x").toList
        = ["int f(int x) \x7b ".toList ++ '/' :: '/' :: " x".toList, ['}']] ∧
      lines (remarkedHead "(x)").toList
        = ["int f(int x) \x7b ".toList ++ '/' :: '/' :: " (x)".toList, ['}']] := by
  decide

theorem sameButComments_of_lines {s t : String} {text text' : List (List Char)}
    (hs : lines s.toList = text) (ht : lines t.toList = text') (h : List.Forall₂ SameCode text text') :
    SameButComments s t := by
  subst hs ht
  exact h

theorem sameButComments_remarkedLoop :
    SameButComments (remarkedLoop "wait") (remarkedLoop "break") :=
  sameButComments_of_lines lines_remarkedLoop.1 lines_remarkedLoop.2
    (.cons (.comment _ _ _ (by decide)) (.cons (.same _) .nil))

theorem sameButComments_remarkedHead :
    SameButComments (remarkedHead "x") (remarkedHead "(x)") :=
  sameButComments_of_lines lines_remarkedHead.1 lines_remarkedHead.2
    (.cons (.comment _ _ _ (by decide)) (.cons (.same _) .nil))

theorem analyze_eq_iff_remarked :
    SameButComments (remarkedLoop "wait") (remarkedLoop "break") ∧
      (analyze .go (remarkedLoop "wait") = analyze .go (remarkedLoop "break") ↔
        SameBreaks .go (lines (remarkedLoop "wait").toList) (lines (remarkedLoop "break").toList) ∧
          (Language.go ≠ .javaScript →
            SameHeads .go (lines (remarkedLoop "wait").toList)
              (lines (remarkedLoop "break").toList))) :=
  ⟨sameButComments_remarkedLoop, analyze_eq_iff sameButComments_remarkedLoop⟩

/-- A comment can excuse a loop, and hide the head of a function. -/
theorem comments_seen :
    (SameButComments (remarkedLoop "wait") (remarkedLoop "break")
      ∧ analyze .cpp (remarkedLoop "wait") ≠ analyze .cpp (remarkedLoop "break"))
    ∧ SameButComments (remarkedHead "x") (remarkedHead "(x)")
      ∧ analyze .c (remarkedHead "x") ≠ analyze .c (remarkedHead "(x)") := by
  refine ⟨⟨sameButComments_remarkedLoop, fun heq => ?_⟩, sameButComments_remarkedHead, fun heq => ?_⟩
  · have hloop := find?_findings_of_analyze heq (.infiniteLoop, some (1 + 0))
    rw [find?_findings_infiniteLoop, find?_findings_infiniteLoop, lines_remarkedLoop.1,
      lines_remarkedLoop.2] at hloop
    exact absurd (congrArg Option.isSome hloop) (by decide)
  · have hlanguage : Language.c ≠ .javaScript := by decide
    have hreturn := find?_findings_of_analyze heq (.missingReturn, some (1 + 0))
    rw [find?_findings_missingReturn hlanguage, find?_findings_missingReturn hlanguage,
      lines_remarkedHead.1, lines_remarkedHead.2] at hreturn
    exact absurd (congrArg Option.isSome hreturn) (by decide)

end Remedy.Brace
