import Remedy.Brace.Body

/-!
# The body between matching braces

A search for a body reads braces one by one and keeps their depth as a number that cannot be
negative. It never has to be: `Tallies` says that the depth is the number of braces opened and not
closed in the text kept so far, and that it is positive from the first brace on; each character keeps
that (`tallies_readChar`), so each line and the whole search do (`tallies_of_visits`).

What a search finds is said by the text alone. `Opens` finds the first opening brace, and `Closes` the
first closing one after it that makes the braces level; `functionBody?_matches` says that a body is
what stands between the two, and that there is none exactly if one of the two is missing or the first
one comes too late.
-/

namespace Remedy.Brace

/-! ## Loops that may end early -/

section Loop

variable {α β ε : Type} {f : β → α → Except ε β} {s t : β} {front back : List α}

/-- The state after a part of a loop that went on is that of the rest. -/
theorem foldlM_append_of_ok (h : front.foldlM f s = .ok t) (back : List α) :
    (front ++ back).foldlM f s = back.foldlM f t := by
  rw [List.foldlM_append, h]
  rfl

theorem exists_of_foldlM_cons {a : α} {as : List α} (h : (a :: as).foldlM f s = .ok t) :
    ∃ m, f s a = .ok m ∧ as.foldlM f m = .ok t := by
  rw [List.foldlM_cons] at h
  cases ha : f s a with
  | error e =>
      rw [ha] at h
      cases h
  | ok m =>
      rw [ha] at h
      exact ⟨m, rfl, h⟩

theorem exists_of_foldlM_append (h : (front ++ back).foldlM f s = .ok t) :
    ∃ m, front.foldlM f s = .ok m ∧ back.foldlM f m = .ok t := by
  induction front generalizing s with
  | nil => exact ⟨s, rfl, h⟩
  | cons a front ih =>
      obtain ⟨m, ha, h⟩ := exists_of_foldlM_cons h
      obtain ⟨n, hfront, hback⟩ := ih h
      refine ⟨n, ?_, hback⟩
      rw [List.foldlM_cons, ha]
      exact hfront

/-- A loop that ends early does so at one of its elements. -/
theorem exists_of_foldlM_error {as : List α} {e : ε} (h : as.foldlM f s = .error e) :
    ∃ front a back t, as = front ++ a :: back ∧ front.foldlM f s = .ok t ∧ f t a = .error e := by
  induction as generalizing s with
  | nil => cases h
  | cons a as ih =>
      rw [List.foldlM_cons] at h
      cases ha : f s a with
      | error e' =>
          rw [ha] at h
          obtain rfl := Except.error.inj h
          exact ⟨[], a, as, s, rfl, rfl, ha⟩
      | ok m =>
          rw [ha] at h
          obtain ⟨front, b, back, t, rfl, hfront, hb⟩ := ih h
          refine ⟨a :: front, b, back, t, rfl, ?_, hb⟩
          rw [List.foldlM_cons, ha]
          exact hfront

/-- What each step keeps, a loop keeps. -/
theorem foldlM_keeps {P : β → Prop} (hstep : ∀ s a t, P s → f s a = .ok t → P t) {as : List α}
    (hs : P s) (h : as.foldlM f s = .ok t) : P t := by
  induction as generalizing s with
  | nil =>
      obtain rfl := Except.ok.inj h
      exact hs
  | cons a as ih =>
      obtain ⟨m, hm, h⟩ := exists_of_foldlM_cons h
      exact ih (hstep s a m hs hm) h

end Loop

/-! ## Braces of a text -/

/-- As many braces are opened as are closed. -/
def Level (s : List Char) : Prop := s.count '{' = s.count '}'

/-- The closing brace after `inner` is the first one in a text that makes the braces level with one
that was opened before the text. -/
structure Closes (rest inner : List Char) : Prop where
  split : ∃ tail, rest = inner ++ '}' :: tail
  level : Level ('{' :: inner ++ ['}'])
  first : ∀ front back, inner = front ++ '}' :: back → ¬Level ('{' :: front ++ ['}'])

/-- The code of some lines, each with its end. -/
def codeOf (lines : List (List Char)) : List Char := lines.flatMap fun line => code line ++ ['\n']

/-- The first opening brace in the code of some lines stands behind the lines `above`, and `rest` is
the code after it. -/
structure Opens (lines above : List (List Char)) (rest : List Char) : Prop where
  unopened : ∀ line ∈ above, '{' ∉ code line
  split : ∃ line below front back, lines = above ++ line :: below
    ∧ code line = front ++ '{' :: back ∧ '{' ∉ front ∧ rest = back ++ '\n' :: codeOf below

theorem exists_opens {lines : List (List Char)} (h : ∃ line ∈ lines, '{' ∈ code line) :
    ∃ above rest, Opens lines above rest := by
  induction lines with
  | nil => simp at h
  | cons line lines ih =>
      by_cases hline : '{' ∈ code line
      · obtain ⟨front, back, hsplit, hfront⟩ := List.eq_append_cons_of_mem hline
        exact ⟨[], _, by simp, line, lines, front, back, rfl, hsplit, hfront, rfl⟩
      · have hlines : ∃ l ∈ lines, '{' ∈ code l := by simpa [hline] using h
        obtain ⟨above, rest, habove, l, below, front, back, rfl, hsplit⟩ := ih hlines
        refine ⟨line :: above, rest, ?_, l, below, front, back, rfl, hsplit⟩
        exact List.forall_mem_cons.mpr ⟨hline, habove⟩

theorem Opens.unopened_take {lines above : List (List Char)} {rest : List Char} {n : Nat}
    (h : Opens lines above rest) (hn : n ≤ above.length) :
    ∀ line ∈ lines.take n, '{' ∉ code line := by
  obtain ⟨line, below, front, back, rfl, -⟩ := h.split
  rw [List.take_append_of_le_length hn]
  exact fun line hline => h.unopened line (List.mem_of_mem_take hline)

/-- Either no brace is opened in the lines that may stand before one, or it stands behind few. -/
theorem exists_opens_early {lines : List (List Char)} {n : Nat}
    (h : ¬∀ line ∈ lines.take (n + 1), '{' ∉ code line) :
    ∃ above rest, Opens lines above rest ∧ above.length ≤ n := by
  obtain ⟨line, hline, hopened⟩ : ∃ line ∈ lines.take (n + 1), '{' ∈ code line := by
    simpa only [Classical.not_forall, exists_prop, Classical.not_not] using h
  obtain ⟨above, rest, hopens⟩ := exists_opens ⟨line, List.mem_of_mem_take hline, hopened⟩
  refine ⟨above, rest, hopens, Nat.le_of_not_lt fun hlength => ?_⟩
  exact hopens.unopened_take hlength line hline hopened

namespace Search

variable {s t : Search} {c : Char} {text : List Char}

/-! ## The depth is exact -/

/-- What a search does at a character. -/
inductive Reads (s : Search) : Char → Outcome → Prop where
  | opens : Reads s '{' (.ok { depth := s.depth + 1, opened := true, text := '{' :: s.text })
  | skips (c : Char) (hc : c ≠ '{') (hopened : s.opened = false) : Reads s c (.ok s)
  | ends (hopened : s.opened = true) (hdepth : s.depth - 1 = 0) :
      Reads s '}' (.error (some s.text.reverse))
  | closes (hopened : s.opened = true) (hdepth : s.depth - 1 ≠ 0) :
      Reads s '}' (.ok { s with depth := s.depth - 1, text := '}' :: s.text })
  | keeps (c : Char) (hc : c ≠ '{') (hc' : c ≠ '}') (hopened : s.opened = true) :
      Reads s c (.ok { s with text := c :: s.text })

theorem reads_readChar (s : Search) (c : Char) : Reads s c (s.readChar c) := by
  unfold readChar
  split
  · next hc =>
      subst hc
      exact .opens
  · next hc =>
      split
      · next hopened => exact .skips c hc (by simpa using hopened)
      · next hopened =>
          have hopened : s.opened = true := by simpa using hopened
          split
          · next hc' =>
              subst hc'
              dsimp only
              split
              · next hdepth => exact .ends hopened hdepth
              · next hdepth => exact .closes hopened hdepth
          · next hc' => exact .keeps c hc hc' hopened

theorem reads_of_eq {o : Outcome} (h : s.readChar c = o) : Reads s c o := h ▸ reads_readChar s c

/-- The depth is the number of braces that are open in the text, and some are from the first on. -/
structure Tallies (s : Search) : Prop where
  pos : s.opened = true → 0 < s.depth
  zero : s.opened = false → s.depth = 0
  count : s.text.count '{' = s.depth + s.text.count '}'

theorem tallies_init : Tallies {} := ⟨nofun, fun _ => rfl, rfl⟩

/-- Each character keeps the tally: where a closing brace takes one off the depth, there is one. -/
theorem tallies_readChar (hs : Tallies s) (h : s.readChar c = .ok t) : Tallies t := by
  have hcount := hs.count
  cases reads_of_eq h with
  | opens =>
      refine ⟨fun _ => Nat.succ_pos _, nofun, ?_⟩
      simp [hcount, Nat.add_right_comm]
  | skips _ hc hopened => exact hs
  | closes hopened hdepth =>
      refine ⟨fun _ => Nat.pos_of_ne_zero hdepth, fun hclosed => ?_, ?_⟩
      · exact absurd hopened (Bool.eq_false_iff.mp hclosed)
      · simp
        omega
  | keeps _ hc hc' hopened =>
      refine ⟨hs.pos, hs.zero, ?_⟩
      rw [List.count_cons_of_ne hc, List.count_cons_of_ne hc', hcount]

theorem tallies_readLine {line : List Char} (hs : Tallies s) (h : s.readLine line = .ok t) :
    Tallies t := by
  unfold readLine at h
  cases hcode : (code line).foldlM readChar s with
  | error e =>
      rw [hcode] at h
      cases h
  | ok m =>
      rw [hcode] at h
      have hm := foldlM_keeps (fun _ _ _ => tallies_readChar) hs hcode
      change (if _ then _ else _) = _ at h
      split at h
      · cases h
      · obtain rfl := Except.ok.inj h
        exact ⟨hm.pos, hm.zero, by simpa using hm.count⟩

/-- A search through some lines comes to a state, at any place of the code of one of them. -/
def Visits (lines : List (List Char)) (s : Search) : Prop :=
  ∃ above line below front back t, lines = above ++ line :: below ∧ code line = front ++ back
    ∧ above.foldlM readLine {} = .ok t ∧ front.foldlM readChar t = .ok s

theorem tallies_of_visits {lines : List (List Char)} (h : Visits lines s) : Tallies s := by
  obtain ⟨above, line, below, front, back, t, -, -, habove, hfront⟩ := h
  have ht := foldlM_keeps (fun _ _ _ => tallies_readLine) tallies_init habove
  exact foldlM_keeps (fun _ _ _ => tallies_readChar) ht hfront

/-! ## Behind the first opening brace -/

/-- Behind the first opening brace, everything is kept. -/
theorem keeps_foldlM (hs : s.opened = true) (h : text.foldlM readChar s = .ok t) :
    t.opened = true ∧ t.text = text.reverse ++ s.text := by
  induction text generalizing s with
  | nil =>
      obtain rfl := Except.ok.inj h
      exact ⟨hs, rfl⟩
  | cons c text ih =>
      obtain ⟨m, hm, h⟩ := exists_of_foldlM_cons h
      have hkept : m.opened = true ∧ m.text = c :: s.text := by
        cases reads_of_eq hm with
        | opens => exact ⟨rfl, rfl⟩
        | skips _ hc hopened => exact absurd hs (Bool.eq_false_iff.mp hopened)
        | closes hopened hdepth => exact ⟨hs, rfl⟩
        | keeps _ hc hc' hopened => exact ⟨hs, rfl⟩
      obtain ⟨hopened, htext⟩ := ih hkept.1 h
      exact ⟨hopened, by simp [htext, hkept.2]⟩

/-- The state behind the first opening brace, after so many line ends. -/
def behind (above : Nat) : Search :=
  { depth := 1, opened := true, text := '{' :: List.replicate above '\n' }

theorem tallies_behind (above : Nat) : Tallies (behind above) :=
  ⟨fun _ => Nat.one_pos, nofun, by simp [behind, List.count_replicate]⟩

section Behind

variable {above : Nat}

/-- Braces are level with a closing one more exactly if one is open. -/
theorem level_iff_depth (h : text.foldlM readChar (behind above) = .ok t) :
    Level ('{' :: text ++ ['}']) ↔ t.depth = 1 := by
  have hcount := (foldlM_keeps (fun _ _ _ => tallies_readChar) (tallies_behind above) h).count
  rw [(keeps_foldlM rfl h).2] at hcount
  simp [behind, List.count_replicate] at hcount
  simp [Level]
  omega

theorem reverse_text_behind (h : text.foldlM readChar (behind above) = .ok t) :
    t.text.reverse = List.replicate above '\n' ++ '{' :: text := by
  simp [(keeps_foldlM rfl h).2, behind]

/-- Only a closing brace that makes the braces level ends the search. -/
theorem of_readChar_error {body : Option (List Char)}
    (h : text.foldlM readChar (behind above) = .ok t) (hend : t.readChar c = .error body) :
    c = '}' ∧ Level ('{' :: text ++ ['}'])
      ∧ body = some (List.replicate above '\n' ++ '{' :: text) := by
  have htally := foldlM_keeps (fun _ _ _ => tallies_readChar) (tallies_behind above) h
  cases reads_of_eq hend with
  | ends hopened hdepth =>
      have hpos := htally.pos hopened
      exact ⟨rfl, (level_iff_depth h).mpr (by omega), by rw [reverse_text_behind h]⟩

/-- A closing brace behind which the search goes on does not make the braces level. -/
theorem not_level_of_foldlM {back : List Char}
    (h : (text ++ '}' :: back).foldlM readChar (behind above) = .ok t) :
    ¬Level ('{' :: text ++ ['}']) := by
  obtain ⟨m, htext, h⟩ := exists_of_foldlM_append h
  obtain ⟨n, hclose, -⟩ := exists_of_foldlM_cons h
  rw [level_iff_depth htext]
  cases reads_of_eq hclose with
  | skips _ hc hopened => exact absurd (keeps_foldlM rfl htext).1 (Bool.eq_false_iff.mp hopened)
  | closes hopened hdepth => omega
  | keeps _ hc hc' hopened => exact absurd rfl hc'

/-- The search ends at the first closing brace that makes the braces level, with all in between. -/
theorem foldlM_eq_error_iff {body : Option (List Char)} :
    text.foldlM readChar (behind above) = .error body ↔
      ∃ inner, Closes text inner ∧ body = some (List.replicate above '\n' ++ '{' :: inner) := by
  constructor
  · intro h
    obtain ⟨inner, c, tail, t, rfl, hinner, hend⟩ := exists_of_foldlM_error h
    obtain ⟨rfl, hlevel, rfl⟩ := of_readChar_error hinner hend
    refine ⟨inner, ⟨⟨tail, rfl⟩, hlevel, ?_⟩, rfl⟩
    rintro front back rfl
    exact not_level_of_foldlM hinner
  · rintro ⟨inner, ⟨⟨tail, rfl⟩, hlevel, hfirst⟩, rfl⟩
    cases hinner : inner.foldlM readChar (behind above) with
    | error e =>
        -- the search cannot have ended before, as no earlier closing brace makes the braces level
        obtain ⟨front, c, back, t, rfl, hfront, hend⟩ := exists_of_foldlM_error hinner
        obtain ⟨rfl, hlevel', -⟩ := of_readChar_error hfront hend
        exact absurd hlevel' (hfirst front back rfl)
    | ok t =>
        have hopened := (keeps_foldlM rfl hinner).1
        have hend : t.readChar '}' = .error (some t.text.reverse) := by
          simp [readChar, hopened, (level_iff_depth hinner).mp hlevel]
        rw [foldlM_append_of_ok hinner, List.foldlM_cons, hend, reverse_text_behind hinner]
        rfl

end Behind

/-! ## Line by line -/

/-- Behind the first opening brace, the end of a line is a character like others. -/
theorem readLine_of_opened {line back : List Char} (ht : t.opened = true)
    (h : (code line).foldlM readChar s = back.foldlM readChar t) :
    s.readLine line = (back ++ ['\n']).foldlM readChar t := by
  rw [List.foldlM_append, readLine, h]
  cases hback : back.foldlM readChar t with
  | error e => rfl
  | ok m =>
      have hopened := (keeps_foldlM ht hback).1
      change (if _ then _ else _) = List.foldlM readChar m ['\n']
      simp [readChar, hopened]

/-- Behind the first opening brace, lines are read as one text. -/
theorem foldlM_codeOf (hs : s.opened = true) (text : List Char) (below : List (List Char)) :
    (text.foldlM readChar s >>= fun m => below.foldlM readLine m)
      = (text ++ codeOf below).foldlM readChar s := by
  rw [List.foldlM_append]
  cases htext : text.foldlM readChar s with
  | error e => rfl
  | ok t =>
      have ht := (keeps_foldlM hs htext).1
      change below.foldlM readLine t = (codeOf below).foldlM readChar t
      induction below generalizing text s t with
      | nil => rfl
      | cons line below ih =>
          rw [codeOf, List.flatMap_cons, ← codeOf, List.foldlM_cons, List.foldlM_append,
            readLine_of_opened ht rfl]
          cases hline : (code line ++ ['\n']).foldlM readChar t with
          | error e => rfl
          | ok m => exact ih ht _ m hline (keeps_foldlM ht hline).1

/-- Before the first opening brace, nothing is kept of a line. -/
theorem foldlM_readChar_of_unopened (hs : s.opened = false) (h : '{' ∉ text) :
    text.foldlM readChar s = .ok s := by
  induction text with
  | nil => rfl
  | cons c text ih =>
      rw [List.mem_cons, not_or] at h
      have hc : s.readChar c = .ok s := by simp [readChar, hs, Ne.symm h.1]
      rw [List.foldlM_cons, hc]
      exact ih h.2

/-- The state before the first opening brace, after so many line ends. -/
def before (above : Nat) : Search :=
  { depth := 0, opened := false, text := List.replicate above '\n' }

theorem readLine_before {above : Nat} {line : List Char} (h : '{' ∉ code line) :
    (before above).readLine line =
      if headLines ≤ above then .error none else .ok (before (above + 1)) := by
  have hlength : ('\n' :: (before above).text).length = above + 1 := by
    rw [List.length_cons, before, List.length_replicate]
  have hlate : headLines < above + 1 ↔ headLines ≤ above := Nat.lt_succ_iff
  rw [readLine, foldlM_readChar_of_unopened rfl h]
  change (if !false && decide (headLines < ('\n' :: (before above).text).length) then _ else _) = _
  rw [hlength]
  simp only [Bool.not_false, Bool.true_and, decide_eq_true_eq, hlate]
  rfl

theorem foldlM_readLine_before {n : Nat} {above : List (List Char)}
    (h : ∀ line ∈ above, '{' ∉ code line) (hlength : n + above.length ≤ headLines) :
    above.foldlM readLine (before n) = .ok (before (n + above.length)) := by
  induction above generalizing n with
  | nil => rfl
  | cons line above ih =>
      rw [List.forall_mem_cons] at h
      rw [List.length_cons] at hlength ⊢
      rw [List.foldlM_cons, readLine_before h.1, if_neg (by omega)]
      rw [show n + (above.length + 1) = n + 1 + above.length by omega]
      exact ih h.2 (by omega)

end Search

/-! ## The body -/

open Search

variable {lines above : List (List Char)} {rest : List Char}

/-- Where no brace is opened in the lines that may stand before one, there is no body. -/
theorem functionBody?_of_unopened (h : ∀ line ∈ lines.take (headLines + 1), '{' ∉ code line) :
    functionBody? lines = none := by
  by_cases hlength : lines.length ≤ headLines
  · rw [List.take_of_length_le (by omega)] at h
    have hread : lines.foldlM readLine {} = _ := foldlM_readLine_before (n := 0) h (by omega)
    rw [functionBody?, hread]
  · have hlast : headLines < lines.length := by omega
    obtain ⟨front, line, below, rfl, hfront⟩ :
        ∃ front line below, lines = front ++ line :: below ∧ front.length = headLines :=
      ⟨lines.take headLines, lines[headLines], lines.drop (headLines + 1),
        by rw [← List.drop_eq_getElem_cons, List.take_append_drop],
        List.length_take_of_le (by omega)⟩
    have htake : (front ++ line :: below).take (headLines + 1) = front ++ [line] := by
      rw [← hfront, List.take_length_add_append]
      rfl
    rw [htake, List.forall_mem_append, List.forall_mem_singleton] at h
    have hread : front.foldlM readLine {} = _ := foldlM_readLine_before (n := 0) h.1 (by omega)
    rw [functionBody?, foldlM_append_of_ok hread, List.foldlM_cons, readLine_before h.2,
      if_pos (by omega)]
    rfl

/-- Behind the first opening brace, the search is for the one that closes it. -/
theorem functionBody?_of_opens (h : Opens lines above rest) (hlength : above.length ≤ headLines)
    {body : List Char} :
    functionBody? lines = some body ↔
      ∃ inner, Closes rest inner ∧ body = List.replicate above.length '\n' ++ '{' :: inner := by
  obtain ⟨line, below, front, back, rfl, hline, hfront, rfl⟩ := h.split
  have habove : above.foldlM readLine {} = .ok (before above.length) := by
    have hread := foldlM_readLine_before (n := 0) h.unopened (by omega)
    rwa [Nat.zero_add] at hread
  have hread : (above ++ line :: below).foldlM readLine {}
      = (back ++ '\n' :: codeOf below).foldlM readChar (behind above.length) := by
    have hopen : (code line).foldlM readChar (before above.length)
        = back.foldlM readChar (behind above.length) := by
      rw [hline, foldlM_append_of_ok (foldlM_readChar_of_unopened rfl hfront), List.foldlM_cons]
      rfl
    rw [foldlM_append_of_ok habove, List.foldlM_cons, readLine_of_opened rfl hopen,
      foldlM_codeOf rfl, List.append_assoc, List.singleton_append]
  rw [functionBody?, hread]
  cases hrest : (back ++ '\n' :: codeOf below).foldlM readChar (behind above.length) with
  | ok t =>
      refine iff_of_false nofun ?_
      rintro ⟨inner, hcloses, -⟩
      rw [foldlM_eq_error_iff.mpr ⟨inner, hcloses, rfl⟩] at hrest
      cases hrest
  | error found =>
      obtain ⟨inner, hcloses, rfl⟩ := foldlM_eq_error_iff.mp hrest
      constructor
      · intro hbody
        exact ⟨inner, hcloses, (Option.some.inj hbody).symm⟩
      · rintro ⟨inner', hcloses', rfl⟩
        exact Except.error.inj (hrest.symm.trans (foldlM_eq_error_iff.mpr ⟨inner', hcloses', rfl⟩))

/-- The search for a body keeps an exact depth, and finds the text between the first opening brace
and the closing one that first makes the braces level. -/
theorem functionBody?_matches (lines : List (List Char)) :
    (∀ s, Visits lines s → (s.opened = true → 0 < s.depth)
        ∧ s.text.count '{' = s.depth + s.text.count '}')
      ∧ (∀ body, functionBody? lines = some body ↔
          ∃ above rest inner, Opens lines above rest ∧ above.length ≤ headLines
            ∧ Closes rest inner ∧ body = List.replicate above.length '\n' ++ '{' :: inner)
      ∧ (functionBody? lines = none ↔
          (∀ line ∈ lines.take (headLines + 1), '{' ∉ code line)
            ∨ ∃ above rest, Opens lines above rest ∧ ∀ inner, ¬Closes rest inner) := by
  refine ⟨fun s hs => ⟨(tallies_of_visits hs).pos, (tallies_of_visits hs).count⟩, fun body => ?_, ?_⟩
  · constructor
    · intro hbody
      obtain ⟨above, rest, hopens, hlength⟩ := exists_opens_early fun hunopened => by
        rw [functionBody?_of_unopened hunopened] at hbody
        cases hbody
      obtain ⟨inner, hcloses, rfl⟩ := (functionBody?_of_opens hopens hlength).mp hbody
      exact ⟨above, rest, inner, hopens, hlength, hcloses, rfl⟩
    · rintro ⟨above, rest, inner, hopens, hlength, hcloses, rfl⟩
      exact (functionBody?_of_opens hopens hlength).mpr ⟨inner, hcloses, rfl⟩
  · constructor
    · intro hnone
      by_cases hunopened : ∀ line ∈ lines.take (headLines + 1), '{' ∉ code line
      · exact .inl hunopened
      · obtain ⟨above, rest, hopens, hlength⟩ := exists_opens_early hunopened
        refine .inr ⟨above, rest, hopens, fun inner hcloses => ?_⟩
        rw [(functionBody?_of_opens hopens hlength).mpr ⟨inner, hcloses, rfl⟩] at hnone
        cases hnone
    · rintro (hunopened | ⟨above, rest, hopens, hopen⟩)
      · exact functionBody?_of_unopened hunopened
      · by_cases hlength : above.length ≤ headLines
        · refine Option.eq_none_iff_forall_ne_some.mpr fun body hbody => ?_
          obtain ⟨inner, hcloses, -⟩ := (functionBody?_of_opens hopens hlength).mp hbody
          exact hopen inner hcloses
        · exact functionBody?_of_unopened (hopens.unopened_take (by omega))

end Remedy.Brace
