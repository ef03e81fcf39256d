/-!
# Finding and replacing a piece of text

Occurrences are taken from the left and do not overlap.
-/

namespace Remedy.Text

def after? (piece s : List Char) : Option (List Char) :=
  if piece.isPrefixOf s then some (s.drop piece.length) else none

def endsWith (piece s : List Char) : Bool := piece.reverse.isPrefixOf s.reverse

/-- The texts before and after the first occurrence of `piece`. -/
def splitFirst? (piece : List Char) : List Char → Option (List Char × List Char)
  | [] => if piece.isEmpty then some ([], []) else none
  | c :: s =>
    if piece.isPrefixOf (c :: s) then some ([], (c :: s).drop piece.length)
    else (splitFirst? piece s).map fun (before, rest) => (c :: before, rest)

def contains (piece s : List Char) : Bool := (splitFirst? piece s).isSome

def splitLast? (sep : Char) (s : List Char) : Option (List Char × List Char) :=
  match s.reverse.span (· ≠ sep) with
  | (_, []) => none
  | (tail, _ :: init) => some (init.reverse, tail.reverse)

/-- The text after the last occurrence of the character `sep`; all of it when there is none. -/
def afterLast (sep : Char) (s : List Char) : List Char :=
  ((s.reverse).takeWhile (· ≠ sep)).reverse

/-- Replaces each occurrence of the non-empty `piece`; the first `skip` characters are part of one
that is replaced already. -/
def replaceFrom (piece new : List Char) : (skip : Nat) → List Char → List Char
  | _, [] => []
  | skip + 1, _ :: s => replaceFrom piece new skip s
  | 0, c :: s =>
    if piece.isPrefixOf (c :: s) then new ++ replaceFrom piece new (piece.length - 1) s
    else c :: replaceFrom piece new 0 s

/-- Replaces every occurrence of `piece`; the empty piece occurs around every character. -/
def replaceAll (piece new s : List Char) : List Char :=
  if piece.isEmpty then new ++ s.flatMap fun c => c :: new
  else replaceFrom piece new 0 s

def occursIn (piece s : String) : Bool := contains piece.toList s.toList

def replace (piece new s : String) : String :=
  String.ofList (replaceAll piece.toList new.toList s.toList)

/-- Lower case for a search of ASCII words: the letters `A` to `Z`, and the two further characters
whose lower case holds an ASCII letter, U+0130 and the Kelvin sign. -/
def foldAscii (s : List Char) : List Char :=
  s.flatMap fun c =>
    if c.toNat = 0x212A then ['k']
    else if c.toNat = 0x130 then ['i', Char.ofNat 0x307]
    else [c.toLower]

/-- Whether the ASCII word `piece` (in lower case) occurs in `s` in any case. -/
def occursFolded (piece : String) (s : List Char) : Bool := contains piece.toList (foldAscii s)

def lowerAscii (s : String) : String := String.ofList (s.toList.map Char.toLower)

@[simp] theorem after?_nil (s : List Char) : after? [] s = some s := by simp [after?]

theorem eq_append_of_after? {piece s rest : List Char} (h : after? piece s = some rest) :
    s = piece ++ rest := by
  unfold after? at h
  split at h
  · next hp =>
    obtain ⟨t, rfl⟩ := List.isPrefixOf_iff_prefix.1 hp
    simp at h
    simp [h]
  · simp at h

/-- The two texts around an occurrence make up the whole. -/
theorem eq_append_of_splitFirst? {piece s before rest : List Char}
    (h : splitFirst? piece s = some (before, rest)) : s = before ++ piece ++ rest := by
  induction s generalizing before with
  | nil =>
    unfold splitFirst? at h
    split at h
    · next hp => simp_all
    · simp at h
  | cons c s ih =>
    unfold splitFirst? at h
    split at h
    · next hp =>
      obtain ⟨t, ht⟩ := List.isPrefixOf_iff_prefix.1 hp
      simp only [Option.some.injEq, Prod.mk.injEq] at h
      obtain ⟨rfl, rfl⟩ := h
      simp [← ht]
    · obtain ⟨⟨b, r⟩, hb, hr⟩ := Option.map_eq_some_iff.1 h
      simp only [Prod.mk.injEq] at hr
      obtain ⟨rfl, rfl⟩ := hr
      simp [ih hb]

end Remedy.Text
