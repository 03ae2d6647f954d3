import Mathlib.Data.List.Basic
import PpiDump.Payload
import PpiDump.Proofs.Escapes

namespace PpiDump

namespace Text

/-- Escapes for line feed and tab are read, and everything else is copied. -/
def scanLayout : Text → Text
  | '\\' :: 'n' :: rest => '\n' :: scanLayout rest
  | '\\' :: 't' :: rest => '\t' :: scanLayout rest
  | c :: rest => c :: scanLayout rest
  | [] => []

/-- What a comment is cut into from the left: doubled backslashes, and characters by themselves. -/
inductive Sign where
  | doubled
  | single (c : Char)
  deriving DecidableEq, Repr

def signs : Text → List Sign
  | '\\' :: '\\' :: rest => .doubled :: signs rest
  | c :: rest => .single c :: signs rest
  | [] => []

/-- A backslash by itself escapes an `n` or a `t` that comes right behind it. A doubled one, and a
mark, is read as a backslash, and everything else is copied. -/
def scanSigns : List Sign → Text
  | .single '\\' :: .single 'n' :: rest => '\n' :: scanSigns rest
  | .single '\\' :: .single 't' :: rest => '\t' :: scanSigns rest
  | .doubled :: rest => '\\' :: scanSigns rest
  | .single c :: rest => unmarked c :: scanSigns rest
  | [] => []

def Sign.aside : Sign → Char
  | doubled => backslashMark
  | single c => c

variable {c : Char} {t rest : Text}

theorem head?_ne_some (h : ∀ u, t ≠ c :: u) : t.head? ≠ some c := by
  intro hhead
  obtain ⟨u, rfl⟩ := List.head?_eq_some_iff.mp hhead
  exact h u rfl

theorem scanLayout_cons (h : c = '\\' → rest.head? ≠ some 'n' ∧ rest.head? ≠ some 't') :
    scanLayout (c :: rest) = c :: scanLayout rest := by
  refine scanLayout.eq_3 c rest ?_ ?_
  · rintro u rfl rfl
    exact (h rfl).1 rfl
  · rintro u rfl rfl
    exact (h rfl).2 rfl

theorem head?_substitute_feed (h : t.head? ≠ some 't') :
    (substitute ['\\', 'n'] ['\n'] t).head? ≠ some 't' := by
  cases t with
  | nil => exact h
  | cons c rest =>
    by_cases hescape : ['\\', 'n'].isPrefixOf (c :: rest)
    · obtain ⟨u, hu⟩ := List.isPrefixOf_iff_prefix.mp hescape
      rw [← hu, substitute_append (by simp)]
      simp
    · rw [substitute_cons hescape]
      exact h

theorem unescape_eq_scanLayout (t : Text) : unescape t = scanLayout t := by
  unfold unescape
  induction t using scanLayout.induct with
  | case1 rest ih =>
    have hfeed : substitute ['\\', 'n'] ['\n'] ('\\' :: 'n' :: rest) =
        '\n' :: substitute ['\\', 'n'] ['\n'] rest := substitute_append (by simp) ['\n'] rest
    rw [hfeed, substitute_cons_of_ne (by decide), ih, scanLayout]
  | case2 rest ih =>
    have hfeed : substitute ['\\', 'n'] ['\n'] ('\\' :: 't' :: rest) =
        '\\' :: 't' :: substitute ['\\', 'n'] ['\n'] rest := by
      rw [substitute_cons (by simp), substitute_cons_of_ne (by decide)]
    have htab (u : Text) : substitute ['\\', 't'] ['\t'] ('\\' :: 't' :: u) =
        '\t' :: substitute ['\\', 't'] ['\t'] u := substitute_append (by simp) ['\t'] u
    rw [hfeed, htab, ih, scanLayout]
  | case3 c rest hn ht ih =>
    have hletters (hback : c = '\\') : rest.head? ≠ some 'n' ∧ rest.head? ≠ some 't' :=
      ⟨head?_ne_some fun u ↦ hn u hback, head?_ne_some fun u ↦ ht u hback⟩
    rw [scanLayout_cons hletters, ← ih]
    by_cases hback : c = '\\'
    · subst hback
      -- What is behind this backslash is not `t` before the first replacement, nor after it.
      obtain ⟨hfeed, htab⟩ := hletters rfl
      have hother {a : Char} {u : Text} (h : u.head? ≠ some a) :
          ¬['\\', a].isPrefixOf ('\\' :: u) := by
        cases u with
        | nil => simp
        | cons d u =>
          have hne : a ≠ d := fun heq ↦ h (congrArg some heq.symm)
          simp [hne]
      rw [substitute_cons (hother hfeed), substitute_cons (hother (head?_substitute_feed htab))]
    · rw [substitute_cons_of_ne (Ne.symm hback), substitute_cons_of_ne (Ne.symm hback)]
  | case4 => rfl

theorem substitute_doubled (t : Text) :
    substitute ['\\', '\\'] [backslashMark] t = (signs t).map Sign.aside := by
  induction t using signs.induct with
  | case1 rest ih =>
    have hpair : substitute ['\\', '\\'] [backslashMark] ('\\' :: '\\' :: rest) =
        backslashMark :: substitute ['\\', '\\'] [backslashMark] rest :=
      substitute_append (by simp) [backslashMark] rest
    rw [hpair, ih, signs]
    rfl
  | case2 c rest hpair ih =>
    have hother : ¬['\\', '\\'].isPrefixOf (c :: rest) := by
      intro h
      obtain ⟨u, hu⟩ := List.isPrefixOf_iff_prefix.mp h
      obtain ⟨rfl, rfl⟩ := List.cons_eq_cons.mp hu
      exact hpair u rfl rfl
    rw [substitute_cons hother, ih, signs.eq_2 c rest hpair]
    rfl
  | case3 => rfl

theorem scanSigns_eq (us : List Sign) :
    scanSigns us = (scanLayout (us.map Sign.aside)).map unmarked := by
  induction us using scanSigns.induct with
  | case1 rest ih =>
    rw [scanSigns, ih]
    rfl
  | case2 rest ih =>
    rw [scanSigns, ih]
    rfl
  | case3 rest ih =>
    rw [scanSigns, ih]
    rfl
  | case4 c rest hn ht ih =>
    have hletters : c = '\\' →
        (rest.map Sign.aside).head? ≠ some 'n' ∧ (rest.map Sign.aside).head? ≠ some 't' := by
      rintro rfl
      cases rest with
      | nil => simp
      | cons u rest =>
        cases u with
        | doubled => simp [Sign.aside, backslashMark]
        | single d =>
          constructor
          · intro hhead
            obtain rfl : d = 'n' := Option.some.inj hhead
            exact hn rest rfl rfl
          · intro hhead
            obtain rfl : d = 't' := Option.some.inj hhead
            exact ht rest rfl rfl
    rw [scanSigns.eq_4 c rest hn ht, ih, List.map_cons, Sign.aside, scanLayout_cons hletters,
      List.map_cons]
  | case5 => rfl

theorem unescapeComment_eq_scanSigns (raw : Text) :
    unescapeComment raw = scanSigns (signs raw).tail.dropLast := by
  have hinner : inner ((signs raw).map Sign.aside) = (signs raw).tail.dropLast.map Sign.aside := by
    rw [inner, List.map_dropLast, List.map_tail]
  rw [unescapeComment, substitute_doubled, hinner, unescape_eq_scanLayout, substitute_mark,
    scanSigns_eq]

end Text

namespace Payload

/-- Content of any form is read as one scan reads it: cut into signs first and then without the sign
at each end, if it is a comment, and without the character at each end, if it is white space. -/
theorem decode_scans (raw : Text) (id : Nat) :
    decode .comment raw id = .ok (.text (Text.scanSigns (Text.signs raw).tail.dropLast)) ∧
      decode .layout raw id = .ok (.text (Text.scanLayout raw.tail.dropLast)) := by
  constructor
  · rw [decode, Text.unescapeComment_eq_scanSigns]
  · rw [decode, Text.unescape_eq_scanLayout]
    rfl

example : decode .comment ['\\', '\\', 'n', '\\', '\\', '\\', 'n', '\''] 1 =
    .ok (.text ['n', '\\', '\n']) := by decide

/-- An escaped text, read as a comment, comes back with a backslash for each mark that it had. So it
comes back as it was exactly if it had none. -/
theorem decode_escape (t : Text) (id : Nat) :
    decode .comment ('\'' :: (Text.escape t ++ ['\''])) id = .ok (.text (t.map Text.unmarked)) ∧
      (decode .comment ('\'' :: (Text.escape t ++ ['\''])) id = .ok (.text t) ↔
        Text.backslashMark ∉ t) := by
  have hdecode : decode .comment ('\'' :: (Text.escape t ++ ['\''])) id =
      .ok (.text (t.map Text.unmarked)) := by
    rw [decode, Text.escape_eq_flatMap, Text.unescapeComment_quoted]
  refine ⟨hdecode, ?_⟩
  rw [hdecode, Except.ok.injEq, text.injEq, Text.map_unmarked_eq_self_iff]

theorem decode_escape_mark :
    Text.escape [Text.backslashMark] = [Text.backslashMark] ∧
      decode .comment ('\'' :: (Text.escape [Text.backslashMark] ++ ['\''])) 1 =
        .ok (.text ['\\']) ∧
      decode .comment ('\'' :: (Text.escape [Text.backslashMark] ++ ['\''])) 1 ≠
        .ok (.text [Text.backslashMark]) := by
  decide

end Payload

end PpiDump
