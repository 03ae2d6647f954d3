import Mathlib.Tactic.SplitIfs
import PpiDump.Text.Layout

namespace PpiDump.Text

variable {old new t u : Text} {a b c : Char}

theorem substituteAfter_eq_drop (old new : Text) (skip : Nat) (t : Text) :
    substituteAfter old new skip t = substitute old new (t.drop skip) := by
  induction t generalizing skip with
  | nil => cases skip <;> rfl
  | cons c t ih =>
    cases skip with
    | zero => rfl
    | succ skip => exact ih skip

@[simp] theorem substitute_nil (old new : Text) : substitute old new [] = [] :=
  rfl

theorem substitute_append (hold : old ≠ []) (new t : Text) :
    substitute old new (old ++ t) = new ++ substitute old new t := by
  obtain ⟨c, rest, rfl⟩ := List.exists_cons_of_ne_nil hold
  rw [substitute, List.cons_append, substituteAfter, if_pos (by simp), substituteAfter_eq_drop]
  simp

theorem substitute_cons (h : ¬old.isPrefixOf (c :: t)) :
    substitute old new (c :: t) = c :: substitute old new t := by
  rw [substitute, substituteAfter, if_neg h]
  rfl

theorem substitute_cons_of_ne (h : a ≠ c) :
    substitute (a :: old) new (c :: t) = c :: substitute (a :: old) new t :=
  substitute_cons (by simp [h])

theorem substitute_flatMap (old new : Text) (f g : Char → Text)
    (h : ∀ c ∈ t, ∀ u, substitute old new (f c ++ u) = g c ++ substitute old new u) (u : Text) :
    substitute old new (t.flatMap f ++ u) = t.flatMap g ++ substitute old new u := by
  induction t with
  | nil => rfl
  | cons c t ih =>
    rw [List.flatMap_cons, List.flatMap_cons, List.append_assoc, h c List.mem_cons_self,
      ih fun d hd ↦ h d (List.mem_cons_of_mem c hd), List.append_assoc]

theorem substitute_single (a : Char) (new t : Text) :
    substitute [a] new t = t.flatMap fun c ↦ if c = a then new else [c] := by
  have hstep : ∀ c ∈ t, ∀ u, substitute [a] new ([c] ++ u) =
      (if c = a then new else [c]) ++ substitute [a] new u := by
    intro c _ u
    by_cases hc : c = a
    · rw [if_pos hc, hc]
      exact substitute_append (List.cons_ne_nil a []) new u
    · rw [if_neg hc]
      exact substitute_cons_of_ne (Ne.symm hc)
  have hall := substitute_flatMap [a] new (fun c ↦ [c]) _ hstep []
  rwa [List.flatMap_singleton', List.append_nil, substitute_nil, List.append_nil] at hall

theorem inner_cons_append (a b : Char) (t : Text) : inner (a :: (t ++ [b])) = t :=
  List.dropLast_concat

/-- How a text without backslashes is written in quotes: line feed and tab as escapes. -/
def layoutChar (c : Char) : Text :=
  if c = '\n' then ['\\', 'n'] else if c = '\t' then ['\\', 't'] else [c]

def commentChar (c : Char) : Text := if c = '\\' then ['\\', '\\'] else layoutChar c

theorem newline_notMem_layout (t : Text) : '\n' ∉ t.flatMap layoutChar := by
  intro h
  obtain ⟨c, -, hc⟩ := List.mem_flatMap.mp h
  unfold layoutChar at hc
  split at hc
  · simp at hc
  · split at hc
    · simp at hc
    · exact absurd (List.mem_singleton.mp hc).symm ‹_›

theorem newline_notMem_comment (t : Text) : '\n' ∉ t.flatMap commentChar := by
  intro h
  obtain ⟨c, hc, hmem⟩ := List.mem_flatMap.mp h
  unfold commentChar at hmem
  split at hmem
  · simp at hmem
  · exact newline_notMem_layout [c] (by simpa using hmem)

def tabChar (c : Char) : Text := if c = '\t' then ['\\', 't'] else [c]

theorem substitute_feed_layoutChar (h : c ≠ '\\') (u : Text) :
    substitute ['\\', 'n'] ['\n'] (layoutChar c ++ u) =
      tabChar c ++ substitute ['\\', 'n'] ['\n'] u := by
  unfold layoutChar tabChar
  by_cases hfeed : c = '\n'
  · subst hfeed
    exact substitute_append (by simp) ['\n'] u
  · by_cases htab : c = '\t'
    · rw [if_neg hfeed, if_pos htab]
      simp only [List.cons_append, List.nil_append]
      rw [substitute_cons (by simp), substitute_cons_of_ne (by decide)]
    · rw [if_neg hfeed, if_neg htab]
      exact substitute_cons_of_ne h.symm

theorem substitute_tab_tabChar (h : c ≠ '\\') (u : Text) :
    substitute ['\\', 't'] ['\t'] (tabChar c ++ u) =
      [c] ++ substitute ['\\', 't'] ['\t'] u := by
  unfold tabChar
  by_cases htab : c = '\t'
  · subst htab
    exact substitute_append (by simp) ['\t'] u
  · rw [if_neg htab]
    exact substitute_cons_of_ne h.symm

theorem unescape_layout (h : '\\' ∉ t) : unescape (t.flatMap layoutChar) = t := by
  have hne : ∀ c ∈ t, c ≠ '\\' := fun c hc heq ↦ h (heq ▸ hc)
  have hfeed := substitute_flatMap _ _ _ _ (fun c hc ↦ substitute_feed_layoutChar (hne c hc)) []
  have htab := substitute_flatMap _ _ _ _ (fun c hc ↦ substitute_tab_tabChar (hne c hc)) []
  rw [substitute_nil, List.append_nil, List.append_nil] at hfeed htab
  rw [unescape, hfeed, htab, List.flatMap_singleton']

def setAside (t : Text) : Text := t.map fun c ↦ if c = '\\' then backslashMark else c

theorem substitute_pair_commentChar (c : Char) (u : Text) :
    substitute ['\\', '\\'] [backslashMark] (commentChar c ++ u) =
      layoutChar (if c = '\\' then backslashMark else c) ++
        substitute ['\\', '\\'] [backslashMark] u := by
  unfold commentChar
  by_cases hc : c = '\\'
  · rw [if_pos hc, if_pos hc]
    exact substitute_append (by simp) [backslashMark] u
  · rw [if_neg hc, if_neg hc]
    unfold layoutChar
    split
    · simp only [List.cons_append, List.nil_append]
      rw [substitute_cons (by simp), substitute_cons_of_ne (by decide)]
    · split
      · simp only [List.cons_append, List.nil_append]
        rw [substitute_cons (by simp), substitute_cons_of_ne (by decide)]
      · exact substitute_cons_of_ne (Ne.symm hc)

/-- What a character is read as once it is taken for a mark or no mark. Nothing tells a mark of the
text from one that was put in. -/
def unmarked (c : Char) : Char := if c = backslashMark then '\\' else c

theorem substitute_mark (t : Text) : substitute [backslashMark] ['\\'] t = t.map unmarked := by
  have hchar : (fun c ↦ if c = backslashMark then ['\\'] else [c]) = fun c ↦ [unmarked c] := by
    funext c
    unfold unmarked
    split <;> rfl
  rw [substitute_single, hchar]
  exact List.map_eq_flatMap.symm

theorem map_unmarked_setAside (t : Text) : (setAside t).map unmarked = t.map unmarked := by
  rw [setAside, List.map_map]
  refine List.map_congr_left fun c _ ↦ ?_
  by_cases hc : c = '\\'
  · subst hc
    decide
  · simp [hc]

theorem map_unmarked_eq_self_iff : t.map unmarked = t ↔ backslashMark ∉ t := by
  have hchar (c : Char) : unmarked c = id c ↔ backslashMark ≠ c := by
    unfold unmarked
    by_cases hc : c = backslashMark
    · subst hc
      decide
    · simp [hc, Ne.symm hc]
  have hall := List.map_inj_left (l := t) (f := unmarked) (g := id)
  rw [List.map_id] at hall
  rw [hall]
  simp only [hchar]
  exact ⟨fun h hmem ↦ h _ hmem rfl, fun h c hc heq ↦ h (heq ▸ hc)⟩

theorem backslash_notMem_setAside (t : Text) : '\\' ∉ setAside t := by
  intro h
  obtain ⟨c, -, hc⟩ := List.mem_map.mp h
  split at hc
  · exact absurd hc (by decide)
  · exact absurd hc ‹_›

theorem unescapeComment_quoted (t : Text) :
    unescapeComment ('\'' :: (t.flatMap commentChar ++ ['\''])) = t.map unmarked := by
  have hpairs : substitute ['\\', '\\'] [backslashMark]
      ('\'' :: (t.flatMap commentChar ++ ['\''])) =
        '\'' :: ((setAside t).flatMap layoutChar ++ ['\'']) := by
    rw [substitute_cons_of_ne (by decide),
      substitute_flatMap _ _ _ _ (fun c _ ↦ substitute_pair_commentChar c), setAside,
      List.flatMap_map, substitute_cons_of_ne (by decide), substitute_nil]
  rw [unescapeComment, hpairs, inner_cons_append, unescape_layout (backslash_notMem_setAside t),
    substitute_mark, map_unmarked_setAside]

theorem unescapeComment_comment (h : backslashMark ∉ t) :
    unescapeComment ('\'' :: (t.flatMap commentChar ++ ['\''])) = t := by
  rw [unescapeComment_quoted, map_unmarked_eq_self_iff.mpr h]

/-- Escapes are written for one character at a time, although they are put in one kind after the
other: no kind touches what those before it have put in. -/
theorem escape_eq_flatMap (t : Text) : escape t = t.flatMap commentChar := by
  rw [escape, substitute_single, substitute_single, substitute_single, List.flatMap_assoc,
    List.flatMap_assoc]
  refine congrArg (t.flatMap ·) (funext fun c ↦ ?_)
  unfold commentChar layoutChar
  by_cases hback : c = '\\'
  · subst hback
    rfl
  · by_cases hfeed : c = '\n'
    · subst hfeed
      rfl
    · by_cases htab : c = '\t'
      · subst htab
        rfl
      · simp [hback, hfeed, htab]

theorem commentChar_ne_nil (c : Char) : commentChar c ≠ [] := by
  unfold commentChar layoutChar
  repeat' split
  all_goals exact List.cons_ne_nil _ _

theorem commentChar_append_cancel {t u : Text} (h : commentChar a ++ t = commentChar b ++ u) :
    a = b ∧ t = u := by
  unfold commentChar layoutChar at h
  -- An escape starts with a backslash, which never stands for itself.
  split_ifs at h <;> simp only [List.cons_append, List.nil_append, List.cons.injEq] at h <;> grind

theorem escape_injective {t u : Text} (h : escape t = escape u) : t = u := by
  rw [escape_eq_flatMap, escape_eq_flatMap] at h
  induction t generalizing u with
  | nil =>
    cases u with
    | nil => rfl
    | cons b u =>
      rw [List.flatMap_cons] at h
      have hnil := (List.append_eq_nil_iff.mp h.symm).1
      exact absurd hnil (commentChar_ne_nil b)
  | cons a t ih =>
    cases u with
    | nil =>
      rw [List.flatMap_cons] at h
      have hnil := (List.append_eq_nil_iff.mp h).1
      exact absurd hnil (commentChar_ne_nil a)
    | cons b u =>
      rw [List.flatMap_cons, List.flatMap_cons] at h
      obtain ⟨rfl, hrest⟩ := commentChar_append_cancel h
      rw [ih hrest]

theorem newline_notMem_escape (t : Text) : '\n' ∉ escape t := by
  rw [escape_eq_flatMap]
  exact newline_notMem_comment t

end PpiDump.Text
