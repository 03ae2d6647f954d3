import PpiDump.Json.Printer
import PpiDump.Json.Reader
import PpiDump.Proofs.Lines

namespace PpiDump

namespace Text

variable {n : Nat}

theorem ofDigits_ofNat (n : Nat) : ofDigits (ofNat n) = n := by
  rw [ofDigits, ofNat, ← Nat.ofDigitChars_eq_foldl]
  exact Nat.ofDigitChars_ten_toDigits

theorem head?_ofNat (h : 0 < n) : (ofNat n).head? ≠ some '0' := by
  induction n using Nat.strongRecOn with
  | ind n ih =>
    rw [ofNat, Nat.toDigits_eq_if (by decide)]
    split
    · have hall : ∀ d, d < 10 → 0 < d → Nat.digitChar d ≠ '0' := by decide
      simpa using hall n ‹_› h
    · have hquotient : 0 < n / 10 := by omega
      rw [List.head?_append_of_ne_nil _ Nat.toDigits_ne_nil]
      exact ih (n / 10) (by omega) hquotient

theorem exists_ofNat_eq_cons (n : Nat) : ∃ c ds, ofNat n = c :: ds ∧ c.isDigit := by
  obtain ⟨c, ds, h⟩ := List.exists_cons_of_ne_nil (Nat.toDigits_ne_nil (n := n) (b := 10))
  have hmem : c ∈ ofNat n := by
    rw [ofNat, h]
    exact List.mem_cons_self
  exact ⟨c, ds, h, isDigit_of_mem_ofNat hmem⟩

end Text

namespace Json

variable {rest s : Text} {fuel depth : Nat}

/-- No digit of a number goes on in a text, nor its fraction or exponent. -/
def Stops (rest : Text) : Prop :=
  ∀ c ∈ rest.head?, ¬c.isDigit ∧ c ≠ '.' ∧ c ≠ 'e' ∧ c ≠ 'E'

theorem readFraction_stops (h : Stops rest) : readFraction rest = some ([], rest) := by
  rw [readFraction.eq_def]
  split
  · exact absurd rfl (h '.' rfl).2.1
  · rfl

theorem readExponent_stops (h : Stops rest) : readExponent rest = some ([], rest) := by
  cases rest with
  | nil => rfl
  | cons c rest =>
    obtain ⟨-, -, hlower, hupper⟩ := h c rfl
    simp [readExponent, hlower, hupper]

theorem readWhole_ofNat (n : Nat) (h : Stops rest) :
    readWhole (Text.ofNat n ++ rest) = some (Text.ofNat n, rest) := by
  have hdigits : ∀ c ∈ Text.ofNat n, c.isDigit := fun c hc ↦ Text.isDigit_of_mem_ofNat hc
  have hstop : ∀ c ∈ rest.head?, ¬c.isDigit := fun c hc ↦ (h c hc).1
  have hne : Text.ofNat n ≠ [] := Nat.toDigits_ne_nil
  have hread : readDigits (Text.ofNat n ++ rest) = some (Text.ofNat n, rest) := by
    simp only [readDigits, takeWhile_append_stop hdigits hstop,
      dropWhile_append_stop hdigits hstop]
  rw [readWhole, hread]
  split
  · rename_i heq
    -- Only zero starts with a zero, and no digit follows it.
    obtain ⟨hzero, -⟩ := Prod.mk.inj (Option.some.inj heq)
    rcases Nat.eq_zero_or_pos n with rfl | hpos
    · cases hzero
    · exact absurd (by rw [hzero]; rfl) (Text.head?_ofNat hpos)
  · rfl

theorem readNumber_ofNat (n : Nat) (h : Stops rest) :
    readNumber (Text.ofNat n ++ rest) = some (.nat n, rest) := by
  have hsign (s : Text) : Text.ofNat n ++ rest ≠ '-' :: s := by
    intro heq
    obtain ⟨c, ds, hds, hdigit⟩ := Text.exists_ofNat_eq_cons n
    rw [hds] at heq
    obtain rfl := (List.cons.inj heq).1
    exact absurd hdigit (by decide)
  unfold readNumber
  split
  rename_i sign s heq
  split at heq
  · exact absurd ‹_› (hsign _)
  · obtain ⟨rfl, rfl⟩ := Prod.mk.inj heq
    simp only [readWhole_ofNat n h, readFraction_stops h, readExponent_stops h,
      Option.bind_eq_bind, Option.bind_some, List.isEmpty_nil, Bool.and_self, if_true,
      Text.ofDigits_ofNat]
    rfl

theorem hexValue?_hexDigit {n : Nat} (h : n < 16) : hexValue? (hexDigit n) = some n := by
  have hall : ∀ n, n < 16 → hexValue? (hexDigit n) = some n := by decide
  exact hall n h

theorem readPieces_control {c : Char} (hc : c.toNat < 0x20) (s : Text) :
    readPieces (['\\', 'u', '0', '0', hexDigit (c.toNat / 16), hexDigit (c.toNat % 16)] ++ s) =
      (readPieces s).map fun (ps, rest) ↦ (.char c :: ps, rest) := by
  have hzero : hexValue? '0' = some 0 := by decide
  have hunit : hexUnit? '0' '0' (hexDigit (c.toNat / 16)) (hexDigit (c.toNat % 16)) =
      some c.toNat := by
    rw [hexUnit?, hzero, hexValue?_hexDigit (by omega), hexValue?_hexDigit (by omega)]
    have hsum : ((0 * 16 + 0) * 16 + c.toNat / 16) * 16 + c.toNat % 16 = c.toNat := by omega
    exact congrArg some hsum
  have hhalf : isHalf c.toNat = false := by
    simp only [isHalf, Bool.and_eq_false_iff, decide_eq_false_iff_not]
    omega
  simp only [List.cons_append, List.nil_append, readPieces, hunit, hhalf, Char.ofNat_toNat]
  rfl

theorem readPieces_escapeChar (c : Char) (s : Text) :
    readPieces (escapeChar c ++ s) =
      (readPieces s).map fun (ps, rest) ↦ (.char c :: ps, rest) := by
  unfold escapeChar
  -- The escapes with a letter, then the other control characters, then what stands for itself.
  iterate 7
    split
    · subst c; rfl
  split
  · exact readPieces_control ‹_› s
  · rename_i hback _ _ _ _ _ hcontrol
    simp [readPieces, hback, hcontrol]

theorem readPieces_escape (t rest : Text) :
    readPieces (t.flatMap escapeChar ++ '"' :: rest) = some (t.map .char, rest) := by
  induction t with
  | nil => rfl
  | cons c t ih =>
    rw [List.flatMap_cons, List.append_assoc, readPieces_escapeChar, ih]
    rfl

theorem joinHalves_map_char (t : Text) : joinHalves (t.map .char) = some t := by
  induction t with
  | nil => rfl
  | cons c t ih => rw [List.map_cons, joinHalves, ih, Option.map_some]

theorem readString_escape (t rest : Text) :
    readString (t.flatMap escapeChar ++ '"' :: rest) = some (some t, rest) := by
  rw [readString, readPieces_escape]
  exact congrArg (fun content ↦ some (content, rest)) (joinHalves_map_char t)

theorem writeString_some (t : Text) :
    writeString (some t) = '"' :: t.flatMap escapeChar ++ ['"'] := rfl

theorem skipBlanks_newLine (depth : Nat) (s : Text) :
    skipBlanks (newLine depth ++ s) = skipBlanks s := by
  refine List.dropWhile_append_of_pos fun c hc ↦ ?_
  rcases List.mem_cons.mp hc with rfl | hc
  · rfl
  · rw [List.eq_of_mem_replicate hc]
    rfl

theorem skipBlanks_cons {c : Char} (h : ¬isBlank c) (s : Text) : skipBlanks (c :: s) = c :: s :=
  List.dropWhile_cons_of_neg h

theorem not_isBlank_of_isDigit {c : Char} (h : c.isDigit) : ¬isBlank c := by
  intro hblank
  simp only [isBlank, Bool.or_eq_true, decide_eq_true_eq] at hblank
  rcases hblank with ((rfl | rfl) | rfl) | rfl <;> exact absurd h (by decide)

theorem readValue_digit {c : Char} (h : c.isDigit) (fuel : Nat) (s : Text) :
    readValue (fuel + 1) (c :: s) = readNumber (c :: s) := by
  rw [readValue, skipBlanks_cons (not_isBlank_of_isDigit h)]
  split
  case h_7 => rfl
  all_goals
    rename_i heq
    obtain ⟨rfl, -⟩ := List.cons.inj heq
    exact absurd h (by decide)

theorem readValue_newLine (fuel depth : Nat) (s : Text) :
    readValue fuel (newLine depth ++ s) = readValue fuel s := by
  cases fuel with
  | zero => rfl
  | succ fuel => rw [readValue, readValue, skipBlanks_newLine]

theorem readValue_space (fuel : Nat) (s : Text) :
    readValue fuel (' ' :: s) = readValue fuel s := by
  cases fuel with
  | zero => rfl
  | succ fuel => rfl

theorem readItems_newLine (fuel depth : Nat) (s : Text) :
    readItems fuel (newLine depth ++ s) = readItems fuel s := by
  cases fuel with
  | zero => rfl
  | succ fuel => rw [readItems, readItems, readValue_newLine]

theorem readFields_newLine (fuel depth : Nat) (s : Text) :
    readFields fuel (newLine depth ++ s) = readFields fuel s := by
  cases fuel with
  | zero => rfl
  | succ fuel => rw [readFields, readFields, skipBlanks_newLine]

namespace Value

/-- Values that have a text of their own: all but numbers kept as they are written, and strings that
are no text. -/
inductive Plain : Value → Prop
  | null : Plain null
  | bool (b : Bool) : Plain (bool b)
  | nat (n : Nat) : Plain (nat n)
  | text (t : Text) : Plain (text t)
  | array {vs : List Value} (hitems : ∀ v ∈ vs, Plain v) : Plain (array vs)
  | object {fs : List (Content × Value)} (hkeys : ∀ f ∈ fs, ∃ key, f.1 = some key)
      (hvalues : ∀ f ∈ fs, Plain f.2) : Plain (object fs)

variable {v : Value} {vs : List Value} {fs : List (Content × Value)}

theorem Plain.writeAt_head (hv : v.Plain) (depth : Nat) :
    ∃ c t, v.writeAt depth = c :: t ∧ ¬isBlank c ∧ c ≠ ']' ∧ c ≠ '\x7d' := by
  cases hv with
  | null => exact ⟨_, _, rfl, by decide, by decide, by decide⟩
  | bool b => cases b <;> exact ⟨_, _, rfl, by decide, by decide, by decide⟩
  | text t =>
    rw [Value.text, writeAt]
    exact ⟨'"', _, rfl, by decide, by decide, by decide⟩
  | nat n =>
    obtain ⟨c, ds, hds, hdigit⟩ := Text.exists_ofNat_eq_cons n
    refine ⟨c, ds, by rw [writeAt, hds], not_isBlank_of_isDigit hdigit, ?_, ?_⟩
    · rintro rfl
      exact absurd hdigit (by decide)
    · rintro rfl
      exact absurd hdigit (by decide)
  | @array vs =>
    cases vs with
    | nil =>
      rw [writeAt]
      exact ⟨'[', _, rfl, by decide, by decide, by decide⟩
    | cons v vs =>
      simp only [writeAt, List.cons_append]
      exact ⟨'[', _, rfl, by decide, by decide, by decide⟩
  | @object fs =>
    cases fs with
    | nil =>
      rw [writeAt]
      exact ⟨'\x7b', _, rfl, by decide, by decide, by decide⟩
    | cons f fs =>
      simp only [writeAt, List.cons_append]
      exact ⟨'\x7b', _, rfl, by decide, by decide, by decide⟩

/-- A value is read off the start of a text, with any fuel that its own length warrants. -/
def ReadBack (v : Value) : Prop :=
  ∀ ⦃depth fuel rest⦄, Stops rest → 2 * (v.writeAt depth).length ≤ fuel →
    readValue fuel (v.writeAt depth ++ rest) = some (v, rest)

theorem stops_newLine (depth : Nat) (s : Text) : Stops (newLine depth ++ s) := by
  rintro c ⟨⟩
  decide

theorem stops_writeItems (depth : Nat) (vs : List Value) (s : Text) :
    Stops (writeItems depth vs ++ (newLine depth ++ s)) := by
  cases vs with
  | nil => exact stops_newLine depth s
  | cons v vs =>
    intro c hc
    rw [writeItems] at hc
    obtain rfl := Option.some.inj hc
    decide

theorem stops_writeFields (depth : Nat) (fs : List (Content × Value)) (s : Text) :
    Stops (writeFields depth fs ++ (newLine depth ++ s)) := by
  cases fs with
  | nil => exact stops_newLine depth s
  | cons f fs =>
    intro c hc
    rw [writeFields] at hc
    obtain rfl := Option.some.inj hc
    decide

theorem readItems_write (hitems : ∀ u ∈ v :: vs, ReadBack u) (rest : Text)
    (hfuel : 2 * ((v.writeAt (depth + 1)).length + (writeItems depth vs).length) < fuel) :
    readItems fuel (v.writeAt (depth + 1) ++
      (writeItems depth vs ++ (newLine depth ++ ']' :: rest))) = some (v :: vs, rest) := by
  -- The items behind the first one vary, and with each of them the fuel is one less.
  induction vs generalizing v fuel with
  | nil =>
    obtain ⟨fuel, rfl⟩ := Nat.exists_eq_add_one_of_ne_zero (Nat.ne_zero_of_lt hfuel)
    have hv := hitems v List.mem_cons_self (stops_writeItems depth [] (']' :: rest))
      (show 2 * (v.writeAt (depth + 1)).length ≤ fuel by omega)
    have hend : skipBlanks (writeItems depth [] ++ (newLine depth ++ ']' :: rest)) =
        ']' :: rest := by
      rw [writeItems, List.nil_append, skipBlanks_newLine, skipBlanks_cons (by decide)]
    simp only [readItems, hv, hend]
  | cons u vs ih =>
    obtain ⟨fuel, rfl⟩ := Nat.exists_eq_add_one_of_ne_zero (Nat.ne_zero_of_lt hfuel)
    have hlength : (writeItems depth (u :: vs)).length =
        1 + (newLine (depth + 1)).length + (u.writeAt (depth + 1)).length +
          (writeItems depth vs).length := by
      simp only [writeItems, List.length_append, List.length_cons]
      omega
    have hv := hitems v List.mem_cons_self (stops_writeItems depth (u :: vs) (']' :: rest))
      (show 2 * (v.writeAt (depth + 1)).length ≤ fuel by omega)
    have hbound : 2 * ((u.writeAt (depth + 1)).length + (writeItems depth vs).length) < fuel := by
      omega
    have hnext := ih (fun w hw ↦ hitems w (List.mem_cons_of_mem v hw)) hbound
    have hcomma : skipBlanks (writeItems depth (u :: vs) ++ (newLine depth ++ ']' :: rest)) =
        ',' :: (newLine (depth + 1) ++ (u.writeAt (depth + 1) ++
          (writeItems depth vs ++ (newLine depth ++ ']' :: rest)))) := by
      simp only [writeItems, List.cons_append, List.append_assoc]
      exact skipBlanks_cons (by decide) _
    simp only [readItems, hv, hcomma, readItems_newLine, hnext, Option.map_some]

theorem writeFields_cons (depth : Nat) (key : Text) (v : Value) (fs : List (Content × Value))
    (s : Text) :
    writeFields depth ((some key, v) :: fs) ++ s =
      ',' :: (newLine (depth + 1) ++ '"' :: (key.flatMap escapeChar ++ '"' :: ':' :: ' ' ::
        (v.writeAt (depth + 1) ++ (writeFields depth fs ++ s)))) := by
  rw [writeFields, writeString_some]
  simp only [List.append_assoc, List.cons_append, List.nil_append]

theorem readFields_write (key : Text) (hkeys : ∀ f ∈ fs, ∃ key, f.1 = some key)
    (hv : v.ReadBack) (hvalues : ∀ f ∈ fs, ReadBack f.2) (rest : Text)
    (hfuel : 2 * ((v.writeAt (depth + 1)).length + (writeFields depth fs).length) < fuel) :
    readFields fuel ('"' :: (key.flatMap escapeChar ++ '"' :: ':' :: ' ' ::
      (v.writeAt (depth + 1) ++ (writeFields depth fs ++ (newLine depth ++ '\x7d' :: rest))))) =
        some ((some key, v) :: fs, rest) := by
  induction fs generalizing v key fuel with
  | nil =>
    obtain ⟨fuel, rfl⟩ := Nat.exists_eq_add_one_of_ne_zero (Nat.ne_zero_of_lt hfuel)
    have hread := hv (stops_writeFields depth [] ('\x7d' :: rest))
      (show 2 * (v.writeAt (depth + 1)).length ≤ fuel by omega)
    have hend : skipBlanks (writeFields depth [] ++ (newLine depth ++ '\x7d' :: rest)) =
        '\x7d' :: rest := by
      rw [writeFields, List.nil_append, skipBlanks_newLine, skipBlanks_cons (by decide)]
    rw [readFields, skipBlanks_cons (by decide)]
    simp only [readString_escape, skipBlanks_cons (show ¬isBlank ':' by decide), readValue_space,
      hread, hend]
  | cons f fs ih =>
    obtain ⟨fuel, rfl⟩ := Nat.exists_eq_add_one_of_ne_zero (Nat.ne_zero_of_lt hfuel)
    obtain ⟨next, u⟩ := f
    obtain ⟨next, rfl⟩ := hkeys _ List.mem_cons_self
    have hlength : (u.writeAt (depth + 1)).length + (writeFields depth fs).length <
        (writeFields depth ((some next, u) :: fs)).length := by
      have := congrArg List.length (writeFields_cons depth next u fs [])
      simp only [List.append_nil, List.length_cons, List.length_append] at this
      omega
    have hread := hv (stops_writeFields depth ((some next, u) :: fs) ('\x7d' :: rest))
      (show 2 * (v.writeAt (depth + 1)).length ≤ fuel by omega)
    have hbound : 2 * ((u.writeAt (depth + 1)).length + (writeFields depth fs).length) < fuel := by
      omega
    have hnext := ih next (fun f hf ↦ hkeys f (List.mem_cons_of_mem _ hf))
      (hvalues _ List.mem_cons_self) (fun f hf ↦ hvalues f (List.mem_cons_of_mem _ hf)) hbound
    have hcomma := skipBlanks_cons (show ¬isBlank ',' by decide)
    rw [readFields, skipBlanks_cons (by decide)]
    simp only [readString_escape, skipBlanks_cons (show ¬isBlank ':' by decide), readValue_space,
      hread]
    rw [writeFields_cons, hcomma]
    simp only [readFields_newLine, hnext, Option.map_some]

theorem Plain.readBack_of_succ (hv : v.Plain)
    (h : ∀ depth fuel rest, Stops rest → 2 * (v.writeAt depth).length ≤ fuel + 1 →
      readValue (fuel + 1) (v.writeAt depth ++ rest) = some (v, rest)) : v.ReadBack := by
  intro depth fuel rest hstop hfuel
  obtain ⟨c, t, heq, -⟩ := hv.writeAt_head depth
  have hpos : fuel ≠ 0 := by
    rw [heq, List.length_cons] at hfuel
    omega
  obtain ⟨fuel, rfl⟩ := Nat.exists_eq_add_one_of_ne_zero hpos
  exact h depth fuel rest hstop hfuel

theorem readBack_array (hplain : ∀ v ∈ vs, Plain v) (hitems : ∀ v ∈ vs, ReadBack v) :
    ReadBack (array vs) := by
  refine (Plain.array hplain).readBack_of_succ fun depth fuel rest _ hfuel ↦ ?_
  cases vs with
  | nil =>
    rw [writeAt]
    rfl
  | cons v vs =>
    obtain ⟨c, t, heq, hblank, hend, -⟩ := (hplain v List.mem_cons_self).writeAt_head (depth + 1)
    have hbound : 2 * ((v.writeAt (depth + 1)).length + (writeItems depth vs).length) < fuel := by
      simp only [writeAt, List.length_append, List.length_cons] at hfuel
      omega
    have hread := readItems_write hitems rest hbound
    simp only [writeAt, List.append_assoc, List.cons_append, List.nil_append]
    rw [readValue, skipBlanks_cons (by decide)]
    simp only [skipBlanks_newLine]
    rw [heq, List.cons_append] at hread ⊢
    rw [skipBlanks_cons hblank]
    split
    · rename_i hcons
      exact absurd (List.cons.inj hcons).1 hend
    · rw [hread]
      rfl

theorem readBack_object (hkeys : ∀ f ∈ fs, ∃ key, f.1 = some key) (hplain : ∀ f ∈ fs, Plain f.2)
    (hvalues : ∀ f ∈ fs, ReadBack f.2) : ReadBack (object fs) := by
  refine (Plain.object hkeys hplain).readBack_of_succ fun depth fuel rest _ hfuel ↦ ?_
  cases fs with
  | nil =>
    rw [writeAt]
    rfl
  | cons f fs =>
    obtain ⟨key, v⟩ := f
    obtain ⟨key, rfl⟩ := hkeys _ List.mem_cons_self
    have hbound : 2 * ((v.writeAt (depth + 1)).length + (writeFields depth fs).length) < fuel := by
      simp only [writeAt, List.length_append, List.length_cons] at hfuel
      omega
    have hread := readFields_write key (fun f hf ↦ hkeys f (List.mem_cons_of_mem _ hf))
      (hvalues _ List.mem_cons_self) (fun f hf ↦ hvalues f (List.mem_cons_of_mem _ hf)) rest hbound
    rw [writeAt, writeString_some]
    simp only [List.append_assoc, List.cons_append, List.nil_append]
    rw [readValue, skipBlanks_cons (by decide)]
    simp only [skipBlanks_newLine, skipBlanks_cons (show ¬isBlank '"' by decide)]
    exact congrArg (Option.map fun r ↦ (object r.1, r.2)) hread

theorem Plain.readBack (hv : v.Plain) : v.ReadBack := by
  induction hv with
  | null =>
    refine Plain.null.readBack_of_succ fun depth fuel rest _ _ ↦ ?_
    rfl
  | bool b =>
    refine (Plain.bool b).readBack_of_succ fun depth fuel rest _ _ ↦ ?_
    cases b <;> rfl
  | nat n =>
    refine (Plain.nat n).readBack_of_succ fun depth fuel rest hstop _ ↦ ?_
    obtain ⟨c, ds, hds, hdigit⟩ := Text.exists_ofNat_eq_cons n
    have hread := readNumber_ofNat n hstop
    rw [writeAt]
    rw [hds, List.cons_append] at hread ⊢
    rw [readValue_digit hdigit, hread]
  | text t =>
    refine (Plain.text t).readBack_of_succ fun depth fuel rest _ _ ↦ ?_
    rw [Value.text, writeAt, writeString_some]
    simp only [List.append_assoc, List.cons_append, List.nil_append]
    rw [readValue, skipBlanks_cons (by decide)]
    simp only [readString_escape, Option.map_some]
  | array hitems ih => exact readBack_array hitems ih
  | object hkeys hvalues ih => exact readBack_object hkeys hvalues ih

end Value

/-- A document is read as the value it was written from, whatever that holds. -/
theorem read?_write {v : Value} (hv : v.Plain) : read? v.write = some v := by
  have h : readValue (2 * v.write.length + 2) (v.write ++ []) = some (v, []) :=
    hv.readBack (fun c hc ↦ nomatch hc) (Nat.le_add_right _ 2)
  rw [List.append_nil] at h
  rw [Value.write] at h ⊢
  simp only [read?, h]
  rfl

end Json

end PpiDump
