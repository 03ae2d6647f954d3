import Mathlib.Data.List.Basic
import PpiDump.Text.Utf8

namespace PpiDump.Utf8

/-- All that reading a byte can come to. -/
inductive Reads : State → Nat → Text × State → Prop
  | lead (b : Nat) : Reads .start b (lead b)
  | complete {low high code b : Nat} (hb : low ≤ b ∧ b ≤ high) :
      Reads (.inside 0 low high code) b ([Char.ofNat (code * 64 + (b - 0x80))], .start)
  | extend {more low high code b : Nat} (hb : low ≤ b ∧ b ≤ high) :
      Reads (.inside (more + 1) low high code) b
        ([], .inside more 0x80 0xBF (code * 64 + (b - 0x80)))
  | breakOff {more low high code b : Nat} (hb : ¬(low ≤ b ∧ b ≤ high)) :
      Reads (.inside more low high code) b (replacement :: (Utf8.lead b).1, (Utf8.lead b).2)

theorem reads_step (s : State) (b : Nat) : Reads s b (step s b) := by
  cases s with
  | start => exact .lead b
  | inside more low high code =>
    by_cases hb : low ≤ b ∧ b ≤ high
    · cases more with
      | zero => simpa only [step, if_pos hb] using Reads.complete hb
      | succ more => simpa only [step, if_pos hb] using Reads.extend hb
    · simpa only [step, if_neg hb] using Reads.breakOff hb

/-- No byte below 0x80 continues an open character, and those that do complete it beyond U+007F. -/
def State.Sound : State → Prop
  | .start => True
  | .inside 0 low _ code => 0x80 ≤ low ∧ 2 ≤ code
  | .inside (_ + 1) low _ code => 0x80 ≤ low ∧ 2 ≤ code * 64 + (low - 0x80)

variable {s : State} {b : UInt8} {bs : Bytes} {c : Char}

theorem State.Sound.low_le {more low high code : Nat} (h : (inside more low high code).Sound) :
    0x80 ≤ low := by
  cases more with
  | zero => exact h.1
  | succ more => exact h.1

theorem sound_start : State.start.Sound := trivial

inductive Leads (b : Nat) : Text × State → Prop
  | single (hb : b < 0x80) : Leads b ([Char.ofNat b], .start)
  | refused : Leads b ([replacement], .start)
  | opening {more low high code : Nat} (h : (State.inside more low high code).Sound) :
      Leads b ([], .inside more low high code)

theorem leads_lead (b : Nat) : Leads b (lead b) := by
  unfold lead
  refine iteInduction (motive := Leads b) (fun h ↦ .single h) fun _ ↦ ?_
  refine iteInduction (motive := Leads b) (fun _ ↦ .refused) fun hC2 ↦ ?_
  refine iteInduction (motive := Leads b) (fun _ ↦ .opening ⟨Nat.le_refl _, by omega⟩) fun hE0 ↦ ?_
  refine iteInduction (motive := Leads b) (fun _ ↦ .opening ⟨by decide, by decide⟩) fun hE1 ↦ ?_
  refine iteInduction (motive := Leads b) (fun _ ↦ .opening ⟨by decide, by decide⟩) fun _ ↦ ?_
  refine iteInduction (motive := Leads b) (fun _ ↦ .opening ⟨Nat.le_refl _, by omega⟩) fun hF0 ↦ ?_
  refine iteInduction (motive := Leads b) (fun _ ↦ .opening ⟨by decide, by decide⟩) fun hF1 ↦ ?_
  refine iteInduction (motive := Leads b) (fun _ ↦ .opening ⟨Nat.le_refl _, by omega⟩) fun _ ↦ ?_
  exact iteInduction (motive := Leads b) (fun _ ↦ .opening ⟨by decide, by decide⟩) fun _ ↦ .refused

theorem lead_sound (b : Nat) : (lead b).2.Sound := by
  have hleads := leads_lead b
  generalize lead b = r at hleads ⊢
  cases hleads with
  | single | refused => exact sound_start
  | opening h => exact h

theorem step_sound (h : s.Sound) (b : Nat) : (step s b).2.Sound := by
  have hreads := reads_step s b
  generalize step s b = r at hreads ⊢
  cases hreads with
  | lead => exact lead_sound b
  | complete => exact sound_start
  | breakOff => exact lead_sound b
  | @extend more low high code b hb =>
    obtain ⟨-, hcode⟩ := h
    cases more with
    | zero => exact ⟨Nat.le_refl _, by omega⟩
    | succ more => exact ⟨Nat.le_refl _, by omega⟩

theorem lead_of_lt {b : Nat} (hb : b < 0x80) : lead b = ([Char.ofNat b], .start) := if_pos hb

theorem step_of_lt {b : Nat} (h : s.Sound) (hb : b < 0x80) :
    step s b = (decodeFrom s [] ++ [Char.ofNat b], .start) := by
  have hreads := reads_step s b
  generalize step s b = r at hreads ⊢
  cases hreads with
  | lead => exact lead_of_lt hb
  | complete hin => exact absurd (Nat.le_trans h.low_le hin.1) (Nat.not_le.mpr hb)
  | extend hin => exact absurd (Nat.le_trans h.low_le hin.1) (Nat.not_le.mpr hb)
  | breakOff =>
    rw [lead_of_lt hb]
    rfl

theorem decodeFrom_append (h : s.Sound) (hb : b.toNat < 0x80) (bs rest : Bytes) :
    decodeFrom s (bs ++ b :: rest) = decodeFrom s bs ++ Char.ofNat b.toNat :: decode rest := by
  induction bs generalizing s with
  | nil =>
    rw [List.nil_append, decodeFrom, step_of_lt h hb, List.append_assoc]
    rfl
  | cons a bs ih =>
    rw [List.cons_append, decodeFrom, decodeFrom, ih (step_sound h _), List.append_assoc]

theorem decode_append (hb : b.toNat < 0x80) (bs rest : Bytes) :
    decode (bs ++ b :: rest) = decode bs ++ Char.ofNat b.toNat :: decode rest :=
  decodeFrom_append sound_start hb bs rest

/-- The characters that nothing but their own bytes is read as. U+0000 is left out, since it stands
for numbers that belong to no character too. -/
def IsSimple (c : Char) : Prop := 0 < c.toNat ∧ c.toNat < 0x80

theorem toNat_of_simple {n : Nat} (h : IsSimple (Char.ofNat n)) : (Char.ofNat n).toNat = n := by
  by_cases hn : n.isValidChar
  · rw [Char.ofNat, dif_pos hn]
    rfl
  · have hzero : Char.ofNat n = '\x00' := dif_neg hn
    rw [hzero] at h
    exact absurd h.1 (by decide)

theorem replacement_not_simple : ¬IsSimple replacement := fun h ↦ absurd h.2 (by decide)

theorem mem_lead {b : Nat} (hc : IsSimple c) (h : c ∈ (lead b).1) : c.toNat = b := by
  have hleads := leads_lead b
  generalize lead b = r at hleads h
  cases hleads with
  | single =>
    obtain rfl := List.mem_singleton.mp h
    exact toNat_of_simple hc
  | refused =>
    obtain rfl := List.mem_singleton.mp h
    exact absurd hc replacement_not_simple
  | opening => exact absurd h List.not_mem_nil

theorem mem_step {b : Nat} (h : s.Sound) (hc : IsSimple c) (hmem : c ∈ (step s b).1) :
    c.toNat = b := by
  have hreads := reads_step s b
  generalize step s b = r at hreads hmem
  cases hreads with
  | lead => exact mem_lead hc hmem
  | extend => exact absurd hmem List.not_mem_nil
  | @complete low high code b hb =>
    rw [List.mem_singleton] at hmem
    rw [hmem] at hc
    have hcode : 2 ≤ code := h.2
    have hlt := hc.2
    rw [toNat_of_simple hc] at hlt
    omega
  | breakOff =>
    rcases List.mem_cons.mp hmem with rfl | hmem
    · exact absurd hc replacement_not_simple
    · exact mem_lead hc hmem

theorem notMem_decodeFrom_nil (hc : IsSimple c) : c ∉ decodeFrom s [] := by
  cases s with
  | start => exact List.not_mem_nil
  | inside =>
    intro h
    obtain rfl := List.mem_singleton.mp h
    exact replacement_not_simple hc

theorem mem_decodeFrom (h : s.Sound) (hc : IsSimple c) (hmem : c ∈ decodeFrom s bs) :
    ∃ b ∈ bs, c.toNat = b.toNat := by
  induction bs generalizing s with
  | nil => exact absurd hmem (notMem_decodeFrom_nil hc)
  | cons b bs ih =>
    rw [decodeFrom] at hmem
    rcases List.mem_append.mp hmem with hmem | hmem
    · exact ⟨b, List.mem_cons_self, mem_step h hc hmem⟩
    · obtain ⟨a, ha, hca⟩ := ih (step_sound h _) hmem
      exact ⟨a, List.mem_cons_of_mem b ha, hca⟩

theorem lead_ne_nil (b : Nat) : (lead b).1 ++ decodeFrom (lead b).2 [] ≠ [] := by
  have hleads := leads_lead b
  generalize lead b = r at hleads ⊢
  cases hleads with
  | single | refused | opening => simp [decodeFrom]

theorem decodeFrom_ne_nil (s : State) (hne : bs ≠ []) : decodeFrom s bs ≠ [] := by
  induction bs generalizing s with
  | nil => exact absurd rfl hne
  | cons b bs ih =>
    rw [decodeFrom]
    cases bs with
    | cons a bs => exact List.append_ne_nil_of_right_ne_nil _ (ih _ (List.cons_ne_nil a bs))
    | nil =>
      have hreads := reads_step s b.toNat
      generalize step s b.toNat = r at hreads ⊢
      cases hreads with
      | lead => exact lead_ne_nil _
      | complete | extend | breakOff => simp [decodeFrom]

theorem getLast?_decodeFrom (h : s.Sound) (hc : IsSimple c)
    (hlast : (decodeFrom s bs).getLast? = some c) :
    ∃ b, bs.getLast? = some b ∧ c.toNat = b.toNat := by
  induction bs generalizing s with
  | nil => exact absurd (List.mem_of_getLast? hlast) (notMem_decodeFrom_nil hc)
  | cons b bs ih =>
    rw [decodeFrom] at hlast
    cases bs with
    | nil =>
      refine ⟨b, rfl, ?_⟩
      rcases List.mem_append.mp (List.mem_of_getLast? hlast) with hmem | hmem
      · exact mem_step h hc hmem
      · exact absurd hmem (notMem_decodeFrom_nil hc)
    | cons a bs =>
      rw [List.getLast?_append_of_ne_nil _ (decodeFrom_ne_nil _ (List.cons_ne_nil a bs))] at hlast
      obtain ⟨d, hd, hcd⟩ := ih (step_sound h _) hlast
      exact ⟨d, by rwa [List.getLast?_cons_cons], hcd⟩

end PpiDump.Utf8
