import Mathlib.Tactic.SplitIfs
import Rostering.Text.Bytes

namespace Rostering.Text.Utf8

section Lead

variable {b : Nat}

theorem enter_two (hlow : 0xC2 ≤ b) (hhigh : b ≤ 0xDF) :
    enter (UInt8.ofNat b) = ([], some ⟨1, 0x80, 0xBF, b % 0x20⟩) := by
  have hb : (UInt8.ofNat b).toNat = b := UInt8.toNat_ofNat_of_lt' (show b < 0x100 by omega)
  simp only [enter, hb]
  rw [if_neg (by omega), if_pos ⟨hlow, hhigh⟩]

-- The bounds of the second byte keep out longer forms of shorter characters, and the surrogates.
theorem enter_three (hlow : 0xE0 ≤ b) (hhigh : b ≤ 0xEF) :
    enter (UInt8.ofNat b) = ([], some ⟨2, if b = 0xE0 then 0xA0 else 0x80,
      if b = 0xED then 0x9F else 0xBF, b % 0x10⟩) := by
  by_cases hfirst : b = 0xE0
  · subst hfirst
    rfl
  by_cases hsurrogate : b = 0xED
  · subst hsurrogate
    rfl
  have hb : (UInt8.ofNat b).toNat = b := UInt8.toNat_ofNat_of_lt' (show b < 0x100 by omega)
  simp only [enter, hb, if_neg hfirst, if_neg hsurrogate]
  rw [if_neg (by omega), if_neg (by omega), if_pos (by omega)]

theorem enter_four (hlow : 0xF0 ≤ b) (hhigh : b ≤ 0xF4) :
    enter (UInt8.ofNat b) = ([], some ⟨3, if b = 0xF0 then 0x90 else 0x80,
      if b = 0xF4 then 0x8F else 0xBF, b % 8⟩) := by
  by_cases hfirst : b = 0xF0
  · subst hfirst
    rfl
  by_cases hlast : b = 0xF4
  · subst hlast
    rfl
  have hb : (UInt8.ofNat b).toNat = b := UInt8.toNat_ofNat_of_lt' (show b < 0x100 by omega)
  have hsurrogate : b ≠ 0xED := by omega
  have hthree : b ≠ 0xE0 := by omega
  simp only [enter, hb, if_neg hfirst, if_neg hlast, if_neg hsurrogate, if_neg hthree]
  rw [if_neg (by omega), if_neg (by omega), if_neg (by omega), if_pos (by omega)]

end Lead

section Continuation

variable {p : Pending} {b : Nat}

theorem scan_begun (h : enter (UInt8.ofNat b) = ([], some p)) (bytes : List UInt8) :
    scan none (UInt8.ofNat b :: bytes) = scan (some p) bytes := by
  rw [scan, h, List.nil_append]

theorem scan_due (due : Nat) (hdue : p.due = due + 2) (hlow : p.lowest ≤ b) (hhigh : b ≤ p.highest)
    (hbyte : b < 0x100) (bytes : List UInt8) :
    scan (some p) (UInt8.ofNat b :: bytes) =
      scan (some ⟨due + 1, 0x80, 0xBF, p.point * 64 + b % 64⟩) bytes := by
  rw [scan, UInt8.toNat_ofNat_of_lt' hbyte, if_pos ⟨hlow, hhigh⟩, hdue]

theorem scan_last (hdue : p.due = 1) (hlow : p.lowest ≤ b) (hhigh : b ≤ p.highest)
    (hbyte : b < 0x100) (bytes : List UInt8) :
    scan (some p) (UInt8.ofNat b :: bytes) =
      some (Char.ofNat (p.point * 64 + b % 64)) :: scan none bytes := by
  rw [scan, UInt8.toNat_ofNat_of_lt' hbyte, if_pos ⟨hlow, hhigh⟩, hdue]

end Continuation

section Character

variable {n : Nat} (bytes : List UInt8)

theorem scan_two (hlow : 0x80 ≤ n) (hhigh : n ≤ 0x7FF) :
    scan none (UInt8.ofNat (n / 64 % 32 + 192) :: UInt8.ofNat (n % 64 + 128) :: bytes) =
      some (Char.ofNat n) :: scan none bytes := by
  have hpoint : (n / 64 % 32 + 192) % 0x20 * 64 + (n % 64 + 128) % 64 = n := by omega
  rw [scan_begun (enter_two (by omega) (by omega)),
    scan_last rfl (by simp) (by simp; omega) (by omega), hpoint]

theorem scan_three (hlow : 0x800 ≤ n) (hhigh : n ≤ 0xFFFF) (hvalid : n < 0xD800 ∨ 0xDFFF < n) :
    scan none (UInt8.ofNat (n / 4096 % 16 + 224) :: UInt8.ofNat (n / 64 % 64 + 128) ::
      UInt8.ofNat (n % 64 + 128) :: bytes) = some (Char.ofNat n) :: scan none bytes := by
  have hpoint : ((n / 4096 % 16 + 224) % 0x10 * 64 + (n / 64 % 64 + 128) % 64) * 64 +
      (n % 64 + 128) % 64 = n := by omega
  rw [scan_begun (enter_three (by omega) (by omega)), scan_due 0 rfl _ _ (by omega),
    scan_last rfl (by simp) (by simp; omega) (by omega), hpoint]
  · simp only
    split <;> omega
  · simp only
    split <;> omega

theorem scan_four (hlow : 0x10000 ≤ n) (hhigh : n < 0x110000) :
    scan none (UInt8.ofNat (n / 262144 % 8 + 240) :: UInt8.ofNat (n / 4096 % 64 + 128) ::
      UInt8.ofNat (n / 64 % 64 + 128) :: UInt8.ofNat (n % 64 + 128) :: bytes) =
      some (Char.ofNat n) :: scan none bytes := by
  have hpoint : (((n / 262144 % 8 + 240) % 8 * 64 + (n / 4096 % 64 + 128) % 64) * 64 +
      (n / 64 % 64 + 128) % 64) * 64 + (n % 64 + 128) % 64 = n := by omega
  rw [scan_begun (enter_four (by omega) (by omega)), scan_due 1 rfl _ _ (by omega),
    scan_due 0 rfl (by simp) (by simp; omega) (by omega),
    scan_last rfl (by simp) (by simp; omega) (by omega), hpoint]
  · simp only
    split <;> omega
  · simp only
    split <;> omega

end Character

theorem scan_utf8EncodeChar (c : Char) (bytes : List UInt8) :
    scan none (String.utf8EncodeChar c ++ bytes) = some c :: scan none bytes := by
  have hvalid : c.toNat < 0xD800 ∨ 0xDFFF < c.toNat ∧ c.toNat < 0x110000 := c.valid
  have hchar : Char.ofNat c.toNat = c := Char.ofNat_toNat c
  simp only [String.utf8EncodeChar, Char.toNat_val]
  by_cases hone : c.toNat ≤ 0x7F
  · have hbyte : (UInt8.ofNat c.toNat).toNat = c.toNat :=
      UInt8.toNat_ofNat_of_lt' (show c.toNat < 0x100 by omega)
    rw [if_pos hone, List.singleton_append, scan_ascii (by omega), hbyte, hchar]
  by_cases htwo : c.toNat ≤ 0x7FF
  · rw [if_neg hone, if_pos htwo]
    exact (scan_two bytes (by omega) htwo).trans (by rw [hchar])
  by_cases hthree : c.toNat ≤ 0xFFFF
  · rw [if_neg hone, if_neg htwo, if_pos hthree]
    exact (scan_three bytes (by omega) hthree (by omega)).trans (by rw [hchar])
  · rw [if_neg hone, if_neg htwo, if_neg hthree]
    exact (scan_four bytes (by omega) (by omega)).trans (by rw [hchar])

theorem scan_encode (cs : List Char) : scan none (encode cs) = cs.map some := by
  induction cs with
  | nil => rfl
  | cons c cs ih =>
      rw [encode, List.flatMap_cons, scan_utf8EncodeChar, ← encode, ih, List.map_cons]

theorem lossy_encode (cs : List Char) : lossy (encode cs) = cs := by
  rw [lossy, scan_encode, List.map_map]
  exact List.map_id' cs

theorem mapM_id_eq_some_iff {α : Type} {xs : List (Option α)} {ys : List α} :
    xs.mapM id = some ys ↔ xs = ys.map some := by
  induction xs generalizing ys with
  | nil => cases ys <;> simp
  | cons x xs ih =>
      rw [List.mapM_cons]
      cases x with
      | none => cases ys <;> simp
      | some a =>
          cases ys with
          | nil => simp [Option.bind_eq_some_iff]
          | cons y ys => simpa [Option.bind_eq_some_iff, ih] using and_comm

theorem strict?_eq_some_iff {bytes : List UInt8} {cs : List Char} :
    strict? bytes = some cs ↔ scan none bytes = cs.map some :=
  mapM_id_eq_some_iff

theorem strict?_encode (cs : List Char) : strict? (encode cs) = some cs :=
  strict?_eq_some_iff.mpr (scan_encode cs)

theorem fault?_encode (cs : List Char) : fault? (encode cs) = none := by
  have hwhole : ((cs.map some).takeWhile Option.isSome).filterMap id = cs := by
    induction cs with
    | nil => rfl
    | cons c cs ih => simpa using ih
  simp only [fault?, scan_encode, hwhole, List.drop_length]

def continues (byte : UInt8) : Bool := 0x80 ≤ byte.toNat && byte.toNat ≤ 0xBF

def leads (bytes : List UInt8) : Nat := bytes.countP fun byte => !continues byte

theorem leads_append (as bs : List UInt8) : leads (as ++ bs) = leads as + leads bs :=
  List.countP_append

theorem leads_cons_of_lead {byte : UInt8} (h : continues byte = false) (bytes : List UInt8) :
    leads (byte :: bytes) = leads bytes + 1 := by
  rw [leads, List.countP_cons_of_pos (by simp [h]), leads]

theorem leads_cons_of_continues {byte : UInt8} (h : continues byte = true) (bytes : List UInt8) :
    leads (byte :: bytes) = leads bytes := by
  rw [leads, List.countP_cons_of_neg (by simp [h]), leads]

theorem leads_cons_le (byte : UInt8) (bytes : List UInt8) :
    leads (byte :: bytes) ≤ leads bytes + 1 := by
  cases h : continues byte with
  | false => exact Nat.le_of_eq (leads_cons_of_lead h bytes)
  | true => exact Nat.le_succ_of_le (Nat.le_of_eq (leads_cons_of_continues h bytes))

theorem leads_utf8EncodeChar (c : Char) : leads (String.utf8EncodeChar c) = 1 := by
  have hlead {b : Nat} (hb : b < 0x80 ∨ 0xBF < b) (hbyte : b < 0x100) :
      continues (UInt8.ofNat b) = false := by
    simp only [continues, UInt8.toNat_ofNat_of_lt' hbyte, Bool.and_eq_false_iff,
      decide_eq_false_iff_not]
    omega
  have hrest (n : Nat) : continues (UInt8.ofNat (n % 64 + 128)) = true := by
    have hbyte : n % 64 + 128 < 0x100 := by omega
    simp only [continues, UInt8.toNat_ofNat_of_lt' hbyte, Bool.and_eq_true, decide_eq_true_eq]
    omega
  simp only [String.utf8EncodeChar, Char.toNat_val]
  split
  · simp only [leads, List.countP_singleton, hlead (b := c.toNat) (by omega) (by omega)]
    rfl
  split
  · simp only [leads, List.countP_cons, List.countP_nil, hrest,
      hlead (b := c.toNat / 64 % 32 + 192) (by omega) (by omega)]
    rfl
  split
  · simp only [leads, List.countP_cons, List.countP_nil, hrest,
      hlead (b := c.toNat / 4096 % 16 + 224) (by omega) (by omega)]
    rfl
  · simp only [leads, List.countP_cons, List.countP_nil, hrest,
      hlead (b := c.toNat / 262144 % 8 + 240) (by omega) (by omega)]
    rfl

theorem leads_encode (cs : List Char) : leads (encode cs) = cs.length := by
  induction cs with
  | nil => rfl
  | cons c cs ih =>
      have hrest : leads (cs.flatMap String.utf8EncodeChar) = cs.length := ih
      rw [encode, List.flatMap_cons, leads_append, leads_utf8EncodeChar, hrest, List.length_cons,
        Nat.add_comm]

def Pending.Inner (p : Pending) : Prop := 0x80 ≤ p.lowest ∧ p.highest ≤ 0xBF

theorem enter_cases (byte : UInt8) :
    (∃ c, enter byte = ([some c], none) ∧ continues byte = false) ∨
      (∃ p, enter byte = ([], some p) ∧ p.Inner ∧ continues byte = false) ∨
      enter byte = ([none], none) := by
  have hlead (h : byte.toNat < 0x80 ∨ 0xBF < byte.toNat) : continues byte = false := by
    simp only [continues, Bool.and_eq_false_iff, decide_eq_false_iff_not]
    omega
  generalize hentered : enter byte = entered
  unfold enter at hentered
  dsimp only at hentered
  split_ifs at hentered <;> subst hentered
  · exact .inl ⟨_, rfl, hlead (by omega)⟩
  all_goals first
    | exact .inr (.inr rfl)
    | exact .inr (.inl ⟨_, rfl, by simp [Pending.Inner], hlead (by omega)⟩)

theorem length_le_of_scan {state : Option Pending} (hstate : ∀ p ∈ state, p.Inner)
    {bytes : List UInt8} {cs : List Char} (h : scan state bytes = cs.map some) :
    cs.length ≤ leads bytes + state.toList.length := by
  induction bytes generalizing state cs with
  | nil =>
      cases state with
      | none =>
          obtain rfl : cs = [] := by simpa [scan] using h.symm
          exact Nat.zero_le _
      | some p =>
          obtain ⟨d, ds, -, ha, -⟩ := List.map_eq_cons_iff.mp h.symm
          contradiction
  | cons byte bytes ih =>
      cases state with
      | none =>
          rw [scan] at h
          obtain ⟨c, henter, hlead⟩ | ⟨p, henter, hinner, hlead⟩ | henter := enter_cases byte
          · rw [henter] at h
            obtain ⟨d, ds, rfl, -, hrest⟩ := List.map_eq_cons_iff.mp h.symm
            rw [leads_cons_of_lead hlead]
            exact Nat.succ_le_succ (ih (by simp) hrest.symm)
          · rw [henter] at h
            rw [leads_cons_of_lead hlead]
            exact ih (by simpa using hinner) h
          · rw [henter] at h
            obtain ⟨d, ds, -, ha, -⟩ := List.map_eq_cons_iff.mp h.symm
            contradiction
      | some p =>
          obtain ⟨hlow, hhigh⟩ := hstate p rfl
          rw [scan] at h
          split at h
          · rename_i hbyte
            have hinside : continues byte = true := by
              simp only [continues, Bool.and_eq_true, decide_eq_true_eq]
              omega
            rw [leads_cons_of_continues hinside]
            split at h
            · rename_i due hdue
              have hnext (point : Nat) :
                  ∀ q ∈ some (Pending.mk (due + 1) 0x80 0xBF point), q.Inner := by
                simp [Pending.Inner]
              exact ih (hnext _) h
            · obtain ⟨d, ds, rfl, -, hrest⟩ := List.map_eq_cons_iff.mp h.symm
              exact Nat.succ_le_succ (ih (by simp) hrest.symm)
          · obtain ⟨d, ds, -, ha, -⟩ := List.map_eq_cons_iff.mp h.symm
            contradiction

theorem length_le_of_strict? {bytes : List UInt8} {cs : List Char} (h : strict? bytes = some cs) :
    cs.length ≤ leads bytes :=
  length_le_of_scan (by simp) (strict?_eq_some_iff.mp h)

end Rostering.Text.Utf8
