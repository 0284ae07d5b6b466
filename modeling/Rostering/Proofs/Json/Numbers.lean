import Rostering.Json.Parse
import Rostering.Json.Value
import Rostering.Proofs.Text.Trimming

namespace Rostering

namespace Text

theorem head?_digits_ne_zero {n : Nat} (h : 0 < n) : (digits n).head? ≠ some '0' := by
  induction n using Nat.strongRecOn with
  | ind n ih =>
      by_cases hlt : n < 10
      · rw [digits, Nat.toDigits_of_lt_base hlt]
        have hsmall : ∀ m < 10, 0 < m → [m.digitChar].head? ≠ some '0' := by decide
        exact hsmall n hlt h
      · have hstep : digits n = digits (n / 10) ++ [(n % 10).digitChar] :=
          Nat.toDigits_of_base_le (by omega) (by omega)
        have hrest := ih (n / 10) (by omega) (by omega)
        obtain ⟨c, cs, hcs⟩ := List.exists_cons_of_ne_nil (digits_ne_nil (n / 10))
        rw [hstep, hcs]
        rwa [hcs] at hrest

theorem mem_digits_isDigit {n : Nat} {c : Char} (h : c ∈ digits n) : c.isDigit = true :=
  List.all_eq_true.mp (digits_all_isDigit n) c h

end Text

namespace Json

open Number (Double)

structure Digits (ds : List Char) : Prop where
  nonempty : ds ≠ []
  digit : ∀ c ∈ ds, c.isDigit = true

structure WholeDigits (ds : List Char) : Prop extends Digits ds where
  leading : ds.head? = some '0' → ds.length = 1

abbrev valueOf (ds : List Char) : Nat := Nat.ofDigitChars 10 ds 0

def exactNumber (negative : Bool) (n : Nat) : Json :=
  if !negative then .int n
  else if n = 0 ∨ Text.i64Limit < n then .double (Double.ofNat n).neg
  else .int (-(n : Int))

def scaledNumber (negative : Bool) (significand : Nat) (exponent : Int) :
    Option (Bool × Nat) → Option Json
  | none => doubleOf negative significand exponent
  | some (down, n) =>
      if n < 2147483648 then
        doubleOf negative significand (if down then exponent - n else exponent + n)
      else if significand ≠ 0 ∧ !down then none
      else some (.double (.finite negative 0))

def fractionNumber (negative : Bool) (significand : Nat) (exponent : Int) (fraction : List Char)
    (power : Option (Bool × Nat)) : Option Json :=
  scaledNumber negative (absorb significand fraction).1
    (exponent - (fraction.length - (absorb significand fraction).2.length : Nat)) power

def decimalNumber (negative : Bool) (whole fraction : List Char) (power : Option (Bool × Nat)) :
    Option Json :=
  fractionNumber negative (absorb 0 whole).1 (absorb 0 whole).2.length fraction power

inductive PowerText : List Char → Bool × Nat → Prop where
  | plain {ds : List Char} (h : Digits ds) : PowerText ds (false, valueOf ds)
  | up {ds : List Char} (h : Digits ds) : PowerText ('+' :: ds) (false, valueOf ds)
  | down {ds : List Char} (h : Digits ds) : PowerText ('-' :: ds) (true, valueOf ds)

inductive TailText : List Char → Option (Bool × Nat) → Prop where
  | absent : TailText [] none
  | present {letter : Char} {text : List Char} {power : Bool × Nat}
      (hletter : letter = 'e' ∨ letter = 'E') (h : PowerText text power) :
      TailText (letter :: text) (some power)

inductive FractionText : List Char → List Char → Prop where
  | absent : FractionText [] []
  | present {ds : List Char} (h : Digits ds) : FractionText ('.' :: ds) ds

inductive MagnitudeText (negative : Bool) : List Char → Json → Prop where
  | exact {ds : List Char} (whole : WholeDigits ds) (small : valueOf ds < Text.u64Limit) :
      MagnitudeText negative ds (exactNumber negative (valueOf ds))
  | decimal {ds point fraction tail : List Char} {power : Option (Bool × Nat)} {json : Json}
      (whole : WholeDigits ds) (hfraction : FractionText point fraction)
      (htail : TailText tail power)
      (inexact : Text.u64Limit ≤ valueOf ds ∨ fraction ≠ [] ∨ power ≠ none)
      (value : decimalNumber negative ds fraction power = some json) :
      MagnitudeText negative (ds ++ (point ++ tail)) json

inductive NumberText : List Char → Json → Prop where
  | positive {cs : List Char} {json : Json} (h : MagnitudeText false cs json) : NumberText cs json
  | negative {cs : List Char} {json : Json} (h : MagnitudeText true cs json) :
      NumberText ('-' :: cs) json

def extendsNumber (c : Char) : Bool := c.isDigit || c == '.' || c == 'e' || c == 'E'

def Ends (rest : List Char) : Prop := ∀ c, rest.head? = some c → extendsNumber c = false

theorem ends_nil : Ends [] := by
  intro c hc
  simp at hc

theorem ends_cons {c : Char} (h : extendsNumber c = false) (rest : List Char) :
    Ends (c :: rest) := by
  intro d hd
  obtain rfl : c = d := by simpa using hd
  exact h

theorem Ends.not_digit {rest : List Char} (h : Ends rest) {c : Char} (hc : rest.head? = some c) :
    c.isDigit = false := by
  have hends := h c hc
  simp only [extendsNumber, Bool.or_eq_false_iff] at hends
  exact hends.1.1.1

theorem Ends.continuesNumber_eq_false {rest : List Char} (h : Ends rest) :
    continuesNumber rest = false := by
  unfold continuesNumber
  split
  · exact absurd (h '.' rfl) (by decide)
  · exact absurd (h 'e' rfl) (by decide)
  · exact absurd (h 'E' rfl) (by decide)
  · rfl

theorem le_ofDigitChars (cs : List Char) (significand : Nat) :
    significand ≤ Nat.ofDigitChars 10 cs significand := by
  induction cs generalizing significand with
  | nil => exact Nat.le_refl _
  | cons c cs ih =>
      rw [Nat.ofDigitChars_cons]
      exact Nat.le_trans (by omega) (ih (10 * significand + (c.toNat - '0'.toNat)))

theorem absorb_cons (significand : Nat) (c : Char) (cs : List Char) :
    absorb significand (c :: cs) =
      if 10 * significand + (c.toNat - '0'.toNat) < Text.u64Limit then
        absorb (10 * significand + (c.toNat - '0'.toNat)) cs
      else (significand, c :: cs) := by
  rw [Nat.mul_comm 10 significand]
  rfl

theorem absorb_of_lt {cs : List Char} {significand : Nat}
    (h : Nat.ofDigitChars 10 cs significand < Text.u64Limit) :
    absorb significand cs = (Nat.ofDigitChars 10 cs significand, []) := by
  induction cs generalizing significand with
  | nil => rfl
  | cons c cs ih =>
      rw [Nat.ofDigitChars_cons] at h ⊢
      have hnext := Nat.lt_of_le_of_lt (le_ofDigitChars cs _) h
      rw [absorb_cons, if_pos hnext, ih h]

-- The first digit that no longer fits stays behind, also when a later one would fit again.
theorem absorb_unread {cs : List Char} {significand : Nat}
    (h : Text.u64Limit ≤ Nat.ofDigitChars 10 cs significand)
    (hsignificand : significand < Text.u64Limit) : (absorb significand cs).2 ≠ [] := by
  induction cs generalizing significand with
  | nil => exact absurd h (Nat.not_le.mpr hsignificand)
  | cons c cs ih =>
      rw [Nat.ofDigitChars_cons] at h
      rw [absorb_cons]
      split
      next hnext => exact ih h hnext
      next => simp

theorem Digits.span {ds rest : List Char} (h : Digits ds)
    (hrest : ∀ c, rest.head? = some c → c.isDigit = false) :
    (ds ++ rest).takeWhile Char.isDigit = ds ∧ (ds ++ rest).dropWhile Char.isDigit = rest :=
  Text.span_append h.digit hrest

theorem Digits.cons {ds : List Char} (h : Digits ds) :
    ∃ c cs, ds = c :: cs ∧ c.isDigit = true := by
  obtain ⟨c, cs, rfl⟩ := List.exists_cons_of_ne_nil h.nonempty
  exact ⟨c, cs, rfl, h.digit c (by simp)⟩

theorem digits_takeWhile {cs : List Char} (h : ¬ (cs.takeWhile Char.isDigit).isEmpty = true) :
    Digits (cs.takeWhile Char.isDigit) :=
  ⟨fun hnil => h (by rw [hnil]; rfl), fun _ hc => List.mem_takeWhile_imp hc⟩

section Scaling

variable {negative : Bool} {significand : Nat} {exponent : Int} {cs rest : List Char} {json : Json}

def powerSign (cs : List Char) : Bool × List Char :=
  match cs with
  | '+' :: rest => (false, rest)
  | '-' :: rest => (true, rest)
  | _ => (false, cs)

theorem powerSign_cases (cs : List Char) :
    (∃ body, cs = '+' :: body ∧ powerSign cs = (false, body)) ∨
      (∃ body, cs = '-' :: body ∧ powerSign cs = (true, body)) ∨ powerSign cs = (false, cs) := by
  unfold powerSign
  split
  next body => exact .inl ⟨body, rfl, rfl⟩
  next body => exact .inr (.inl ⟨body, rfl, rfl⟩)
  next => exact .inr (.inr rfl)

theorem readPower_eq {down : Bool} {body : List Char} (h : powerSign cs = (down, body)) :
    readPower negative significand exponent cs =
      if (body.takeWhile Char.isDigit).isEmpty then none
      else (scaledNumber negative significand exponent
        (some (down, valueOf (body.takeWhile Char.isDigit)))).map
          (·, body.dropWhile Char.isDigit) := by
  unfold readPower scaledNumber
  split
  next down' body' hsign =>
    have hsame : powerSign cs = (down', body') := hsign
    obtain ⟨rfl, rfl⟩ := Prod.mk.inj (h.symm.trans hsame)
    simp only [apply_ite (Option.map (·, body.dropWhile Char.isDigit)), Option.map_none,
      Option.map_some]

theorem exists_powerText {down : Bool} {body ds : List Char} (h : powerSign cs = (down, body))
    (hbody : body = ds ++ rest) (hds : Digits ds) :
    ∃ text, cs = text ++ rest ∧ PowerText text (down, valueOf ds) := by
  rcases powerSign_cases cs with ⟨body', rfl, hsign⟩ | ⟨body', rfl, hsign⟩ | hsign
  · obtain ⟨rfl, rfl⟩ := Prod.mk.inj (hsign.symm.trans h)
    exact ⟨_, congrArg ('+' :: ·) hbody, .up hds⟩
  · obtain ⟨rfl, rfl⟩ := Prod.mk.inj (hsign.symm.trans h)
    exact ⟨_, congrArg ('-' :: ·) hbody, .down hds⟩
  · obtain ⟨rfl, rfl⟩ := Prod.mk.inj (hsign.symm.trans h)
    exact ⟨_, hbody, .plain hds⟩

theorem powerSign_digits {ds : List Char} (h : Digits ds) (rest : List Char) :
    powerSign (ds ++ rest) = (false, ds ++ rest) := by
  obtain ⟨c, cs, rfl, hc⟩ := h.cons
  rcases powerSign_cases (c :: cs ++ rest) with ⟨body, hbody, -⟩ | ⟨body, hbody, -⟩ | hsign
  · obtain ⟨rfl, -⟩ := List.cons.inj hbody
    exact absurd hc (by decide)
  · obtain ⟨rfl, -⟩ := List.cons.inj hbody
    exact absurd hc (by decide)
  · exact hsign

theorem readPower_digits {down : Bool} {ds : List Char} (hds : Digits ds) (hrest : Ends rest)
    (h : powerSign cs = (down, ds ++ rest)) :
    readPower negative significand exponent cs =
      (scaledNumber negative significand exponent (some (down, valueOf ds))).map (·, rest) := by
  obtain ⟨htake, hdrop⟩ := hds.span fun _ => hrest.not_digit
  rw [readPower_eq h, htake, hdrop, if_neg (by simpa using hds.nonempty)]

theorem PowerText.readPower_append {text : List Char} {power : Bool × Nat}
    (h : PowerText text power) (hrest : Ends rest) :
    readPower negative significand exponent (text ++ rest) =
      (scaledNumber negative significand exponent (some power)).map (·, rest) := by
  cases h with
  | plain hds => exact readPower_digits hds hrest (powerSign_digits hds rest)
  | up hds => exact readPower_digits hds hrest rfl
  | down hds => exact readPower_digits hds hrest rfl

theorem exists_of_readPower
    (h : readPower negative significand exponent cs = some (json, rest)) :
    ∃ text power, cs = text ++ rest ∧ PowerText text power ∧
      scaledNumber negative significand exponent (some power) = some json := by
  obtain ⟨down, body, hsign⟩ : ∃ down body, powerSign cs = (down, body) := ⟨_, _, rfl⟩
  rw [readPower_eq hsign] at h
  split at h
  next => contradiction
  next hdigits =>
    obtain ⟨json', hvalue, heq⟩ := Option.map_eq_some_iff.mp h
    obtain ⟨rfl, rfl⟩ := Prod.mk.inj heq
    obtain ⟨text, hcs, htext⟩ :=
      exists_powerText hsign List.takeWhile_append_dropWhile.symm (digits_takeWhile hdigits)
    exact ⟨text, _, hcs, htext, hvalue⟩

def readTail (negative : Bool) (significand : Nat) (exponent : Int) (cs : List Char) :
    Option (Json × List Char) :=
  match cs with
  | 'e' :: power => readPower negative significand exponent power
  | 'E' :: power => readPower negative significand exponent power
  | _ => (doubleOf negative significand exponent).map (·, cs)

theorem TailText.readTail_append {text : List Char} {power : Option (Bool × Nat)}
    (h : TailText text power) (hrest : Ends rest) :
    readTail negative significand exponent (text ++ rest) =
      (scaledNumber negative significand exponent power).map (·, rest) := by
  cases h with
  | absent =>
      rw [List.nil_append]
      unfold readTail
      split
      next => exact absurd (hrest 'e' rfl) (by decide)
      next => exact absurd (hrest 'E' rfl) (by decide)
      next => rfl
  | present hletter h =>
      rcases hletter with rfl | rfl
      · exact h.readPower_append hrest
      · exact h.readPower_append hrest

theorem exists_of_readTail (h : readTail negative significand exponent cs = some (json, rest)) :
    ∃ text power, cs = text ++ rest ∧ TailText text power ∧
      scaledNumber negative significand exponent power = some json ∧
      (power = none → (∀ body, cs ≠ 'e' :: body) ∧ ∀ body, cs ≠ 'E' :: body) := by
  unfold readTail at h
  split at h
  next =>
    obtain ⟨text, power, rfl, htext, hvalue⟩ := exists_of_readPower h
    exact ⟨_, _, rfl, .present (.inl rfl) htext, hvalue, by simp⟩
  next =>
    obtain ⟨text, power, rfl, htext, hvalue⟩ := exists_of_readPower h
    exact ⟨_, _, rfl, .present (.inr rfl) htext, hvalue, by simp⟩
  next he hE =>
    obtain ⟨json', hvalue, heq⟩ := Option.map_eq_some_iff.mp h
    obtain ⟨rfl, rfl⟩ := Prod.mk.inj heq
    exact ⟨[], none, rfl, .absent, hvalue, fun _ => ⟨he, hE⟩⟩

theorem readFraction_point (body : List Char) :
    readFraction negative significand exponent ('.' :: body) =
      if (body.takeWhile Char.isDigit).isEmpty then none
      else readTail negative (absorb significand (body.takeWhile Char.isDigit)).1
        (exponent - ((body.takeWhile Char.isDigit).length -
          (absorb significand (body.takeWhile Char.isDigit)).2.length : Nat))
        (body.dropWhile Char.isDigit) := rfl

theorem readFraction_tail (h : ∀ body, cs ≠ '.' :: body) :
    readFraction negative significand exponent cs = readTail negative significand exponent cs := by
  unfold readFraction readTail
  split
  next body => exact absurd rfl (h body)
  next => rfl
  next => rfl
  next he hE =>
    split
    next => exact absurd rfl (he _)
    next => exact absurd rfl (hE _)
    next => rfl

theorem TailText.head?_append {tail : List Char} {power : Option (Bool × Nat)}
    (h : TailText tail power) (hrest : Ends rest) {c : Char}
    (hc : (tail ++ rest).head? = some c) : c.isDigit = false ∧ c ≠ '.' := by
  cases h with
  | absent =>
      refine ⟨hrest.not_digit hc, ?_⟩
      rintro rfl
      exact absurd (hrest '.' hc) (by decide)
  | present hletter _ =>
      obtain rfl := Option.some.inj hc
      rcases hletter with rfl | rfl <;> decide

theorem FractionText.head?_append {point fraction tail : List Char} {power : Option (Bool × Nat)}
    (h : FractionText point fraction) (htail : TailText tail power) (hrest : Ends rest) {c : Char}
    (hc : (point ++ (tail ++ rest)).head? = some c) : c.isDigit = false := by
  cases h with
  | absent => exact (htail.head?_append hrest hc).1
  | present _ =>
      obtain rfl := Option.some.inj hc
      rfl

theorem FractionText.continuesNumber_append {point fraction tail : List Char}
    {power : Option (Bool × Nat)} (h : FractionText point fraction) (htail : TailText tail power)
    (hmore : fraction ≠ [] ∨ power ≠ none) :
    continuesNumber (point ++ (tail ++ rest)) = true := by
  cases h with
  | present _ => rfl
  | absent =>
      cases htail with
      | absent => simp at hmore
      | present hletter _ => rcases hletter with rfl | rfl <;> rfl

theorem FractionText.readFraction_append {point fraction tail : List Char}
    {power : Option (Bool × Nat)} (h : FractionText point fraction) (htail : TailText tail power)
    (hrest : Ends rest) :
    readFraction negative significand exponent (point ++ (tail ++ rest)) =
      (fractionNumber negative significand exponent fraction power).map (·, rest) := by
  cases h with
  | absent =>
      have hpoint : ∀ body, tail ++ rest ≠ '.' :: body := by
        intro body hbody
        exact (htail.head?_append hrest (by rw [hbody]; rfl)).2 rfl
      rw [List.nil_append, readFraction_tail hpoint, htail.readTail_append hrest]
      simp [fractionNumber, absorb]
  | present hds =>
      obtain ⟨htake, hdrop⟩ := hds.span fun _ hc => (htail.head?_append hrest hc).1
      rw [List.cons_append, readFraction_point, htake, hdrop,
        if_neg (by simpa using hds.nonempty), htail.readTail_append hrest]
      rfl

theorem exists_of_readFraction
    (h : readFraction negative significand exponent cs = some (json, rest)) :
    ∃ point fraction tail power, cs = point ++ (tail ++ rest) ∧ FractionText point fraction ∧
      TailText tail power ∧
      fractionNumber negative significand exponent fraction power = some json ∧
      (continuesNumber cs = true → fraction ≠ [] ∨ power ≠ none) := by
  by_cases hpoint : ∃ body, cs = '.' :: body
  · obtain ⟨body, rfl⟩ := hpoint
    rw [readFraction_point] at h
    split at h
    next => contradiction
    next hdigits =>
      have hds := digits_takeWhile hdigits
      have hbody := List.takeWhile_append_dropWhile (p := Char.isDigit) (l := body) |>.symm
      obtain ⟨tail, power, htext, htail, hvalue, -⟩ := exists_of_readTail h
      rw [htext] at hbody
      exact ⟨_, _, tail, power, congrArg ('.' :: ·) hbody, .present hds, htail, hvalue,
        fun _ => .inl hds.nonempty⟩
  · rw [not_exists] at hpoint
    rw [readFraction_tail hpoint] at h
    obtain ⟨tail, power, htext, htail, hvalue, hnone⟩ := exists_of_readTail h
    refine ⟨[], [], tail, power, htext, .absent, htail, by simpa [fractionNumber, absorb], ?_⟩
    intro hcontinues
    refine .inr fun hpower => ?_
    obtain ⟨he, hE⟩ := hnone hpower
    unfold continuesNumber at hcontinues
    split at hcontinues
    next => exact hpoint _ rfl
    next => exact he _ rfl
    next => exact hE _ rfl
    next => contradiction

end Scaling

section Magnitude

variable {negative : Bool} {ds cs rest : List Char} {json : Json}

theorem WholeDigits.readMagnitude_append (h : WholeDigits ds)
    (hrest : ∀ c, rest.head? = some c → c.isDigit = false) :
    readMagnitude negative (ds ++ rest) =
      if (absorb 0 ds).2.isEmpty ∧ !continuesNumber rest then
        some (exactNumber negative (absorb 0 ds).1, rest)
      else readFraction negative (absorb 0 ds).1 (absorb 0 ds).2.length rest := by
  obtain ⟨htake, hdrop⟩ := h.toDigits.span hrest
  have hform : ¬ (ds.isEmpty = true ∨ ds.head? = some '0' ∧ ds.length ≠ 1) := by
    rintro (hempty | ⟨hzero, hlength⟩)
    · exact h.nonempty (List.isEmpty_iff.mp hempty)
    · exact hlength (h.leading hzero)
  simp only [readMagnitude, htake, hdrop, if_neg hform, exactNumber]
  split
  next => simp only [apply_ite (fun json => some (json, rest))]
  next => rfl

theorem wholeDigits_of_readMagnitude {result : Json × List Char}
    (h : readMagnitude negative cs = some result) : WholeDigits (cs.takeWhile Char.isDigit) := by
  simp only [readMagnitude] at h
  split at h
  next => contradiction
  next hform =>
    simp only [not_or, not_and, Classical.not_not] at hform
    exact ⟨digits_takeWhile hform.1, hform.2⟩

theorem MagnitudeText.readMagnitude_append {text : List Char} (h : MagnitudeText negative text json)
    (hrest : Ends rest) : readMagnitude negative (text ++ rest) = some (json, rest) := by
  cases h with
  | exact whole small =>
      rw [whole.readMagnitude_append fun _ => hrest.not_digit, absorb_of_lt small,
        if_pos ⟨rfl, by rw [hrest.continuesNumber_eq_false]; rfl⟩]
  | @decimal ds point fraction tail power json whole hfraction htail inexact value =>
      have hlong : ¬ ((absorb 0 ds).2.isEmpty = true ∧
          (!continuesNumber (point ++ (tail ++ rest))) = true) := by
        rintro ⟨hread, hends⟩
        rcases inexact with hlarge | hmore
        · exact absorb_unread hlarge (by decide) (List.isEmpty_iff.mp hread)
        · rw [hfraction.continuesNumber_append htail hmore] at hends
          contradiction
      rw [List.append_assoc, List.append_assoc,
        whole.readMagnitude_append fun _ => hfraction.head?_append htail hrest, if_neg hlong,
        hfraction.readFraction_append htail hrest, ← decimalNumber, value]
      rfl

theorem exists_of_readMagnitude (h : readMagnitude negative cs = some (json, rest)) :
    ∃ text, cs = text ++ rest ∧ MagnitudeText negative text json := by
  have hwhole := wholeDigits_of_readMagnitude h
  have hcs := List.takeWhile_append_dropWhile (p := Char.isDigit) (l := cs) |>.symm
  have hstops : ∀ c, (cs.dropWhile Char.isDigit).head? = some c → c.isDigit = false := by
    intro c hc
    have hhead := List.head?_dropWhile_not Char.isDigit cs
    rwa [hc] at hhead
  rw [hcs, hwhole.readMagnitude_append hstops] at h
  split at h
  next hexact =>
    have hread : (absorb 0 (cs.takeWhile Char.isDigit)).2 = [] := List.isEmpty_iff.mp hexact.1
    have hsmall : valueOf (cs.takeWhile Char.isDigit) < Text.u64Limit := by
      by_contra hlarge
      exact absorb_unread (Nat.not_lt.mp hlarge) (by decide) hread
    rw [absorb_of_lt hsmall] at h
    obtain ⟨rfl, rfl⟩ := Prod.mk.inj (Option.some.inj h)
    exact ⟨_, hcs, .exact hwhole hsmall⟩
  next hinexact =>
    obtain ⟨point, fraction, tail, power, hunread, hfraction, htail, hvalue, hmore⟩ :=
      exists_of_readFraction h
    have hlong : Text.u64Limit ≤ valueOf (cs.takeWhile Char.isDigit) ∨
        fraction ≠ [] ∨ power ≠ none := by
      by_cases hsmall : valueOf (cs.takeWhile Char.isDigit) < Text.u64Limit
      · rw [absorb_of_lt hsmall] at hinexact
        exact .inr (hmore (by simpa using hinexact))
      · exact .inl (Nat.not_lt.mp hsmall)
    refine ⟨_, ?_, .decimal hwhole hfraction htail hlong hvalue⟩
    rw [List.append_assoc, List.append_assoc, ← hunread, ← hcs]

theorem MagnitudeText.opens {text : List Char} (h : MagnitudeText negative text json) :
    ∃ c cs, text = c :: cs ∧ c.isDigit = true := by
  cases h with
  | exact whole _ => exact whole.cons
  | decimal whole _ _ _ _ =>
      obtain ⟨c, cs, rfl, hc⟩ := whole.cons
      exact ⟨c, _, rfl, hc⟩

def opensNumber (c : Char) : Bool := c.isDigit || c == '-'

theorem ne_of_opensNumber {c d : Char} (hc : opensNumber c = true) (hd : opensNumber d = false) :
    c ≠ d := by
  rintro rfl
  simp [hc] at hd

theorem NumberText.opens {text : List Char} (h : NumberText text json) :
    ∃ c cs, text = c :: cs ∧ opensNumber c = true := by
  cases h with
  | positive h =>
      obtain ⟨c, cs, htext, hc⟩ := h.opens
      exact ⟨c, cs, htext, by rw [opensNumber, hc, Bool.true_or]⟩
  | negative _ => exact ⟨'-', _, rfl, rfl⟩

theorem NumberText.readNumber_append {text : List Char} (h : NumberText text json)
    (hrest : Ends rest) : readNumber (text ++ rest) = some (json, rest) := by
  cases h with
  | positive h =>
      have hread := h.readMagnitude_append hrest
      obtain ⟨c, cs, rfl, hc⟩ := h.opens
      rw [List.cons_append] at hread ⊢
      unfold readNumber
      split
      next heq =>
        obtain ⟨rfl, -⟩ := List.cons.inj heq
        exact absurd hc (by decide)
      next => exact hread
  | negative h => exact h.readMagnitude_append hrest

theorem exists_of_readNumber (h : readNumber cs = some (json, rest)) :
    ∃ text, cs = text ++ rest ∧ NumberText text json := by
  unfold readNumber at h
  split at h
  next =>
    obtain ⟨text, rfl, htext⟩ := exists_of_readMagnitude h
    exact ⟨_, rfl, .negative htext⟩
  next =>
    obtain ⟨text, rfl, htext⟩ := exists_of_readMagnitude h
    exact ⟨_, rfl, .positive htext⟩

theorem valueOf_digits (n : Nat) : valueOf (Text.digits n) = n := Nat.ofDigitChars_ten_toDigits

theorem wholeDigits_digits (n : Nat) : WholeDigits (Text.digits n) := by
  refine ⟨⟨Text.digits_ne_nil n, fun _ => Text.mem_digits_isDigit⟩, fun hzero => ?_⟩
  have hn : n = 0 := by
    by_contra hpos
    exact Text.head?_digits_ne_zero (Nat.pos_of_ne_zero hpos) hzero
  subst hn
  rfl

theorem numberText_intDigits {k : Int} (low : -(Text.i64Limit : Int) ≤ k)
    (high : k < Text.u64Limit) : NumberText (Text.intDigits k) (.int k) := by
  cases k with
  | ofNat n =>
      have hvalue := valueOf_digits n
      have hn : n < Text.u64Limit := by
        have hcast : (n : Int) < Text.u64Limit := high
        omega
      have htext : MagnitudeText false (Text.digits n) _ :=
        .exact (wholeDigits_digits n) (by rwa [hvalue])
      rw [hvalue] at htext
      exact .positive htext
  | negSucc n =>
      have hvalue := valueOf_digits (n + 1)
      have hn : n + 1 ≤ Text.i64Limit := by
        rw [Int.negSucc_eq] at low
        omega
      have hsmall : n + 1 < Text.u64Limit := Nat.lt_of_le_of_lt hn (by decide)
      have htext : MagnitudeText true (Text.digits (n + 1)) _ :=
        .exact (wholeDigits_digits (n + 1)) (by rwa [hvalue])
      have hnegative : exactNumber true (n + 1) = .int (Int.negSucc n) := by
        rw [exactNumber, if_neg (by decide), if_neg (by omega)]
        rfl
      rw [hvalue, hnegative] at htext
      exact .negative htext

end Magnitude

end Json
end Rostering
