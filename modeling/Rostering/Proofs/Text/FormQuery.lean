import Rostering.Proofs.Text.Utf8
import Rostering.Text.Bytes

namespace Rostering.Text

theorem unescape_cons {c : Char} (h : c ≠ '%') (cs : List Char) :
    unescape (c :: cs) = String.utf8EncodeChar c ++ unescape cs := by
  rw [unescape]
  rintro a b rest rfl -
  exact h rfl

inductive Escapes : List UInt8 → List Char → Prop where
  | nil : Escapes [] []
  | cons {byte : UInt8} {a b : Char} {high low : Nat} {bytes : List UInt8} {cs : List Char}
      (ha : hexValue? a = some high) (hb : hexValue? b = some low)
      (hbyte : byte.toNat = 16 * high + low) (rest : Escapes bytes cs) :
      Escapes (byte :: bytes) ('%' :: a :: b :: cs)

def opensEscape : List Char → Bool
  | a :: b :: _ => (hexValue? a).isSome && (hexValue? b).isSome
  | _ => false

inductive Encodes : List Char → List Char → Prop where
  | nil : Encodes [] []
  | plain {c : Char} {cs text : List Char} (hpercent : c ≠ '%') (hplus : c ≠ '+')
      (rest : Encodes cs text) : Encodes (c :: cs) (c :: text)
  | plus {cs text : List Char} (rest : Encodes cs text) : Encodes ('+' :: cs) (' ' :: text)
  | percent {cs text : List Char} (h : opensEscape cs = false) (rest : Encodes cs text) :
      Encodes ('%' :: cs) ('%' :: text)
  | escaped {c : Char} {hex cs text : List Char} (h : Escapes (String.utf8EncodeChar c) hex)
      (rest : Encodes cs text) : Encodes (hex ++ cs) (c :: text)

theorem encodes_plain (cs : List Char) (hpercent : '%' ∉ cs) (hplus : '+' ∉ cs)
    {ds text : List Char} (rest : Encodes ds text) : Encodes (cs ++ ds) (cs ++ text) := by
  induction cs with
  | nil => exact rest
  | cons c cs ih =>
      rw [List.mem_cons, not_or] at hpercent hplus
      exact .plain (Ne.symm hpercent.1) (Ne.symm hplus.1) (ih hpercent.2 hplus.2)

def plusToSpace (c : Char) : Char := if c = '+' then ' ' else c

theorem hexValue?_plusToSpace (c : Char) : hexValue? (plusToSpace c) = hexValue? c := by
  unfold plusToSpace
  split
  · subst c
    rfl
  · rfl

theorem opensEscape_map_plusToSpace (cs : List Char) :
    opensEscape (cs.map plusToSpace) = opensEscape cs := by
  match cs with
  | [] => rfl
  | [a] => rfl
  | a :: b :: rest => simp [opensEscape, hexValue?_plusToSpace]

theorem unescape_percent {cs : List Char} (h : opensEscape cs = false) :
    unescape ('%' :: cs) = String.utf8EncodeChar '%' ++ unescape cs := by
  match cs with
  | [] => rfl
  | [a] => rfl
  | a :: b :: rest =>
      rw [unescape]
      split
      · rename_i ha hb
        simp [opensEscape, ha, hb] at h
      · rfl

theorem Escapes.unescape_append {bytes : List UInt8} {hex : List Char} (h : Escapes bytes hex)
    (cs : List Char) :
    unescape ((hex ++ cs).map plusToSpace) = bytes ++ unescape (cs.map plusToSpace) := by
  induction h with
  | nil => rfl
  | @cons byte a b high low bytes hex ha hb hbyte _ ih =>
      rw [← hexValue?_plusToSpace] at ha hb
      change unescape ('%' :: plusToSpace a :: plusToSpace b :: (hex ++ cs).map plusToSpace) = _
      simp only [unescape, ha, hb, ih, ← hbyte, UInt8.ofNat_toNat, List.cons_append]

theorem Encodes.unescape_eq {cs text : List Char} (h : Encodes cs text) :
    unescape (cs.map plusToSpace) = Utf8.encode text := by
  induction h with
  | nil => rfl
  | plain hpercent hplus _ ih =>
      rw [List.map_cons, plusToSpace, if_neg hplus, unescape_cons hpercent, ih]
      rfl
  | plus _ ih =>
      rw [List.map_cons, plusToSpace, if_pos rfl, unescape_cons (by decide), ih]
      rfl
  | percent hopens _ ih =>
      rw [List.map_cons, plusToSpace, if_neg (by decide),
        unescape_percent (by rwa [opensEscape_map_plusToSpace]), ih]
      rfl
  | escaped hhex _ ih =>
      rw [hhex.unescape_append, ih]
      rfl

theorem Encodes.formText_eq {cs text : List Char} (h : Encodes cs text) :
    formText cs = String.ofList text := by
  change String.ofList (Utf8.lossy (unescape (cs.map plusToSpace))) = _
  rw [h.unescape_eq, Utf8.lossy_encode]

inductive EncodesPair : List Char → String × String → Prop where
  | pair {cs ds name value : List Char} (hname : Encodes cs name) (hequals : '=' ∉ cs)
      (hvalue : Encodes ds value) :
      EncodesPair (cs ++ '=' :: ds) (String.ofList name, String.ofList value)
  | bare {cs name : List Char} (hname : Encodes cs name) (hequals : '=' ∉ cs) :
      EncodesPair cs (String.ofList name, "")

theorem EncodesPair.formPair_eq {part : List Char} {pair : String × String}
    (h : EncodesPair part pair) : formPair part = pair := by
  cases h with
  | pair hname hequals hvalue =>
      rw [formPair, cut?_append_cons hequals, Option.getD_some]
      simp only [hname.formText_eq, hvalue.formText_eq]
  | bare hname hequals =>
      rw [formPair, cut?_eq_none_iff.mpr hequals, Option.getD_none]
      simp only [hname.formText_eq]
      rfl

def formParts (query : String) : List (List Char) := pieces (· == '&') query.toList

end Rostering.Text
