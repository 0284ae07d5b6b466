import Mathlib.Logic.Relation
import Rostering.Proofs.Query.Parameters
import Rostering.Proofs.Text.FormQuery

namespace Rostering.Query

open Text (EncodesPair formPair formPairs formParts)

def parameterNames : List String := ["limit", "offset", "sort", "orderBy", "fields", "filter"]

theorem lastValue?_append (name : String) (as bs : List (String × String)) :
    lastValue? name (as ++ bs) = (lastValue? name bs).or (lastValue? name as) := by
  simp only [lastValue?, List.reverse_append, List.find?_append, Option.map_or]

theorem lastValue?_cons (name : String) (pair : String × String)
    (pairs : List (String × String)) : lastValue? name (pair :: pairs) =
      (lastValue? name pairs).or (if pair.1 = name then some pair.2 else none) := by
  rw [← List.singleton_append, lastValue?_append]
  congr 1
  exact lastValue?_concat name [] pair

theorem lastValue?_insert {name : String} {pair : String × String} (h : pair.1 ≠ name)
    (before after : List (String × String)) :
    lastValue? name (before ++ pair :: after) = lastValue? name (before ++ after) := by
  simp only [lastValue?_append, lastValue?_cons, if_neg h, Option.or_none]

theorem formPair_nil_ne {name : String} (h : name ∈ parameterNames) : (formPair []).1 ≠ name := by
  rintro rfl
  exact absurd h (by decide)

theorem lastValue?_formPairs {name : String} (h : name ∈ parameterNames) (query : String) :
    lastValue? name (formPairs query) = lastValue? name ((formParts query).map formPair) := by
  change lastValue? name (((formParts query).filter fun part => !part.isEmpty).map formPair) = _
  induction formParts query with
  | nil => rfl
  | cons part parts ih =>
      cases part with
      | nil =>
          rw [List.filter_cons_of_neg (by simp), ih]
          exact (lastValue?_insert (formPair_nil_ne h) [] _).symm
      | cons c cs =>
          rw [List.filter_cons_of_pos (by simp), List.map_cons, List.map_cons, lastValue?_cons,
            lastValue?_cons, ih]

/-- The parts of a query string before and after a change that makes no difference: two parts with
different names change places, a part comes in that is unknown or empty or is followed by one of its
name, or a part is written in another way. -/
inductive Rewording : List (List Char) → List (List Char) → Prop where
  | swapped (before after : List (List Char)) (p q : List Char)
      (h : (formPair p).1 ≠ (formPair q).1) :
      Rewording (before ++ p :: q :: after) (before ++ q :: p :: after)
  | unknown (before after : List (List Char)) (p : List Char)
      (h : (formPair p).1 ∉ parameterNames) : Rewording (before ++ after) (before ++ p :: after)
  | empty (before after : List (List Char)) : Rewording (before ++ after) (before ++ [] :: after)
  | repeated (before between after : List (List Char)) (p q : List Char)
      (h : (formPair p).1 = (formPair q).1) :
      Rewording (before ++ (between ++ q :: after)) (before ++ p :: (between ++ q :: after))
  | spelled (before after : List (List Char)) (p q : List Char) (pair : String × String)
      (hp : EncodesPair p pair) (hq : EncodesPair q pair) :
      Rewording (before ++ p :: after) (before ++ q :: after)

theorem Rewording.lastValue?_eq {name : String} (hname : name ∈ parameterNames)
    {parts parts' : List (List Char)} (h : Rewording parts parts') :
    lastValue? name (parts'.map formPair) = lastValue? name (parts.map formPair) := by
  cases h with
  | swapped before after p q hnames =>
      simp only [List.map_append, List.map_cons, lastValue?_append, lastValue?_cons]
      by_cases hp : (formPair p).1 = name
      · have hq : (formPair q).1 ≠ name := fun hq => hnames (hp.trans hq.symm)
        simp [hq]
      · simp [hp]
  | unknown before after p hunknown =>
      have hp : (formPair p).1 ≠ name := fun hp => hunknown (hp ▸ hname)
      simpa using lastValue?_insert hp (before.map formPair) (after.map formPair)
  | empty before after =>
      simpa using
        lastValue?_insert (formPair_nil_ne hname) (before.map formPair) (after.map formPair)
  | repeated before between after p q hsame =>
      simp only [List.map_append, List.map_cons, lastValue?_append, lastValue?_cons, hsame]
      by_cases hq : (formPair q).1 = name <;> simp [hq]
  | spelled before after p q pair hp hq =>
      simp only [List.map_append, List.map_cons, hp.formPair_eq, hq.formPair_eq]

theorem lastValue?_of_rewordings {name : String} (hname : name ∈ parameterNames)
    {parts parts' : List (List Char)} (h : Relation.EqvGen Rewording parts parts') :
    lastValue? name (parts.map formPair) = lastValue? name (parts'.map formPair) := by
  induction h with
  | rel _ _ hstep => exact (hstep.lastValue?_eq hname).symm
  | refl _ => rfl
  | symm _ _ _ ih => exact ih.symm
  | trans _ _ _ _ _ ih ih' => exact ih.trans ih'

namespace Request

theorem ofQuery_eq_of_lastValue? (limits : PageLimits) {q₁ q₂ : String}
    (h : ∀ name ∈ parameterNames,
      lastValue? name (formPairs q₁) = lastValue? name (formPairs q₂)) :
    ofQuery limits q₁ = ofQuery limits q₂ := by
  simp only [parameterNames, List.forall_mem_cons, List.not_mem_nil] at h
  obtain ⟨hlimit, hoffset, hsort, horder, hfields, hfilter, -⟩ := h
  rw [ofQuery_eq, ofQuery_eq, uncapped, uncapped, lastNumber?, lastNumber?, lastNumber?,
    lastNumber?, hlimit, hoffset, hsort, horder, hfields, hfilter]

theorem ofQuery_reads_last (limits : PageLimits) (q₁ q₂ : String) :
    ((∀ name ∈ parameterNames,
        lastValue? name (formPairs q₁) = lastValue? name (formPairs q₂)) →
      ofQuery limits q₁ = ofQuery limits q₂) ∧
    (Relation.EqvGen Rewording (formParts q₁) (formParts q₂) →
      ofQuery limits q₁ = ofQuery limits q₂) ∧
    (∀ value, lastValue? "limit" (formPairs q₁) = some value →
      (∀ n, Text.u64? (Text.trim value.toList) = some n → n = 0) →
      (ofQuery limits q₁).limit = limits.max.elim limits.default (min limits.default)) ∧
    (∀ value, lastValue? "offset" (formPairs q₁) = some value →
      Text.u64? (Text.trim value.toList) = none → (ofQuery limits q₁).offset = 0) := by
  refine ⟨ofQuery_eq_of_lastValue? limits, ?_, ?_, ?_⟩
  · intro h
    apply ofQuery_eq_of_lastValue?
    intro name hname
    rw [lastValue?_formPairs hname, lastValue?_formPairs hname, lastValue?_of_rewordings hname h]
  · intro value hvalue hunusable
    have hnone : (lastNumber? "limit" q₁).filter (0 < ·) = none := by
      rw [lastNumber?, hvalue, Option.bind_some, Option.filter_eq_none_iff]
      intro n hn
      simp [hunusable n hn]
    rw [limit_ofQuery, uncapped, hnone]
    rfl
  · intro value hvalue hunreadable
    rw [offset_ofQuery, lastNumber?, hvalue, Option.bind_some, hunreadable]
    rfl

theorem ofQuery_of_reworded :
    let q₁ := "limit=7&sort=name,+type&limit=x"
    let q₂ := "&limit=x&colour=red&so%72t=name%2C%20type"
    (∀ name ∈ parameterNames, lastValue? name (formPairs q₁) = lastValue? name (formPairs q₂)) ∧
      Relation.EqvGen Rewording (formParts q₁) (formParts q₂) ∧
      ofQuery .usual q₁ = ofQuery .usual q₂ ∧ (ofQuery .usual q₁).limit = 10 := by
  intro q₁ q₂
  have hlast : ∀ name ∈ parameterNames,
      lastValue? name (formPairs q₁) = lastValue? name (formPairs q₂) := by decide
  have hname : Text.Encodes "sort".toList "sort".toList :=
    Text.encodes_plain "sort".toList (by decide) (by decide) .nil
  have hr : Text.Escapes (String.utf8EncodeChar 'r') ['%', '7', '2'] :=
    .cons rfl rfl (by decide) .nil
  have hcomma : Text.Escapes (String.utf8EncodeChar ',') ['%', '2', 'C'] :=
    .cons rfl rfl (by decide) .nil
  have hspace : Text.Escapes (String.utf8EncodeChar ' ') ['%', '2', '0'] :=
    .cons rfl rfl (by decide) .nil
  have ht : Text.Encodes ['t'] ['t'] := .plain (by decide) (by decide) .nil
  have hname' : Text.Encodes "so%72t".toList "sort".toList :=
    Text.encodes_plain "so".toList (by decide) (by decide) (.escaped hr ht)
  have htype : Text.Encodes "type".toList "type".toList :=
    Text.encodes_plain "type".toList (by decide) (by decide) .nil
  have hvalue : Text.Encodes "name,+type".toList "name, type".toList :=
    Text.encodes_plain "name,".toList (by decide) (by decide) (.plus htype)
  have hvalue' : Text.Encodes "name%2C%20type".toList "name, type".toList :=
    Text.encodes_plain "name".toList (by decide) (by decide)
      (.escaped hcomma (.escaped hspace htype))
  have hreworded : Relation.EqvGen Rewording (formParts q₁) (formParts q₂) := by
    have hparts : formParts q₁ =
        ["limit=7".toList, "sort".toList ++ '=' :: "name,+type".toList, "limit=x".toList] := by
      decide
    have hparts' : formParts q₂ = [[], "limit=x".toList, "colour=red".toList,
        "so%72t".toList ++ '=' :: "name%2C%20type".toList] := by decide
    rw [hparts, hparts']
    have hearlier := Rewording.repeated [] ["sort".toList ++ '=' :: "name,+type".toList] []
      "limit=7".toList "limit=x".toList (by decide)
    have hspelled := Rewording.spelled [] ["limit=x".toList] _ _ _
      (.pair hname (by decide) hvalue) (.pair hname' (by decide) hvalue')
    have hswapped := Rewording.swapped [] []
      ("so%72t".toList ++ '=' :: "name%2C%20type".toList) "limit=x".toList (by decide)
    have hunknown := Rewording.unknown ["limit=x".toList]
      ["so%72t".toList ++ '=' :: "name%2C%20type".toList] "colour=red".toList (by decide)
    have hempty := Rewording.empty [] ["limit=x".toList, "colour=red".toList,
      "so%72t".toList ++ '=' :: "name%2C%20type".toList]
    exact ((Relation.EqvGen.rel _ _ hearlier).symm.trans _ _ _ (.rel _ _ hspelled)).trans _ _ _
      ((Relation.EqvGen.rel _ _ hswapped).trans _ _ _
        ((Relation.EqvGen.rel _ _ hunknown).trans _ _ _ (.rel _ _ hempty)))
  have hlimit : lastValue? "limit" (formPairs q₁) = some "x" := by decide
  obtain ⟨-, hequal, hdefault, -⟩ := ofQuery_reads_last .usual q₁ q₂
  exact ⟨hlast, hreworded, hequal hreworded, hdefault "x" hlimit (by decide)⟩

end Request
end Rostering.Query
