import Rostering.Sql.Select

namespace Rostering.Sql

def quoted? (close : Char) : List Char → Option (List Char × List Char)
  | [] => none
  | [c] => if c = close then some ([], []) else none
  | c :: next :: rest =>
      if c = close then
        if next = close then (quoted? close rest).map fun p => (close :: p.1, p.2)
        else some ([], next :: rest)
      else (quoted? close (next :: rest)).map fun p => (c :: p.1, p.2)

def nameClose? : Dialect → Char → Option Char
  | .postgres, '"' => some '"'
  | .tsql, '[' => some ']'
  | .tsql, '"' => some '"'
  | _, _ => none

def isWordChar (c : Char) : Bool := c.isAlphanum || c == '_'

def wordOrNumber? (run : List Char) : Option Token :=
  match Text.natural? run with
  | some n => some (.number n)
  | none =>
      match run with
      | c :: _ => if c.isDigit then none else some (.word (String.ofList run))
      | [] => none

def isSigil : Dialect → Char → Bool
  | .postgres, c => c == '$'
  | .tsql, c => c == '@'

def position? : Dialect → List Char → Option Nat
  | .postgres, run => Text.natural? run
  | .tsql, 'P' :: run => Text.natural? run
  | .tsql, _ => none

def marks : List String := ["::", "<>", "<=", ">=", "!=", "(", ")", ",", ".", "=", "<", ">"]

def mark? (cs : List Char) : Option (Token × List Char) :=
  (marks.find? (fun m => m.toList.isPrefixOf cs)).map fun m =>
    (.mark m, cs.drop m.toList.length)

def token? (d : Dialect) : List Char → Option (Token × List Char)
  | [] => none
  | c :: cs =>
      if c = '\'' then (quoted? '\'' cs).map fun p => (.literal (String.ofList p.1), p.2)
      else match nameClose? d c with
        | some close => (quoted? close cs).map fun p => (.name (String.ofList p.1), p.2)
        | none =>
            if isWordChar c then
              (wordOrNumber? ((c :: cs).takeWhile isWordChar)).map fun t =>
                (t, (c :: cs).dropWhile isWordChar)
            else if isSigil d c then
              (position? d (cs.takeWhile isWordChar)).map fun n =>
                (.param n, cs.dropWhile isWordChar)
            else mark? (c :: cs)

theorem quoted?_length {close : Char} {cs inner rest : List Char}
    (h : quoted? close cs = some (inner, rest)) : rest.length < cs.length := by
  induction cs using quoted?.induct close generalizing inner rest with
  | case1 => simp [quoted?] at h
  | case2 => simp [quoted?] at h; simp [← h.2]
  | case3 c hc => simp [quoted?, hc] at h
  | case4 tail ih =>
      simp only [quoted?, if_true, Option.map_eq_some_iff] at h
      obtain ⟨⟨i, r⟩, hq, heq⟩ := h
      obtain ⟨-, rfl⟩ := Prod.mk.inj heq
      have := ih hq
      simp only [List.length_cons]
      omega
  | case5 next tail hn =>
      simp [quoted?, hn] at h
      simp [← h.2]
  | case6 c next tail hc ih =>
      simp only [quoted?, hc, if_false, Option.map_eq_some_iff] at h
      obtain ⟨⟨i, r⟩, hq, heq⟩ := h
      obtain ⟨-, rfl⟩ := Prod.mk.inj heq
      have := ih hq
      simp only [List.length_cons] at this ⊢
      omega

theorem token?_length {d : Dialect} {cs rest : List Char} {t : Token}
    (h : token? d cs = some (t, rest)) : rest.length < cs.length := by
  cases cs with
  | nil => simp [token?] at h
  | cons c cs =>
      have shorter (n : List Char) (hn : n.length ≤ cs.length) : n.length < (c :: cs).length := by
        simp only [List.length_cons]
        omega
      have hdrop := (List.dropWhile_sublist (l := cs) isWordChar).length_le
      simp only [token?] at h
      split at h
      · obtain ⟨⟨i, r⟩, hq, heq⟩ := Option.map_eq_some_iff.mp h
        obtain ⟨-, rfl⟩ := Prod.mk.inj heq
        exact shorter _ (Nat.le_of_lt (quoted?_length hq))
      · split at h
        · obtain ⟨⟨i, r⟩, hq, heq⟩ := Option.map_eq_some_iff.mp h
          obtain ⟨-, rfl⟩ := Prod.mk.inj heq
          exact shorter _ (Nat.le_of_lt (quoted?_length hq))
        · split at h
          · rename_i hc
            obtain ⟨u, -, heq⟩ := Option.map_eq_some_iff.mp h
            obtain ⟨-, rfl⟩ := Prod.mk.inj heq
            rw [List.dropWhile_cons_of_pos hc]
            exact shorter _ hdrop
          · split at h
            · obtain ⟨n, -, heq⟩ := Option.map_eq_some_iff.mp h
              obtain ⟨-, rfl⟩ := Prod.mk.inj heq
              exact shorter _ hdrop
            · obtain ⟨m, hm, heq⟩ := Option.map_eq_some_iff.mp h
              obtain ⟨-, rfl⟩ := Prod.mk.inj heq
              have hlong : ∀ m ∈ marks, 0 < m.toList.length := by decide
              have := hlong m (List.mem_of_find?_eq_some hm)
              simp only [List.length_drop, List.length_cons]
              omega

def lex (d : Dialect) (cs : List Char) : Option (List Token) :=
  match cs with
  | [] => some []
  | c :: rest =>
      if c.isWhitespace then lex d rest
      else match _h : token? d (c :: rest) with
        | none => none
        | some (t, after) => (lex d after).map (t :: ·)
termination_by cs.length
decreasing_by
  · simp
  · exact token?_length _h

theorem lex_nil (d : Dialect) : lex d [] = some [] := by
  rw [lex]

theorem lex_blank (d : Dialect) (cs : List Char) : lex d (' ' :: cs) = lex d cs := by
  rw [lex]
  simp

theorem lex_token {d : Dialect} {c : Char} {cs after : List Char} {t : Token}
    (hc : c.isWhitespace = false) (h : token? d (c :: cs) = some (t, after)) :
    lex d (c :: cs) = (lex d after).map (t :: ·) := by
  rw [lex]
  simp only [hc, Bool.false_eq_true, if_false]
  split <;> simp_all

theorem quoted?_doubled {close : Char} {rest : List Char} (h : rest.head? ≠ some close)
    (cs : List Char) : quoted? close (doubled close cs ++ close :: rest) = some (cs, rest) := by
  induction cs with
  | nil =>
      cases rest with
      | nil => simp [doubled, quoted?]
      | cons c rest =>
          have hc : c ≠ close := by simpa using h
          simp [doubled, quoted?, hc]
  | cons c cs ih =>
      have hcons : doubled close (c :: cs) =
          (if c = close then [c, c] else [c]) ++ doubled close cs := by
        simp [doubled]
      rw [hcons]
      by_cases hc : c = close
      · simp [hc, quoted?, ih]
      · obtain ⟨x, xs, hx⟩ : ∃ x xs, doubled close cs ++ close :: rest = x :: xs :=
          List.exists_cons_of_ne_nil (by simp)
        simp only [hc, if_false, List.nil_append, List.cons_append]
        rw [hx] at ih ⊢
        simp [quoted?, hc, ih]

end Rostering.Sql
