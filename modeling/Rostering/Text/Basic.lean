namespace Rostering.Text

def lowerAscii (s : String) : String := String.ofList (s.toList.map Char.toLower)

def lowerToAscii (c : Char) : Char := if c = '\u212A' then 'k' else c.toLower

def sameIgnoringCase (a b : String) : Bool :=
  a.toList.map Char.toLower == b.toList.map Char.toLower

def isBlank (c : Char) : Bool :=
  let n := c.toNat
  (0x09 ≤ n && n ≤ 0x0D) || n == 0x20 || n == 0x85 || n == 0xA0 || n == 0x1680 ||
    (0x2000 ≤ n && n ≤ 0x200A) || n == 0x2028 || n == 0x2029 || n == 0x202F ||
    n == 0x205F || n == 0x3000

def trimStart (cs : List Char) : List Char := cs.dropWhile isBlank

def trimEnd (cs : List Char) : List Char := (cs.reverse.dropWhile isBlank).reverse

def trim (cs : List Char) : List Char := trimEnd (trimStart cs)

def trimmed (s : String) : String := String.ofList (trim s.toList)

def dropByteOrderMark : List Char → List Char
  | '\uFEFF' :: cs => cs
  | cs => cs

def isBlankText (s : String) : Bool := s.toList.all isBlank

theorem trimStart_cons_of_not_blank {c : Char} (cs : List Char) (h : isBlank c = false) :
    trimStart (c :: cs) = c :: cs := by
  simp [trimStart, h]

theorem trimStart_append_of_blank {bs : List Char} (cs : List Char)
    (h : ∀ c ∈ bs, isBlank c = true) : trimStart (bs ++ cs) = trimStart cs := by
  induction bs with
  | nil => rfl
  | cons b bs ih =>
      have hb := h b (by simp)
      have hbs := ih (fun c hc => h c (by simp [hc]))
      simpa [trimStart, hb] using hbs

theorem trimStart_eq_nil_iff {cs : List Char} :
    trimStart cs = [] ↔ ∀ c ∈ cs, isBlank c = true := by
  induction cs with
  | nil => simp [trimStart]
  | cons c cs ih =>
      cases h : isBlank c with
      | false => simp [trimStart, h]
      | true =>
          have hskip : trimStart (c :: cs) = trimStart cs := by simp [trimStart, h]
          rw [hskip, ih]
          simp [h]

def growFirst (c : Char) : List (List Char) → List (List Char)
  | [] => [[c]]
  | piece :: pieces => (c :: piece) :: pieces

def pieces (sep : Char → Bool) : List Char → List (List Char)
  | [] => [[]]
  | c :: cs => if sep c then [] :: pieces sep cs else growFirst c (pieces sep cs)

/-- Splits at every occurrence of `token`, the counter being the characters of an occurrence that
are still to be passed over; occurrences are found from the left and never overlap. -/
def splitFrom (token : List Char) : Nat → List Char → List (List Char)
  | _, [] => [[]]
  | passing + 1, _ :: cs => splitFrom token passing cs
  | 0, c :: cs =>
      if token.isPrefixOf (c :: cs) then [] :: splitFrom token (token.length - 1) cs
      else growFirst c (splitFrom token 0 cs)

def splitOn (token cs : List Char) : List (List Char) := splitFrom token 0 cs

def cut? (token : List Char) : List Char → Option (List Char × List Char)
  | [] => if token.isEmpty then some ([], []) else none
  | c :: cs =>
      if token.isPrefixOf (c :: cs) then some ([], (c :: cs).drop token.length)
      else (cut? token cs).map fun (before, after) => (c :: before, after)

def cutLast? (mark : Char) : List Char → Option (List Char × List Char)
  | [] => none
  | c :: cs =>
      match cutLast? mark cs with
      | some (before, after) => some (c :: before, after)
      | none => if c = mark then some ([], cs) else none

def occursIn (token cs : List Char) : Bool := (cut? token cs).isSome

def words (cs : List Char) : List (List Char) :=
  (pieces isBlank cs).filter (fun piece => !piece.isEmpty)

def commaList (s : String) : List String :=
  ((pieces (· == ',') s.toList).map trim).filterMap fun piece =>
    if piece.isEmpty then none else some (String.ofList piece)

def firstOccurrences : List String → List String
  | [] => []
  | x :: xs => x :: (firstOccurrences xs).filter (· ≠ x)

def pushNew (xs : List String) (x : String) : List String := if x ∈ xs then xs else xs ++ [x]

theorem growFirst_ne_nil (c : Char) (ps : List (List Char)) : growFirst c ps ≠ [] := by
  cases ps <;> simp [growFirst]

theorem pieces_ne_nil (sep : Char → Bool) (cs : List Char) : pieces sep cs ≠ [] := by
  cases cs with
  | nil => simp [pieces]
  | cons c cs =>
      simp only [pieces]
      split
      · simp
      · exact growFirst_ne_nil c _

theorem pieces_of_no_separator {sep : Char → Bool} {cs : List Char}
    (h : ∀ c ∈ cs, sep c = false) : pieces sep cs = [cs] := by
  induction cs with
  | nil => rfl
  | cons c cs ih =>
      have hc := h c (by simp)
      have hcs := ih (fun d hd => h d (by simp [hd]))
      simp [pieces, hc, hcs, growFirst]

theorem growFirst_append {ps : List (List Char)} (h : ps ≠ []) (c : Char) (qs : List (List Char)) :
    growFirst c (ps ++ qs) = growFirst c ps ++ qs := by
  cases ps with
  | nil => exact absurd rfl h
  | cons p ps => rfl

theorem pieces_append_cons {sep : Char → Bool} {c : Char} (hc : sep c = true)
    (as bs : List Char) : pieces sep (as ++ c :: bs) = pieces sep as ++ pieces sep bs := by
  induction as with
  | nil => simp [pieces, hc]
  | cons a as ih =>
      simp only [List.cons_append, pieces, ih]
      split
      · rfl
      · exact growFirst_append (pieces_ne_nil sep as) a (pieces sep bs)

theorem cut?_append_cons {c : Char} {as : List Char} (h : c ∉ as) (bs : List Char) :
    cut? [c] (as ++ c :: bs) = some (as, bs) := by
  induction as with
  | nil => simp [cut?]
  | cons a as ih =>
      have ha : c ≠ a := fun heq => h (by simp [heq])
      have has : c ∉ as := fun hmem => h (List.mem_cons_of_mem a hmem)
      simp [cut?, ha, ih has]

theorem cut?_eq_none_iff {c : Char} {cs : List Char} : cut? [c] cs = none ↔ c ∉ cs := by
  induction cs with
  | nil => simp [cut?]
  | cons a as ih =>
      by_cases ha : c = a
      · simp [cut?, ha]
      · simp [cut?, ha, ih]

theorem cutLast?_append_cons {c : Char} {bs : List Char} (h : c ∉ bs) (as : List Char) :
    cutLast? c (as ++ c :: bs) = some (as, bs) := by
  have hbs : ∀ {cs : List Char}, c ∉ cs → cutLast? c cs = none := by
    intro cs hcs
    induction cs with
    | nil => rfl
    | cons a as ih =>
        have ha : a ≠ c := fun heq => hcs (by simp [heq])
        have has : c ∉ as := fun hmem => hcs (List.mem_cons_of_mem a hmem)
        simp [cutLast?, ih has, ha]
  induction as with
  | nil => simp [cutLast?, hbs h]
  | cons a as ih => simp [cutLast?, ih]

theorem splitFrom_ne_nil (token : List Char) (n : Nat) (cs : List Char) :
    splitFrom token n cs ≠ [] := by
  induction cs generalizing n with
  | nil => cases n <;> simp [splitFrom]
  | cons c cs ih =>
      cases n with
      | succ n => simpa [splitFrom] using ih n
      | zero =>
          simp only [splitFrom]
          split
          · simp
          · exact growFirst_ne_nil c _

theorem mem_firstOccurrences {x : String} {xs : List String} :
    x ∈ firstOccurrences xs ↔ x ∈ xs := by
  induction xs with
  | nil => simp [firstOccurrences]
  | cons y ys ih =>
      simp only [firstOccurrences, List.mem_cons, List.mem_filter, ih]
      by_cases h : x = y <;> simp [h]

theorem firstOccurrences_nodup (xs : List String) : (firstOccurrences xs).Nodup := by
  induction xs with
  | nil => simp [firstOccurrences]
  | cons y ys ih =>
      simp only [firstOccurrences, List.nodup_cons, List.mem_filter]
      exact ⟨by simp, ih.filter _⟩

end Rostering.Text
