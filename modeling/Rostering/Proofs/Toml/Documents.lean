import Rostering.Proofs.Toml.Lines
import Rostering.Proofs.Toml.Tables
import Rostering.Toml.Write

namespace Rostering.Toml

open Config (Tree)

def IsPlain : Tree → Prop
  | .number n => n < Text.i64Limit
  | .part _ => False
  | _ => True

def valueChars : Tree → List Char
  | .text s => stringChars s.toList
  | .number n => Text.digits n
  | .flag b => (if b then "true" else "false").toList
  | .part _ => []

inductive Tidy : Nat → Tree → Prop where
  | part {depth : Nat} {values parts : List (String × Tree)}
      (bare : ∀ entry ∈ values ++ parts, IsBare entry.1)
      (nodup : ((values ++ parts).map (·.1)).Nodup)
      (plain : ∀ entry ∈ values, IsPlain entry.2)
      (sections : ∀ entry ∈ parts, Tidy depth entry.2) :
      Tidy (depth + 1) (.part (values ++ parts))

theorem Tidy.exists_part {depth : Nat} {tree : Tree} (h : Tidy depth tree) :
    ∃ entries, tree = .part entries := by
  cases h with
  | part => exact ⟨_, rfl⟩

theorem Tidy.bare {depth : Nat} {entries : List (String × Tree)} (h : Tidy depth (.part entries)) :
    ∀ entry ∈ entries, IsBare entry.1 := by
  cases h with
  | part bare => exact bare

theorem Tidy.nodup {depth : Nat} {entries : List (String × Tree)} (h : Tidy depth (.part entries)) :
    (entries.map (·.1)).Nodup := by
  cases h with
  | part _ nodup => exact nodup

abbrev Progress := List String × Nodes

def Leads (text : List Char) (p q : Progress) : Prop :=
  ∃ steps ≤ text.length, ∀ fuel rest,
    readLines (fuel + steps) p.1 p.2 (text ++ rest) = readLines fuel q.1 q.2 rest

section

variable {p q r : Progress}

theorem Leads.refl (p : Progress) : Leads [] p p := ⟨0, Nat.le_refl 0, fun _ _ => rfl⟩

theorem Leads.trans {as bs : List Char} (h : Leads as p q) (h' : Leads bs q r) :
    Leads (as ++ bs) p r := by
  obtain ⟨n, hn, hread⟩ := h
  obtain ⟨m, hm, hread'⟩ := h'
  refine ⟨m + n, ?_, fun fuel rest => ?_⟩
  · rw [List.length_append]
    omega
  · rw [List.append_assoc, ← Nat.add_assoc, hread, hread']

theorem leads_line {line : List Char} (hne : line ≠ [])
    (h : ∀ fuel rest, readLines (fuel + 1) p.1 p.2 (line ++ rest) = readLines fuel q.1 q.2 rest) :
    Leads line p q :=
  ⟨1, List.length_pos_iff.mpr hne, h⟩

theorem leads_blankLine (p : Progress) : Leads ['\n'] p p := leads_line (by simp) fun _ _ => rfl

end

theorem skipGap_valueChars {tree : Tree} (h : IsPlain tree) (rest : List Char) :
    skipGap (valueChars tree ++ rest) = valueChars tree ++ rest := by
  cases tree with
  | text s =>
      obtain ⟨mark, more, hchars, hmark⟩ := stringChars_head s.toList
      rw [valueChars, hchars]
      rcases hmark with rfl | rfl <;> rfl
  | number n =>
      have hwhole := Json.wholeDigits_digits n
      exact skipGap_bare (fun c hc => isBareChar_of_isDigit (hwhole.digit c hc)) hwhole.nonempty
  | flag b => cases b <;> rfl
  | part entries => exact absurd h id

theorem readValue_valueChars {tree : Tree} (h : IsPlain tree) (depth : Nat) (rest : List Char) :
    readValue depth (valueChars tree ++ '\n' :: rest) = some (content tree, '\n' :: rest) := by
  cases tree with
  | text s => exact readValue_text depth s rest
  | number n =>
      have hwhole := Json.wholeDigits_digits n
      rw [valueChars, readValue_bare (fun c hc => isBareChar_of_isDigit (hwhole.digit c hc))
        hwhole.nonempty, scalar?_digits h, Option.map_some, content]
  | flag b =>
      have hbare : ∀ c ∈ valueChars (.flag b), isBareChar c = true :=
        List.all_eq_true.mp (by cases b <;> decide)
      have hscalar : scalar? (valueChars (.flag b)) = some (.flag b) := by cases b <;> rfl
      have hne : valueChars (.flag b) ≠ [] := by cases b <;> decide
      rw [readValue_bare hbare hne, hscalar, Option.map_some, content]
  | part entries => exact absurd h id

theorem scalarLine_eq {tree : Tree} (h : IsPlain tree) (name : String) :
    scalarLine (name, tree) = name.toList ++ ([' ', '=', ' '] ++ (valueChars tree ++ ['\n'])) := by
  cases tree with
  | part entries => exact absurd h id
  | text s => simp [scalarLine, valueChars]
  | number n => simp [scalarLine, valueChars]
  | flag b => simp [scalarLine, valueChars]

theorem scalarLine_head {name : String} (hname : IsBare name) {tree : Tree} (h : IsPlain tree) :
    ∃ c more, scalarLine (name, tree) = c :: more ∧ isBareChar c = true := by
  obtain ⟨c, cs, hchars, hc⟩ := hname.exists_head
  exact ⟨c, _, by rw [scalarLine_eq h, hchars, List.cons_append], hc⟩

theorem nodeOf_plain {tree : Tree} (h : IsPlain tree) : nodeOf tree = .value (content tree) := by
  cases tree with
  | part entries => exact absurd h id
  | text s => rfl
  | number n => rfl
  | flag b => rfl

theorem endLine_break (rest : List Char) : endLine ('\n' :: rest) = some rest := by
  simp [endLine, skipGap, skipComment, lineBreak?]

theorem readPair_scalarLine {name : String} (hname : IsBare name) {tree : Tree}
    (h : IsPlain tree) (rest : List Char) :
    readPair (readValue maxDepth) (scalarLine (name, tree) ++ rest) =
      some ([name], content tree, '\n' :: rest) := by
  have hkey : readKey (name.toList ++ ' ' :: '=' :: ' ' :: (valueChars tree ++ '\n' :: rest)) =
      some ([name], '=' :: ' ' :: (valueChars tree ++ '\n' :: rest)) :=
    readNames_last hname (by decide) (by decide) rfl 79
  have hspace : skipGap (' ' :: (valueChars tree ++ '\n' :: rest)) =
      valueChars tree ++ '\n' :: rest := skipGap_valueChars h ('\n' :: rest)
  rw [scalarLine_eq h]
  simp [readPair, hkey, hspace, readValue_valueChars h]

theorem readLines_scalarLine {name : String} (hname : IsBare name) {tree : Tree}
    (h : IsPlain tree) (fuel : Nat) (here : List String) (nodes : Nodes) (rest : List Char) :
    readLines (fuel + 1) here nodes (scalarLine (name, tree) ++ rest) =
      (changeAt (insertKey (content tree) [name]) here nodes).bind fun nodes =>
        readLines fuel here nodes rest := by
  have hgap : skipGap (scalarLine (name, tree) ++ rest) = scalarLine (name, tree) ++ rest := by
    rw [scalarLine_eq h, List.append_assoc, skipGap_bare hname.2 hname.chars_ne_nil]
  have hpair := readPair_scalarLine hname h rest
  obtain ⟨c, more, hline, hc⟩ := scalarLine_head hname h
  have hother {d : Char} (hd : isBareChar d = false) (cs : List Char) :
      c :: (more ++ rest) ≠ d :: cs :=
    fun heq => isBareChar_ne hc hd (List.cons.inj heq).1
  rw [hline, List.cons_append] at hgap hpair ⊢
  -- No name starts with the mark of a heading, of a comment or of a line break.
  conv_lhs => unfold readLines
  rw [hgap]
  split
  · contradiction
  · exact absurd ‹_› (hother rfl _)
  · exact absurd ‹_› (hother rfl _)
  · exact absurd ‹_› (hother rfl _)
  · exact absurd ‹_› (hother rfl _)
  · exact absurd ‹_› (hother rfl _)
  · simp [hpair, endLine_break]

theorem exists_head_intercalate {names : List String} (hbare : ∀ name ∈ names, IsBare name)
    (hne : names ≠ []) :
    ∃ c cs, List.intercalate ['.'] (names.map String.toList) = c :: cs ∧ isBareChar c = true := by
  obtain ⟨name, names, rfl⟩ := List.exists_cons_of_ne_nil hne
  have hname := hbare name (by simp)
  obtain ⟨c, cs, hchars, hc⟩ := hname.exists_head
  have hprefix : name.toList <+:
      List.intercalate ['.'] (name.toList :: names.map String.toList) :=
    Text.prefix_intercalate _ _
  obtain ⟨more, hmore⟩ := hprefix
  exact ⟨c, cs ++ more, by rw [List.map_cons, ← hmore, hchars, List.cons_append], hc⟩

theorem readLines_heading {path : List String} (hbare : ∀ name ∈ path, IsBare name)
    (hne : path ≠ []) (hlength : path.length ≤ maxDepth) (fuel : Nat) (here : List String)
    (nodes : Nodes) (rest : List Char) :
    readLines (fuel + 1) here nodes (heading path ++ rest) =
      (follow openTable path nodes).bind fun nodes => readLines fuel path nodes rest := by
  have hkey : readKey (List.intercalate ['.'] (path.map String.toList) ++ ']' :: '\n' :: rest) =
      some (path, ']' :: '\n' :: rest) :=
    readNames_bare hbare hne hlength rfl (by decide) rfl
  have hread : readHeading [']']
      (List.intercalate ['.'] (path.map String.toList) ++ ']' :: '\n' :: rest) =
      some (path, rest) := by
    simp [readHeading, hkey, endLine_break]
  obtain ⟨c, cs, hhead, hc⟩ := exists_head_intercalate hbare hne
  have htext : heading path ++ rest = '[' :: (List.intercalate ['.'] (path.map String.toList) ++
      ']' :: '\n' :: rest) := by
    simp [heading]
  have hgap (cs : List Char) : skipGap ('[' :: cs) = '[' :: cs := rfl
  rw [htext]
  conv_lhs => unfold readLines
  rw [hgap]
  split
  · contradiction
  · rename_i heq
    rw [hhead] at heq
    exact absurd (List.cons.inj (List.cons.inj heq).2).1 (isBareChar_ne hc rfl)
  · rename_i heq
    obtain ⟨-, rfl⟩ := List.cons.inj heq
    simp [hread]
  · exact absurd (List.cons.inj ‹_›).1 (by decide)
  · exact absurd (List.cons.inj ‹_›).1 (by decide)
  · exact absurd (List.cons.inj ‹_›).1 (by decide)
  · rename_i hother _ _ _
    exact absurd rfl (hother _)

section

variable {spine : Spine} (hclear : Clear spine)

include hclear

theorem leads_scalarLine {name : String} (hname : IsBare name) {tree : Tree} (h : IsPlain tree)
    {before : Nodes} (hfresh : Fresh name before) :
    Leads (scalarLine (name, tree)) (pathOf spine, along spine before)
      (pathOf spine, along spine (before ++ [(name, nodeOf tree)])) := by
  obtain ⟨c, more, hline, -⟩ := scalarLine_head hname h
  refine leads_line (by simp [hline]) fun fuel rest => ?_
  rw [readLines_scalarLine hname h, changeAt_along hclear (insertKey_fresh hfresh _),
    Option.bind_some, nodeOf_plain h]

theorem leads_scalarLines {values : List (String × Tree)}
    (hbare : ∀ entry ∈ values, IsBare entry.1) (hplain : ∀ entry ∈ values, IsPlain entry.2)
    (before : Nodes) (hnodup : (before.map (·.1) ++ values.map (·.1)).Nodup) :
    Leads (scalarLines values) (pathOf spine, along spine before)
      (pathOf spine, along spine (before ++ nodesOf values)) := by
  induction values generalizing before with
  | nil =>
      rw [nodesOf, List.append_nil]
      exact Leads.refl _
  | cons entry values ih =>
      obtain ⟨hname, hbare⟩ := List.forall_mem_cons.mp hbare
      obtain ⟨htree, hplain⟩ := List.forall_mem_cons.mp hplain
      have hline := leads_scalarLine hclear hname htree (fresh_of_nodup hnodup)
      have hlater := ih hbare hplain (before ++ [(entry.1, nodeOf entry.2)])
        (by simpa using hnodup)
      rw [List.append_assoc] at hlater
      exact hline.trans hlater

theorem leads_heading (hpath : ∀ name ∈ pathOf spine, IsBare name)
    (hlength : spine.length < maxDepth) {name : String} (hname : IsBare name) {before : Nodes}
    (hfresh : Fresh name before) (here : List String) :
    Leads (heading (pathOf spine ++ [name])) (here, along spine before)
      (pathOf spine ++ [name], along (spine ++ [(before, name)]) []) := by
  have hbare : ∀ other ∈ pathOf spine ++ [name], IsBare other :=
    List.forall_mem_append.mpr ⟨hpath, by simpa using hname⟩
  refine leads_line (List.cons_ne_nil _ _) fun fuel rest => ?_
  rw [readLines_heading hbare (by simp) (by simpa [pathOf] using Nat.succ_le_of_lt hlength),
    follow_along hclear (openTable_fresh hfresh), Option.bind_some, along_concat]

end

def Reads (blocks : List (List Char)) (nodes nodes' : Nodes) : Prop :=
  ∀ here, ∃ here', Leads (blocks.flatMap ('\n' :: ·)) (here, nodes) (here', nodes')

theorem Reads.nil (nodes : Nodes) : Reads [] nodes nodes := fun here => ⟨here, Leads.refl _⟩

theorem Reads.append {as bs : List (List Char)} {nodes nodes' nodes'' : Nodes}
    (h : Reads as nodes nodes') (h' : Reads bs nodes' nodes'') :
    Reads (as ++ bs) nodes nodes'' := by
  intro here
  obtain ⟨here, hfirst⟩ := h here
  obtain ⟨here, hsecond⟩ := h' here
  refine ⟨here, ?_⟩
  rw [List.flatMap_append]
  exact hfirst.trans hsecond

theorem reads_block {block : List Char} {nodes nodes' : Nodes} {path : List String}
    (h : ∀ here, Leads block (here, nodes) (path, nodes')) : Reads [block] nodes nodes' := by
  intro here
  refine ⟨path, ?_⟩
  rw [List.flatMap_singleton]
  exact (leads_blankLine _).trans (h here)

theorem scalarLines_append (values : List (String × Tree)) {depth : Nat}
    {parts : List (String × Tree)} (h : ∀ entry ∈ parts, Tidy depth entry.2) :
    scalarLines (values ++ parts) = scalarLines values := by
  have hnone : scalarLines parts = [] := by
    refine List.flatMap_eq_nil_iff.mpr fun entry hentry => ?_
    obtain ⟨inner, hinner⟩ := (h entry hentry).exists_part
    rw [scalarLine, hinner]
  rw [scalarLines, List.flatMap_append, ← scalarLines, ← scalarLines, hnone, List.append_nil]

theorem partBlocks_append (path : List String) {values : List (String × Tree)}
    (h : ∀ entry ∈ values, IsPlain entry.2) (parts : List (String × Tree)) :
    partBlocks path (values ++ parts) = partBlocks path parts := by
  induction values with
  | nil => rfl
  | cons entry values ih =>
      obtain ⟨htree, hvalues⟩ := List.forall_mem_cons.mp h
      have hnone : blocks (path ++ [entry.1]) entry.2 = [] := by
        rw [blocks]
        rintro entries hpart
        rw [hpart] at htree
        exact htree
      rw [List.cons_append, partBlocks, hnone, List.nil_append, ih hvalues]

theorem reads_partBlocks {path : List String} (place : Nodes → Nodes)
    {parts : List (String × Tree)} (before : Nodes)
    (hparts : ∀ entry ∈ parts, ∀ before, Fresh entry.1 before →
      Reads (blocks (path ++ [entry.1]) entry.2) (place before)
        (place (before ++ [(entry.1, nodeOf entry.2)])))
    (hnodup : (before.map (·.1) ++ parts.map (·.1)).Nodup) :
    Reads (partBlocks path parts) (place before) (place (before ++ nodesOf parts)) := by
  induction parts generalizing before with
  | nil =>
      rw [nodesOf, List.append_nil]
      exact Reads.nil _
  | cons entry parts ih =>
      obtain ⟨hfirst, hparts⟩ := List.forall_mem_cons.mp hparts
      have hlater := ih (before ++ [(entry.1, nodeOf entry.2)]) hparts (by simpa using hnodup)
      rw [List.append_assoc] at hlater
      exact (hfirst before (fresh_of_nodup hnodup)).append hlater

theorem Tidy.reads_blocks {depth : Nat} {tree : Tree} (h : Tidy depth tree) {spine : Spine}
    (hclear : Clear spine) (hpath : ∀ name ∈ pathOf spine, IsBare name)
    (hdepth : spine.length + depth ≤ maxDepth) {name : String} (hname : IsBare name)
    {before : Nodes} (hfresh : Fresh name before) :
    Reads (blocks (pathOf spine ++ [name]) tree) (along spine before)
      (along spine (before ++ [(name, nodeOf tree)])) := by
  -- The parts of the section are read with its own name at the end of the spine.
  induction h generalizing spine name before with
  | @part depth values parts bare nodup plain sections ih =>
      obtain ⟨hvalues, hparts⟩ := List.forall_mem_append.mp bare
      rw [List.map_append] at nodup
      have hinner : Clear (spine ++ [(before, name)]) :=
        List.forall_mem_append.mpr ⟨hclear, by simpa using hfresh⟩
      have hbare : ∀ other ∈ pathOf (spine ++ [(before, name)]), IsBare other := by
        rw [pathOf_concat]
        exact List.forall_mem_append.mpr ⟨hpath, by simpa using hname⟩
      have hown (here : List String) :
          Leads (heading (pathOf (spine ++ [(before, name)])) ++ scalarLines values)
            (here, along spine before)
            (pathOf (spine ++ [(before, name)]),
              along (spine ++ [(before, name)]) (nodesOf values)) := by
        have hheading := leads_heading hclear hpath (by omega) hname hfresh here
        rw [← pathOf_concat spine before name] at hheading
        exact hheading.trans
          (leads_scalarLines hinner hvalues plain [] (List.nodup_append.mp nodup).1)
      have hrest : Reads (partBlocks (pathOf (spine ++ [(before, name)])) parts)
          (along (spine ++ [(before, name)]) (nodesOf values))
          (along (spine ++ [(before, name)]) (nodesOf values ++ nodesOf parts)) := by
        refine reads_partBlocks (along (spine ++ [(before, name)])) _
          (fun entry hentry before' hfresh' => ?_) (by rwa [names_nodesOf])
        exact ih entry hentry hinner hbare (by simp; omega) (hparts entry hentry) hfresh'
      rw [nodeOf, ← along_concat, nodesOf_append, blocks, partBlocks_append _ plain,
        scalarLines_append values sections, ← pathOf_concat spine before name]
      exact (reads_block hown).append hrest

theorem withMoments_plain {tree : Tree} (h : IsPlain tree) :
    withMoments (content tree) = some (content tree) := by
  cases tree with
  | part entries => exact absurd h id
  | text s => rfl
  | number n => rfl
  | flag b => rfl

theorem contents_eq_map (entries : List (String × Tree)) :
    contents entries = entries.map fun entry => (entry.1, content entry.2) := by
  induction entries with
  | nil => rfl
  | cons entry rest ih => rw [contents, ih, List.map_cons]

theorem IsBare.ne_momentMark {name : String} (h : IsBare name) : name ≠ momentMark := by
  rintro rfl
  exact absurd h (by decide)

theorem entriesWithMoments_contents {entries : List (String × Tree)}
    (h : ∀ entry ∈ entries, withMoments (content entry.2) = some (content entry.2)) :
    entriesWithMoments (contents entries) = some (contents entries) := by
  induction entries with
  | nil => rfl
  | cons entry rest ih =>
      obtain ⟨hfirst, hrest⟩ := List.forall_mem_cons.mp h
      simp [contents, entriesWithMoments, hfirst, ih hrest]

theorem Tidy.withMoments_eq {depth : Nat} {tree : Tree} (h : Tidy depth tree) :
    withMoments (content tree) = some (content tree) := by
  induction h with
  | @part depth values parts bare nodup plain sections ih =>
      have hmark : isMoment (contents (values ++ parts)) = false := by
        have hnone : (contents (values ++ parts)).any (fun entry => entry.1 = momentMark) =
            false := by
          refine List.any_eq_false.mpr fun entry hentry => ?_
          rw [contents_eq_map] at hentry
          obtain ⟨source, hsource, rfl⟩ := List.mem_map.mp hentry
          simpa using (bare source hsource).ne_momentMark
        rw [isMoment, hnone, Bool.false_and]
      have hentries : ∀ entry ∈ values ++ parts,
          withMoments (content entry.2) = some (content entry.2) :=
        List.forall_mem_append.mpr ⟨fun entry hentry => withMoments_plain (plain entry hentry), ih⟩
      rw [content, withMoments, hmark, entriesWithMoments_contents hentries]
      rfl

theorem intercalate_break {bs : List (List Char)} (h : bs ≠ []) :
    '\n' :: List.intercalate ['\n'] bs = bs.flatMap ('\n' :: ·) := by
  induction bs with
  | nil => exact absurd rfl h
  | cons b bs ih =>
      cases bs with
      | nil => simp
      | cons b' bs =>
          rw [List.intercalate_cons_of_ne_nil (by simp), List.flatMap_cons, ← ih (by simp)]
          simp

theorem readLines_breaks (here : List String) (nodes : Nodes) {fuel breaks : Nat}
    (h : breaks < fuel) : readLines fuel here nodes (List.replicate breaks '\n') = some nodes := by
  induction breaks generalizing fuel with
  | zero =>
      obtain ⟨fuel, rfl⟩ := Nat.exists_eq_add_one.mpr h
      rfl
  | succ breaks ih =>
      obtain ⟨fuel, rfl⟩ := Nat.exists_eq_add_one.mpr (Nat.zero_lt_of_lt h)
      exact ih (Nat.lt_of_succ_lt_succ h)

theorem readLines_intercalate {bs : List (List Char)} {here : List String} {nodes : Nodes}
    (h : Leads (bs.flatMap ('\n' :: ·)) ([], []) (here, nodes)) {text : List Char} (breaks : Nat)
    (htext : text = List.intercalate ['\n'] bs ++ List.replicate breaks '\n') :
    readLines (text.length + 1) [] [] text = some nodes := by
  obtain ⟨steps, hsteps, hread⟩ := h
  subst htext
  cases bs with
  | nil =>
      obtain rfl : steps = 0 := Nat.le_zero.mp hsteps
      exact (hread _ _).trans (readLines_breaks here nodes (by simp))
  | cons b bs =>
      have hbreak := intercalate_break (List.cons_ne_nil b bs)
      generalize List.intercalate ['\n'] (b :: bs) = text at hbreak ⊢
      rw [← hbreak] at hsteps hread
      have hlength : steps ≤ text.length + 1 := hsteps
      -- The line break in front of the first block takes one step more than the document needs.
      have hall := hread (text.length + 1 + breaks + 1 - steps) (List.replicate breaks '\n')
      rw [Nat.sub_add_cancel (by omega), readLines_breaks here nodes (by omega)] at hall
      rw [List.length_append, List.length_replicate, ← hall, Nat.add_right_comm]
      rfl

def documentBlocks (entries : List (String × Tree)) : List (List Char) :=
  (if (scalarLines entries).isEmpty then [] else [scalarLines entries]) ++ partBlocks [] entries

theorem write_part (entries : List (String × Tree)) :
    (write (.part entries)).toList = List.intercalate ['\n'] (documentBlocks entries) :=
  String.toList_ofList

theorem dropByteOrderMark_cons {c : Char} (hc : c ≠ '\uFEFF') (cs : List Char) :
    Text.dropByteOrderMark (c :: cs) = c :: cs := by
  unfold Text.dropByteOrderMark
  split
  · exact absurd (List.cons.inj ‹_›).1 hc
  · rfl

section

variable {depth : Nat} {entries : List (String × Tree)}

theorem Tidy.leads_documentBlocks (h : Tidy (maxDepth + 1) (.part entries)) :
    ∃ here, Leads ((documentBlocks entries).flatMap ('\n' :: ·)) ([], [])
      (here, nodesOf entries) := by
  cases h with
  | @part _ values parts bare nodup plain sections =>
      obtain ⟨hvalues, hparts⟩ := List.forall_mem_append.mp bare
      rw [List.map_append] at nodup
      have hclear : Clear [] := by simp [Clear]
      have htop : Leads ((if (scalarLines values).isEmpty then [] else [scalarLines values]).flatMap
          ('\n' :: ·)) ([], []) ([], nodesOf values) := by
        have hlines := leads_scalarLines hclear hvalues plain [] (List.nodup_append.mp nodup).1
        split
        · rename_i hempty
          rw [List.isEmpty_iff.mp hempty] at hlines
          exact hlines
        · rw [List.flatMap_singleton]
          exact (leads_blankLine _).trans hlines
      have hsections : Reads (partBlocks [] parts) (nodesOf values)
          (nodesOf values ++ nodesOf parts) := by
        refine reads_partBlocks (along []) _ (fun entry hentry before hfresh => ?_)
          (by rwa [names_nodesOf])
        exact (sections entry hentry).reads_blocks hclear (by simp [pathOf]) (by simp)
          (hparts entry hentry) hfresh
      obtain ⟨here, hrest⟩ := hsections []
      refine ⟨here, ?_⟩
      rw [documentBlocks, scalarLines_append values sections, partBlocks_append _ plain,
        List.flatMap_append, nodesOf_append]
      exact htop.trans hrest

theorem Tidy.head_documentBlocks (h : Tidy depth (.part entries)) {first : List Char}
    {rest : List (List Char)} (hblocks : documentBlocks entries = first :: rest) :
    ∃ c cs, first = c :: cs ∧ c ≠ '\uFEFF' := by
  cases h with
  | @part depth values parts bare nodup plain sections =>
      rw [documentBlocks, scalarLines_append values sections, partBlocks_append [] plain] at hblocks
      cases values with
      | nil =>
          cases parts with
          | nil => contradiction
          | cons entry parts =>
              obtain ⟨inner, hinner⟩ := (sections entry List.mem_cons_self).exists_part
              rw [partBlocks, hinner] at hblocks
              obtain ⟨rfl, -⟩ := List.cons.inj hblocks
              exact ⟨'[', _, rfl, by decide⟩
      | cons value values =>
          obtain ⟨c, more, hline, hc⟩ :=
            scalarLine_head (bare value (by simp)) (plain value (by simp))
          rw [scalarLines, List.flatMap_cons, hline] at hblocks
          obtain ⟨rfl, -⟩ := List.cons.inj hblocks
          exact ⟨c, _, rfl, isBareChar_ne hc (by decide)⟩

theorem Tidy.dropByteOrderMark_write (h : Tidy depth (.part entries)) (breaks : Nat) :
    Text.dropByteOrderMark
        (write (.part entries) ++ String.ofList (List.replicate breaks '\n')).toList =
      (write (.part entries) ++ String.ofList (List.replicate breaks '\n')).toList := by
  rw [String.toList_append, String.toList_ofList, write_part]
  cases hblocks : documentBlocks entries with
  | nil =>
      cases breaks with
      | zero => rfl
      | succ breaks => exact dropByteOrderMark_cons (by decide) _
  | cons first rest =>
      obtain ⟨c, cs, rfl, hc⟩ := h.head_documentBlocks hblocks
      have hprefix : c :: cs <+: List.intercalate ['\n'] ((c :: cs) :: rest) :=
        Text.prefix_intercalate _ _
      obtain ⟨more, hmore⟩ := hprefix
      rw [← hmore]
      exact dropByteOrderMark_cons hc _

theorem read_write (h : Tidy (maxDepth + 1) (.part entries)) (breaks : Nat) :
    read (write (.part entries) ++ String.ofList (List.replicate breaks '\n')) =
      some (contents entries) := by
  obtain ⟨here, hleads⟩ := h.leads_documentBlocks
  have hlines := readLines_intercalate hleads breaks rfl
  rw [← write_part, ← String.toList_ofList (l := List.replicate breaks '\n'),
    ← String.toList_append] at hlines
  have hmoments := h.withMoments_eq
  rw [content] at hmoments
  simp only [read, h.dropByteOrderMark_write, hlines, entriesOf_nodesOf, hmoments,
    Option.bind_eq_bind, Option.bind_some]

end

end Rostering.Toml
